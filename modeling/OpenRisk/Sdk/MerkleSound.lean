import OpenRisk.Sdk.Merkle

/-!
# What a Merkle root commits to

The strings that `buildMerkleBatch` and `verifyMerkleProof` hash, and what follows
when no two of them have the same digest. Nothing is assumed of SHA-256: each result
has an explicit collision among these strings as its alternative.

Results:
* `verifyMerkleProof_sound`: only the commitment of a leaf verifies.
* `buildMerkleBatch_binding`: the root determines the number and order of leaves.
-/

namespace OpenRisk.Sdk

open Text Merkle

/-! ## The strings hashed -/

/-- The strings that one round of the builder hashes. -/
def levelStrings : List (TreeNode HashText) → List JsString
  | [] => []
  | [left] => [nodeString left.hash left.hash]
  | left :: right :: rest => nodeString left.hash right.hash :: levelStrings rest

/-- The strings that the loop of the builder hashes. -/
def loopStrings (S : Hash) : ℕ → List (TreeNode HashText) → List (List ProofStep) → List JsString
  | 0, _, _ => []
  | fuel + 1, level, proofs =>
    if 1 < level.length then
      levelStrings level ++
        loopStrings S fuel (mergeLevel (hashMerkleNode S) level proofs).1 (mergeLevel (hashMerkleNode S) level proofs).2
    else []

/-- The strings hashed while building a batch with these ordered commitments. -/
def buildStrings (S : Hash) (commitments : List HashText) : List JsString :=
  commitments.map leafString ++
    loopStrings S commitments.length
      ((commitments.map (hashMerkleLeaf S)).mapIdx fun index hash => ⟨hash, [index]⟩)
      ((commitments.map (hashMerkleLeaf S)).map fun _ => [])

/-- The commitment hashes of a batch, in leaf order. -/
def MerkleBatch.commitments (batch : MerkleBatch) : List HashText :=
  batch.leaves.map (·.receipt.commitmentHash)

/-- The strings hashed along a proof, up to the first step that is rejected. -/
def proofStrings (S : Hash) : HashText → List JsValue → List JsString
  | _, [] => []
  | current, step :: rest =>
    match decodeStep step with
    | .ok s =>
      (match s.1 with
        | .left => nodeString s.2 current
        | .right => nodeString current s.2) :: proofStrings S (applyStep S current s) rest
    | .error _ => []

/-- The strings hashed while checking a proof. -/
def checkStrings (S : Hash) (commitmentHash proof : JsValue) : List JsString :=
  match assertHash (some commitmentHash) (js "commitment_hash"), proof with
  | .ok c, .array steps => leafString c :: proofStrings S (hashMerkleLeaf S c) steps
  | _, _ => []

/-- Two distinct strings of the list have the same digest. -/
def HashCollision (S : Hash) (strings : List JsString) : Prop :=
  ∃ a ∈ strings, ∃ b ∈ strings, a ≠ b ∧ sha256Hex S a = sha256Hex S b

section Strings

variable {S : Hash}

theorem levelStrings_eq (level : List (TreeNode HashText)) :
    levelStrings level = (merkleHashing S).pairMessages (level.map TreeNode.hash) := by
  fun_induction levelStrings level with
  | case1 => rfl
  | case2 left => rfl
  | case3 left right rest ih =>
    rw [List.map_cons, List.map_cons, Hashing.pairMessages, ih]
    rfl

/-- The loop hashes the messages of the levels that are still to come. -/
theorem levelMessages_eq_append_loopStrings {xs : List HashText} {fuel j : ℕ}
    {level : List (TreeNode HashText)} {proofs : List (List ProofStep)} (h : LoopState (merkleHashing S) xs j level proofs)
    (hj : j ≤ Nat.clog 2 xs.length) (hfuel : Nat.clog 2 xs.length ≤ j + fuel) :
    (merkleHashing S).levelMessages xs (Nat.clog 2 xs.length) =
      (merkleHashing S).levelMessages xs j ++ loopStrings S fuel level proofs := by
  induction fuel generalizing j level proofs with
  | zero =>
    have : j = Nat.clog 2 xs.length := by omega
    subst this
    rw [loopStrings, List.append_nil]
  | succ fuel ih =>
    have hlen : 1 < level.length ↔ j < Nat.clog 2 xs.length := by
      rw [h.length_level, Hashing.lt_length_level_iff, one_mul,
        Nat.lt_clog_iff_pow_lt (by norm_num)]
    rw [loopStrings]
    split_ifs with hlt
    · rw [ih h.step (by have := hlen.mp hlt; omega) (by omega), Hashing.levelMessages, ← h.hashes,
        ← levelStrings_eq, List.append_assoc]
      rfl
    · have : j = Nat.clog 2 xs.length := by
        have := hlen.not.mp hlt
        omega
      subst this
      rw [List.append_nil]

/-- The strings of a build are the messages of the tree. -/
theorem buildStrings_eq (commitments : List HashText) :
    buildStrings S commitments =
      commitments.map (merkleHashing S).leaf ++
        (merkleHashing S).levelMessages (commitments.map (merkleHashing S).leafHash)
          (Nat.clog 2 commitments.length) := by
  have h0 := loopState_zero (H := merkleHashing S) (commitments.map (merkleHashing S).leafHash)
  have hfuel : Nat.clog 2 (commitments.map (merkleHashing S).leafHash).length ≤
      0 + commitments.length := by
    rw [List.length_map, Nat.zero_add]
    exact clog_le_self _
  have := levelMessages_eq_append_loopStrings h0 (Nat.zero_le _) hfuel
  rw [List.length_map] at this
  rw [this]
  rfl

/-- A proof that is followed to its end is a path of the tree library. -/
theorem followProof_eq_ok {current result : HashText} {steps : List JsValue}
    (h : followProof S current steps = .ok result) :
    ∃ path, steps.mapM decodeStep = .ok path ∧ (merkleHashing S).foldPath current path = result ∧
      proofStrings S current steps = (merkleHashing S).pathMessages current path := by
  induction steps generalizing current with
  | nil =>
    cases h
    exact ⟨[], rfl, rfl, rfl⟩
  | cons step rest ih =>
    rw [followProof] at h
    obtain ⟨s, hs, h⟩ := bind_eq_ok.mp h
    obtain ⟨path, hsteps, hpath, hstrings⟩ := ih h
    refine ⟨s :: path, ?_, hpath, ?_⟩
    · rw [List.mapM_cons, hs, hsteps]
      rfl
    · rw [proofStrings, hs]
      simp only
      rw [hstrings]
      rfl

/-- The path that a proof stands for. -/
def proofPath (proof : JsValue) : List ProofStep :=
  match proof with
  | .array steps => (steps.mapM decodeStep).toOption.getD []
  | _ => []

/-- What an accepted proof is. -/
theorem verifyMerkleProof_eq_true {commitmentHash proof merkleRoot : JsValue}
    (h : verifyMerkleProof S commitmentHash proof merkleRoot = true) :
    ∃ c root, commitmentHash = .string c.val ∧ merkleRoot = .string root.val ∧
      (merkleHashing S).foldPath ((merkleHashing S).leafHash c) (proofPath proof) = root ∧
      checkStrings S commitmentHash proof =
        (merkleHashing S).leaf c ::
          (merkleHashing S).pathMessages ((merkleHashing S).leafHash c) (proofPath proof) := by
  unfold verifyMerkleProof at h
  split at h
  · rename_i b hcheck
    subst h
    simp only [checkMerkleProof, bind_eq_ok, assertHash_eq_ok] at hcheck
    obtain ⟨c, hc, root, hroot, hcheck⟩ := hcheck
    refine ⟨c, root, Option.some.inj hc, Option.some.inj hroot, ?_⟩
    cases proof with
    | array steps =>
      simp only [bind_eq_ok, assert_eq_ok, exists_const, Except.ok.injEq,
        decide_eq_true_eq] at hcheck
      obtain ⟨-, current, hfollow, rfl⟩ := hcheck
      obtain ⟨path, hsteps, hpath, hstrings⟩ := followProof_eq_ok hfollow
      have hproof : proofPath (.array steps) = path := by
        rw [proofPath, hsteps]
        rfl
      rw [hproof]
      refine ⟨hpath, ?_⟩
      unfold checkStrings
      rw [assertHash_eq_ok.mpr hc]
      simp only
      rw [hstrings]
      rfl
    | _ => cases hcheck
  · cases h

end Strings

/-! ## Soundness and binding -/

/-- What an accepted batch is, in terms of the tree over its commitments. -/
theorem buildMerkleBatch_tree {R : Runtime} {receipts : JsValue} {batch : MerkleBatch}
    (h : buildMerkleBatch R receipts = .ok batch) :
    batch.commitments ≠ [] ∧ batch.commitments.Nodup ∧
      batch.leafCount = batch.commitments.length ∧
      (merkleHashing R.hash).level (batch.commitments.map (merkleHashing R.hash).leafHash)
        (Nat.clog 2 batch.commitments.length) = [batch.merkleRoot] := by
  obtain ⟨rs, normalized, -, -, -, -, hne, -, hbatch⟩ := buildMerkleBatch_eq_ok h
  obtain ⟨-, hnodup, root, hroot, rfl⟩ := (batchOf_eq_ok_iff hne).mp hbatch
  generalize sortReceipts R normalized = ordered at *
  have hcommitments : (assembleBatch R.hash ordered root).commitments =
      ordered.map (·.commitmentHash) := by
    conv_rhs => rw [← assembleBatch_receipts R.hash ordered root, List.map_map]
    rfl
  rw [hcommitments, List.length_map]
  exact ⟨by simpa using hne, hnodup, rfl, hroot⟩

/-- A commitment that verifies against the root of a batch is that of a leaf, unless two
    distinct strings hashed in the build and in the check collide. -/
theorem verifyMerkleProof_sound (R : Runtime) (receipts : JsValue) (batch : MerkleBatch)
    (h : buildMerkleBatch R receipts = .ok batch) (c p : JsValue)
    (hv : verifyMerkleProof R.hash c p (.string batch.merkleRoot.val) = true) :
    (∃ leaf ∈ batch.leaves, c = .string leaf.receipt.commitmentHash.val) ∨
      HashCollision R.hash (buildStrings R.hash batch.commitments ++ checkStrings R.hash c p) := by
  obtain ⟨-, -, -, hroot⟩ := buildMerkleBatch_tree h
  obtain ⟨x, root, rfl, hrootText, hpath, hstrings⟩ := verifyMerkleProof_eq_true hv
  obtain rfl : batch.merkleRoot = root := Subtype.ext (JsValue.string.inj hrootText)
  rw [hstrings, buildStrings_eq]
  rcases (merkleHashing R.hash).collision_or_separates
    (batch.commitments.map (merkleHashing R.hash).leaf ++
      (merkleHashing R.hash).levelMessages (batch.commitments.map (merkleHashing R.hash).leafHash)
        (Nat.clog 2 batch.commitments.length) ++
      ((merkleHashing R.hash).leaf x ::
        (merkleHashing R.hash).pathMessages ((merkleHashing R.hash).leafHash x) (proofPath p))) with
    hcol | hsep
  · exact .inr hcol
  · left
    have hmem : x ∈ batch.commitments := by
      refine (merkleHashing R.hash).mem_of_foldPath_mem hsep
        (m := Nat.clog 2 batch.commitments.length) ?_ ?_ ?_ (proofPath p) ?_ le_rfl ?_
      · intro y hy; simp only [List.mem_append]; exact .inl (.inl hy)
      · intro y hy; simp only [List.mem_append]; exact .inl (.inr hy)
      · simp
      · intro y hy; simp [hy]
      · rw [hroot, hpath]; simp
    obtain ⟨leaf, hleaf, rfl⟩ := List.mem_map.mp hmem
    exact ⟨leaf, hleaf, rfl⟩

theorem verifyMerkleProof_sound_three :
    ∃ batch leaf, buildMerkleBatch rootRuntime (.array threeReceipts) = .ok batch ∧ leaf ∈ batch.leaves ∧
      ((∃ other ∈ batch.leaves, leaf.receipt.commitmentHash.val = other.receipt.commitmentHash.val) ∨
        HashCollision sha256 (buildStrings sha256 batch.commitments ++
          checkStrings sha256 (.string leaf.receipt.commitmentHash.val) (proofValue leaf.proof))) := by
  obtain ⟨batch, h⟩ := isOk_iff.mp threeReceipts_isOk
  obtain ⟨leaf, hleaf⟩ : ∃ leaf, batch.leaves[0]? = some leaf := by
    have := (buildMerkleBatch_tree h).1
    cases hl : batch.leaves with
    | nil => rw [MerkleBatch.commitments, hl] at this; exact absurd rfl this
    | cons leaf rest => exact ⟨leaf, rfl⟩
  have hv := (buildMerkleBatch_leaf h hleaf).2.2.2
  have hsound := verifyMerkleProof_sound rootRuntime (.array threeReceipts) batch h _ _ hv
  simp only [JsValue.string.injEq] at hsound
  exact ⟨batch, leaf, h, List.mem_of_getElem? hleaf, hsound⟩

/-- Batches with the same root have the same commitments in the same order, unless two
    distinct strings hashed in the two builds collide. -/
theorem buildMerkleBatch_binding (R : Runtime) (receipts receipts' : JsValue)
    (batch batch' : MerkleBatch) (h : buildMerkleBatch R receipts = .ok batch)
    (h' : buildMerkleBatch R receipts' = .ok batch')
    (hroot : batch.merkleRoot = batch'.merkleRoot) :
    (batch.leafCount = batch'.leafCount ∧ batch.commitments = batch'.commitments) ∨
      HashCollision R.hash
        (buildStrings R.hash batch.commitments ++ buildStrings R.hash batch'.commitments) := by
  obtain ⟨hne, hnodup, hcount, htop⟩ := buildMerkleBatch_tree h
  obtain ⟨hne', hnodup', hcount', htop'⟩ := buildMerkleBatch_tree h'
  rcases (merkleHashing R.hash).collision_or_separates
    (buildStrings R.hash batch.commitments ++ buildStrings R.hash batch'.commitments)
    with hcol | hsep
  · exact .inr hcol
  · left
    rw [buildStrings_eq, buildStrings_eq] at hsep
    have heq : batch.commitments = batch'.commitments := by
      refine (merkleHashing R.hash).eq_of_level_eq hsep ?_ ?_ ?_ ?_ hnodup hnodup' hne hne'
        (m := Nat.clog 2 batch.commitments.length) (n := Nat.clog 2 batch'.commitments.length) ?_
      · intro y hy; simp only [List.mem_append]; exact .inl (.inl hy)
      · intro y hy; simp only [List.mem_append]; exact .inr (.inl hy)
      · intro y hy; simp only [List.mem_append]; exact .inl (.inr hy)
      · intro y hy; simp only [List.mem_append]; exact .inr (.inr hy)
      · rw [htop, htop', hroot]
    exact ⟨by rw [hcount, hcount', heq], heq⟩

/-- The same three receipts, given in another order. -/
def threeReceiptsReversed : List JsValue :=
  [ receiptValue (js "receipt-00000003") (List.replicate 64 0x63) (js "2025-12-31T23:59:59.999Z"),
    receiptValue (js "receipt-00000001") (List.replicate 64 0x61) (js "2026-01-02T03:04:05.000Z"),
    receiptValue (js "receipt-00000002") (List.replicate 64 0x62) (js "2026-01-02T03:04:05.000Z")]

theorem buildMerkleBatch_binding_three :
    ∃ batch batch', buildMerkleBatch rootRuntime (.array threeReceipts) = .ok batch ∧
      buildMerkleBatch rootRuntime (.array threeReceiptsReversed) = .ok batch' ∧
      ((batch.leafCount = batch'.leafCount ∧ batch.commitments = batch'.commitments) ∨
        HashCollision sha256
          (buildStrings sha256 batch.commitments ++ buildStrings sha256 batch'.commitments)) := by
  obtain ⟨batch, h⟩ := isOk_iff.mp threeReceipts_isOk
  have hsame : buildMerkleBatch rootRuntime (.array threeReceiptsReversed) =
      buildMerkleBatch rootRuntime (.array threeReceipts) :=
    buildMerkleBatch_congr (by decide +kernel) (by decide +kernel)
  exact ⟨batch, batch, h, hsame.trans h, buildMerkleBatch_binding rootRuntime (.array threeReceipts)
    (.array threeReceiptsReversed) batch batch h (hsame.trans h) rfl⟩

end OpenRisk.Sdk
