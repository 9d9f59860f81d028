import OpenRisk.Crypto.Sha256Eval
import OpenRisk.Filecoin.RoundTrip
import OpenRisk.Merkle.Paths
import OpenRisk.Sdk.MerkleSound

/-!
# What an accepted bundle announces

`verifyFilecoinEvidenceBundle` checks each entry by itself: its document, and that its path
leads to the root of the manifest. The manifest announces a whole tree. This module says
when the entries make up that tree.

**Deviation from the announced tree.** The verifier compares no path with the index of its
leaf, accepts a path to another leaf beside the last one, a commitment that occurs twice and
any `batch_ref`. `EntriesFit` states what it leaves unchecked.

Results:
* `verifyFilecoinEvidenceBundle_spec`: what is checked of each entry.
* `verifyFilecoinEvidenceBundle_tree_iff`: an accepted bundle is its announced tree exactly
  when its entries fit, unless two of the hashed strings collide.
-/

namespace OpenRisk.Filecoin

open Text Sdk Merkle

/-! ## What the verifier checks -/

/-- What is checked of the entry at an index. -/
structure EntryChecked (S : Hash) (manifest : JsValue) (index : ℕ) (proof : JsValue) : Prop where
  leafIndex : strictEquals (field proof (js "leaf_index")) (.number (.ofInt index)) = true
  path : verifyMerkleProof S (field proof (js "commitment_hash")) (field proof (js "proof"))
    (field manifest (js "merkle_root")) = true

section Spec

variable {L : CarLibrary} {N : Normalization} {S : Hash}

theorem verifyReceipt_spec {contents : CarContents L.Cid} {manifest : JsValue} {index : ℕ}
    {ids cids : List JsValue} {descriptor proof : JsValue}
    (h : verifyReceipt L N S contents manifest index ids cids descriptor = .ok proof) :
    EntryChecked S manifest index proof := by
  unfold verifyReceipt at h
  obtain ⟨⟨⟩, -, h⟩ := bind_eq_ok.mp h
  obtain ⟨⟨⟩, hindex, h⟩ := bind_eq_ok.mp h
  obtain ⟨⟨⟩, -, h⟩ := bind_eq_ok.mp h
  obtain ⟨⟨⟩, -, h⟩ := bind_eq_ok.mp h
  obtain ⟨cid, -, h⟩ := bind_eq_ok.mp h
  obtain ⟨block, -, h⟩ := bind_eq_ok.mp h
  obtain ⟨⟨⟩, -, h⟩ := bind_eq_ok.mp h
  obtain ⟨proof', -, h⟩ := bind_eq_ok.mp h
  obtain ⟨⟨⟩, hcheck, h⟩ := bind_eq_ok.mp h
  cases h
  simp only [checkReceiptProof, bind_eq_ok, assert_eq_ok, exists_const] at hcheck
  obtain ⟨⟨⟩, -, -, -, -, -, hsame, -, hpath⟩ := hcheck
  refine ⟨?_, hpath⟩
  have hdescriptor := assert_eq_ok.mp hindex
  unfold sameProperty at hsame
  split at hsame
  · rename_i v w hv hw
    rw [field, hw] at hdescriptor
    rw [field, hv]
    exact strictEquals_trans hsame hdescriptor
  · rename_i hv hw
    rw [field, hw] at hdescriptor
    cases hdescriptor
  · cases hsame

/-- The proofs that the loop returns, one for each descriptor. -/
theorem verifyReceipts_spec {contents : CarContents L.Cid} {manifest : JsValue} {index : ℕ}
    {ids cids receipts proofs : List JsValue}
    (h : verifyReceipts L N S contents manifest index ids cids receipts = .ok proofs) :
    proofs.length = receipts.length ∧
      ∀ i proof, proofs[i]? = some proof → EntryChecked S manifest (index + i) proof := by
  induction receipts generalizing index ids cids proofs with
  | nil =>
    cases h
    exact ⟨rfl, fun i proof hi => by simp at hi⟩
  | cons descriptor rest ih =>
    rw [verifyReceipts] at h
    obtain ⟨first, hfirst, h⟩ := bind_eq_ok.mp h
    obtain ⟨others, hothers, h⟩ := bind_eq_ok.mp h
    cases h
    obtain ⟨hlen, hall⟩ := ih hothers
    refine ⟨by rw [List.length_cons, List.length_cons, hlen], ?_⟩
    intro i proof hi
    cases i with
    | zero =>
      cases hi
      exact verifyReceipt_spec hfirst
    | succ i =>
      have := hall i proof hi
      rwa [show index + (i + 1) = index + 1 + i by omega]

theorem checkManifest_spec {manifest : JsValue} {receipts : List JsValue}
    (h : checkManifest manifest = .ok receipts) :
    0 < receipts.length ∧
      strictEquals (field manifest (js "leaf_count")) (.number (.ofInt receipts.length)) = true := by
  unfold checkManifest at h
  obtain ⟨⟨⟩, -, h⟩ := bind_eq_ok.mp h
  obtain ⟨⟨⟩, -, h⟩ := bind_eq_ok.mp h
  obtain ⟨⟨⟩, -, h⟩ := bind_eq_ok.mp h
  split at h
  · rename_i rs hrs
    obtain ⟨⟨⟩, hcount, h⟩ := bind_eq_ok.mp h
    obtain ⟨⟨⟩, hpos, h⟩ := bind_eq_ok.mp h
    cases h
    have hsame := assert_eq_ok.mp hcount
    have hbounds := assert_eq_ok.mp hpos
    rw [Bool.and_eq_true, decide_eq_true_eq] at hbounds
    refine ⟨hbounds.1, ?_⟩
    cases hget : manifest.get (js "leaf_count") with
    | none =>
      rw [hget] at hsame
      cases hsame
    | some v =>
      rw [hget, sameProperty] at hsame
      rw [field, hget, Option.getD_some]
      cases v with
      | number y =>
        cases y with
        | finite q =>
          simp only [strictEquals, numberEquals, JsNumber.ofInt, decide_eq_true_eq] at hsame ⊢
          exact hsame.symm
        | negativeZero => exact hsame
        | infinity b => cases hsame
        | nan => cases hsame
      | _ => cases hsame
  · cases h

/-- What an accepted archive is. -/
theorem verifyFilecoinEvidenceBundle_spec {bytes : List UInt8} {r : Verification}
    (h : verifyFilecoinEvidenceBundle L N S bytes = .ok r) :
    0 < r.proofs.length ∧
      strictEquals (field r.manifest (js "leaf_count")) (.number (.ofInt r.proofs.length)) = true ∧
      ∀ (i : ℕ) (proof : JsValue), r.proofs[i]? = some proof → EntryChecked S r.manifest i proof := by
  unfold verifyFilecoinEvidenceBundle at h
  obtain ⟨⟨⟩, -, h⟩ := bind_eq_ok.mp h
  obtain ⟨contents, -, h⟩ := bind_eq_ok.mp h
  split at h
  · rename_i root hroots
    split at h
    · cases h
    · rename_i manifestBlock hget
      obtain ⟨⟨⟩, -, h⟩ := bind_eq_ok.mp h
      obtain ⟨manifest, -, h⟩ := bind_eq_ok.mp h
      obtain ⟨receipts, hmanifest, h⟩ := bind_eq_ok.mp h
      obtain ⟨proofs, hproofs, h⟩ := bind_eq_ok.mp h
      obtain ⟨⟨⟩, -, h⟩ := bind_eq_ok.mp h
      cases h
      obtain ⟨hpos, hcount⟩ := checkManifest_spec hmanifest
      obtain ⟨hlen, hall⟩ := verifyReceipts_spec hproofs
      refine ⟨hlen.symm ▸ hpos, hlen.symm ▸ hcount, ?_⟩
      intro i proof hi
      simpa using hall i proof hi
  · cases h

end Spec

/-! ## The announced tree -/

/-- The commitment hash of a receipt proof. -/
def commitmentOf (proof : JsValue) : Option HashText :=
  (assertHash (proof.get (js "commitment_hash")) (js "commitment_hash")).toOption

/-- The commitment hashes of the receipt proofs, in their order. -/
def Verification.commitments (r : Verification) : List HashText := r.proofs.filterMap commitmentOf

/-- The path of a receipt proof. -/
def pathOf (proof : JsValue) : List ProofStep := proofPath (field proof (js "proof"))

/-- The strings hashed while checking the paths of a bundle and in the tree over its
    commitments. -/
def bundleStrings (S : Hash) (r : Verification) : List JsString :=
  (r.proofs.flatMap fun proof =>
      checkStrings S (field proof (js "commitment_hash")) (field proof (js "proof"))) ++
    buildStrings S r.commitments

/-- The proofs of a bundle are the leaves of the announced tree. -/
structure AnnouncedTree (S : Hash) (r : Verification) : Prop where
  /-- Each proof has one commitment, in the order of the proofs. -/
  commitments : r.proofs.map (field · (js "commitment_hash")) =
    r.commitments.map fun c => .string c.val
  distinct : r.commitments.Nodup
  /-- The duplicate-last tree over the commitments has the announced root. -/
  root : ∃ root : HashText, field r.manifest (js "merkle_root") = .string root.val ∧
    (buildTree (hashMerkleNode S) (r.commitments.map (hashMerkleLeaf S))).1.map (·.hash) = [root]
  leafCount : strictEquals (field r.manifest (js "leaf_count"))
    (.number (.ofInt r.commitments.length)) = true
  /-- Each path goes to the position of its leaf index. -/
  position : ∀ (i : ℕ) (proof : JsValue), r.proofs[i]? = some proof →
    strictEquals (field proof (js "leaf_index")) (.number (.ofInt i)) = true ∧
      (pathOf proof).map Prod.fst = sides i (Nat.clog 2 r.commitments.length)
  batchRef : ∃ root, field r.manifest (js "merkle_root") = .string root ∧
    field r.manifest (js "batch_ref") = .string (js "pom-" ++ root.take 24)

/-- What the verifier leaves unchecked: the commitments are distinct, each path has the sides
    of its index among so many leaves and repeats its own node where that has no neighbour,
    and `batch_ref` is cut from the root. -/
structure EntriesFit (S : Hash) (r : Verification) : Prop where
  distinct : (r.proofs.map (field · (js "commitment_hash"))).Nodup
  sides : ∀ (i : ℕ) (proof : JsValue), r.proofs[i]? = some proof →
    (pathOf proof).map Prod.fst = sides i (Nat.clog 2 r.proofs.length)
  pads : ∀ (i : ℕ) (proof : JsValue) (c : HashText), r.proofs[i]? = some proof → commitmentOf proof = some c →
    (merkleHashing S).Pads r.proofs.length i (hashMerkleLeaf S c) (pathOf proof)
  batchRef : ∃ root, field r.manifest (js "merkle_root") = .string root ∧
    field r.manifest (js "batch_ref") = .string (js "pom-" ++ root.take 24)

section Tree

variable {S : Hash} {r : Verification}

/-- The entries of a bundle that were checked, as commitments and paths. -/
structure Checked (S : Hash) (r : Verification) (root : HashText) : Prop where
  merkleRoot : field r.manifest (js "merkle_root") = .string root.val
  nonempty : r.proofs ≠ []
  entry : ∀ (i : ℕ) (proof : JsValue), r.proofs[i]? = some proof →
    strictEquals (field proof (js "leaf_index")) (.number (.ofInt i)) = true ∧
    ∃ c, commitmentOf proof = some c ∧ field proof (js "commitment_hash") = .string c.val ∧
      (merkleHashing S).foldPath ((merkleHashing S).leafHash c) (pathOf proof) = root ∧
      (merkleHashing S).pathMessages ((merkleHashing S).leafHash c) (pathOf proof) ⊆
        bundleStrings S r

theorem commitmentOf_of_field {proof : JsValue} {c : HashText}
    (h : field proof (js "commitment_hash") = .string c.val) : commitmentOf proof = some c := by
  unfold field at h
  rw [commitmentOf, toOption_eq_some, assertHash_eq_ok]
  cases hget : proof.get (js "commitment_hash") with
  | none =>
    rw [hget] at h
    cases h
  | some v =>
    rw [hget, Option.getD_some] at h
    rw [h]

theorem checked_of_spec (hpos : 0 < r.proofs.length)
    (hall : ∀ (i : ℕ) (proof : JsValue), r.proofs[i]? = some proof → EntryChecked S r.manifest i proof) :
    ∃ root, Checked S r root := by
  obtain ⟨first, hfirst⟩ : ∃ first, r.proofs[0]? = some first := ⟨_, List.getElem?_eq_getElem hpos⟩
  obtain ⟨-, root, -, hroot, -, -⟩ := verifyMerkleProof_eq_true (hall 0 first hfirst).path
  refine ⟨root, hroot, List.length_pos_iff.mp hpos, ?_⟩
  intro i proof hi
  obtain ⟨c, root', hc, hroot', hfold, hstrings⟩ :=
    verifyMerkleProof_eq_true (hall i proof hi).path
  obtain rfl : root = root' := Subtype.ext (JsValue.string.inj (hroot.symm.trans hroot'))
  refine ⟨(hall i proof hi).leafIndex, c, commitmentOf_of_field hc, hc, hfold, ?_⟩
  intro x hx
  apply List.mem_append_left
  rw [List.mem_flatMap]
  refine ⟨proof, List.mem_of_getElem? hi, ?_⟩
  rw [hstrings]
  exact List.mem_cons_of_mem _ hx

theorem Checked.commitments {root : HashText} (h : Checked S r root) :
    r.proofs.map commitmentOf = r.commitments.map some ∧
      r.proofs.map (field · (js "commitment_hash")) =
        r.commitments.map fun c => .string c.val := by
  have hall : ∀ proof ∈ r.proofs, ∃ c, commitmentOf proof = some c ∧
      field proof (js "commitment_hash") = .string c.val := by
    intro proof hproof
    obtain ⟨i, hi⟩ := List.getElem?_of_mem hproof
    obtain ⟨-, c, hc, hfield, -⟩ := h.entry i proof hi
    exact ⟨c, hc, hfield⟩
  unfold Verification.commitments
  generalize r.proofs = proofs at hall
  induction proofs with
  | nil => exact ⟨rfl, rfl⟩
  | cons proof proofs ih =>
    obtain ⟨c, hc, hfield⟩ := hall proof List.mem_cons_self
    obtain ⟨h1, h2⟩ := ih fun q hq => hall q (List.mem_cons_of_mem _ hq)
    rw [List.filterMap_cons_some hc, List.map_cons, List.map_cons, List.map_cons, List.map_cons,
      h1, h2, hc, hfield]
    exact ⟨rfl, rfl⟩

theorem Checked.length {root : HashText} (h : Checked S r root) :
    r.commitments.length = r.proofs.length := by
  have := congrArg List.length h.commitments.1
  rw [List.length_map, List.length_map] at this
  exact this.symm

/-- The leaf hashes of the tree over the commitments. -/
def leavesOf (S : Hash) (r : Verification) : List HashText :=
  r.commitments.map (merkleHashing S).leafHash

/-- The leaf and the path of an entry. -/
theorem Checked.leaf {root : HashText} (h : Checked S r root) {i : ℕ} (hi : i < r.proofs.length) :
    ∃ proof c, r.proofs[i]? = some proof ∧ commitmentOf proof = some c ∧
      (leavesOf S r)[i]? = some ((merkleHashing S).leafHash c) := by
  have hproof := List.getElem?_eq_getElem hi
  obtain ⟨-, c, hc, -⟩ := h.entry i _ hproof
  refine ⟨_, c, hproof, hc, ?_⟩
  have hget := congrArg (fun l => l[i]?) h.commitments.1
  simp only [List.getElem?_map, hproof, Option.map_some, hc] at hget
  obtain ⟨c', hc', hcc⟩ := Option.map_eq_some_iff.mp hget.symm
  rw [leavesOf, List.getElem?_map, hc', ← Option.some.inj hcc]
  rfl

theorem Checked.distinct_iff {root : HashText} (h : Checked S r root) :
    r.commitments.Nodup ↔ (r.proofs.map (field · (js "commitment_hash"))).Nodup := by
  rw [h.commitments.2]
  refine (List.nodup_map_iff fun c d hcd => ?_).symm
  exact Subtype.ext (JsValue.string.inj hcd)

/-- The announced root is that of the tree over the commitments. -/
theorem Checked.root_iff {root : HashText} (h : Checked S r root) :
    (∃ root : HashText, field r.manifest (js "merkle_root") = .string root.val ∧
      (buildTree (hashMerkleNode S) (r.commitments.map (hashMerkleLeaf S))).1.map (·.hash) =
        [root]) ↔
    (merkleHashing S).level (leavesOf S r) (Nat.clog 2 r.proofs.length) = [root] := by
  have hlen : (leavesOf S r).length = r.proofs.length := by
    rw [leavesOf, List.length_map, h.length]
  have hne : leavesOf S r ≠ [] := by
    intro hnil
    rw [hnil, List.length_nil] at hlen
    exact h.nonempty (List.length_eq_zero_iff.mp hlen.symm)
  obtain ⟨nd, proofs, htree, hroot, -⟩ := buildTree_spec (merkleHashing S) hne
  have hbuild : buildTree (hashMerkleNode S) (r.commitments.map (hashMerkleLeaf S)) =
      ([nd], proofs) := htree
  rw [hlen] at hroot
  rw [hbuild, hroot, h.merkleRoot]
  constructor
  · rintro ⟨root', htext, hnd⟩
    rw [Subtype.ext (JsValue.string.inj htext)]
    exact hnd
  · intro hnd
    exact ⟨root, rfl, hnd⟩

/-- The paths of a bundle whose entries fit, as paths of the tree library. -/
theorem Checked.pathsTo {root : HashText} (h : Checked S r root)
    (hsides : ∀ (i : ℕ) (proof : JsValue), r.proofs[i]? = some proof →
      (pathOf proof).map Prod.fst = sides i (Nat.clog 2 r.proofs.length)) :
    (merkleHashing S).PathsTo (bundleStrings S r) (leavesOf S r) (Nat.clog 2 r.proofs.length) root
      (fun i => (leavesOf S r).getD i root) (fun i => (r.proofs[i]?.map pathOf).getD []) := by
  have hlen : (leavesOf S r).length = r.proofs.length := by
    rw [leavesOf, List.length_map, h.length]
  refine ⟨?_, ?_, ?_, ?_⟩
  · intro i hi
    rw [List.getElem?_eq_getElem hi, List.getD_eq_getElem _ _ hi]
  all_goals
    intro i hi
    obtain ⟨proof, c, hproof, hc, hleaf⟩ := h.leaf (hlen ▸ hi)
    have hstart : (leavesOf S r).getD i root = (merkleHashing S).leafHash c := by
      rw [List.getD_eq_getElem?_getD, hleaf, Option.getD_some]
    obtain ⟨-, c', hc', -, hfold, hmsg⟩ := h.entry i proof hproof
    obtain rfl : c = c' := Option.some.inj (hc.symm.trans hc')
    rw [hproof, Option.map_some, Option.getD_some]
  · exact hsides i proof hproof
  · rw [hstart]
    exact hmsg
  · rw [hstart]
    exact hfold

/-- Paths on the sides of their leaves lead to the root of the tree exactly when they pad by
    duplication. -/
theorem Checked.level_iff_pads {root : HashText} (h : Checked S r root)
    (hsep : (merkleHashing S).Separates (bundleStrings S r))
    (hsides : ∀ (i : ℕ) (proof : JsValue), r.proofs[i]? = some proof →
      (pathOf proof).map Prod.fst = sides i (Nat.clog 2 r.proofs.length)) :
    (merkleHashing S).level (leavesOf S r) (Nat.clog 2 r.proofs.length) = [root] ↔
      ∀ (i : ℕ) (proof : JsValue) (c : HashText), r.proofs[i]? = some proof → commitmentOf proof = some c →
        (merkleHashing S).Pads r.proofs.length i (hashMerkleLeaf S c) (pathOf proof) := by
  have hlen : (leavesOf S r).length = r.proofs.length := by
    rw [leavesOf, List.length_map, h.length]
  have hpaths := h.pathsTo hsides
  have hstart : ∀ (i : ℕ) (proof : JsValue) (c : HashText), r.proofs[i]? = some proof → commitmentOf proof = some c →
      i < r.proofs.length ∧ (leavesOf S r)[i]? = some ((merkleHashing S).leafHash c) := by
    intro i proof c hproof hc
    have hi := (List.getElem?_eq_some_iff.mp hproof).1
    obtain ⟨proof', c', hproof', hc', hleaf⟩ := h.leaf hi
    obtain rfl : proof = proof' := Option.some.inj (hproof.symm.trans hproof')
    obtain rfl : c = c' := Option.some.inj (hc.symm.trans hc')
    exact ⟨hi, hleaf⟩
  constructor
  · intro hlevel i proof c hproof hc
    obtain ⟨hi, hleaf⟩ := hstart i proof c hproof hc
    obtain ⟨-, c', hc', -, hfold, hmsg⟩ := h.entry i proof hproof
    obtain rfl : c = c' := Option.some.inj (hc.symm.trans hc')
    -- the path in the tree has the same sides and the same end
    have htree := (merkleHashing S).foldPath_path_root hleaf
    rw [hlen, hlevel] at htree
    have hmessages : (merkleHashing S).pathMessages ((merkleHashing S).leafHash c)
        ((merkleHashing S).path (leavesOf S r) i (Nat.clog 2 r.proofs.length)) ⊆
          bundleStrings S r := by
      apply List.subset_append_of_subset_right
      rw [buildStrings_eq, h.length]
      apply List.subset_append_of_subset_right
      exact (merkleHashing S).pathMessages_path_subset hleaf _
    have hsame := (merkleHashing S).eq_of_foldPath_eq hsep
      ((hsides i proof hproof).trans ((merkleHashing S).map_fst_path (hlen ▸ hi) _).symm) hmsg
      hmessages (hfold.trans (List.cons.inj htree).1)
    rw [hsame.2, ← hlen]
    exact (merkleHashing S).pads_path hleaf _
  · intro hpads
    have hne : leavesOf S r ≠ [] := by
      intro hnil
      rw [hnil, List.length_nil] at hlen
      exact h.nonempty (List.length_eq_zero_iff.mp hlen.symm)
    rw [← hlen] at hpaths ⊢
    refine Hashing.level_of_paths hpaths hsep hne ?_
    intro i hi
    obtain ⟨proof, c, hproof, hc, hleaf⟩ := h.leaf (hlen ▸ hi)
    have hbase : (leavesOf S r).getD i root = (merkleHashing S).leafHash c := by
      rw [List.getD_eq_getElem?_getD, hleaf, Option.getD_some]
    rw [hbase, hproof, Option.map_some, Option.getD_some, hlen]
    exact hpads i proof c hproof hc

end Tree

/-- An accepted bundle is its announced tree exactly when its entries fit, unless two of the
    strings hashed collide. -/
theorem verifyFilecoinEvidenceBundle_tree_iff (L : CarLibrary) (N : Normalization) (S : Hash)
    (bytes : List UInt8) (r : Verification)
    (h : verifyFilecoinEvidenceBundle L N S bytes = .ok r) :
    (AnnouncedTree S r ↔ EntriesFit S r) ∨ HashCollision S (bundleStrings S r) := by
  obtain ⟨hpos, hcount, hall⟩ := verifyFilecoinEvidenceBundle_spec h
  obtain ⟨root, hchecked⟩ := checked_of_spec hpos hall
  rcases (merkleHashing S).collision_or_separates (bundleStrings S r) with hcol | hsep
  · exact .inr hcol
  left
  constructor
  · intro htree
    have hsides : ∀ (i : ℕ) (proof : JsValue), r.proofs[i]? = some proof →
        (pathOf proof).map Prod.fst = sides i (Nat.clog 2 r.proofs.length) := by
      intro i proof hi
      rw [← hchecked.length]
      exact (htree.position i proof hi).2
    exact ⟨hchecked.distinct_iff.mp htree.distinct, hsides,
      (hchecked.level_iff_pads hsep hsides).mp (hchecked.root_iff.mp htree.root), htree.batchRef⟩
  · intro hfit
    refine ⟨hchecked.commitments.2, hchecked.distinct_iff.mpr hfit.distinct,
      hchecked.root_iff.mpr ((hchecked.level_iff_pads hsep hfit.sides).mpr hfit.pads), ?_, ?_,
      hfit.batchRef⟩
    · rw [hchecked.length]
      exact hcount
    · intro i proof hi
      rw [hchecked.length]
      exact ⟨(hall i proof hi).leafIndex, hfit.sides i proof hi⟩

/-! ## A bundle without one of its leaves -/

section Reread

variable {N : Normalization} {S : Hash}

/-- The fields of a receipt proof that is read back. -/
theorem field_receiptProof {batch : MerkleBatch} (h : Bundleable S batch) {leaf : BatchLeaf}
    (hleaf : leaf ∈ batch.leaves) :
    field (reread N (receiptProofFromLeaf batch leaf)) (js "commitment_hash") =
        .string leaf.receipt.commitmentHash.val ∧
      field (reread N (receiptProofFromLeaf batch leaf)) (js "proof") =
        reread N (proofValue leaf.proof) := by
  rw [field, field, get_receiptProof h hleaf (js "commitment_hash")
    (.string leaf.receipt.commitmentHash.val) (by simp only [List.mem_cons, true_or, or_true]),
    get_receiptProof h hleaf (js "proof") (proofValue leaf.proof)
    (by simp only [List.mem_cons, true_or, or_true]), reread_string (plainWithin_hash _).1]
  exact ⟨rfl, rfl⟩

/-- The strings hashed while checking a path that is read back. -/
theorem checkStrings_reread (c : HashText) (proof : List ProofStep) :
    checkStrings S (.string c.val) (reread N (proofValue proof)) =
      leafString c :: (merkleHashing S).pathMessages ((merkleHashing S).leafHash c) proof := by
  have hsteps : ∀ (current : HashText) (proof : List ProofStep),
      proofStrings S current (proof.map fun step => reread N (stepValue step)) =
        (merkleHashing S).pathMessages current proof := by
    intro current proof
    induction proof generalizing current with
    | nil => rfl
    | cons step proof ih =>
      rw [List.map_cons, proofStrings, decodeStep_reread]
      dsimp only
      rw [ih]
      rfl
  have hassert : assertHash (some (.string c.val)) (js "commitment_hash") = .ok c :=
    assertHash_eq_ok.mpr rfl
  unfold checkStrings
  rw [reread_proofValue, hassert]
  dsimp only
  rw [hsteps]
  rfl

end Reread

/-- A tree of two leaves whose second leaf is left out: the path of the first one goes to the
    root of both. -/
def hiddenBatch (S : Hash) : MerkleBatch :=
  let shown : HashText := ⟨List.replicate 64 0x61, by decide⟩
  let hidden : HashText := ⟨List.replicate 64 0x62, by decide⟩
  let root := hashMerkleNode S (hashMerkleLeaf S shown) (hashMerkleLeaf S hidden)
  { schemaVersion := js "pom-batch/0.1"
    treeAlgorithm := js "sha256-domain-separated-duplicate-last"
    ordering := js "occurred_at-asc,receipt_id-asc"
    batchRef := js "pom-" ++ root.val.take 24
    leafCount := 1
    merkleRoot := root
    leaves := [{
      receipt := ⟨⟨js "receipt-00000001", by decide⟩, shown, js "2026-01-02T03:04:05.000Z"⟩
      leafIndex := 0
      leafHash := hashMerkleLeaf S shown
      proof := [(.right, hashMerkleLeaf S hidden)] }] }

theorem bundleable_hiddenBatch (S : Hash) : Bundleable S (hiddenBatch S) where
  count := rfl
  nonempty := Nat.one_pos
  bounded := by
    show 1 ≤ 10000
    omega
  ids := List.nodup_singleton _
  batchRef := by
    have htag : PlainWithin 4 (js "pom-") := ⟨List.all_eq_true.mp (by decide), by decide⟩
    have hhash := plainWithin_hash (hiddenBatch S).merkleRoot
    have hcut : PlainWithin 24 ((hiddenBatch S).merkleRoot.val.take 24) := by
      refine ⟨fun u hu => hhash.1 u (List.mem_of_mem_take hu), ?_⟩
      rw [List.length_take]
      exact min_le_left _ _
    exact htag.append hcut
  treeAlgorithm := by
    show PlainWithin 64 (js "sha256-domain-separated-duplicate-last")
    exact ⟨List.all_eq_true.mp (by decide), by decide⟩
  ordering := by
    show PlainWithin 64 (js "occurred_at-asc,receipt_id-asc")
    exact ⟨List.all_eq_true.mp (by decide), by decide⟩
  index i leaf hi := by
    obtain ⟨hlt, rfl⟩ := List.getElem?_eq_some_iff.mp hi
    obtain rfl : i = 0 := Nat.lt_one_iff.mp hlt
    rfl
  occurredAt leaf hleaf := by
    obtain rfl := List.mem_singleton.mp hleaf
    show PlainWithin 27 (js "2026-01-02T03:04:05.000Z")
    exact ⟨List.all_eq_true.mp (by decide), by decide⟩
  leafHash leaf hleaf := by
    obtain rfl := List.mem_singleton.mp hleaf
    rfl
  short leaf hleaf := by
    obtain rfl := List.mem_singleton.mp hleaf
    show 1 ≤ 32
    omega
  path leaf hleaf := by
    obtain rfl := List.mem_singleton.mp hleaf
    rfl

theorem hiddenBatch_digests :
    ((bundleDocuments carV1 devanagari sha256 (hiddenBatch sha256)).map fun v =>
      sha256.digest (documentBytes devanagari v)).Nodup := by
  rw [sha256_eq_strict]
  decide +kernel

theorem hiddenBatch_noCollision : ¬ DocumentCollision carV1 devanagari sha256 (hiddenBatch sha256) := by
  rintro ⟨v, hv, w, hw, hne, hdigest⟩
  rw [List.inj_on_of_nodup_map hiddenBatch_digests hv hw hdigest] at hne
  exact hne rfl

/-- What the verifier returns on the bundle without the second leaf. -/
def hiddenVerification : Verification where
  rootCid := cidText (documentBlock carV1 devanagari sha256
    (batchManifest carV1 devanagari sha256 (hiddenBatch sha256))).cid
  manifest := reread devanagari (batchManifest carV1 devanagari sha256 (hiddenBatch sha256))
  proofs := (receiptProofs (hiddenBatch sha256)).map (reread devanagari)
  blockCount := 2
  byteLength := (bundleBytes carV1 devanagari sha256 (hiddenBatch sha256)).length

theorem verify_hiddenBatch :
    verifyFilecoinEvidenceBundle carV1 devanagari sha256
      (bundleBytes carV1 devanagari sha256 (hiddenBatch sha256)) = .ok hiddenVerification :=
  verify_bundleBytes carV1_lawful (bundleable_hiddenBatch sha256) hiddenBatch_noCollision

/-- The leaf that is left is not the root. -/
theorem hiddenBatch_root : ∀ leaf ∈ (hiddenBatch sha256).leaves,
    leaf.leafHash ≠ (hiddenBatch sha256).merkleRoot := by
  rw [sha256_eq_strict]
  decide +kernel

/-- The strings that are hashed for the bundle: those of the leaf and of the root. -/
theorem hiddenVerification_strings :
    ∃ leaf sibling, (hiddenBatch sha256).leaves = [leaf] ∧
      hiddenVerification.commitments = [leaf.receipt.commitmentHash] ∧
      bundleStrings sha256 hiddenVerification =
        [leafString leaf.receipt.commitmentHash,
          nodeString (hashMerkleLeaf sha256 leaf.receipt.commitmentHash) sibling,
          leafString leaf.receipt.commitmentHash] ∧
      (hiddenBatch sha256).merkleRoot =
        hashMerkleNode sha256 (hashMerkleLeaf sha256 leaf.receipt.commitmentHash) sibling := by
  have hbatch := bundleable_hiddenBatch sha256
  have hfield := field_receiptProof (N := devanagari) hbatch List.mem_cons_self
  have hcommitments : hiddenVerification.commitments = _ :=
    List.filterMap_cons_some (commitmentOf_of_field hfield.1)
  refine ⟨_, _, rfl, hcommitments, ?_, rfl⟩
  have hstrings : ∀ (S : Hash) (c sibling : HashText),
      leafString c :: (merkleHashing S).pathMessages ((merkleHashing S).leafHash c)
          [(.right, sibling)] ++ [] ++ buildStrings S [c] =
        [leafString c, nodeString (hashMerkleLeaf S c) sibling, leafString c] := fun _ _ _ => rfl
  rw [bundleStrings, hcommitments, hiddenVerification, receiptProofs]
  show checkStrings sha256 (field _ _) (field _ _) ++ [] ++ _ = _
  rw [hfield.1, hfield.2, checkStrings_reread]
  exact hstrings sha256 _ _

/-- The bundle without the second leaf is accepted, and is not the tree that it announces. -/
theorem hiddenBatch_accepted :
    verifyFilecoinEvidenceBundle carV1 devanagari sha256
        (bundleBytes carV1 devanagari sha256 (hiddenBatch sha256)) = .ok hiddenVerification ∧
      ¬ AnnouncedTree sha256 hiddenVerification ∧
      ¬ HashCollision sha256 (bundleStrings sha256 hiddenVerification) := by
  have hbatch := bundleable_hiddenBatch sha256
  obtain ⟨leaf, sibling, hleaves, hcommitments, hstrings, hnode⟩ := hiddenVerification_strings
  have hleaf : leaf ∈ (hiddenBatch sha256).leaves := hleaves ▸ List.mem_cons_self
  have hroot := hiddenBatch_root leaf hleaf
  rw [hbatch.leafHash leaf hleaf] at hroot
  refine ⟨verify_hiddenBatch, fun htree => ?_, ?_⟩
  · obtain ⟨root, hfield, hbuild⟩ := htree.root
    rw [hcommitments] at hbuild
    have htext := get_manifest (N := devanagari) carV1_lawful hbatch (js "merkle_root")
      (.string (hiddenBatch sha256).merkleRoot.val) (by simp only [List.mem_cons, true_or, or_true])
    rw [reread_string (plainWithin_hash _).1] at htext
    rw [hiddenVerification, field, htext] at hfield
    have hleafRoot : hashMerkleLeaf sha256 leaf.receipt.commitmentHash = root :=
      (List.cons.inj hbuild).1
    exact hroot (hleafRoot.trans (Subtype.ext (JsValue.string.inj hfield).symm))
  · rintro ⟨a, ha, b, hb, hne, heq⟩
    have hdifferent : sha256Hex sha256 (leafString leaf.receipt.commitmentHash) ≠
        sha256Hex sha256
          (nodeString (hashMerkleLeaf sha256 leaf.receipt.commitmentHash) sibling) :=
      fun hsame => hroot (hsame.trans hnode.symm)
    have htwo : ∀ x ∈ bundleStrings sha256 hiddenVerification,
        x = leafString leaf.receipt.commitmentHash ∨
          x = nodeString (hashMerkleLeaf sha256 leaf.receipt.commitmentHash) sibling := by
      intro x hx
      rw [hstrings] at hx
      rcases List.mem_cons.mp hx with hx | hx
      · exact .inl hx
      · exact (List.mem_pair.mp hx).symm
    rcases htwo a ha with rfl | rfl
    · rcases htwo b hb with rfl | rfl
      · exact hne rfl
      · exact hdifferent heq
    · rcases htwo b hb with rfl | rfl
      · exact hdifferent heq.symm
      · exact hne rfl

/-- The bundle without the second leaf meets no condition, and is not its announced tree. -/
theorem verifyFilecoinEvidenceBundle_tree_hidden :
    (AnnouncedTree sha256 hiddenVerification ↔ EntriesFit sha256 hiddenVerification) ∨
      HashCollision sha256 (bundleStrings sha256 hiddenVerification) :=
  verifyFilecoinEvidenceBundle_tree_iff carV1 devanagari sha256 _ hiddenVerification
    (verify_bundleBytes carV1_lawful (bundleable_hiddenBatch sha256) hiddenBatch_noCollision)

end OpenRisk.Filecoin
