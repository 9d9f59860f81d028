import OpenRisk.Filecoin.Document

/-!
# The documents of a batch

The receipt proofs and the manifest that `buildFilecoinEvidenceBundle` writes are documents,
and their sizes are bounded whatever the batch is.

Results:
* `document_receiptProof`, `document_manifest`: both are documents.
* `bytes_receiptProof`, `bytes_manifest`: their sizes.
-/

namespace OpenRisk.Filecoin

open Text Sdk Merkle

/-! ## The archive library -/

/-- An identifier of a SHA-256 digest. -/
def CarLibrary.Created (L : CarLibrary) (cid : L.Cid) : Prop :=
  ∃ digest : List UInt8, digest.length = 32 ∧ cid = L.createV1 digest

/-- What the code relies on: identifiers stand for their digests and are read back from their
    text, and an archive is read back as the root and the blocks written. Beside its blocks an
    archive has a header and, for each block, its identifier and its length. -/
structure CarLibrary.Lawful (L : CarLibrary) : Prop where
  createV1_injective : ∀ d e : List UInt8, d.length = 32 → e.length = 32 →
    L.createV1 d = L.createV1 e → d = e
  parse_toString : ∀ cid, L.Created cid → L.parse (L.toString cid) = some cid
  toString_plain : ∀ cid, L.Created cid → PlainWithin 64 (L.toString cid)
  fromBytes_write : ∀ root blocks, L.Created root → (∀ block ∈ blocks, L.Created block.cid) →
    L.fromBytes (L.write [root] blocks) = some ⟨[root], blocks⟩
  write_ne_nil : ∀ root blocks, L.write [root] blocks ≠ []
  length_write : ∀ root blocks, L.Created root →
    (∀ block ∈ blocks, L.Created block.cid ∧ block.bytes.length < 2 ^ 32) →
    (L.write [root] blocks).length ≤ 100 + (blocks.map fun block => block.bytes.length + 46).sum

/-! ## Objects of documents -/

section Objects

variable {N : Normalization}

/-- The two conditions on a name, without normalization. -/
def isAllowedName (key : JsString) : Bool :=
  key.all isPlainUnit &&
    !FORBIDDEN_KEYS.contains ((key.map lowerUnit).filter fun u => isLowerAlpha u || Json.isDigit u)

theorem allowedName_of {key : JsString} (h : isAllowedName key = true) : AllowedName N key := by
  simp only [isAllowedName, Bool.and_eq_true, List.all_eq_true, Bool.not_eq_true',
    List.contains_eq_mem, decide_eq_false_iff_not] at h
  refine ⟨h.1, ?_⟩
  have hascii := ascii_of_plain h.1
  have hpoints : Ascii (key.map unitPoint) := by
    intro c hc
    obtain ⟨u, hu, rfl⟩ := List.mem_map.mp hc
    exact hascii u hu
  rw [normalizedKey, Normalization.normalizeNfkc, codePoints_of_ascii hascii,
    N.nfkc_ascii _ hpoints, ← codePoints_of_ascii hascii, flatMap_utf16_codePoints]
  exact h.2

/-- An object of allowed names and documents, with its size. -/
theorem object_document {es : List (JsString × JsValue)} {names : List JsString} {bounds : List ℕ}
    {m : ℕ} (hes : es.map Prod.fst = names) (hnodup : names.Nodup)
    (hnames : names.all isAllowedName = true)
    (hm : bounds.sum + (names.map fun key => key.length + 4).sum + 2 ≤ m)
    (h : List.Forall₂ (fun n e => Document N e.2 ∧ canonicalBytes N e.2 ≤ n) bounds es) :
    Document N (.object es) ∧ canonicalBytes N (.object es) ≤ m := by
  subst hes
  rw [List.all_eq_true] at hnames
  have hentries : DocumentEntries N es ∧ entriesBytes N es + es.length ≤
      bounds.sum + ((es.map Prod.fst).map fun key => key.length + 4).sum := by
    clear hnodup hm
    induction h with
    | nil => exact ⟨trivial, le_refl _⟩
    | @cons n e bounds es hvalue _ ih =>
      rw [List.map_cons, List.forall_mem_cons] at hnames
      obtain ⟨hdocument, hbytes⟩ := ih hnames.2
      have hname := allowedName_of (N := N) hnames.1
      have hquote := byteLength_quote_plain hname.1
      refine ⟨⟨hname, hvalue.1, hdocument⟩, ?_⟩
      have hv := hvalue.2
      simp only [entriesBytes, List.map_cons, List.sum_cons, List.length_cons]
      omega
  refine ⟨⟨hnodup, hentries.1⟩, le_trans ?_ hm⟩
  have hbytes := hentries.2
  rw [canonicalBytes]
  omega

/-- An array of documents, with its size. -/
theorem array_document {xs : List JsValue} {n : ℕ}
    (h : ∀ x ∈ xs, Document N x ∧ canonicalBytes N x ≤ n) :
    Document N (.array xs) ∧ canonicalBytes N (.array xs) ≤ xs.length * (n + 1) + 2 := by
  refine ⟨documentElements_iff.mpr fun x hx => (h x hx).1, ?_⟩
  have hitems : itemsBytes N xs ≤ xs.length * n := by
    rw [itemsBytes_eq]
    have hsum := List.sum_le_card_nsmul (xs.map (canonicalBytes N)) n (by
      intro m hm
      obtain ⟨x, hx, rfl⟩ := List.mem_map.mp hm
      exact (h x hx).2)
    rwa [List.length_map, smul_eq_mul] at hsum
  rw [canonicalBytes, Nat.mul_add, Nat.mul_one]
  omega

theorem string_document {s : JsString} {n : ℕ} (h : PlainWithin n s) :
    Document N (.string s) ∧ canonicalBytes N (.string s) ≤ n + 2 := by
  refine ⟨h.1, ?_⟩
  rw [canonicalBytes_plain h.1]
  exact Nat.add_le_add_right h.2 2

theorem natural_document {n k : ℕ} (hk : 0 < k) (hlt : n < 10 ^ k) (hsmall : k ≤ 15) :
    Document N (.number (.ofInt n)) ∧ canonicalBytes N (.number (.ofInt n)) ≤ k := by
  refine ⟨⟨by rw [JsNumber.toInt_ofInt], ?_⟩, canonicalBytes_natural hk hlt⟩
  have hpow : 10 ^ k ≤ 10 ^ 15 := Nat.pow_le_pow_right (by norm_num) hsmall
  rw [JsNumber.isSafeInteger_ofInt, Int.natAbs_natCast, JsNumber.maxSafeInteger]
  omega

end Objects

/-! ## Batches -/

/-- What the builder uses of a batch: the indices, the leaf hashes and the paths of its leaves,
    and that its texts have no escapes. -/
structure Bundleable (S : Hash) (batch : MerkleBatch) : Prop where
  count : batch.leafCount = batch.leaves.length
  nonempty : 0 < batch.leaves.length
  bounded : batch.leaves.length ≤ 10000
  ids : (batch.leaves.map (·.receipt.receiptId)).Nodup
  batchRef : PlainWithin 28 batch.batchRef
  treeAlgorithm : PlainWithin 64 batch.treeAlgorithm
  ordering : PlainWithin 64 batch.ordering
  index : ∀ (i : ℕ) (leaf : BatchLeaf), batch.leaves[i]? = some leaf → leaf.leafIndex = i
  occurredAt : ∀ leaf ∈ batch.leaves, PlainWithin 27 leaf.receipt.occurredAt
  leafHash : ∀ leaf ∈ batch.leaves, leaf.leafHash = hashMerkleLeaf S leaf.receipt.commitmentHash
  short : ∀ leaf ∈ batch.leaves, leaf.proof.length ≤ 32
  path : ∀ leaf ∈ batch.leaves, (merkleHashing S).foldPath
    (hashMerkleLeaf S leaf.receipt.commitmentHash) leaf.proof = batch.merkleRoot

section Built

variable {N : Normalization} {S : Hash} {batch : MerkleBatch}

theorem Bundleable.index_lt (h : Bundleable S batch) {leaf : BatchLeaf} (hleaf : leaf ∈ batch.leaves) :
    leaf.leafIndex < 10000 := by
  obtain ⟨i, hi⟩ := List.getElem?_of_mem hleaf
  have hlt := (List.getElem?_eq_some_iff.mp hi).1
  have := h.bounded
  rw [h.index i leaf hi]
  omega

theorem plainWithin_side (step : ProofStep) :
    PlainWithin 5 (match step.1 with | .left => js "left" | .right => js "right") := by
  cases step.1 with
  | left => exact ⟨List.all_eq_true.mp (by decide), by decide⟩
  | right => exact ⟨List.all_eq_true.mp (by decide), by decide⟩

theorem stepValue_document (step : ProofStep) :
    Document N (stepValue step) ∧ canonicalBytes N (stepValue step) ≤ 95 := by
  have hside := plainWithin_side step
  exact @object_document N _ [js "position", js "hash"] _ _ rfl (by decide) (by decide) (by decide)
    (.cons (string_document hside) (.cons (string_document (plainWithin_hash step.2)) .nil))

theorem proofValue_document {proof : List ProofStep} (h : proof.length ≤ 32) :
    Document N (proofValue proof) ∧ canonicalBytes N (proofValue proof) ≤ 3074 := by
  have harray := @array_document N (proof.map stepValue) 95 (by
    intro x hx
    obtain ⟨step, -, rfl⟩ := List.mem_map.mp hx
    exact stepValue_document step)
  rw [List.length_map] at harray
  refine ⟨harray.1, harray.2.trans ?_⟩
  omega

theorem plainWithin_schema : PlainWithin 21 FILECOIN_RECEIPT_PROOF_SCHEMA_VERSION ∧
    PlainWithin 23 FILECOIN_BUNDLE_SCHEMA_VERSION ∧ PlainWithin 29 STORAGE_PROFILE :=
  ⟨⟨List.all_eq_true.mp (by decide), by decide⟩, ⟨List.all_eq_true.mp (by decide), by decide⟩,
    ⟨List.all_eq_true.mp (by decide), by decide⟩⟩

/-- The receipt proof of a leaf. -/
theorem receiptProof_document (h : Bundleable S batch) {leaf : BatchLeaf}
    (hleaf : leaf ∈ batch.leaves) :
    Document N (receiptProofFromLeaf batch leaf) ∧
      canonicalBytes N (receiptProofFromLeaf batch leaf) ≤ 4000 := by
  exact @object_document N _ RECEIPT_PROOF_KEYS _ _ rfl (by decide) (by decide) (by decide)
    (.cons (string_document plainWithin_schema.1) (.cons (string_document h.batchRef)
    (.cons (string_document (plainWithin_hash _)) (.cons (string_document (plainWithin_identifier _))
    (.cons (string_document (plainWithin_hash _)) (.cons (string_document (h.occurredAt leaf hleaf))
    (.cons (natural_document (k := 4) (by norm_num) (h.index_lt hleaf) (by norm_num))
    (.cons (string_document (plainWithin_hash _))
    (.cons (proofValue_document (h.short leaf hleaf)) .nil)))))))))

/-- The entry of the manifest for a leaf. -/
theorem descriptor_document {L : CarLibrary} (hL : L.Lawful) (h : Bundleable S batch)
    {leaf : BatchLeaf} (hleaf : leaf ∈ batch.leaves) {cid : L.Cid} (hcid : L.Created cid) :
    Document N (descriptorOf L leaf cid) ∧ canonicalBytes N (descriptorOf L leaf cid) ≤ 240 := by
  exact @object_document N _ DESCRIPTOR_KEYS _ _ rfl (by decide) (by decide) (by decide)
    (.cons (string_document (plainWithin_identifier _))
    (.cons (natural_document (k := 4) (by norm_num) (h.index_lt hleaf) (by norm_num))
    (.cons (string_document (hL.toString_plain cid hcid)) .nil)))

/-- The manifest of a batch. -/
theorem manifest_document {L : CarLibrary} (hL : L.Lawful) (h : Bundleable S batch)
    {blocks : List (Block L.Cid)} (hblocks : ∀ block ∈ blocks, L.Created block.cid) :
    Document N (manifestOf L batch blocks) ∧
      canonicalBytes N (manifestOf L batch blocks) ≤ 2500000 := by
  have hreceipts := @array_document N
    (List.zipWith (fun leaf (block : Block L.Cid) => descriptorOf L leaf block.cid)
      batch.leaves blocks) 240 (by
    intro x hx
    rw [List.mem_iff_getElem?] at hx
    obtain ⟨i, hi⟩ := hx
    rw [List.getElem?_zipWith_eq_some] at hi
    obtain ⟨leaf, block, hleaf, hblock, rfl⟩ := hi
    exact descriptor_document hL h (List.mem_of_getElem? hleaf)
      (hblocks block (List.mem_of_getElem? hblock)))
  have hlen : (List.zipWith (fun leaf (block : Block L.Cid) => descriptorOf L leaf block.cid)
      batch.leaves blocks).length ≤ 10000 := by
    rw [List.length_zipWith]
    exact (min_le_left _ _).trans h.bounded
  have hbytes : canonicalBytes N (.array (List.zipWith (fun leaf (block : Block L.Cid) =>
      descriptorOf L leaf block.cid) batch.leaves blocks)) ≤ 2410002 := by
    refine hreceipts.2.trans ?_
    omega
  have hcount : batch.leafCount < 10 ^ 5 := by
    have := h.bounded
    rw [h.count]
    omega
  exact @object_document N _ MANIFEST_KEYS _ _ rfl (by decide) (by decide) (by decide)
    (.cons (string_document plainWithin_schema.2.1) (.cons (string_document plainWithin_schema.2.2)
    (.cons (string_document h.batchRef) (.cons (string_document (plainWithin_hash _))
    (.cons (natural_document (by norm_num) hcount (by norm_num))
    (.cons (string_document h.treeAlgorithm) (.cons (string_document h.ordering)
    (.cons ⟨hreceipts.1, hbytes⟩ .nil))))))))

theorem exists_of_mem_mapM {α β ε : Type} {f : α → Except ε β} {xs : List α} {ys : List β}
    (h : xs.mapM f = .ok ys) {y : β} (hy : y ∈ ys) : ∃ x ∈ xs, f x = .ok y := by
  induction xs generalizing ys with
  | nil =>
    cases h
    cases hy
  | cons x xs ih =>
    rw [List.mapM_cons] at h
    obtain ⟨z, hz, h⟩ := bind_eq_ok.mp h
    obtain ⟨zs, hzs, h⟩ := bind_eq_ok.mp h
    cases h
    rcases List.mem_cons.mp hy with rfl | hy
    · exact ⟨x, List.mem_cons_self, hz⟩
    · obtain ⟨x', hx', hfx'⟩ := ih hzs hy
      exact ⟨x', List.mem_cons_of_mem x hx', hfx'⟩

theorem plainWithin_occurredAt {R : Runtime} {value : JsValue} {receipt : BatchReceipt}
    (h : normalizeReceipt R value = .ok receipt) : PlainWithin 27 receipt.occurredAt := by
  simp only [normalizeReceipt, bind_eq_ok] at h
  obtain ⟨-, -, -, -, receiptId, -, commitment, -, occurredAt, hoccurred, hreceipt⟩ := h
  cases hreceipt
  unfold normalizeOccurredAt at hoccurred
  split at hoccurred
  · split at hoccurred
    · rename_i s t ht
      cases hoccurred
      exact plainWithin_toISOString (R.date.bounded _ _ ht)
    · cases hoccurred
  · cases hoccurred

/-- A batch that `buildMerkleBatch` returns. -/
theorem bundleable_of_build {R : Runtime} {receipts : JsValue} {batch : MerkleBatch}
    (h : buildMerkleBatch R receipts = .ok batch) : Bundleable R.hash batch := by
  obtain ⟨rs, normalized, -, hmap, hpos, hle, hne, hlen, hbatch⟩ := buildMerkleBatch_eq_ok h
  obtain ⟨hids, -, root, hroot, rfl⟩ := (batchOf_eq_ok_iff hne).mp hbatch
  have hperm := sortReceipts_perm (R := R) normalized
  have hoccurred : ∀ receipt ∈ sortReceipts R normalized, PlainWithin 27 receipt.occurredAt := by
    intro receipt hreceipt
    obtain ⟨value, -, hvalue⟩ := exists_of_mem_mapM hmap (hperm.mem_iff.mp hreceipt)
    exact plainWithin_occurredAt hvalue
  generalize sortReceipts R normalized = ordered at *
  have hreceipts := assembleBatch_receipts R.hash ordered root
  have hlength := length_assembleBatch_leaves R.hash ordered root
  have hleaf : ∀ leaf ∈ (assembleBatch R.hash ordered root).leaves,
      leaf.receipt ∈ ordered ∧ leaf.leafHash = hashMerkleLeaf R.hash leaf.receipt.commitmentHash ∧
        leaf.proof.length ≤ 32 ∧ (merkleHashing R.hash).foldPath
          (hashMerkleLeaf R.hash leaf.receipt.commitmentHash) leaf.proof = root := by
    intro leaf hleaf
    obtain ⟨i, hi⟩ := List.getElem?_of_mem hleaf
    obtain ⟨-, -, hshort, hverify⟩ := assembleBatch_leaf hroot (by omega) hi
    rw [verifyMerkleProof_proofValue _ _ _ hshort, decide_eq_true_eq] at hverify
    refine ⟨?_, ?_, hshort, hverify⟩
    · rw [← hreceipts]
      exact List.mem_map_of_mem hleaf
    · simp only [assembleBatch, List.getElem?_mapIdx] at hi
      obtain ⟨receipt, -, rfl⟩ := Option.map_eq_some_iff.mp hi
      rfl
  refine ⟨by rw [hlength]; rfl, by rw [hlength]; omega, by rw [hlength]; omega, ?_, ?_, ?_, ?_, ?_,
    fun leaf h => hoccurred _ (hleaf leaf h).1, fun leaf h => (hleaf leaf h).2.1,
    fun leaf h => (hleaf leaf h).2.2.1, fun leaf h => (hleaf leaf h).2.2.2⟩
  · rw [← hreceipts, List.map_map] at hids
    exact hids
  · have htag : PlainWithin 4 (js "pom-") := ⟨List.all_eq_true.mp (by decide), by decide⟩
    have hhash := plainWithin_hash root
    have hcut : PlainWithin 24 (root.val.take 24) := by
      refine ⟨fun u hu => hhash.1 u (List.mem_of_mem_take hu), ?_⟩
      rw [List.length_take]
      exact min_le_left _ _
    exact htag.append hcut
  · show PlainWithin 64 (js "sha256-domain-separated-duplicate-last")
    exact ⟨List.all_eq_true.mp (by decide), by decide⟩
  · show PlainWithin 64 (js "occurred_at-asc,receipt_id-asc")
    exact ⟨List.all_eq_true.mp (by decide), by decide⟩
  · intro i leaf hi
    exact (assembleBatch_leaf hroot (by omega) hi).1

end Built

end OpenRisk.Filecoin
