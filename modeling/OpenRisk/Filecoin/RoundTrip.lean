import OpenRisk.Filecoin.CarV1

/-!
# A bundle is read back

`buildFilecoinEvidenceBundle` and `verifyFilecoinEvidenceBundle` are written separately. This
module runs the verifier on a built bundle. The identifiers of the blocks are digests, so that
a collision of the hash function among the documents of a bundle is an alternative.

Results:
* `bundleOf_eq`: the bundle that is built for a batch.
* `verify_bundleOf`: what the verifier returns on it.
* `buildFilecoinEvidenceBundle_roundTrip`: every list of receipts that has a batch has a
  bundle, and the bundle is accepted and returns what was built.
-/

namespace OpenRisk.Filecoin

open Text Sdk Merkle

section RoundTrip

variable {L : CarLibrary} {N : Normalization} {S : Hash} {batch : MerkleBatch}

/-- The bytes of a document. -/
def documentBytes (N : Normalization) (v : JsValue) : List UInt8 :=
  utf8Encode (canonicalizeValue N v)

/-- The block of a document. -/
def documentBlock (L : CarLibrary) (N : Normalization) (S : Hash) (v : JsValue) : Block L.Cid :=
  ⟨L.createV1 (S.digest (documentBytes N v)), documentBytes N v⟩

/-- The receipt proofs of a batch. -/
def receiptProofs (batch : MerkleBatch) : List JsValue :=
  batch.leaves.map (receiptProofFromLeaf batch)

/-- The blocks of the receipt proofs. -/
def receiptBlocks (L : CarLibrary) (N : Normalization) (S : Hash) (batch : MerkleBatch) :
    List (Block L.Cid) :=
  (receiptProofs batch).map (documentBlock L N S)

/-- The manifest of a batch. -/
def batchManifest (L : CarLibrary) (N : Normalization) (S : Hash) (batch : MerkleBatch) : JsValue :=
  manifestOf L batch (receiptBlocks L N S batch)

/-- The documents of the bundle of a batch. -/
def bundleDocuments (L : CarLibrary) (N : Normalization) (S : Hash) (batch : MerkleBatch) :
    List JsValue :=
  batchManifest L N S batch :: receiptProofs batch

/-- Two documents of the bundle have different bytes with the same digest. -/
def DocumentCollision (L : CarLibrary) (N : Normalization) (S : Hash) (batch : MerkleBatch) : Prop :=
  ∃ v ∈ bundleDocuments L N S batch, ∃ w ∈ bundleDocuments L N S batch,
    S.Collides (documentBytes N v) (documentBytes N w)

/-! ## Building -/

theorem created_documentBlock (v : JsValue) : L.Created (documentBlock L N S v).cid :=
  ⟨_, S.length_digest _, rfl⟩

theorem created_receiptBlocks : ∀ block ∈ receiptBlocks L N S batch, L.Created block.cid := by
  intro block hblock
  obtain ⟨v, -, rfl⟩ := List.mem_map.mp hblock
  exact created_documentBlock v

theorem length_documentBytes (v : JsValue) : (documentBytes N v).length = canonicalBytes N v :=
  byteLength_canonicalizeValue_eq v

theorem length_documentBlock (v : JsValue) :
    (documentBlock L N S v).bytes.length = canonicalBytes N v :=
  length_documentBytes v

theorem rawBlock_document {v : JsValue} (h : Document N v) :
    rawBlock L N S v = .ok (documentBlock L N S v) := by
  rw [rawBlock, canonicalize_document h]
  rfl

theorem receiptBlock_leaf (h : Bundleable S batch) {leaf : BatchLeaf} (hleaf : leaf ∈ batch.leaves) :
    receiptBlock L N S batch leaf = .ok (documentBlock L N S (receiptProofFromLeaf batch leaf)) := by
  have hdocument := (receiptProof_document (N := N) h hleaf).1
  rw [receiptBlock, assertNoForbiddenKeys_document _ _ hdocument]
  exact rawBlock_document hdocument

theorem mapM_receiptBlock (h : Bundleable S batch) {leaves : List BatchLeaf}
    (hleaves : ∀ leaf ∈ leaves, leaf ∈ batch.leaves) :
    leaves.mapM (receiptBlock L N S batch) =
      .ok ((leaves.map (receiptProofFromLeaf batch)).map (documentBlock L N S)) := by
  induction leaves with
  | nil => rfl
  | cons leaf leaves ih =>
    rw [List.mapM_cons, receiptBlock_leaf h (hleaves leaf List.mem_cons_self),
      ih fun l hl => hleaves l (List.mem_cons_of_mem leaf hl)]
    rfl

theorem manifest_batch (hL : L.Lawful) (h : Bundleable S batch) :
    Document N (batchManifest L N S batch) ∧
      canonicalBytes N (batchManifest L N S batch) ≤ 2500000 :=
  manifest_document hL h created_receiptBlocks

/-- The bytes of the bundle of a batch. -/
def bundleBytes (L : CarLibrary) (N : Normalization) (S : Hash) (batch : MerkleBatch) : List UInt8 :=
  L.write [(documentBlock L N S (batchManifest L N S batch)).cid]
    (documentBlock L N S (batchManifest L N S batch) :: receiptBlocks L N S batch)

/-- A bundle takes at most 43 million bytes, which is less than 64 MiB. -/
theorem length_bundleBytes (hL : L.Lawful) (h : Bundleable S batch) :
    (bundleBytes L N S batch).length ≤ MAX_BUNDLE_BYTES := by
  have hmanifest := (manifest_batch (N := N) hL h).2
  have hproofs : ∀ block ∈ receiptBlocks L N S batch, block.bytes.length ≤ 4000 := by
    intro block hblock
    obtain ⟨v, hv, rfl⟩ := List.mem_map.mp hblock
    obtain ⟨leaf, hleaf, rfl⟩ := List.mem_map.mp hv
    rw [length_documentBlock]
    exact (receiptProof_document h hleaf).2
  have hcount : (receiptBlocks L N S batch).length ≤ 10000 := by
    rw [receiptBlocks, receiptProofs, List.length_map, List.length_map]
    exact h.bounded
  have hwrite := hL.length_write (documentBlock L N S (batchManifest L N S batch)).cid
    (documentBlock L N S (batchManifest L N S batch) :: receiptBlocks L N S batch)
    (created_documentBlock _) (by
      intro block hblock
      rcases List.mem_cons.mp hblock with rfl | hblock
      · refine ⟨created_documentBlock _, ?_⟩
        rw [length_documentBlock]
        omega
      · have := hproofs block hblock
        exact ⟨created_receiptBlocks block hblock, by omega⟩)
  have hsum : ((receiptBlocks L N S batch).map fun block => block.bytes.length + 46).sum ≤
      (receiptBlocks L N S batch).length * 4046 := by
    have := List.sum_le_card_nsmul
      ((receiptBlocks L N S batch).map fun block => block.bytes.length + 46) 4046 (by
        intro m hm
        obtain ⟨block, hblock, rfl⟩ := List.mem_map.mp hm
        have := hproofs block hblock
        omega)
    rwa [List.length_map, smul_eq_mul] at this
  rw [List.map_cons, List.sum_cons] at hwrite
  have hfirst : (documentBlock L N S (batchManifest L N S batch)).bytes.length ≤ 2500000 := by
    rw [length_documentBlock]
    exact hmanifest
  rw [MAX_BUNDLE_BYTES, bundleBytes]
  omega

/-- The bundle that is built for a batch. -/
theorem bundleOf_eq (hL : L.Lawful) (h : Bundleable S batch) :
    bundleOf L N S batch = .ok {
      bytes := bundleBytes L N S batch
      rootCid := L.toString (documentBlock L N S (batchManifest L N S batch)).cid
      manifest := batchManifest L N S batch
      batch := batch } := by
  have hmanifest := (manifest_batch (N := N) hL h).1
  have hsize : decide ((bundleBytes L N S batch).length ≤ MAX_BUNDLE_BYTES) = true :=
    decide_eq_true (length_bundleBytes hL h)
  have hblocks : batch.leaves.mapM (receiptBlock L N S batch) = .ok (receiptBlocks L N S batch) :=
    mapM_receiptBlock h fun _ hleaf => hleaf
  unfold bundleOf
  refine bind_eq_ok.mpr ⟨_, hblocks, ?_⟩
  refine bind_eq_ok.mpr ⟨(), assertNoForbiddenKeys_document _ _ hmanifest, ?_⟩
  refine bind_eq_ok.mpr ⟨_, rawBlock_document hmanifest, ?_⟩
  exact bind_eq_ok.mpr ⟨(), assert_eq_ok.mpr hsize, rfl⟩

/-! ## Identifiers of the blocks -/

/-- Documents of one text are read back as one value. -/
theorem reread_of_documentBytes {v w : JsValue} (hv : Document N v) (hw : Document N w)
    (h : documentBytes N v = documentBytes N w) : reread N v = reread N w := by
  have hread := parseCanonicalJson_document hv []
  rw [show utf8Encode (canonicalizeValue N v) = utf8Encode (canonicalizeValue N w) from h,
    parseCanonicalJson_document hw []] at hread
  exact (Except.ok.inj hread).symm

/-- Without a collision, documents of one identifier are read back as one value. -/
theorem reread_of_cid (hL : L.Lawful) (hcol : ¬ DocumentCollision L N S batch) {v w : JsValue}
    (hv : v ∈ bundleDocuments L N S batch) (hw : w ∈ bundleDocuments L N S batch)
    (hdv : Document N v) (hdw : Document N w)
    (h : (documentBlock L N S v).cid = (documentBlock L N S w).cid) :
    reread N v = reread N w := by
  have hdigest := hL.createV1_injective _ _ (S.length_digest _) (S.length_digest _) h
  apply reread_of_documentBytes hdv hdw
  by_contra hne
  exact hcol ⟨v, hv, w, hw, hne, hdigest⟩

/-- The properties of a receipt proof that is read back. -/
theorem get_receiptProof (h : Bundleable S batch) {leaf : BatchLeaf} (hleaf : leaf ∈ batch.leaves)
    (key : JsString) (x : JsValue)
    (hx : (key, x) ∈ [(js "schema_version", .string FILECOIN_RECEIPT_PROOF_SCHEMA_VERSION),
      (js "batch_ref", .string batch.batchRef), (js "merkle_root", .string batch.merkleRoot.val),
      (js "receipt_id", .string leaf.receipt.receiptId.val),
      (js "commitment_hash", .string leaf.receipt.commitmentHash.val),
      (js "occurred_at", .string leaf.receipt.occurredAt),
      (js "leaf_index", .number (.ofInt leaf.leafIndex)),
      (js "leaf_hash", .string leaf.leafHash.val), (js "proof", proofValue leaf.proof)]) :
    (reread N (receiptProofFromLeaf batch leaf)).get key = some (reread N x) :=
  get_reread (receiptProof_document h hleaf).1 hx

theorem get_receiptId (h : Bundleable S batch) {leaf : BatchLeaf} (hleaf : leaf ∈ batch.leaves) :
    (reread N (receiptProofFromLeaf batch leaf)).get (js "receipt_id") =
      some (.string leaf.receipt.receiptId.val) := by
  rw [get_receiptProof h hleaf (js "receipt_id") (.string leaf.receipt.receiptId.val)
    (by simp only [List.mem_cons, true_or, or_true]), reread_string (plainWithin_identifier _).1]

theorem Bundleable.eq_of_receiptId (h : Bundleable S batch) {leaf leaf' : BatchLeaf}
    (hleaf : leaf ∈ batch.leaves) (hleaf' : leaf' ∈ batch.leaves)
    (hid : leaf.receipt.receiptId = leaf'.receipt.receiptId) : leaf = leaf' :=
  List.inj_on_of_nodup_map h.ids hleaf hleaf' hid

/-- The blocks of the bundle of a batch. -/
def bundleContents (L : CarLibrary) (N : Normalization) (S : Hash) (batch : MerkleBatch) :
    CarContents L.Cid :=
  ⟨[(documentBlock L N S (batchManifest L N S batch)).cid],
    (bundleDocuments L N S batch).map (documentBlock L N S)⟩

/-- Without a collision, the block of a document is found under its identifier. -/
theorem get_bundleContents (hL : L.Lawful) (hcol : ¬ DocumentCollision L N S batch) {v : JsValue}
    (hv : v ∈ bundleDocuments L N S batch) :
    (bundleContents L N S batch).get (documentBlock L N S v).cid = some (documentBlock L N S v) := by
  have hmem : documentBlock L N S v ∈ (bundleContents L N S batch).blocks :=
    List.mem_map_of_mem hv
  cases hfind : (bundleContents L N S batch).get (documentBlock L N S v).cid with
  | none =>
    have hnone := List.find?_eq_none.mp hfind _ hmem
    simp only [decide_true, not_true_eq_false] at hnone
  | some block =>
    rw [CarContents.get] at hfind
    have hcid := List.find?_some hfind
    rw [decide_eq_true_eq] at hcid
    obtain ⟨w, hw, rfl⟩ := List.mem_map.mp (List.mem_of_find?_eq_some hfind)
    have hdigest := hL.createV1_injective _ _ (S.length_digest _) (S.length_digest _) hcid
    have hbytes : documentBytes N w = documentBytes N v := by
      by_contra hne
      exact hcol ⟨w, hw, v, hv, hne, hdigest⟩
    rw [documentBlock, documentBlock, hbytes]

theorem assertBlockMatchesCid_document (v : JsValue) (label : JsString) :
    assertBlockMatchesCid L S (documentBlock L N S v) (documentBlock L N S v).cid label = .ok () :=
  assert_eq_ok.mpr (decide_eq_true rfl)

theorem parseCanonicalJson_documentBlock {v : JsValue} (h : Document N v) (label : JsString) :
    parseCanonicalJson N (documentBlock L N S v).bytes label = .ok (reread N v) :=
  parseCanonicalJson_document h label

/-! ## The verifier on the manifest -/

theorem assertExactKeys_reread {es : List (JsString × JsValue)} {names : List JsString}
    (h : Document N (.object es)) (hnames : es.map Prod.fst = names) (label : JsString) :
    assertExactKeys (reread N (.object es)) names label = .ok () := by
  have hkeys := hasExactKeys_reread h (.of_eq hnames)
  have hobject : (reread N (.object es)).isObject = true := by
    rw [reread_object]
    rfl
  rw [assertExactKeys, (assert_eq_ok (u := ())).mpr hobject, (assert_eq_ok (u := ())).mpr hkeys]
  rfl

/-- The descriptors of the manifest. -/
def descriptors (L : CarLibrary) (N : Normalization) (S : Hash) (batch : MerkleBatch) :
    List JsValue :=
  batch.leaves.map fun leaf =>
    descriptorOf L leaf (documentBlock L N S (receiptProofFromLeaf batch leaf)).cid

theorem zipWith_descriptorOf : List.zipWith (fun leaf (block : Block L.Cid) =>
    descriptorOf L leaf block.cid) batch.leaves (receiptBlocks L N S batch) =
      descriptors L N S batch := by
  rw [receiptBlocks, receiptProofs, List.map_map, List.zipWith_map_right, List.zipWith_self]
  rfl

/-- The properties of the manifest that is read back. -/
theorem get_manifest (hL : L.Lawful) (h : Bundleable S batch) (key : JsString) (x : JsValue)
    (hx : (key, x) ∈ [(js "schema_version", .string FILECOIN_BUNDLE_SCHEMA_VERSION),
      (js "storage_profile", .string STORAGE_PROFILE), (js "batch_ref", .string batch.batchRef),
      (js "merkle_root", .string batch.merkleRoot.val),
      (js "leaf_count", .number (.ofInt batch.leafCount)),
      (js "tree_algorithm", .string batch.treeAlgorithm),
      (js "ordering", .string batch.ordering),
      (js "receipts", .array (descriptors L N S batch))]) :
    (reread N (batchManifest L N S batch)).get key = some (reread N x) := by
  rw [← zipWith_descriptorOf] at hx
  exact get_reread (manifest_batch hL h).1 hx

/-- The manifest passes the checks, which return its descriptors. -/
theorem checkManifest_batch (hL : L.Lawful) (h : Bundleable S batch) :
    checkManifest (reread N (batchManifest L N S batch)) =
      .ok ((descriptors L N S batch).map (reread N)) := by
  have hkeys : assertExactKeys (reread N (batchManifest L N S batch)) MANIFEST_KEYS
      (js "Manifest") = .ok () := assertExactKeys_reread (manifest_batch hL h).1 rfl _
  have hschema := get_manifest (N := N) hL h (js "schema_version")
    (.string FILECOIN_BUNDLE_SCHEMA_VERSION) (by simp only [List.mem_cons, true_or])
  have hprofile := get_manifest (N := N) hL h (js "storage_profile") (.string STORAGE_PROFILE)
    (by simp only [List.mem_cons, true_or, or_true])
  have hcount := get_manifest (N := N) hL h (js "leaf_count") (.number (.ofInt batch.leafCount))
    (by simp only [List.mem_cons, true_or, or_true])
  have hreceipts := get_manifest (N := N) hL h (js "receipts") (.array (descriptors L N S batch))
    (by simp only [List.mem_cons, true_or, or_true])
  have hlen : ((descriptors L N S batch).map (reread N)).length = batch.leafCount := by
    rw [List.length_map, descriptors, List.length_map, h.count]
  have hpos := h.nonempty
  have hle := h.bounded
  rw [reread_string plainWithin_schema.2.1.1] at hschema
  rw [reread_string plainWithin_schema.2.2.1] at hprofile
  rw [reread_natural (by rw [h.count, JsNumber.maxSafeInteger]; omega)] at hcount
  rw [reread_array] at hreceipts
  have hbounds : (decide (0 < ((descriptors L N S batch).map (reread N)).length) &&
      decide (((descriptors L N S batch).map (reread N)).length ≤ 10000)) = true := by
    rw [hlen, h.count, Bool.and_eq_true, decide_eq_true_eq, decide_eq_true_eq]
    exact ⟨hpos, hle⟩
  unfold checkManifest
  refine bind_eq_ok.mpr ⟨(), hkeys, bind_eq_ok.mpr ⟨(), ?_, bind_eq_ok.mpr ⟨(), ?_, ?_⟩⟩⟩
  · rw [hschema]
    exact assert_eq_ok.mpr (sameProperty_string _)
  · rw [hprofile]
    exact assert_eq_ok.mpr (sameProperty_string _)
  · rw [hreceipts]
    refine bind_eq_ok.mpr ⟨(), ?_, bind_eq_ok.mpr ⟨(), assert_eq_ok.mpr hbounds, rfl⟩⟩
    rw [hcount, hlen]
    exact assert_eq_ok.mpr (sameProperty_natural _)

/-! ## The verifier on a receipt proof -/

theorem decodeStep_reread (step : ProofStep) :
    decodeStep (reread N (stepValue step)) = .ok step := by
  have hdocument := (stepValue_document (N := N) step).1
  have hposition := get_reread (x := .string _) hdocument (List.mem_cons_self)
  have hhash := get_reread (x := .string step.2.val) hdocument
    (List.mem_cons_of_mem _ List.mem_cons_self)
  rw [reread_string (plainWithin_hash step.2).1] at hhash
  have hassert : assertHash (some (.string step.2.val)) (js "proof hash") = .ok step.2 :=
    assertHash_eq_ok.mpr rfl
  have hside : js "right" ≠ js "left" := by decide
  have hplain : (∀ u ∈ js "left", isPlainUnit u = true) ∧ ∀ u ∈ js "right", isPlainUnit u = true :=
    ⟨List.all_eq_true.mp (by decide), List.all_eq_true.mp (by decide)⟩
  obtain ⟨side, hash⟩ := step
  cases side with
  | left =>
    rw [reread_string hplain.1] at hposition
    rw [stepValue, decodeStep, hposition, hhash, hassert]
    rfl
  | right =>
    rw [reread_string hplain.2] at hposition
    rw [stepValue, decodeStep, hposition, hhash, hassert]
    simp only [if_neg hside, if_true]
    rfl

theorem reread_proofValue (proof : List ProofStep) :
    reread N (proofValue proof) = .array (proof.map fun step => reread N (stepValue step)) := by
  rw [proofValue, reread_array, List.map_map]
  rfl

/-- The path of a receipt proof that is read back is accepted. -/
theorem verifyMerkleProof_reread (h : Bundleable S batch) {leaf : BatchLeaf}
    (hleaf : leaf ∈ batch.leaves) :
    verifyMerkleProof S (.string leaf.receipt.commitmentHash.val)
      (reread N (proofValue leaf.proof)) (.string batch.merkleRoot.val) = true := by
  rw [reread_proofValue, verifyMerkleProof_map decodeStep_reread _ _ _ (h.short leaf hleaf)]
  exact decide_eq_true (h.path leaf hleaf)

/-- The properties of a descriptor that is read back. -/
theorem get_descriptor (hL : L.Lawful) (h : Bundleable S batch) {leaf : BatchLeaf}
    (hleaf : leaf ∈ batch.leaves) {cid : L.Cid} (hcid : L.Created cid) :
    (reread N (descriptorOf L leaf cid)).get (js "receipt_id") =
        some (.string leaf.receipt.receiptId.val) ∧
      (reread N (descriptorOf L leaf cid)).get (js "leaf_index") =
        some (.number (.ofInt leaf.leafIndex)) ∧
      (reread N (descriptorOf L leaf cid)).get (js "cid") = some (.string (L.toString cid)) := by
  have hdocument := (descriptor_document (N := N) hL h hleaf hcid).1
  have hid := get_reread (x := .string leaf.receipt.receiptId.val) hdocument List.mem_cons_self
  have hindex := get_reread (x := .number (.ofInt leaf.leafIndex)) hdocument
    (List.mem_cons_of_mem _ List.mem_cons_self)
  have htext := get_reread (x := .string (L.toString cid)) hdocument
    (List.mem_cons_of_mem _ (List.mem_cons_of_mem _ List.mem_cons_self))
  have hlt := h.index_lt hleaf
  rw [reread_string (plainWithin_identifier _).1] at hid
  rw [reread_natural (by rw [JsNumber.maxSafeInteger]; omega)] at hindex
  rw [reread_string (hL.toString_plain cid hcid).1] at htext
  exact ⟨hid, hindex, htext⟩

/-- A receipt proof passes the checks against the manifest and its descriptor. -/
theorem checkReceiptProof_leaf (hL : L.Lawful) (h : Bundleable S batch) {leaf : BatchLeaf}
    (hleaf : leaf ∈ batch.leaves) {cid : L.Cid} (hcid : L.Created cid) :
    checkReceiptProof S (reread N (batchManifest L N S batch)) (reread N (descriptorOf L leaf cid))
      (reread N (receiptProofFromLeaf batch leaf)) = .ok () := by
  have hkeys : assertExactKeys (reread N (receiptProofFromLeaf batch leaf)) RECEIPT_PROOF_KEYS
      (js "Receipt proof") = .ok () :=
    assertExactKeys_reread (receiptProof_document h hleaf).1 rfl _
  obtain ⟨hid, hindex, -⟩ := get_descriptor (N := N) hL h hleaf hcid
  have hlt := h.index_lt hleaf
  have hschema := get_receiptProof (N := N) h hleaf (js "schema_version")
    (.string FILECOIN_RECEIPT_PROOF_SCHEMA_VERSION) List.mem_cons_self
  have hmanifestRef := get_manifest (N := N) hL h (js "batch_ref") (.string batch.batchRef)
    (by simp only [List.mem_cons, true_or, or_true])
  have hmanifestRoot := get_manifest (N := N) hL h (js "merkle_root")
    (.string batch.merkleRoot.val) (by simp only [List.mem_cons, true_or, or_true])
  have hbatchRef := get_receiptProof (N := N) h hleaf (js "batch_ref") (.string batch.batchRef)
    (by simp only [List.mem_cons, true_or, or_true])
  have hroot := get_receiptProof (N := N) h hleaf (js "merkle_root")
    (.string batch.merkleRoot.val) (by simp only [List.mem_cons, true_or, or_true])
  have hcommitment := get_receiptProof (N := N) h hleaf (js "commitment_hash")
    (.string leaf.receipt.commitmentHash.val) (by simp only [List.mem_cons, true_or, or_true])
  have hproofIndex := get_receiptProof (N := N) h hleaf (js "leaf_index")
    (.number (.ofInt leaf.leafIndex)) (by simp only [List.mem_cons, true_or, or_true])
  have hleafHash := get_receiptProof (N := N) h hleaf (js "leaf_hash") (.string leaf.leafHash.val)
    (by simp only [List.mem_cons, true_or, or_true])
  have hproof := get_receiptProof (N := N) h hleaf (js "proof") (proofValue leaf.proof)
    (by simp only [List.mem_cons, true_or, or_true])
  rw [reread_string plainWithin_schema.1.1] at hschema
  rw [reread_string h.batchRef.1] at hmanifestRef hbatchRef
  rw [reread_string (plainWithin_hash _).1] at hmanifestRoot hroot hcommitment hleafHash
  rw [reread_natural (by rw [JsNumber.maxSafeInteger]; omega)] at hproofIndex
  unfold checkReceiptProof
  refine bind_eq_ok.mpr ⟨(), hkeys, bind_eq_ok.mpr ⟨(), ?_, bind_eq_ok.mpr ⟨(), ?_,
    bind_eq_ok.mpr ⟨(), ?_, bind_eq_ok.mpr ⟨(), ?_, bind_eq_ok.mpr ⟨(), ?_,
    bind_eq_ok.mpr ⟨(), ?_, ?_⟩⟩⟩⟩⟩⟩⟩
  · rw [hschema]
    exact assert_eq_ok.mpr (sameProperty_string _)
  · rw [hbatchRef, hmanifestRef]
    exact assert_eq_ok.mpr (sameProperty_string _)
  · rw [hroot, hmanifestRoot]
    exact assert_eq_ok.mpr (sameProperty_string _)
  · rw [get_receiptId h hleaf, hid]
    exact assert_eq_ok.mpr (sameProperty_string _)
  · rw [hproofIndex, hindex]
    exact assert_eq_ok.mpr (sameProperty_natural _)
  · rw [hleafHash, field, hcommitment, h.leafHash leaf hleaf]
    exact assert_eq_ok.mpr (sameProperty_string _)
  · rw [field, field, field, hcommitment, hproof, hmanifestRoot]
    exact assert_eq_ok.mpr (verifyMerkleProof_reread h hleaf)

/-! ## The loop of the verifier -/

/-- The identifier of the receipt proof of a leaf. -/
def leafCid (L : CarLibrary) (N : Normalization) (S : Hash) (batch : MerkleBatch)
    (leaf : BatchLeaf) : L.Cid :=
  (documentBlock L N S (receiptProofFromLeaf batch leaf)).cid

theorem created_leafCid (leaf : BatchLeaf) : L.Created (leafCid L N S batch leaf) :=
  created_documentBlock _

theorem receiptProof_mem {leaf : BatchLeaf} (hleaf : leaf ∈ batch.leaves) :
    receiptProofFromLeaf batch leaf ∈ bundleDocuments L N S batch :=
  List.mem_cons_of_mem _ (List.mem_map_of_mem hleaf)

/-- Without a collision, the identifiers of the receipt proofs have different texts. -/
theorem eq_of_cidText (hL : L.Lawful) (h : Bundleable S batch)
    (hcol : ¬ DocumentCollision L N S batch) {leaf leaf' : BatchLeaf} (hleaf : leaf ∈ batch.leaves)
    (hleaf' : leaf' ∈ batch.leaves)
    (htext : L.toString (leafCid L N S batch leaf) = L.toString (leafCid L N S batch leaf')) :
    leaf = leaf' := by
  have hcid : leafCid L N S batch leaf = leafCid L N S batch leaf' := by
    have hparse := hL.parse_toString _ (@created_leafCid L N S batch leaf)
    rw [htext, hL.parse_toString _ (created_leafCid leaf')] at hparse
    exact (Option.some.inj hparse).symm
  have hread := reread_of_cid hL hcol (receiptProof_mem hleaf) (receiptProof_mem hleaf')
    (receiptProof_document h hleaf).1 (receiptProof_document h hleaf').1 hcid
  have hid := get_receiptId (N := N) h hleaf
  rw [hread, get_receiptId h hleaf', Option.some.injEq, JsValue.string.injEq] at hid
  exact h.eq_of_receiptId hleaf hleaf' (Subtype.ext hid).symm

/-- The receipt identifiers of the entries read so far, the last one first. -/
def seenIds (leaves : List BatchLeaf) : List JsValue :=
  leaves.reverse.map fun leaf => .string leaf.receipt.receiptId.val

/-- The content identifiers of the entries read so far, the last one first. -/
def seenCids (L : CarLibrary) (N : Normalization) (S : Hash) (batch : MerkleBatch)
    (leaves : List BatchLeaf) : List JsValue :=
  leaves.reverse.map fun leaf => .string (L.toString (leafCid L N S batch leaf))

theorem any_strictEquals_map {leaves : List BatchLeaf} (f : BatchLeaf → JsString) {s : JsString}
    (h : ∀ leaf ∈ leaves, f leaf ≠ s) :
    (!(leaves.reverse.map fun leaf => JsValue.string (f leaf)).any (strictEquals (.string s))) =
      true := by
  rw [Bool.not_eq_true', List.any_eq_false]
  intro v hv
  obtain ⟨leaf, hleaf, rfl⟩ := List.mem_map.mp hv
  rw [strictEquals, decide_eq_true_eq]
  exact fun heq => h leaf (List.mem_reverse.mp hleaf) heq.symm

/-- The loop reads the entry of a leaf that it has not read before. -/
theorem verifyReceipt_leaf (hL : L.Lawful) (h : Bundleable S batch)
    (hcol : ¬ DocumentCollision L N S batch) {done : List BatchLeaf} {leaf : BatchLeaf}
    (hleaf : leaf ∈ batch.leaves) (hindex : leaf.leafIndex = done.length)
    (hdone : ∀ l ∈ done, l ∈ batch.leaves) (hnew : leaf ∉ done) :
    verifyReceipt L N S (bundleContents L N S batch) (reread N (batchManifest L N S batch))
        done.length (seenIds done) (seenCids L N S batch done)
        (reread N (descriptorOf L leaf (leafCid L N S batch leaf))) =
      .ok (reread N (receiptProofFromLeaf batch leaf)) := by
  have hcreated := @created_leafCid L N S batch leaf
  have hkeys : assertExactKeys (reread N (descriptorOf L leaf (leafCid L N S batch leaf)))
      DESCRIPTOR_KEYS (js "Receipt descriptor") = .ok () :=
    assertExactKeys_reread (descriptor_document hL h hleaf hcreated).1 rfl _
  obtain ⟨hid, hleafIndex, hcid⟩ := get_descriptor (N := N) hL h hleaf hcreated
  have hfieldId : field (reread N (descriptorOf L leaf (leafCid L N S batch leaf)))
      (js "receipt_id") = .string leaf.receipt.receiptId.val := by
    rw [field, hid]
    rfl
  have hfieldCid : field (reread N (descriptorOf L leaf (leafCid L N S batch leaf))) (js "cid") =
      .string (L.toString (leafCid L N S batch leaf)) := by
    rw [field, hcid]
    rfl
  have hfieldIndex : field (reread N (descriptorOf L leaf (leafCid L N S batch leaf)))
      (js "leaf_index") = .number (.ofInt leaf.leafIndex) := by
    rw [field, hleafIndex]
    rfl
  have hids : ∀ l ∈ done, l.receipt.receiptId.val ≠ leaf.receipt.receiptId.val := by
    intro l hl heq
    rw [h.eq_of_receiptId (hdone l hl) hleaf (Subtype.ext heq)] at hl
    exact hnew hl
  have hcids : ∀ l ∈ done, L.toString (leafCid L N S batch l) ≠
      L.toString (leafCid L N S batch leaf) := by
    intro l hl heq
    rw [eq_of_cidText hL h hcol (hdone l hl) hleaf heq] at hl
    exact hnew hl
  have hget := get_bundleContents hL hcol (receiptProof_mem (N := N) hleaf)
  have hnewId := any_strictEquals_map (fun l => l.receipt.receiptId.val) hids
  have hnewCid := any_strictEquals_map (fun l => L.toString (leafCid L N S batch l)) hcids
  rw [← seenIds, ← hfieldId] at hnewId
  rw [← seenCids, ← hfieldCid] at hnewCid
  have hparse := parseCanonicalJson_documentBlock (L := L) (S := S)
    (receiptProof_document (N := N) h hleaf).1 (js "Receipt proof")
  unfold verifyReceipt
  refine bind_eq_ok.mpr ⟨(), hkeys, bind_eq_ok.mpr ⟨(), ?_, bind_eq_ok.mpr ⟨(), ?_,
    bind_eq_ok.mpr ⟨(), ?_, bind_eq_ok.mpr ⟨leafCid L N S batch leaf, ?_, ?_⟩⟩⟩⟩⟩
  · rw [hfieldIndex, hindex]
    exact assert_eq_ok.mpr (sameProperty_natural _)
  · exact assert_eq_ok.mpr hnewId
  · exact assert_eq_ok.mpr hnewCid
  · rw [hcid]
    simp only [hL.parse_toString _ hcreated]
  · refine bind_eq_ok.mpr ⟨documentBlock L N S (receiptProofFromLeaf batch leaf), ?_, ?_⟩
    · rw [leafCid, hget]
    · refine bind_eq_ok.mpr ⟨(), assertBlockMatchesCid_document _ _, ?_⟩
      refine bind_eq_ok.mpr ⟨_, hparse, ?_⟩
      exact bind_eq_ok.mpr ⟨(), checkReceiptProof_leaf hL h hleaf hcreated, rfl⟩

/-- The loop reads the entries of the remaining leaves. -/
theorem verifyReceipts_leaves (hL : L.Lawful) (h : Bundleable S batch)
    (hcol : ¬ DocumentCollision L N S batch) {done rest : List BatchLeaf}
    (hleaves : done ++ rest = batch.leaves) :
    verifyReceipts L N S (bundleContents L N S batch) (reread N (batchManifest L N S batch))
        done.length (seenIds done) (seenCids L N S batch done)
        (rest.map fun leaf => reread N (descriptorOf L leaf (leafCid L N S batch leaf))) =
      .ok (rest.map fun leaf => reread N (receiptProofFromLeaf batch leaf)) := by
  induction rest generalizing done with
  | nil => rfl
  | cons leaf rest ih =>
    have hnodup : (done ++ leaf :: rest).Nodup := hleaves ▸ h.ids.of_map _
    have hleaf : leaf ∈ batch.leaves := by
      rw [← hleaves]
      exact List.mem_append_right _ List.mem_cons_self
    have hdone : ∀ l ∈ done, l ∈ batch.leaves := by
      intro l hl
      rw [← hleaves]
      exact List.mem_append_left _ hl
    have hnew : leaf ∉ done := fun hmem =>
      (List.nodup_append.mp hnodup).2.2 leaf hmem leaf List.mem_cons_self rfl
    have hindex : leaf.leafIndex = done.length := by
      apply h.index
      rw [← hleaves, List.getElem?_append_right (le_refl _), Nat.sub_self]
      rfl
    have hfirst := verifyReceipt_leaf hL h hcol hleaf hindex hdone hnew
    have hstep := @ih (done ++ [leaf]) (by rw [List.append_assoc, ← hleaves]; rfl)
    obtain ⟨hid, -, hcid⟩ := get_descriptor (N := N) hL h hleaf
      (@created_leafCid L N S batch leaf)
    have hseenIds : seenIds (done ++ [leaf]) =
        field (reread N (descriptorOf L leaf (leafCid L N S batch leaf))) (js "receipt_id") ::
          seenIds done := by
      rw [field, hid, seenIds, List.reverse_append]
      rfl
    have hseenCids : seenCids L N S batch (done ++ [leaf]) =
        field (reread N (descriptorOf L leaf (leafCid L N S batch leaf))) (js "cid") ::
          seenCids L N S batch done := by
      rw [field, hcid, seenCids, List.reverse_append]
      rfl
    rw [hseenIds, hseenCids, List.length_append, List.length_singleton] at hstep
    rw [List.map_cons, List.map_cons, verifyReceipts]
    exact bind_eq_ok.mpr ⟨_, hfirst, bind_eq_ok.mpr ⟨_, hstep, rfl⟩⟩

/-- Without a collision, the bundle of a batch is accepted and returns what was written. -/
theorem verify_bundleBytes (hL : L.Lawful) (h : Bundleable S batch)
    (hcol : ¬ DocumentCollision L N S batch) :
    verifyFilecoinEvidenceBundle L N S (bundleBytes L N S batch) = .ok {
      rootCid := L.toString (documentBlock L N S (batchManifest L N S batch)).cid
      manifest := reread N (batchManifest L N S batch)
      proofs := (receiptProofs batch).map (reread N)
      blockCount := batch.leaves.length + 1
      byteLength := (bundleBytes L N S batch).length } := by
  have hpos : 0 < (bundleBytes L N S batch).length :=
    List.length_pos_iff.mpr (hL.write_ne_nil _ _)
  have hsize : (decide (0 < (bundleBytes L N S batch).length) &&
      decide ((bundleBytes L N S batch).length ≤ MAX_BUNDLE_BYTES)) = true := by
    rw [Bool.and_eq_true, decide_eq_true_eq, decide_eq_true_eq]
    exact ⟨hpos, length_bundleBytes hL h⟩
  have hread : L.fromBytes (bundleBytes L N S batch) = some (bundleContents L N S batch) := by
    apply hL.fromBytes_write _ _ (created_documentBlock _)
    intro block hblock
    rcases List.mem_cons.mp hblock with rfl | hblock
    · exact created_documentBlock _
    · exact created_receiptBlocks block hblock
  have hroot := get_bundleContents hL hcol
    (List.mem_cons_self : batchManifest L N S batch ∈ bundleDocuments L N S batch)
  have hcount : (bundleContents L N S batch).blocks.length = batch.leaves.length + 1 := by
    rw [bundleContents, List.length_map, bundleDocuments, List.length_cons, receiptProofs,
      List.length_map]
  have hdescriptors : ((descriptors L N S batch).map (reread N)).length = batch.leaves.length := by
    rw [List.length_map, descriptors, List.length_map]
  have hloop := @verifyReceipts_leaves L N S batch hL h hcol [] batch.leaves rfl
  have hproofs : (receiptProofs batch).map (reread N) =
      batch.leaves.map fun leaf => reread N (receiptProofFromLeaf batch leaf) := by
    rw [receiptProofs, List.map_map]
    rfl
  have hreceipts : (descriptors L N S batch).map (reread N) =
      batch.leaves.map fun leaf => reread N (descriptorOf L leaf (leafCid L N S batch leaf)) := by
    rw [descriptors, List.map_map]
    rfl
  have hparse := parseCanonicalJson_documentBlock (L := L) (S := S)
    (manifest_batch (N := N) (S := S) hL h).1 (js "Manifest")
  unfold verifyFilecoinEvidenceBundle
  refine bind_eq_ok.mpr ⟨(), assert_eq_ok.mpr hsize, ?_⟩
  rw [hread]
  refine bind_eq_ok.mpr ⟨bundleContents L N S batch, rfl, ?_⟩
  have hroots : (bundleContents L N S batch).roots =
      [(documentBlock L N S (batchManifest L N S batch)).cid] := rfl
  rw [hroots]
  dsimp only
  rw [hroot]
  refine bind_eq_ok.mpr ⟨(), assertBlockMatchesCid_document _ _, ?_⟩
  refine bind_eq_ok.mpr ⟨_, hparse, ?_⟩
  refine bind_eq_ok.mpr ⟨_, checkManifest_batch hL h, ?_⟩
  refine bind_eq_ok.mpr ⟨(receiptProofs batch).map (reread N), ?_, ?_⟩
  · rw [hreceipts, hproofs]
    exact hloop
  refine bind_eq_ok.mpr ⟨(), ?_, ?_⟩
  · rw [hcount, hdescriptors]
    exact assert_eq_ok.mpr (decide_eq_true rfl)
  · rw [hcount]

end RoundTrip

/-- Every list of receipts that has a batch has a bundle of at most 64 MiB. Unless two of its
    documents collide, the bundle is accepted, under the same root identifier, with the same
    manifest and the same receipt proof for each leaf. -/
theorem buildFilecoinEvidenceBundle_roundTrip {L : CarLibrary} (hL : L.Lawful) (N : Normalization)
    (R : Runtime) (receipts : JsValue) (batch : MerkleBatch)
    (h : buildMerkleBatch R receipts = .ok batch) :
    ∃ bundle : Bundle, buildFilecoinEvidenceBundle L N R receipts = .ok bundle ∧
      bundle.batch = batch ∧ bundle.bytes.length ≤ MAX_BUNDLE_BYTES ∧
      ((∃ accepted : Verification,
        verifyFilecoinEvidenceBundle L N R.hash bundle.bytes = .ok accepted ∧
          accepted.rootCid = bundle.rootCid ∧ SameData accepted.manifest bundle.manifest ∧
          List.Forall₂ SameData accepted.proofs
            (batch.leaves.map (receiptProofFromLeaf batch))) ∨
        DocumentCollision L N R.hash batch) := by
  have hbatch := bundleable_of_build h
  have hbuild : buildFilecoinEvidenceBundle L N R receipts = .ok {
      bytes := bundleBytes L N R.hash batch
      rootCid := L.toString (documentBlock L N R.hash (batchManifest L N R.hash batch)).cid
      manifest := batchManifest L N R.hash batch
      batch := batch } := by
    rw [buildFilecoinEvidenceBundle, h]
    exact bundleOf_eq hL hbatch
  refine ⟨_, hbuild, rfl, length_bundleBytes hL hbatch, ?_⟩
  by_cases hcol : DocumentCollision L N R.hash batch
  · exact .inr hcol
  · refine .inl ⟨_, verify_bundleBytes hL hbatch hcol, rfl,
      sameData_reread (manifest_batch hL hbatch).1, ?_⟩
    rw [receiptProofs, List.forall₂_map_left_iff, List.forall₂_same]
    intro v hv
    obtain ⟨leaf, hleaf, rfl⟩ := List.mem_map.mp hv
    exact sameData_reread (receiptProof_document hbatch hleaf).1

theorem buildFilecoinEvidenceBundle_roundTrip_three :
    ∃ batch, buildMerkleBatch rootRuntime (.array threeReceipts) = .ok batch ∧
      ∃ bundle, buildFilecoinEvidenceBundle carV1 devanagari rootRuntime (.array threeReceipts) =
          .ok bundle ∧ bundle.batch = batch ∧ bundle.bytes.length ≤ MAX_BUNDLE_BYTES ∧
        ((∃ accepted, verifyFilecoinEvidenceBundle carV1 devanagari sha256 bundle.bytes =
            .ok accepted ∧ accepted.rootCid = bundle.rootCid ∧
            SameData accepted.manifest bundle.manifest ∧
            List.Forall₂ SameData accepted.proofs (batch.leaves.map (receiptProofFromLeaf batch))) ∨
          DocumentCollision carV1 devanagari sha256 batch) := by
  obtain ⟨batch, h⟩ := isOk_iff.mp threeReceipts_isOk
  exact ⟨batch, h, buildFilecoinEvidenceBundle_roundTrip carV1_lawful devanagari rootRuntime
    (.array threeReceipts) batch h⟩

end OpenRisk.Filecoin
