import OpenRisk.Filecoin.CarV1
import OpenRisk.Sorting.Comparator

/-!
# Batches and bundles do not depend on the order of their receipts

`buildMerkleBatch` sorts the normalized receipts before it looks for duplicates, and
`buildFilecoinEvidenceBundle` reads the receipts through the batch only.

Results:
* `batchOf_sortReceipts_perm`: the same receipts in another order give the same batch, or
  both lists are rejected.
* `buildFilecoinEvidenceBundle_perm`: so do `buildMerkleBatch` and
  `buildFilecoinEvidenceBundle`.
-/

namespace OpenRisk.Filecoin

open Text Sdk Sorting

/-! ## The texts that are compared -/

/-- A text that `normalizeOccurredAt` returns. -/
def Timestamp (P : DateParser) :=
  { s : JsString // ∃ value, normalizeOccurredAt P value = .ok s }

section Order

variable {R : Runtime}

theorem normalizeReceipt_occurredAt {value : JsValue} {receipt : BatchReceipt}
    (h : normalizeReceipt R value = .ok receipt) :
    ∃ occurred, normalizeOccurredAt R.date occurred = .ok receipt.occurredAt := by
  simp only [normalizeReceipt, bind_eq_ok] at h
  obtain ⟨-, -, -, -, id, -, hash, -, occurredAt, hoccurred, h⟩ := h
  cases h
  exact ⟨_, hoccurred⟩

variable [Std.TransCmp fun a b : Identifier => R.localeCompare a.val b.val]
  [Std.TransCmp fun a b : Timestamp R.date => R.localeCompare a.val b.val]

/-- The comparator of the batch on receipts with a normalized timestamp. -/
instance instTransCmpReceipts : Std.TransCmp fun a b :
    { r : BatchReceipt // ∃ value, normalizeOccurredAt R.date value = .ok r.occurredAt } =>
      compareReceipts R a.val b.val :=
  have := transCmp_on (fun a b : Identifier => R.localeCompare a.val b.val) fun r :
    { r : BatchReceipt // ∃ value, normalizeOccurredAt R.date value = .ok r.occurredAt } =>
      r.val.receiptId
  have := transCmp_on (fun a b : Timestamp R.date => R.localeCompare a.val b.val) fun r :
    { r : BatchReceipt // ∃ value, normalizeOccurredAt R.date value = .ok r.occurredAt } =>
      ⟨r.val.occurredAt, r.property⟩
  inferInstanceAs (Std.TransCmp (compareLex _ _))

variable [Std.LawfulEqCmp fun a b : Identifier => R.localeCompare a.val b.val]

/-- Receipts that compare as equal have one identifier. -/
theorem receiptId_eq_of_compareReceipts {a b : BatchReceipt} (h : compareReceipts R a b = .eq) :
    a.receiptId = b.receiptId := by
  rw [compareReceipts, Ordering.then_eq_eq] at h
  have heq : ∀ i j : Identifier, R.localeCompare i.val j.val = .eq → i = j := fun _ _ hij =>
    (‹Std.LawfulEqCmp fun a b : Identifier => R.localeCompare a.val b.val›).eq_of_compare hij
  exact heq _ _ h.2

/-- Without a repeated identifier there is one order; with one, both lists are rejected. -/
theorem batchOf_sortReceipts_perm {xs ys : List BatchReceipt}
    (hxs : ∀ r ∈ xs, ∃ value, normalizeOccurredAt R.date value = .ok r.occurredAt)
    (hperm : xs.Perm ys) {batch : MerkleBatch} (h : batchOf R (sortReceipts R xs) = .ok batch) :
    batchOf R (sortReceipts R ys) = .ok batch := by
  have hids : (xs.map BatchReceipt.receiptId).Nodup := by
    simp only [batchOf, bind_eq_ok, Sdk.assert_eq_ok, decide_eq_true_eq, exists_const] at h
    have hnodup : ((sortReceipts R xs).map BatchReceipt.receiptId).Nodup := by
      rw [← dedup_length_eq_iff, List.length_map]
      exact h.1
    exact ((sortReceipts_perm xs).map _).nodup_iff.mp hnodup
  have hsort : sortReceipts R xs = sortReceipts R ys :=
    insertionSort_eq_of_perm hxs
      (fun a ha b hb hab =>
        List.inj_on_of_nodup_map hids ha hb (receiptId_eq_of_compareReceipts hab)) hperm
  rw [← hsort]
  exact h

theorem buildMerkleBatch_perm {rs rs' : List JsValue} (hperm : rs.Perm rs') {batch : MerkleBatch}
    (h : buildMerkleBatch R (.array rs) = .ok batch) :
    buildMerkleBatch R (.array rs') = .ok batch := by
  simp only [buildMerkleBatch, bind_eq_ok, Sdk.assert_eq_ok, exists_const, decide_eq_true_eq,
    mapM_eq_ok_iff] at h ⊢
  obtain ⟨hpos, hle, xs, hmap, hbatch⟩ := h
  obtain ⟨ys, hmap', hperm'⟩ := List.perm_comp_forall₂ hperm.symm hmap
  have hxs : ∀ x ∈ xs, ∃ value, normalizeOccurredAt R.date value = .ok x.occurredAt := by
    intro x hx
    obtain ⟨r, -, hr⟩ := exists_of_forall₂ hmap.flip hx
    exact normalizeReceipt_occurredAt hr
  exact ⟨by rwa [← hperm.length_eq], by rwa [← hperm.length_eq], ys, hmap',
    batchOf_sortReceipts_perm hxs hperm'.symm hbatch⟩

end Order

/-- Receipts in another order give the same batch, or both lists are rejected, and so it is
    with the bundle of the batch. -/
theorem buildFilecoinEvidenceBundle_perm (L : CarLibrary) (N : Normalization) (R : Runtime)
    [Std.TransCmp fun a b : Identifier => R.localeCompare a.val b.val]
    [Std.LawfulEqCmp fun a b : Identifier => R.localeCompare a.val b.val]
    [Std.TransCmp fun a b : Timestamp R.date => R.localeCompare a.val b.val]
    (receipts receipts' : List JsValue) (hperm : receipts.Perm receipts') :
    (∀ batch, buildMerkleBatch R (.array receipts) = .ok batch ↔
      buildMerkleBatch R (.array receipts') = .ok batch) ∧
    ∀ bundle, buildFilecoinEvidenceBundle L N R (.array receipts) = .ok bundle ↔
      buildFilecoinEvidenceBundle L N R (.array receipts') = .ok bundle := by
  have hbatch : ∀ batch, buildMerkleBatch R (.array receipts) = .ok batch ↔
      buildMerkleBatch R (.array receipts') = .ok batch :=
    fun _ => ⟨buildMerkleBatch_perm hperm, buildMerkleBatch_perm hperm.symm⟩
  refine ⟨hbatch, fun bundle => ?_⟩
  simp only [buildFilecoinEvidenceBundle, bind_eq_ok, mapError_eq_ok, hbatch]

instance instTransCmpIdentifier :
    Std.TransCmp fun a b : Identifier => rootRuntime.localeCompare a.val b.val :=
  transCmp_on rootCompare Subtype.val

instance instLawfulEqCmpIdentifier :
    Std.LawfulEqCmp fun a b : Identifier => rootRuntime.localeCompare a.val b.val where
  eq_of_compare h := Subtype.ext ((rootCompare_eq_iff _ _).mp h)

instance instTransCmpTimestamp :
    Std.TransCmp fun a b : Timestamp rootRuntime.date => rootRuntime.localeCompare a.val b.val :=
  transCmp_on rootCompare Subtype.val

theorem buildFilecoinEvidenceBundle_perm_three :
    ∃ batch, buildMerkleBatch rootRuntime (.array threeReceipts) = .ok batch ∧
      buildMerkleBatch rootRuntime (.array threeReceipts.reverse) = .ok batch ∧
      ∀ bundle, buildFilecoinEvidenceBundle carV1 devanagari rootRuntime (.array threeReceipts) =
          .ok bundle ↔
        buildFilecoinEvidenceBundle carV1 devanagari rootRuntime (.array threeReceipts.reverse) =
          .ok bundle := by
  obtain ⟨batch, h⟩ := isOk_iff.mp threeReceipts_isOk
  obtain ⟨hbatch, hbundle⟩ := buildFilecoinEvidenceBundle_perm carV1 devanagari rootRuntime
    threeReceipts threeReceipts.reverse threeReceipts.reverse_perm.symm
  exact ⟨batch, h, (hbatch batch).mp h, hbundle⟩

end OpenRisk.Filecoin
