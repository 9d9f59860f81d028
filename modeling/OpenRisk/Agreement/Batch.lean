import OpenRisk.PySdk.Merkle
import OpenRisk.Agreement.Text

/-!
# Agreement of the two SDKs on Merkle batches

`buildMerkleBatch` (JavaScript) and `build_merkle_batch` (Python) on one JSON value.
The trees are the same function of the ordered commitments; the order is not.
JavaScript sorts with `localeCompare`, here root collation, and Python by code points,
and the two normalize timestamps separately.

Results:
* `normalizeReceipt_related`: the receipts that both accept have the same identifier
  and commitment.
* `buildMerkleBatch_agree_iff`: two accepted batches are the same exactly when the two
  comparators agree on all pairs of receipts.
-/

namespace OpenRisk.Agreement

open Text Sdk Merkle Sorting

/-! ## The same tree over the same commitments -/

theorem isHashUnit_lt {u : UInt16} (h : isHashUnit u = true) : u.toNat < 0x80 := by
  simp only [isHashUnit, Json.isDigit, Bool.or_eq_true, Bool.and_eq_true, decide_eq_true_eq] at h
  omega

theorem hashText_ascii (h : HashText) : ∀ u ∈ h.val, u.toNat < 0x80 :=
  fun _ hu => isHashUnit_lt (h.isHashUnit_of_mem hu)

theorem codePoints_hashText (h : HashText) :
    codePoints h.val = (PySdk.HashText.ofJs h).val := codePoints_of_ascii (hashText_ascii h)

theorem ofJs_injective : Function.Injective PySdk.HashText.ofJs := by
  intro a b h
  have : a.val.map unitPoint = b.val.map unitPoint := congrArg Subtype.val h
  rw [← codePoints_of_ascii (hashText_ascii a), ← codePoints_of_ascii (hashText_ascii b)] at this
  exact Subtype.ext (codePoints_injective this)

theorem codePoints_append_hashText (s : JsString) (h : HashText) :
    codePoints (s ++ h.val) = codePoints s ++ codePoints h.val := by
  refine codePoints_append_of_isolated _ _ ?_
  rintro _ v rest - hv ⟨-, hlow⟩
  have := hashText_ascii h v (by rw [hv]; simp)
  simp only [isLow, Bool.and_eq_true, decide_eq_true_eq] at hlow
  omega

theorem ofJs_sha256Hex (S : Hash) (s : JsString) :
    PySdk.HashText.ofJs (sha256Hex S s) = PySdk.sha256Hex S (codePoints s) := by
  simp only [sha256Hex, PySdk.sha256Hex, utf8Encode_eq]

theorem ofJs_hashMerkleLeaf (S : Hash) (c : HashText) :
    PySdk.HashText.ofJs (hashMerkleLeaf S c) =
      PySdk.hashMerkleLeaf S (PySdk.HashText.ofJs c) := by
  rw [hashMerkleLeaf, ofJs_sha256Hex, PySdk.hashMerkleLeaf, PySdk.leafString, leafString,
    codePoints_append_hashText, codePoints_hashText]
  rfl

theorem ofJs_hashMerkleNode (S : Hash) (a b : HashText) :
    PySdk.HashText.ofJs (hashMerkleNode S a b) =
      PySdk.hashMerkleNode S (PySdk.HashText.ofJs a) (PySdk.HashText.ofJs b) := by
  rw [hashMerkleNode, ofJs_sha256Hex, PySdk.hashMerkleNode, PySdk.nodeString, nodeString,
    codePoints_append_cons_ascii (by decide), codePoints_append_hashText, codePoints_hashText,
    codePoints_hashText]
  rfl

/-! ## The same receipts -/

theorem mem_of_lookup_eq_some {α β : Type} [BEq α] [LawfulBEq α] {l : List (α × β)} {k : α} {v : β}
    (h : l.lookup k = some v) : (k, v) ∈ l := by
  obtain ⟨l₁, l₂, rfl, -⟩ := List.lookup_eq_some_iff.mp h
  simp

theorem toJs_eq_string {j : Json} {s : JsString} (h : j.toJs = .string s) : j = .string s := by
  cases j <;> simp_all [Json.toJs]

/-- A string property of an object as the two SDKs read it. -/
theorem lookup_string_related {ms : List (JsString × Json)} (hnodup : (ms.map Prod.fst).Nodup)
    {k s : JsString} {t : PyString}
    (hjs : (ownProperties (membersToJs ms)).lookup k = some (.string s))
    (hpy : (dictOf (membersToPy ms)).lookup (codePoints k) = some (.str t)) :
    t = codePoints s := by
  have hmem := (ownProperties_perm (by rwa [map_fst_membersToJs])).mem_iff.mp
    (mem_of_lookup_eq_some hjs)
  rw [membersToJs_eq, List.mem_map] at hmem
  obtain ⟨⟨k₁, j₁⟩, hm₁, heq₁⟩ := hmem
  have hmem' := mem_of_lookup_eq_some hpy
  rw [dictOf_membersToPy hnodup, membersToPy_eq, List.mem_map] at hmem'
  obtain ⟨⟨k₂, j₂⟩, hm₂, heq₂⟩ := hmem'
  simp only [Prod.mk.injEq] at heq₁ heq₂
  -- one name, so one member
  have hname : k₁ = k₂ := by rw [heq₁.1, codePoints_injective heq₂.1]
  have hone := List.inj_on_of_nodup_map hnodup hm₁ hm₂ hname
  have hvalue : j₂ = .string s := by
    rw [← (Prod.mk.inj hone).2]
    exact toJs_eq_string heq₁.2
  rw [hvalue] at heq₂
  exact (PyValue.str.inj heq₂.2).symm

/-- The two SDKs hold the same identifier and commitment. -/
structure Related (a : BatchReceipt) (p : PySdk.BatchReceipt) : Prop where
  receiptId : p.receiptId = codePoints a.receiptId.val
  commitmentHash : p.commitmentHash = PySdk.HashText.ofJs a.commitmentHash

theorem normalizeReceipt_get {R : Runtime} {x : JsValue} {a : BatchReceipt}
    (h : normalizeReceipt R x = .ok a) :
    x.get (js "receipt_id") = some (.string a.receiptId.val) ∧
      x.get (js "commitment_hash") = some (.string a.commitmentHash.val) := by
  simp only [normalizeReceipt, bind_eq_ok, assertIdentifier_eq_ok, assertHash_eq_ok] at h
  obtain ⟨-, -, -, -, id, hid, hash, hhash, t, -, h⟩ := h
  cases h
  exact ⟨hid, hhash⟩

theorem matchIdentifier_eq_ok {value : Option PyValue} {message s : PyString}
    (h : PySdk.matchIdentifier value message = .ok s) : value = some (.str s) := by
  unfold PySdk.matchIdentifier at h
  split at h
  · obtain ⟨-, -, h⟩ := bind_eq_ok.mp h
    cases h
    rfl
  · cases h

theorem matchHash_eq_ok {value : Option PyValue} {message : PyString} {h : PySdk.HashText}
    (hok : PySdk.matchHash value message = .ok h) : value = some (.str h.val) := by
  unfold PySdk.matchHash at hok
  split at hok
  · split_ifs at hok
    cases hok
    rfl
  · cases hok

theorem normaliseReceipt_lookup {R : PySdk.Runtime} {x : PyValue} {p : PySdk.BatchReceipt}
    (h : PySdk.normaliseReceipt R x = .ok p) :
    ∃ es, x = .dict es ∧ es.lookup (py "receipt_id") = some (.str p.receiptId) ∧
      es.lookup (py "commitment_hash") = some (.str p.commitmentHash.val) := by
  unfold PySdk.normaliseReceipt at h
  split at h
  · rename_i es
    obtain ⟨-, -, h⟩ := bind_eq_ok.mp h
    obtain ⟨id, hid, h⟩ := bind_eq_ok.mp h
    obtain ⟨hash, hhash, h⟩ := bind_eq_ok.mp h
    obtain ⟨t, -, h⟩ := bind_eq_ok.mp h
    cases h
    exact ⟨es, rfl, matchIdentifier_eq_ok hid, matchHash_eq_ok hhash⟩
  · cases h

/-- Receipts that both SDKs accept have the same identifier and commitment. -/
theorem normalizeReceipt_related {R : Runtime} {R' : PySdk.Runtime} {x : Json}
    (hx : x.UniqueNames) {a : BatchReceipt} {p : PySdk.BatchReceipt}
    (ha : normalizeReceipt R x.toJs = .ok a) (hp : PySdk.normaliseReceipt R' x.toPy = .ok p) :
    Related a p := by
  obtain ⟨hid, hhash⟩ := normalizeReceipt_get ha
  obtain ⟨es, hes, hid', hhash'⟩ := normaliseReceipt_lookup hp
  cases x with
  | object ms =>
    cases hes
    have hcommit := lookup_string_related hx.1 hhash hhash'
    rw [codePoints_hashText] at hcommit
    exact ⟨lookup_string_related hx.1 hid hid', Subtype.ext hcommit⟩
  | number t =>
    rw [Json.toPy] at hes
    split_ifs at hes
  | _ => cases hes

/-- The value of a callback that does not throw. -/
def valueOr {α β ε : Type} (f : α → Except ε β) (y₀ : β) (x : α) : β := (f x).toOption.getD y₀

/-- A successful `map` with a throwing callback is a `map`. -/
theorem mapM_eq_ok_valueOr {α β ε : Type} {f : α → Except ε β} {xs : List α} {ys : List β}
    (h : xs.mapM f = .ok ys) (y₀ : β) :
    (∀ x ∈ xs, f x = .ok (valueOr f y₀ x)) ∧ ys = xs.map (valueOr f y₀) := by
  induction xs generalizing ys with
  | nil =>
    cases h
    exact ⟨fun _ hx => absurd hx List.not_mem_nil, rfl⟩
  | cons x xs ih =>
    rw [List.mapM_cons] at h
    obtain ⟨y, hy, h⟩ := bind_eq_ok.mp h
    obtain ⟨zs, hzs, h⟩ := bind_eq_ok.mp h
    cases h
    obtain ⟨hall, rfl⟩ := ih hzs
    have hvalue : valueOr f y₀ x = y := by
      rw [valueOr, hy]
      rfl
    refine ⟨?_, by rw [List.map_cons, hvalue]⟩
    intro z hz
    rcases List.mem_cons.mp hz with rfl | hz
    · rw [hvalue, hy]
    · exact hall z hz

/-! ## The same batch -/

/-- The leaves come in the same order with the same indices and proofs, under the same
    root. -/
structure SameBatch (b : MerkleBatch) (p : PySdk.MerkleBatch) : Prop where
  order : b.leaves.map (fun leaf => codePoints leaf.receipt.receiptId.val) =
    p.leaves.map (·.receipt.receiptId)
  indices : b.leaves.map (·.leafIndex) = p.leaves.map (·.leafIndex)
  proofs : b.leaves.map (fun leaf => leaf.proof.map (Prod.map id PySdk.HashText.ofJs)) =
    p.leaves.map (·.proof)
  root : PySdk.HashText.ofJs b.merkleRoot = p.merkleRoot

section Batch

variable {R : Runtime} {R' : PySdk.Runtime} {w : List Json} {g : Json → BatchReceipt}
  {h : Json → PySdk.BatchReceipt} {b : MerkleBatch} {p : PySdk.MerkleBatch}

/-- What `batchOf` checks, and the fields of its result. -/
theorem batchOf_fields {ordered : List BatchReceipt} (hb : batchOf R ordered = .ok b) :
    (ordered.map (·.receiptId)).Nodup ∧ ∃ root rest,
      (treeOf R.hash ordered).1 = root :: rest ∧ b.merkleRoot = root.hash ∧
      b.leaves = ordered.mapIdx fun index receipt => ⟨receipt, index,
        hashMerkleLeaf R.hash receipt.commitmentHash, (treeOf R.hash ordered).2.getD index []⟩ := by
  simp only [batchOf, bind_eq_ok, Sdk.assert_eq_ok, exists_const, decide_eq_true_eq] at hb
  obtain ⟨hids, -, hb⟩ := hb
  rw [← List.length_map (fun receipt : BatchReceipt => receipt.receiptId), dedup_length_eq_iff] at hids
  refine ⟨hids, ?_⟩
  split at hb
  · cases hb
  · rename_i root rest proofs htree
    cases hb
    exact ⟨root, rest, by rw [htree], rfl, by rw [htree]⟩

/-- The same for `build_merkle_batch`. -/
theorem pyBatchOf_fields {ordered : List PySdk.BatchReceipt} (hp : PySdk.batchOf R' ordered = .ok p) :
    ∃ root rest, (buildTree (PySdk.hashMerkleNode R'.hash)
        (ordered.map fun receipt => PySdk.hashMerkleLeaf R'.hash receipt.commitmentHash)).1 =
        root :: rest ∧ p.merkleRoot = root.hash ∧
      p.leaves = ordered.mapIdx fun index receipt => ⟨receipt, index,
        PySdk.hashMerkleLeaf R'.hash receipt.commitmentHash,
        (buildTree (PySdk.hashMerkleNode R'.hash) (ordered.map fun receipt =>
          PySdk.hashMerkleLeaf R'.hash receipt.commitmentHash)).2.getD index []⟩ := by
  unfold PySdk.batchOf at hp
  obtain ⟨-, -, hp⟩ := bind_eq_ok.mp hp
  obtain ⟨-, -, hp⟩ := bind_eq_ok.mp hp
  dsimp only at hp
  split at hp
  · cases hp
  · rename_i root rest proofs htree
    cases hp
    exact ⟨root, rest, by rw [htree], rfl, by rw [htree]⟩

theorem batchOf_receipts {ordered : List BatchReceipt} (hb : batchOf R ordered = .ok b) :
    b.leaves.map (·.receipt) = ordered := by
  obtain ⟨-, -, -, -, -, hleaves⟩ := batchOf_fields hb
  rw [hleaves]
  apply List.ext_getElem?
  intro i
  simp [Function.comp_def]

theorem pyBatchOf_receipts {ordered : List PySdk.BatchReceipt}
    (hp : PySdk.batchOf R' ordered = .ok p) : p.leaves.map (·.receipt) = ordered := by
  obtain ⟨-, -, -, -, hleaves⟩ := pyBatchOf_fields hp
  rw [hleaves]
  apply List.ext_getElem?
  intro i
  simp [Function.comp_def]

/-- Related receipts in one order give the same tree. -/
theorem pyTree_eq (hhash : R'.hash = R.hash) (hrel : ∀ x ∈ w, Related (g x) (h x)) :
    buildTree (PySdk.hashMerkleNode R'.hash)
        ((w.map h).map fun receipt => PySdk.hashMerkleLeaf R'.hash receipt.commitmentHash) =
      ((treeOf R.hash (w.map g)).1.map (TreeNode.map PySdk.HashText.ofJs),
        mapProofs PySdk.HashText.ofJs (treeOf R.hash (w.map g)).2) := by
  have hleaves : (w.map h).map (fun receipt =>
      PySdk.hashMerkleLeaf R'.hash receipt.commitmentHash) =
      ((w.map g).map fun receipt => hashMerkleLeaf R.hash receipt.commitmentHash).map
        PySdk.HashText.ofJs := by
    rw [List.map_map, List.map_map, List.map_map]
    apply List.map_congr_left
    intro x hx
    show PySdk.hashMerkleLeaf R'.hash (h x).commitmentHash =
      PySdk.HashText.ofJs (hashMerkleLeaf R.hash (g x).commitmentHash)
    rw [ofJs_hashMerkleLeaf, (hrel x hx).commitmentHash, hhash]
  rw [hleaves, hhash, treeOf]
  exact buildTree_map PySdk.HashText.ofJs (ofJs_hashMerkleNode R.hash) _

/-- Related receipts in one order give the same batch. -/
theorem sameBatch_of_order (hhash : R'.hash = R.hash) (hrel : ∀ x ∈ w, Related (g x) (h x))
    (hb : batchOf R (w.map g) = .ok b) (hp : PySdk.batchOf R' (w.map h) = .ok p) :
    SameBatch b p := by
  obtain ⟨-, root, rest, htree, hroot, hleaves⟩ := batchOf_fields hb
  obtain ⟨root', rest', htree', hroot', hleaves'⟩ := pyBatchOf_fields hp
  rw [pyTree_eq hhash hrel] at htree' hleaves'
  rw [htree, List.map_cons] at htree'
  refine ⟨?_, ?_, ?_, ?_⟩
  · rw [hleaves, hleaves']
    apply List.ext_getElem?
    intro i
    simp only [List.getElem?_map, List.getElem?_mapIdx, Option.map_map]
    cases hx : w[i]? with
    | none => rfl
    | some x =>
      show some (codePoints (g x).receiptId.val) = some (h x).receiptId
      rw [(hrel x (List.mem_of_getElem? hx)).receiptId]
  · rw [hleaves, hleaves']
    apply List.ext_getElem?
    intro i
    simp only [List.getElem?_map, List.getElem?_mapIdx, Option.map_map]
    cases w[i]? <;> rfl
  · rw [hleaves, hleaves']
    apply List.ext_getElem?
    intro i
    simp only [List.getElem?_map, List.getElem?_mapIdx, Option.map_map]
    cases w[i]? with
    | none => rfl
    | some x =>
      simp only [Option.map_some, Function.comp_apply, Option.some.injEq, mapProofs,
        List.getD_eq_getElem?_getD, List.getElem?_map]
      cases (treeOf R.hash (w.map g)).2[i]? <;> rfl
  · rw [hroot, hroot', ← (List.cons.inj htree').1]
    rfl

end Batch

/-! ## The two orders -/

section Sorting

variable {α β : Type}

theorem eq_of_map_eq {f : α → β} {xs ys : List α}
    (hinj : ∀ x ∈ xs, ∀ y ∈ ys, f x = f y → x = y) (h : xs.map f = ys.map f) : xs = ys := by
  induction xs generalizing ys with
  | nil => simpa using h.symm
  | cons x xs ih =>
    cases ys with
    | nil => simp at h
    | cons y ys =>
      rw [List.map_cons, List.map_cons, List.cons.injEq] at h
      rw [hinj x (by simp) y (by simp) h.1,
        ih (fun a ha b hb => hinj a (by simp [ha]) b (by simp [hb])) h.2]

end Sorting

/-- The order JavaScript gives two receipts of the input, if it accepts both. -/
def receiptOrder (R : Runtime) (x y : Json) : Option Ordering :=
  match normalizeReceipt R x.toJs, normalizeReceipt R y.toJs with
  | .ok a, .ok b => some (compareReceipts R a b)
  | _, _ => none

/-- The order Python gives two receipts of the input, if it accepts both. -/
def pyReceiptOrder (R : PySdk.Runtime) (x y : Json) : Option Ordering :=
  match PySdk.normaliseReceipt R x.toPy, PySdk.normaliseReceipt R y.toPy with
  | .ok p, .ok q => some (PySdk.compareReceipts p q)
  | _, _ => none

/-- The receipts of an input. -/
def inputReceipts : Json → List Json
  | .array xs => xs
  | _ => []

section Agree

variable {R : Runtime} {R' : PySdk.Runtime}

instance : Std.TransCmp PySdk.compareReceipts :=
  inferInstanceAs (Std.TransCmp (compareLex (compareOn PySdk.BatchReceipt.occurredAt)
    (compareOn PySdk.BatchReceipt.receiptId)))

theorem transCmp_compareReceipts (hroot : R.localeCompare = rootCompare) :
    Std.TransCmp (compareReceipts R) := by
  have h : compareReceipts R = compareLex
      (fun a b => rootCompare a.occurredAt b.occurredAt)
      (fun a b => rootCompare a.receiptId.val b.receiptId.val) := by
    funext a b
    rw [compareReceipts, hroot]
    rfl
  have h₁ := transCmp_on rootCompare BatchReceipt.occurredAt
  have h₂ := transCmp_on rootCompare fun a : BatchReceipt => a.receiptId.val
  rw [h]
  infer_instance

theorem receiptId_eq_of_compare (hroot : R.localeCompare = rootCompare) {a b : BatchReceipt}
    (h : compareReceipts R a b = .eq) : a.receiptId = b.receiptId := by
  rw [compareReceipts, hroot, Ordering.then_eq_eq] at h
  exact Subtype.ext ((rootCompare_eq_iff _ _).mp h.2)

theorem pyReceiptId_eq_of_compare {p q : PySdk.BatchReceipt}
    (h : PySdk.compareReceipts p q = .eq) : p.receiptId = q.receiptId := by
  rw [PySdk.compareReceipts, Ordering.then_eq_eq] at h
  exact Std.LawfulEqOrd.eq_of_compare h.2

/-- An accepted JSON array of receipts as both SDKs hold it: `g x` and `h x` are the
    normalized receipts of `x`. -/
theorem buildMerkleBatch_receipts {j : JsonValue} {b : MerkleBatch} {p : PySdk.MerkleBatch}
    (hb : buildMerkleBatch R j.json.toJs = .ok b)
    (hp : PySdk.buildMerkleBatch R' j.json.toPy = .ok p) :
    ∃ xs g h, j.json = .array xs ∧
      (∀ x ∈ xs, normalizeReceipt R x.toJs = .ok (g x)) ∧
      (∀ x ∈ xs, PySdk.normaliseReceipt R' x.toPy = .ok (h x)) ∧
      batchOf R (sortReceipts R (xs.map g)) = .ok b ∧
      PySdk.batchOf R' (PySdk.sortReceipts (xs.map h)) = .ok p := by
  obtain ⟨rs, normalized, hrs, hmap, -, -, hne, -, hbatch⟩ := buildMerkleBatch_eq_ok hb
  obtain ⟨a₀, ha₀⟩ := List.exists_mem_of_ne_nil _ hne
  cases hj : j.json with
  | array xs =>
    rw [hj] at hrs hp
    have hrs' : rs = xs.map Json.toJs := by
      rw [← elementsToJs_eq]
      exact (JsValue.array.inj hrs).symm
    rw [hrs', List.mapM_map] at hmap
    obtain ⟨hg, rfl⟩ := mapM_eq_ok_valueOr hmap a₀
    simp only [Json.toPy, PySdk.buildMerkleBatch, bind_eq_ok] at hp
    obtain ⟨-, -, -, -, normalised, hmap', hbatch'⟩ := hp
    rw [elementsToPy_eq, List.mapM_map] at hmap'
    have hne' : normalised ≠ [] := by
      intro hnil
      have hlen := (mapM_eq_ok_iff.mp hmap').length_eq.symm
      have hxs : xs ≠ [] := by
        intro hxs
        subst hxs
        exact absurd ha₀ (by simp [sortReceipts])
      rw [hnil] at hlen
      exact hxs (List.length_eq_zero_iff.mp hlen.symm)
    obtain ⟨p₀, -⟩ := List.exists_mem_of_ne_nil _ hne'
    obtain ⟨hh, rfl⟩ := mapM_eq_ok_valueOr hmap' p₀
    exact ⟨xs, _, _, rfl, hg, hh, hbatch, hbatch'⟩
  | _ =>
    rw [hj] at hrs
    cases hrs

variable {j : JsonValue} {b : MerkleBatch} {p : PySdk.MerkleBatch} {xs : List Json}
  {g : Json → BatchReceipt} {h : Json → PySdk.BatchReceipt}

theorem sortReceipts_map (g : Json → BatchReceipt) (xs : List Json) :
    sortReceipts R (xs.map g) =
      (xs.insertionSort (NotAfter fun x y => compareReceipts R (g x) (g y))).map g :=
  (List.map_insertionSort _ _ g xs fun _ _ _ _ => Iff.rfl).symm

theorem pySortReceipts_map (h : Json → PySdk.BatchReceipt) (xs : List Json) :
    PySdk.sortReceipts (xs.map h) =
      (xs.insertionSort (NotAfter fun x y => PySdk.compareReceipts (h x) (h y))).map h :=
  (List.map_insertionSort _ _ h xs fun _ _ _ _ => Iff.rfl).symm

/-- The identifiers of an accepted batch tell its receipts apart. -/
theorem receiptId_injOn (hb : batchOf R (sortReceipts R (xs.map g)) = .ok b) :
    ∀ x ∈ xs, ∀ y ∈ xs, (g x).receiptId = (g y).receiptId → x = y := by
  have hnodup := (batchOf_fields hb).1
  have hperm := (sortReceipts_perm (R := R) (xs.map g)).map (·.receiptId)
  rw [hperm.nodup_iff, List.map_map] at hnodup
  exact fun x hx y hy heq => List.inj_on_of_nodup_map hnodup hx hy heq

/-- The batches are the same exactly when the sorts are. -/
theorem sameBatch_iff_sorted (hhash : R'.hash = R.hash) (hrel : ∀ x ∈ xs, Related (g x) (h x))
    (hb : batchOf R (sortReceipts R (xs.map g)) = .ok b)
    (hp : PySdk.batchOf R' (PySdk.sortReceipts (xs.map h)) = .ok p) :
    SameBatch b p ↔
      xs.insertionSort (NotAfter fun x y => compareReceipts R (g x) (g y)) =
        xs.insertionSort (NotAfter fun x y => PySdk.compareReceipts (h x) (h y)) := by
  have hinj := receiptId_injOn hb
  rw [sortReceipts_map] at hb
  rw [pySortReceipts_map] at hp
  constructor
  · intro hsame
    have horder : (b.leaves.map (·.receipt)).map (fun a => codePoints a.receiptId.val) =
        (p.leaves.map (·.receipt)).map (·.receiptId) := by
      rw [List.map_map, List.map_map]
      exact hsame.order
    rw [batchOf_receipts hb, pyBatchOf_receipts hp, List.map_map, List.map_map] at horder
    have hids : (xs.insertionSort (NotAfter fun x y => compareReceipts R (g x) (g y))).map
        ((fun a => codePoints a.receiptId.val) ∘ g) =
        (xs.insertionSort (NotAfter fun x y => PySdk.compareReceipts (h x) (h y))).map
        ((fun a => codePoints a.receiptId.val) ∘ g) := by
      rw [horder]
      apply List.map_congr_left
      intro x hx
      exact (hrel x ((List.mem_insertionSort _).mp hx)).receiptId
    refine eq_of_map_eq ?_ hids
    intro x hx y hy heq
    exact hinj x ((List.mem_insertionSort _).mp hx) y ((List.mem_insertionSort _).mp hy)
      (Subtype.ext (codePoints_injective heq))
  · intro heq
    rw [← heq] at hp
    refine sameBatch_of_order hhash ?_ hb hp
    exact fun x hx => hrel x ((List.mem_insertionSort _).mp hx)

/-- The comparison of two receipts of the input in terms of the normalized ones. -/
theorem sameBatch_iff_orders (hhash : R'.hash = R.hash) (hroot : R.localeCompare = rootCompare)
    (hj : j.json = .array xs) (hg : ∀ x ∈ xs, normalizeReceipt R x.toJs = .ok (g x))
    (hh : ∀ x ∈ xs, PySdk.normaliseReceipt R' x.toPy = .ok (h x))
    (hrel : ∀ x ∈ xs, Related (g x) (h x))
    (hb : batchOf R (sortReceipts R (xs.map g)) = .ok b)
    (hp : PySdk.batchOf R' (PySdk.sortReceipts (xs.map h)) = .ok p) :
    SameBatch b p ↔ ∀ x ∈ inputReceipts j.json, ∀ y ∈ inputReceipts j.json,
      receiptOrder R x y = pyReceiptOrder R' x y := by
  have hinj := receiptId_injOn hb
  have := transCmp_compareReceipts hroot
  have := transCmp_on (compareReceipts R) g
  have := transCmp_on PySdk.compareReceipts h
  have hties : ∀ x ∈ xs, ∀ y ∈ xs, compareReceipts R (g x) (g y) = .eq → x = y :=
    fun x hx y hy heq => hinj x hx y hy (receiptId_eq_of_compare hroot heq)
  have hties' : ∀ x ∈ xs, ∀ y ∈ xs, PySdk.compareReceipts (h x) (h y) = .eq → x = y := by
    intro x hx y hy heq
    have hid := pyReceiptId_eq_of_compare heq
    rw [(hrel x hx).receiptId, (hrel y hy).receiptId] at hid
    exact hinj x hx y hy (Subtype.ext (codePoints_injective hid))
  rw [sameBatch_iff_sorted hhash hrel hb hp, insertionSort_eq_iff hties hties', hj]
  refine forall₂_congr fun x hx => forall₂_congr fun y hy => ?_
  rw [receiptOrder, pyReceiptOrder, hg x hx, hg y hy, hh x hx, hh y hy]
  exact (Option.some_inj).symm

end Agree

/-- On lists of receipts that both SDKs accept, the batches are the same exactly when
    root collation of JavaScript's timestamps and identifiers orders every two receipts
    as the code points of Python's do. -/
theorem buildMerkleBatch_agree_iff (S : Hash) (D : DateParser)
    (fromisoformat : PyString → Option (ℤ × Bool)) (strftimeYear : ℤ → PyString) (j : JsonValue)
    (b : MerkleBatch) (p : PySdk.MerkleBatch)
    (hb : buildMerkleBatch ⟨S, D, rootCompare⟩ j.json.toJs = .ok b)
    (hp : PySdk.buildMerkleBatch ⟨S, fromisoformat, strftimeYear⟩ j.json.toPy = .ok p) :
    SameBatch b p ↔
      ∀ x ∈ inputReceipts j.json, ∀ y ∈ inputReceipts j.json,
        receiptOrder ⟨S, D, rootCompare⟩ x y =
          pyReceiptOrder ⟨S, fromisoformat, strftimeYear⟩ x y := by
  obtain ⟨xs, g, h, hj, hg, hh, hbatch, hbatch'⟩ := buildMerkleBatch_receipts hb hp
  have hunique : ∀ x ∈ xs, x.UniqueNames := by
    have := j.unique
    rw [hj] at this
    exact Json.uniqueNamesElements_iff.mp this
  have hrel : ∀ x ∈ xs, Related (g x) (h x) := fun x hx =>
    normalizeReceipt_related (hunique x hx) (hg x hx) (hh x hx)
  exact sameBatch_iff_orders rfl rfl hj hg hh hrel hbatch hbatch'

/-- A receipt as JSON. -/
def receiptJson (receiptId commitmentHash occurredAt : JsString) : Json :=
  .object [(js "receipt_id", .string receiptId), (js "commitment_hash", .string commitmentHash),
    (js "occurred_at", .string occurredAt)]

/-- Two receipts of one instant. -/
def twoReceipts (first second : JsString) : JsonValue where
  json := .array [receiptJson first (List.replicate 64 0x61) (js "2026-01-02T03:04:05.000Z"),
    receiptJson second (List.replicate 64 0x62) (js "2026-01-02T03:04:05.000Z")]
  unique := by
    have h : [js "receipt_id", js "commitment_hash", js "occurred_at"].Nodup := by decide +kernel
    exact ⟨⟨h, trivial, trivial, trivial, trivial⟩, ⟨h, trivial, trivial, trivial, trivial⟩, trivial⟩

/-- SHA-256, the reader of ISO texts with offset zero, and padded years. -/
def utcRuntime : PySdk.Runtime where
  hash := sha256
  fromisoformat s :=
    if s.drop 23 = py "+00:00" then
      (Date.isoParser.parse ((s.take 23).flatMap utf16 ++ [0x5A])).map fun t => (1000 * t, true)
    else none
  strftimeYear year := codePoints (Date.padded 4 year.toNat)

theorem buildMerkleBatch_agree_lowercase :
    ∃ b p, buildMerkleBatch rootRuntime
        (twoReceipts (js "receipt-00000002") (js "receipt-00000001")).json.toJs = .ok b ∧
      PySdk.buildMerkleBatch utcRuntime
        (twoReceipts (js "receipt-00000002") (js "receipt-00000001")).json.toPy = .ok p ∧
      SameBatch b p := by
  obtain ⟨b, hb⟩ := isOk_iff.mp (show (buildMerkleBatch rootRuntime
    (twoReceipts (js "receipt-00000002") (js "receipt-00000001")).json.toJs).isOk = true by
    decide +kernel)
  obtain ⟨p, hp⟩ := isOk_iff.mp (show (PySdk.buildMerkleBatch utcRuntime
    (twoReceipts (js "receipt-00000002") (js "receipt-00000001")).json.toPy).isOk = true by
    decide +kernel)
  refine ⟨b, p, hb, hp, (buildMerkleBatch_agree_iff _ _ _ _ _ b p hb hp).mpr ?_⟩
  show ∀ x ∈ [_, _], ∀ y ∈ [_, _], receiptOrder rootRuntime x y = pyReceiptOrder utcRuntime x y
  simp only [List.forall_mem_cons, List.not_mem_nil, false_imp_iff, implies_true, and_true]
  decide +kernel

/-- Collation puts `a…` before `B…`, code points put it after. -/
theorem buildMerkleBatch_mixedCase_disagree :
    ∃ b p, buildMerkleBatch rootRuntime
        (twoReceipts (js "Baaaaaaaaaaaaaaa") (js "aaaaaaaaaaaaaaaa")).json.toJs = .ok b ∧
      PySdk.buildMerkleBatch utcRuntime
        (twoReceipts (js "Baaaaaaaaaaaaaaa") (js "aaaaaaaaaaaaaaaa")).json.toPy = .ok p ∧
      ¬ SameBatch b p := by
  obtain ⟨b, hb⟩ := isOk_iff.mp (show (buildMerkleBatch rootRuntime
    (twoReceipts (js "Baaaaaaaaaaaaaaa") (js "aaaaaaaaaaaaaaaa")).json.toJs).isOk = true by
    decide +kernel)
  obtain ⟨p, hp⟩ := isOk_iff.mp (show (PySdk.buildMerkleBatch utcRuntime
    (twoReceipts (js "Baaaaaaaaaaaaaaa") (js "aaaaaaaaaaaaaaaa")).json.toPy).isOk = true by
    decide +kernel)
  refine ⟨b, p, hb, hp, fun hsame => ?_⟩
  have hjs : (buildMerkleBatch rootRuntime
      (twoReceipts (js "Baaaaaaaaaaaaaaa") (js "aaaaaaaaaaaaaaaa")).json.toJs).toOption.map
        (fun b => b.leaves.map fun leaf => codePoints leaf.receipt.receiptId.val) =
      some [py "aaaaaaaaaaaaaaaa", py "Baaaaaaaaaaaaaaa"] := by decide +kernel
  have hpy : (PySdk.buildMerkleBatch utcRuntime
      (twoReceipts (js "Baaaaaaaaaaaaaaa") (js "aaaaaaaaaaaaaaaa")).json.toPy).toOption.map
        (fun p => p.leaves.map (·.receipt.receiptId)) =
      some [py "Baaaaaaaaaaaaaaa", py "aaaaaaaaaaaaaaaa"] := by decide +kernel
  rw [hb] at hjs
  rw [hp] at hpy
  have horder := (Option.some_inj.mp hjs).symm.trans (hsame.order.trans (Option.some_inj.mp hpy))
  exact absurd horder (by decide +kernel)

end OpenRisk.Agreement
