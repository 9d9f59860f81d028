import OpenRisk.Filecoin.CanonicalJson
import OpenRisk.Sdk.PlainText

/-!
# Documents of a bundle

The values that a bundle stores as canonical text: strings without escapes, numbers that are
safe integers and names that are allowed. Such a document is read back as the same data, with
its properties in another order.

Results:
* `canonicalize_document`, `assertNoForbiddenKeys_document`: a document has a canonical text
  and no forbidden name.
* `parseCanonicalJson_document`: the bytes of a document are read back.
* `sameData_reread`: what is read back is the document.
-/

namespace OpenRisk.Filecoin

open Text Sdk

/-- Equal up to the order of the properties of objects. -/
inductive SameData : JsValue → JsValue → Prop
  | null : SameData .null .null
  | bool (b : Bool) : SameData (.bool b) (.bool b)
  | number (x : JsNumber) : SameData (.number x) (.number x)
  | string (s : JsString) : SameData (.string s) (.string s)
  | array (xs ys : List JsValue) (h : List.Forall₂ SameData xs ys) :
    SameData (.array xs) (.array ys)
  | object (es fs gs : List (JsString × JsValue)) (hperm : es.Perm fs)
    (hnames : fs.map Prod.fst = gs.map Prod.fst)
    (h : List.Forall₂ SameData (fs.map Prod.snd) (gs.map Prod.snd)) :
    SameData (.object es) (.object gs)

/-- The name of a property is written without escapes and is not forbidden. -/
def AllowedName (N : Normalization) (key : JsString) : Prop :=
  (∀ u ∈ key, isPlainUnit u = true) ∧ normalizedKey N key ∉ FORBIDDEN_KEYS

mutual

/-- A value of plain strings, integers and allowed names. -/
def Document (N : Normalization) : JsValue → Prop
  | .number x => x = .ofInt x.toInt ∧ x.isSafeInteger = true
  | .string s => ∀ u ∈ s, isPlainUnit u = true
  | .array xs => DocumentElements N xs
  | .object es => (es.map Prod.fst).Nodup ∧ DocumentEntries N es
  | _ => True

def DocumentElements (N : Normalization) : List JsValue → Prop
  | [] => True
  | x :: xs => Document N x ∧ DocumentElements N xs

def DocumentEntries (N : Normalization) : List (JsString × JsValue) → Prop
  | [] => True
  | (key, x) :: es => AllowedName N key ∧ Document N x ∧ DocumentEntries N es

end

section Document

variable {N : Normalization}

theorem documentElements_iff {xs : List JsValue} :
    DocumentElements N xs ↔ ∀ x ∈ xs, Document N x := by
  induction xs with
  | nil => simp [DocumentElements]
  | cons x xs ih => simp [DocumentElements, ih]

theorem documentEntries_iff {es : List (JsString × JsValue)} :
    DocumentEntries N es ↔ ∀ e ∈ es, AllowedName N e.1 ∧ Document N e.2 := by
  induction es with
  | nil => simp [DocumentEntries]
  | cons e es ih => simp [DocumentEntries, ih, and_assoc]

theorem Document.uniqueKeys {v : JsValue} (h : Document N v) : v.UniqueKeys := by
  induction v using JsValue.induct with
  | null | bool _ | number _ | string _ => trivial
  | array xs ih =>
    rw [Document, documentElements_iff] at h
    rw [JsValue.UniqueKeys, JsValue.uniqueElements_iff]
    exact fun x hx => ih x hx (h x hx)
  | object es ih =>
    rw [Document, documentEntries_iff] at h
    rw [JsValue.UniqueKeys, JsValue.uniqueEntries_iff]
    exact ⟨h.1, fun e he => ih e he (h.2 e he).2⟩

theorem Document.safeNumbers {v : JsValue} (h : Document N v) : SafeNumbers v := by
  induction v using JsValue.induct with
  | null | bool _ | string _ => trivial
  | number x => exact h.2
  | array xs ih =>
    rw [Document, documentElements_iff] at h
    rw [SafeNumbers, safeElements_iff]
    exact fun x hx => ih x hx (h x hx)
  | object es ih =>
    rw [Document, documentEntries_iff] at h
    rw [SafeNumbers, safeEntries_iff]
    exact fun e he => ih e he (h.2 e he).2

/-! ## The canonical text -/

theorem canonicalize_document {v : JsValue} (h : Document N v) :
    canonicalizeEvidenceDocument N v = .ok (canonicalizeValue N v) :=
  canonicalize_of_safe v h.safeNumbers

theorem Document.noForbiddenKeys {v : JsValue} (h : Document N v) : NoForbiddenKeys N v := by
  induction v using JsValue.induct with
  | null | bool _ | number _ | string _ => trivial
  | array xs ih =>
    rw [Document, documentElements_iff] at h
    rw [NoForbiddenKeys, noForbiddenElements_iff]
    exact fun x hx => ih x hx (h x hx)
  | object es ih =>
    rw [Document, documentEntries_iff] at h
    rw [NoForbiddenKeys, noForbiddenMembers_iff]
    exact fun e he => ⟨(h.2 e he).1.2, ih e he (h.2 e he).2⟩

theorem assertNoForbiddenKeys_document (path : JsString) (v : JsValue) (h : Document N v) :
    assertNoForbiddenKeys N path v = .ok () :=
  (assertNoForbiddenKeys_eq_ok path v).mpr h.noForbiddenKeys

/-! ## Reading a document back -/

theorem reread_string {s : JsString} (h : ∀ u ∈ s, isPlainUnit u = true) :
    reread N (.string s) = .string s := by
  rw [reread, canonicalJson, Json.toJs, normalizeNfc_ascii (ascii_of_plain h)]

theorem reread_number {x : JsNumber} (hx : x = .ofInt x.toInt) (hsafe : x.isSafeInteger = true) :
    reread N (.number x) = .number x := by
  rw [reread, canonicalJson, Json.toJs, numberOfToken_intToken hsafe, ← hx]

theorem reread_natural {n : ℕ} (h : n ≤ JsNumber.maxSafeInteger) :
    reread N (.number (.ofInt n)) = .number (.ofInt n) := by
  apply reread_number
  · rw [JsNumber.toInt_ofInt]
  · rw [JsNumber.isSafeInteger_ofInt, Int.natAbs_natCast]
    exact h

/-- What is read back is the same data. -/
theorem sameData_reread {v : JsValue} (h : Document N v) : SameData (reread N v) v := by
  induction v using JsValue.induct with
  | null => exact .null
  | bool b => exact .bool b
  | number x =>
    rw [reread_number h.1 h.2]
    exact .number x
  | string s =>
    rw [reread_string h]
    exact .string s
  | array xs ih =>
    rw [Document, documentElements_iff] at h
    rw [reread_array]
    apply SameData.array
    rw [List.forall₂_map_left_iff, List.forall₂_same]
    exact fun x hx => ih x hx (h x hx)
  | object es ih =>
    rw [Document, documentEntries_iff] at h
    rw [reread_object]
    refine .object _ _ _ (reread_entries_perm h.1) ?_ ?_
    · rw [List.map_map]
      rfl
    · rw [List.map_map, List.forall₂_map_left_iff, List.forall₂_map_right_iff, List.forall₂_same]
      exact fun e he => ih e he (h.2 e he).2

/-- The property of a document that is read back. -/
theorem get_reread {es : List (JsString × JsValue)} {key : JsString} {x : JsValue}
    (h : Document N (.object es)) (hx : (key, x) ∈ es) :
    (reread N (.object es)).get key = some (reread N x) := by
  rw [Document] at h
  have hperm := reread_entries_perm (N := N) h.1
  rw [reread_object]
  apply lookup_of_mem
  · rw [(hperm.map Prod.fst).nodup_iff, List.map_map]
    exact h.1
  · rw [hperm.mem_iff]
    exact List.mem_map.mpr ⟨(key, x), hx, rfl⟩

/-- The names of a document that is read back. -/
theorem hasExactKeys_reread {es : List (JsString × JsValue)} {names : List JsString}
    (h : Document N (.object es)) (hnames : (es.map Prod.fst).Perm names) :
    hasExactKeys (reread N (.object es)) names = true := by
  rw [Document] at h
  have hperm := (reread_entries_perm (N := N) h.1).map Prod.fst
  rw [List.map_map] at hperm
  rw [reread_object, hasExactKeys, objectKeys, sortNames_eq_iff.mpr (hperm.trans hnames)]
  exact decide_eq_true rfl

/-- The bytes of a document are read back. -/
theorem parseCanonicalJson_document {v : JsValue} (h : Document N v) (label : JsString) :
    parseCanonicalJson N (utf8Encode (canonicalizeValue N v)) label = .ok (reread N v) :=
  parseCanonicalJson_canonicalizeValue h.uniqueKeys h.safeNumbers h.noForbiddenKeys label

end Document

end OpenRisk.Filecoin
