import OpenRisk.Agreement.Validate
import OpenRisk.Sdk.CanonicalSize

/-!
# The canonical texts of the two SDKs

`canonicalizeValue` (JavaScript) and `_canonicalize_value` (Python) on one JSON
value. JavaScript escapes a lone surrogate; Python writes it as it is and
`str.encode` then raises.

Results:
* `canonicalizeValue_toPy`: without lone surrogates the two texts are the same.
* `scalar_canonicalizeValue_iff`: the Python text has a UTF-8 encoding exactly when no
  string has a lone surrogate.
* `byteLength_canonicalizeValue`: the size of the text, as a measure of the value.
-/

namespace OpenRisk.Agreement

open Text Sdk Json

/-! ## String literals -/

/-- Both languages escape the same code points in the same way, surrogates apart. -/
theorem dumpsEscape_of_scalar {c : CodePoint} (h : isSurrogate c = false) :
    PySdk.dumpsEscape c = codePoints (Json.escape c) := by
  have hplain : ¬isSurrogate c = true := Bool.eq_false_iff.mp h
  fun_cases PySdk.dumpsEscape c
  case case8 h5C h22 h08 h0C h0A h0D h09 h20 =>
    rw [Json.escape, if_neg h08, if_neg h09, if_neg h0A, if_neg h0C, if_neg h0D, if_neg h22,
      if_neg h5C, if_pos (.inl h20)]
  case case9 h5C h22 h08 h0C h0A h0D h09 h20 =>
    rw [Json.escape, if_neg h08, if_neg h09, if_neg h0A, if_neg h0C, if_neg h0D, if_neg h22,
      if_neg h5C, if_neg (not_or.mpr ⟨h20, hplain⟩), codePoints_utf16]
  -- the seven two-character escapes
  all_goals
    rename_i hc
    rw [Json.escape, hc]
    rfl

theorem dumps_codePoints {s : JsString} (h : Scalar (codePoints s)) :
    PySdk.dumps (codePoints s) = codePoints (Json.quote s) := by
  rw [codePoints_quote, PySdk.dumps]
  congr 2
  exact List.flatMap_congr fun c hc => dumpsEscape_of_scalar (h c hc)

theorem codePoints_joinComma (ts : List JsString) :
    codePoints (joinComma ts) = PySdk.joinComma (ts.map codePoints) := by
  induction ts with
  | nil => rfl
  | cons t ts ih =>
    cases ts with
    | nil => rfl
    | cons u ts =>
      rw [joinComma, codePoints_append_cons_ascii (by decide), ih]
      simp only [List.map_cons, PySdk.joinComma]
      rfl

/-! ## The texts -/

theorem compare_map_unitPoint (k l : JsString) :
    compare (k.map unitPoint) (l.map unitPoint) = compare k l := by
  induction k generalizing l with
  | nil => cases l <;> rfl
  | cons u k ih =>
    cases l with
    | nil => rfl
    | cons v l =>
      have huv : compare (unitPoint u) (unitPoint v) = compare u v := by
        simp only [compare, compareOfLessAndEq, unitPoint_val, UInt16.lt_iff_toNat_lt,
          UInt16.toNat_inj]
      rw [List.map_cons, List.map_cons, List.compare_cons_cons, List.compare_cons_cons, huv, ih]

section Texts

variable {N : Normalization}

/-- The strings of `j` have no lone surrogates. -/
def Paired (s : JsString) : Prop := Scalar (codePoints s)

theorem scalar_nfc_iff (l : List CodePoint) : Scalar (N.nfc l) ↔ Scalar l := by
  have h : ∀ l : List CodePoint, Scalar l ↔ l.filter isSurrogate = [] := by
    intro l
    simp [Scalar, List.filter_eq_nil_iff]
  rw [h, h, N.nfc_surrogates]

theorem keyLE_codePoints {a b : JsString × JsString} (ha : ∀ u ∈ a.1, u.toNat < 0x80)
    (hb : ∀ u ∈ b.1, u.toNat < 0x80) :
    keyLE a b ↔ PySdk.keyLE (codePoints a.1, codePoints a.2) (codePoints b.1, codePoints b.2) := by
  rw [keyLE, PySdk.keyLE, codePoints_of_ascii ha, codePoints_of_ascii hb, compare_map_unitPoint]

theorem canonicalizeItems_py_eq (xs : List PyValue) :
    PySdk.canonicalizeItems N xs = xs.map (PySdk.canonicalizeValue N) := by
  induction xs with
  | nil => rfl
  | cons x xs ih => rw [PySdk.canonicalizeItems, ih]; rfl

theorem canonicalizeEntries_py_eq (es : List (PyString × PyValue)) :
    PySdk.canonicalizeEntries N es = es.map fun e => (e.1, PySdk.canonicalizeValue N e.2) := by
  induction es with
  | nil => rfl
  | cons e es ih => rw [PySdk.canonicalizeEntries, ih]; rfl

/-- The members of an object as the JavaScript text lists them. -/
theorem sorted_canonicalizeEntries_toJs {ms : List (JsString × Json)}
    (h : (ms.map Prod.fst).Nodup) :
    (canonicalizeEntries N (ownProperties (membersToJs ms))).insertionSort keyLE =
      (ms.map fun m => (m.1, canonicalizeValue N m.2.toJs)).insertionSort keyLE := by
  have hperm := ownProperties_membersToJs_perm h
  rw [canonicalizeEntries_eq]
  refine insertionSort_keyLE_eq ?_ ?_
  · refine (hperm.map _).trans ?_
    rw [membersToJs_eq, List.map_map]
    exact .refl _
  · rw [List.map_map, show Prod.fst ∘ (fun e : JsString × JsValue => (e.1, canonicalizeValue N e.2)) =
      Prod.fst from rfl, (hperm.map Prod.fst).nodup_iff, map_fst_membersToJs]
    exact h

/-- Without lone surrogates the two SDKs write the same text. -/
theorem canonicalizeValue_toPy {j : Json} (hj : j.UniqueNames)
    (hall : j.All Paired (fun t => t.isInteger = true ∧ t.integer ≤ JsNumber.maxSafeInteger)
      (SafeKey N)) :
    PySdk.canonicalizeValue N j.toPy = codePoints (canonicalizeValue N j.toJs) := by
  induction j using Json.induct with
  | null => rfl
  | bool b => cases b <;> rfl
  | number t =>
    rw [Json.All] at hall
    rw [Json.toPy, if_pos hall.1, Json.toJs, canonicalizeValue, PySdk.canonicalizeValue,
      PySdk.strInt, JsNumber.text, JsNumber.numberOfToken_safe hall.1 hall.2]
  | string s =>
    rw [Json.All] at hall
    have hscalar : Scalar (codePoints (N.normalizeNfc s)) := by
      rw [N.codePoints_normalizeNfc, scalar_nfc_iff]
      exact hall
    rw [Json.toPy, Json.toJs, canonicalizeValue, PySdk.canonicalizeValue,
      ← dumps_codePoints hscalar, N.codePoints_normalizeNfc]
  | array xs ih =>
    rw [Json.UniqueNames, Json.uniqueNamesElements_iff] at hj
    rw [Json.All, Json.allElements_iff] at hall
    have hitems : PySdk.canonicalizeItems N (elementsToPy xs) =
        (canonicalizeItems N (elementsToJs xs)).map codePoints := by
      rw [canonicalizeItems_py_eq, canonicalizeItems_eq, elementsToPy_eq, elementsToJs_eq,
        List.map_map, List.map_map, List.map_map]
      exact List.map_congr_left fun x hx => ih x hx (hj x hx) (hall x hx)
    rw [Json.toPy, Json.toJs, canonicalizeValue, PySdk.canonicalizeValue,
      codePoints_cons_ascii (by decide), codePoints_append_cons_ascii (by decide), hitems,
      codePoints_joinComma]
    rfl
  | object ms ih =>
    rw [Json.UniqueNames, Json.uniqueNamesMembers_iff] at hj
    rw [Json.All, Json.allMembers_iff] at hall
    have hascii : ∀ m ∈ ms, ∀ u ∈ m.1, u.toNat < 0x80 := fun m hm => payloadKey_ascii (hall m hm).1.1
    -- the Python items are the code points of the JavaScript entries
    have hentries : PySdk.canonicalizeEntries N (membersToPy ms) =
        (ms.map fun m => (m.1, canonicalizeValue N m.2.toJs)).map
          fun e => (codePoints e.1, codePoints e.2) := by
      rw [canonicalizeEntries_py_eq, membersToPy_eq, List.map_map, List.map_map]
      refine List.map_congr_left fun m hm => ?_
      rw [Function.comp_apply, Function.comp_apply, ih m hm (hj.2 m hm) (hall m hm).2]
    -- sorting by code points is sorting by code units, as names are ASCII
    have hsort := List.map_insertionSort keyLE PySdk.keyLE
      (fun e : JsString × JsString => (codePoints e.1, codePoints e.2))
      (ms.map fun m => (m.1, canonicalizeValue N m.2.toJs)) fun a ha b hb => by
        obtain ⟨m, hm, rfl⟩ := List.mem_map.mp ha
        obtain ⟨n, hn, rfl⟩ := List.mem_map.mp hb
        exact keyLE_codePoints (hascii m hm) (hascii n hn)
    rw [Json.toPy, dictOf_membersToPy hj.1, Json.toJs, canonicalizeValue, PySdk.canonicalizeValue,
      hentries, ← hsort, codePoints_cons_ascii (by decide), codePoints_append_cons_ascii (by decide),
      codePoints_joinComma, sorted_canonicalizeEntries_toJs hj.1, List.map_map, List.map_map]
    congr 3
    refine List.map_congr_left fun e he => ?_
    obtain ⟨m, hm, rfl⟩ := List.mem_map.mp ((List.mem_insertionSort keyLE).mp he)
    have hscalar : Scalar (codePoints m.1) := by
      rw [codePoints_of_ascii (hascii m hm)]
      exact scalar_map_unitPoint (hascii m hm)
    rw [Function.comp_apply, Function.comp_apply, codePoints_append_cons_ascii (by decide),
      dumps_codePoints hscalar]
    rfl

/-! ## Lone surrogates in the Python text -/

theorem scalar_py {s : String} (h : ∀ u ∈ js s, u.toNat < 0x80) : Scalar (py s) := by
  rw [py, codePoints_of_ascii h]
  exact scalar_map_unitPoint h

theorem scalar_joinComma {ts : List PyString} :
    Scalar (PySdk.joinComma ts) ↔ ∀ t ∈ ts, Scalar t := by
  induction ts with
  | nil => simp [PySdk.joinComma, Scalar]
  | cons t ts ih =>
    cases ts with
    | nil => simp [PySdk.joinComma]
    | cons u ts =>
      rw [PySdk.joinComma, scalar_append, scalar_cons, ih, List.forall_mem_cons (a := t),
        and_iff_right (isSurrogate_of_lt (by decide))]

/-- Escaping keeps the surrogates of a text. -/
theorem scalar_dumps {l : PyString} : Scalar (PySdk.dumps l) ↔ Scalar l := by
  have hchar : ∀ c : CodePoint, Scalar (PySdk.dumpsEscape c) ↔ isSurrogate c = false := by
    intro c
    cases hc : isSurrogate c with
    | false =>
      rw [dumpsEscape_of_scalar hc]
      simpa using scalar_codePoints_escape c
    | true =>
      simp only [isSurrogate, Bool.and_eq_true, decide_eq_true_eq] at hc
      unfold PySdk.dumpsEscape
      iterate 8 rw [if_neg (by omega)]
      simp [Scalar, isSurrogate, hc]
  rw [PySdk.dumps, scalar_wrap (by decide) (by decide)]
  constructor
  · intro h c hc
    exact (hchar c).mp fun d hd => h d (List.mem_flatMap.mpr ⟨c, hc, hd⟩)
  · intro h d hd
    obtain ⟨c, hc, hd⟩ := List.mem_flatMap.mp hd
    exact (hchar c).mpr (h c hc) d hd

/-- The Python text has a lone surrogate exactly where a string value has one. -/
theorem scalar_canonicalizeValue_iff {j : Json} (hj : j.UniqueNames) (hk : j.Names (SafeKey N)) :
    Scalar (PySdk.canonicalizeValue N j.toPy) ↔ j.Strings Paired := by
  unfold Json.Names at hk
  unfold Json.Strings
  induction j using Json.induct with
  | null =>
    simp only [Json.toPy, PySdk.canonicalizeValue, Json.All, iff_true]
    exact scalar_py (ascii_of_all (by decide +kernel))
  | bool b =>
    cases b
    all_goals
      simp only [Json.toPy, PySdk.canonicalizeValue, Json.All, iff_true]
      exact scalar_py (ascii_of_all (by decide +kernel))
  | number t =>
    simp only [Json.toPy, Json.All, iff_true]
    split_ifs
    · rw [PySdk.canonicalizeValue, PySdk.strInt, codePoints_of_ascii (decimalInt_ascii _)]
      exact scalar_map_unitPoint (decimalInt_ascii _)
    · simp [PySdk.canonicalizeValue, Scalar]
  | string s =>
    rw [Json.toPy, PySdk.canonicalizeValue, scalar_dumps, scalar_nfc_iff, Json.All]
    rfl
  | array xs ih =>
    rw [Json.UniqueNames, Json.uniqueNamesElements_iff] at hj
    rw [Json.All, Json.allElements_iff] at hk
    rw [Json.toPy, PySdk.canonicalizeValue, scalar_wrap (by decide) (by decide), scalar_joinComma,
      canonicalizeItems_py_eq, elementsToPy_eq, List.map_map, List.forall_mem_map, Json.All,
      Json.allElements_iff]
    exact forall₂_congr fun x hx => ih x hx (hj x hx) (hk x hx)
  | object ms ih =>
    rw [Json.UniqueNames, Json.uniqueNamesMembers_iff] at hj
    rw [Json.All, Json.allMembers_iff] at hk
    rw [Json.toPy, dictOf_membersToPy hj.1, PySdk.canonicalizeValue,
      scalar_wrap (by decide) (by decide), scalar_joinComma, List.forall_mem_map, Json.All,
      Json.allMembers_iff]
    simp only [List.mem_insertionSort]
    rw [canonicalizeEntries_py_eq, membersToPy_eq, List.map_map, List.forall_mem_map]
    refine forall₂_congr fun m hm => ?_
    have hascii := payloadKey_ascii (hk m hm).1.1
    have hname : Scalar (codePoints m.1) := by
      rw [codePoints_of_ascii hascii]
      exact scalar_map_unitPoint hascii
    rw [Function.comp_apply, scalar_append, scalar_cons, scalar_dumps, and_iff_right hname,
      and_iff_right (isSurrogate_of_lt (by decide)), ih m hm (hj.2 m hm) (hk m hm).2]
    simp

/-! ## The size of the JavaScript text -/

mutual

/-- The number of bytes of the canonical text of a JSON value. -/
def canonicalSize (N : Normalization) : Json → ℕ
  | .null => 4
  | .bool true => 4
  | .bool false => 5
  | .number t => (Json.decimalInt (JsNumber.numberOfToken t).toInt).length
  | .string s => ((N.nfc (codePoints s)).map escapedBytes).sum + 2
  | .array xs => elementsSize N xs + (xs.length - 1) + 2
  | .object ms => membersSize N ms + (ms.length - 1) + 2

def elementsSize (N : Normalization) : List Json → ℕ
  | [] => 0
  | x :: xs => canonicalSize N x + elementsSize N xs

/-- A name takes its length, two quotes and a colon. -/
def membersSize (N : Normalization) : List (JsString × Json) → ℕ
  | [] => 0
  | (k, x) :: ms => k.length + 3 + canonicalSize N x + membersSize N ms

end

theorem elementsSize_eq (xs : List Json) : elementsSize N xs = (xs.map (canonicalSize N)).sum := by
  induction xs with
  | nil => rfl
  | cons x xs ih => rw [elementsSize, ih]; rfl

theorem membersSize_eq (ms : List (JsString × Json)) :
    membersSize N ms = (ms.map fun m => m.1.length + 3 + canonicalSize N m.2).sum := by
  induction ms with
  | nil => rfl
  | cons m ms ih => rw [membersSize, ih]; rfl

/-- A name that passes the checks needs no escapes. -/
theorem byteLength_quote_name {key : JsString} (h : SafeKey N key) :
    byteLength (Json.quote key) = key.length + 2 := by
  apply byteLength_quote_plain
  intro u hu
  have hkey := h.1
  simp only [PAYLOAD_KEY_PATTERN, Bool.and_eq_true, List.all_eq_true] at hkey
  exact isPlainUnit_of_isKeyUnit (hkey.2 u hu)

/-- The size of the JavaScript text. -/
theorem byteLength_canonicalizeValue {j : Json} (hj : j.UniqueNames) (hk : j.Names (SafeKey N)) :
    byteLength (canonicalizeValue N j.toJs) = canonicalSize N j := by
  unfold Json.Names at hk
  induction j using Json.induct with
  | null => rfl
  | bool b => cases b <;> rfl
  | number t =>
    rw [Json.toJs, canonicalizeValue, canonicalSize, JsNumber.text,
      byteLength_ascii (decimalInt_ascii _)]
  | string s =>
    rw [Json.toJs, canonicalizeValue, canonicalSize, byteLength_quote, N.codePoints_normalizeNfc]
  | array xs ih =>
    rw [Json.UniqueNames, Json.uniqueNamesElements_iff] at hj
    rw [Json.All, Json.allElements_iff] at hk
    rw [Json.toJs, canonicalizeValue, canonicalSize, byteLength_cons_ascii (by decide),
      byteLength_append_cons_ascii (by decide), byteLength_joinComma, canonicalizeItems_eq,
      elementsToJs_eq, elementsSize_eq, List.map_map, List.map_map, List.length_map,
      List.length_map, ← List.map_congr_left fun x hx => ih x hx (hj x hx) (hk x hx)]
    rfl
  | object ms ih =>
    rw [Json.UniqueNames, Json.uniqueNamesMembers_iff] at hj
    rw [Json.All, Json.allMembers_iff] at hk
    have hperm := List.perm_insertionSort keyLE (ms.map fun m => (m.1, canonicalizeValue N m.2.toJs))
    rw [Json.toJs, canonicalizeValue, canonicalSize, byteLength_cons_ascii (by decide),
      byteLength_append_cons_ascii (by decide), byteLength_joinComma,
      sorted_canonicalizeEntries_toJs hj.1, List.map_map, membersSize_eq, List.length_map,
      (hperm.map _).sum_eq, hperm.length_eq, List.map_map, List.length_map]
    have hsize : ∀ m ∈ ms, m.1.length + 3 + canonicalSize N m.2 =
        byteLength (Json.quote m.1 ++ 0x3A :: canonicalizeValue N m.2.toJs) := by
      intro m hm
      rw [byteLength_append_cons_ascii (by decide), byteLength_quote_name (hk m hm).1,
        ih m hm (hj.2 m hm) (hk m hm).2]
      omega
    rw [List.map_congr_left hsize]
    rfl

end Texts

end OpenRisk.Agreement
