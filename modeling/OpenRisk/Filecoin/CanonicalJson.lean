import OpenRisk.Filecoin.Bundle
import OpenRisk.Sdk.Commitment

/-!
# Reading canonical JSON

`parseCanonicalJson` of `integrations/filecoin/evidence-bundle.mjs` (lines 160–166) decides
whether bytes are canonical by encoding what it has read and comparing the texts. The decoder
has dropped a byte order mark before the comparison.

Results:
* `canonicalize_eq_ok`, `assertNoForbiddenKeys_eq_ok`: what the two checks accept.
* `parseCanonicalJson_canonicalizeValue`: canonical bytes are read, as the value they denote.
* `parseCanonicalJson_eq_ok`: bytes that are read are canonical, up to a byte order mark.
* `parseCanonicalJson_canonical_iff`: so the reader accepts the canonical bytes and no others
  exactly on the bytes that are not canonical bytes behind such a mark.
-/

namespace OpenRisk.Filecoin

open Text Sdk

/-! ## Specification -/

mutual

/-- No property at any depth has a forbidden name. -/
def NoForbiddenKeys (N : Normalization) : JsValue → Prop
  | .array xs => NoForbiddenElements N xs
  | .object es => NoForbiddenMembers N es
  | _ => True

def NoForbiddenElements (N : Normalization) : List JsValue → Prop
  | [] => True
  | x :: xs => NoForbiddenKeys N x ∧ NoForbiddenElements N xs

def NoForbiddenMembers (N : Normalization) : List (JsString × JsValue) → Prop
  | [] => True
  | (key, x) :: es =>
    normalizedKey N key ∉ FORBIDDEN_KEYS ∧ NoForbiddenKeys N x ∧ NoForbiddenMembers N es

end

/-- The bytes of the canonical text of a value with safe integers and without forbidden names. -/
def CanonicalBytes (N : Normalization) (bytes : List UInt8) : Prop :=
  ∃ (v : JsData) (text : JsString), SafeNumbers v.value ∧ NoForbiddenKeys N v.value ∧
    canonicalizeEvidenceDocument N v.value = .ok text ∧ bytes = utf8Encode text

/-- The byte order mark. -/
def byteOrderMark : List UInt8 := [0xEF, 0xBB, 0xBF]

/-! ## The two checks -/

section Checks

variable {N : Normalization}

theorem noForbiddenElements_iff {xs : List JsValue} :
    NoForbiddenElements N xs ↔ ∀ x ∈ xs, NoForbiddenKeys N x := by
  induction xs with
  | nil => simp [NoForbiddenElements]
  | cons x xs ih => simp [NoForbiddenElements, ih]

theorem noForbiddenMembers_iff {es : List (JsString × JsValue)} :
    NoForbiddenMembers N es ↔
      ∀ e ∈ es, normalizedKey N e.1 ∉ FORBIDDEN_KEYS ∧ NoForbiddenKeys N e.2 := by
  induction es with
  | nil => simp [NoForbiddenMembers]
  | cons e es ih => simp [NoForbiddenMembers, ih, and_assoc]

theorem bind_unit_eq_ok {x y : Except BundleError Unit} :
    (x >>= fun _ => y) = .ok () ↔ x = .ok () ∧ y = .ok () := by
  rw [bind_eq_ok]
  constructor
  · rintro ⟨⟨⟩, hx, hy⟩
    exact ⟨hx, hy⟩
  · rintro ⟨hx, hy⟩
    exact ⟨(), hx, hy⟩

mutual

theorem assertNoForbiddenKeys_eq_ok : ∀ (path : JsString) (v : JsValue),
    assertNoForbiddenKeys N path v = .ok () ↔ NoForbiddenKeys N v
  | _, .null => iff_of_true rfl trivial
  | _, .bool _ => iff_of_true rfl trivial
  | _, .number _ => iff_of_true rfl trivial
  | _, .string _ => iff_of_true rfl trivial
  | path, .array xs => assertNoForbiddenElements_eq_ok path 0 xs
  | path, .object es => assertNoForbiddenMembers_eq_ok path es

theorem assertNoForbiddenElements_eq_ok : ∀ (path : JsString) (index : ℕ) (xs : List JsValue),
    assertNoForbiddenElements N path index xs = .ok () ↔ NoForbiddenElements N xs
  | _, _, [] => iff_of_true rfl trivial
  | path, index, x :: xs => by
    rw [assertNoForbiddenElements, NoForbiddenElements, bind_unit_eq_ok,
      assertNoForbiddenKeys_eq_ok _ x, assertNoForbiddenElements_eq_ok path (index + 1) xs]

theorem assertNoForbiddenMembers_eq_ok : ∀ (path : JsString) (es : List (JsString × JsValue)),
    assertNoForbiddenMembers N path es = .ok () ↔ NoForbiddenMembers N es
  | _, [] => iff_of_true rfl trivial
  | path, (key, x) :: es => by
    rw [assertNoForbiddenMembers, NoForbiddenMembers, bind_unit_eq_ok, bind_unit_eq_ok, assert_eq_ok,
      Bool.not_eq_true', List.contains_eq_mem, decide_eq_false_iff_not,
      assertNoForbiddenKeys_eq_ok _ x, assertNoForbiddenMembers_eq_ok path es]

end

mutual

/-- A value whose numbers are safe integers has the canonical text of the SDK. -/
theorem canonicalize_of_safe : ∀ v : JsValue, SafeNumbers v →
    canonicalize N v = .ok (canonicalizeValue N v)
  | .null, _ => rfl
  | .bool true, _ => rfl
  | .bool false, _ => rfl
  | .number x, h => by
    rw [canonicalize, (assert_eq_ok (u := ())).mpr (show x.isSafeInteger = true from h)]
    rfl
  | .string s, _ => rfl
  | .array xs, h => by
    rw [canonicalize, canonicalizeElements_of_safe xs h, canonicalizeValue]
    rfl
  | .object es, h => by
    rw [canonicalize, canonicalizeMembers_of_safe es h, canonicalizeValue]
    rfl

theorem canonicalizeElements_of_safe : ∀ xs : List JsValue, SafeElements xs →
    canonicalizeElements N xs = .ok (canonicalizeItems N xs)
  | [], _ => rfl
  | x :: xs, h => by
    rw [canonicalizeElements, canonicalize_of_safe x h.1, canonicalizeElements_of_safe xs h.2]
    rfl

theorem canonicalizeMembers_of_safe : ∀ es : List (JsString × JsValue), SafeEntries es →
    canonicalizeMembers N es = .ok (canonicalizeEntries N es)
  | [], _ => rfl
  | (key, x) :: es, h => by
    rw [canonicalizeMembers, canonicalize_of_safe x h.1, canonicalizeMembers_of_safe es h.2]
    rfl

end

mutual

theorem safeNumbers_of_canonicalize : ∀ (v : JsValue) (t : JsString), canonicalize N v = .ok t →
    SafeNumbers v
  | .null, _, _ => trivial
  | .bool _, _, _ => trivial
  | .string _, _, _ => trivial
  | .number x, t, h => by
    rw [canonicalize, bind_eq_ok] at h
    obtain ⟨u, hsafe, -⟩ := h
    exact assert_eq_ok.mp hsafe
  | .array xs, t, h => by
    rw [canonicalize, bind_eq_ok] at h
    obtain ⟨ts, hts, -⟩ := h
    exact safeElements_of_canonicalize xs ts hts
  | .object es, t, h => by
    rw [canonicalize, bind_eq_ok] at h
    obtain ⟨ts, hts, -⟩ := h
    exact safeEntries_of_canonicalize es ts hts

theorem safeElements_of_canonicalize : ∀ (xs : List JsValue) (ts : List JsString),
    canonicalizeElements N xs = .ok ts → SafeElements xs
  | [], _, _ => trivial
  | x :: xs, _, h => by
    simp only [canonicalizeElements, bind_eq_ok] at h
    obtain ⟨t, hx, ts, hxs, -⟩ := h
    exact ⟨safeNumbers_of_canonicalize x t hx, safeElements_of_canonicalize xs ts hxs⟩

theorem safeEntries_of_canonicalize : ∀ (es : List (JsString × JsValue))
    (ts : List (JsString × JsString)), canonicalizeMembers N es = .ok ts → SafeEntries es
  | [], _, _ => trivial
  | (key, x) :: es, _, h => by
    simp only [canonicalizeMembers, bind_eq_ok] at h
    obtain ⟨t, hx, ts, hes, -⟩ := h
    exact ⟨safeNumbers_of_canonicalize x t hx, safeEntries_of_canonicalize es ts hes⟩

end

/-- The values that have a canonical text, and the text. -/
theorem canonicalize_eq_ok {v : JsValue} {t : JsString} :
    canonicalize N v = .ok t ↔ SafeNumbers v ∧ t = canonicalizeValue N v := by
  constructor
  · intro h
    have hsafe := safeNumbers_of_canonicalize v t h
    rw [canonicalize_of_safe v hsafe] at h
    exact ⟨hsafe, (Except.ok.inj h).symm⟩
  · rintro ⟨hsafe, rfl⟩
    exact canonicalize_of_safe v hsafe

/-- What is read back has the same names. -/
theorem noForbiddenKeys_reread {v : JsValue} (hv : v.UniqueKeys) (h : NoForbiddenKeys N v) :
    NoForbiddenKeys N (reread N v) := by
  induction v using JsValue.induct with
  | null | bool _ | number _ | string _ => trivial
  | array xs ih =>
    rw [JsValue.UniqueKeys, JsValue.uniqueElements_iff] at hv
    rw [NoForbiddenKeys, noForbiddenElements_iff] at h
    rw [reread_array, NoForbiddenKeys, noForbiddenElements_iff, List.forall_mem_map]
    exact fun x hx => ih x hx (hv x hx) (h x hx)
  | object es ih =>
    rw [JsValue.UniqueKeys, JsValue.uniqueEntries_iff] at hv
    rw [NoForbiddenKeys, noForbiddenMembers_iff] at h
    rw [reread_object, NoForbiddenKeys, noForbiddenMembers_iff]
    have hmem := fun e => (reread_entries_perm (N := N) hv.1).mem_iff (a := e)
    simp only [hmem, List.forall_mem_map]
    exact fun e he => ⟨(h e he).1, ih e he (hv.2 e he) (h e he).2⟩

theorem safeNumbers_reread {v : JsValue} (hv : v.UniqueKeys) (h : SafeNumbers v) :
    SafeNumbers (reread N v) := by
  induction v using JsValue.induct with
  | null | bool _ | string _ => trivial
  | number x =>
    rw [SafeNumbers] at h
    rw [reread, canonicalJson, Json.toJs, numberOfToken_intToken h, SafeNumbers]
    rcases JsNumber.eq_of_isSafeInteger h with heq | rfl
    · rw [← heq]
      exact h
    · decide
  | array xs ih =>
    rw [JsValue.UniqueKeys, JsValue.uniqueElements_iff] at hv
    rw [SafeNumbers, safeElements_iff] at h
    rw [reread_array, SafeNumbers, safeElements_iff, List.forall_mem_map]
    exact fun x hx => ih x hx (hv x hx) (h x hx)
  | object es ih =>
    rw [JsValue.UniqueKeys, JsValue.uniqueEntries_iff] at hv
    rw [SafeNumbers, safeEntries_iff] at h
    rw [reread_object, SafeNumbers, safeEntries_iff]
    have hmem := fun e => (reread_entries_perm (N := N) hv.1).mem_iff (a := e)
    simp only [hmem, List.forall_mem_map]
    exact fun e he => ih e he (hv.2 e he) (h e he)

end Checks

/-! ## The decoder -/

theorem utf8Encode_ne_byteOrderMark {u : UInt16} (hu : u.toNat < 0x80) (s : JsString)
    (rest : List UInt8) : utf8Encode (u :: s) ≠ byteOrderMark ++ rest := by
  have hfirst : utf8 (unitPoint u) = [u.toNat.toUInt8] := by
    rw [utf8, if_pos (show (unitPoint u).val < 0x80 from hu)]
    rfl
  rw [utf8Encode_eq, codePoints_cons_ascii hu, List.flatMap_cons, hfirst]
  intro h
  have hbyte : u.toNat.toUInt8 = 0xEF := (List.cons.inj h).1
  have hnat := congrArg UInt8.toNat hbyte
  rw [toNat_toUInt8 (by omega)] at hnat
  have : (0xEF : UInt8).toNat = 239 := rfl
  omega

theorem decodeText_eq_ok {bytes : List UInt8} {t : JsString} (h : decodeText bytes = .ok t) :
    bytes = utf8Encode t ∨ bytes = byteOrderMark ++ utf8Encode t := by
  unfold decodeText at h
  split at h
  · rename_i text hdecode
    cases h
    obtain ⟨hbytes, -⟩ := Utf8.decodeFatal_eq_some.mp hdecode
    split_ifs at hbytes with hmark
    · exact .inr (by rw [← hbytes, byteOrderMark, ← hmark, List.take_append_drop])
    · exact .inl hbytes
  · cases h

section Read

variable {N : Normalization}

/-- A canonical text starts with an ASCII unit, so its bytes have no byte order mark. -/
theorem canonicalizeValue_ne_byteOrderMark (v : JsValue) (rest : List UInt8) :
    utf8Encode (canonicalizeValue N v) ≠ byteOrderMark ++ rest := by
  obtain ⟨u, us, htext, hu⟩ := Json.print_head_ascii _ (integral_canonicalJson N v)
  rw [canonicalizeValue_eq_print, htext]
  exact utf8Encode_ne_byteOrderMark hu us rest

theorem decodeText_canonicalizeValue (v : JsValue) :
    decodeText (utf8Encode (canonicalizeValue N v)) = .ok (canonicalizeValue N v) := by
  have hmark : ¬ (utf8Encode (canonicalizeValue N v)).take 3 = [0xEF, 0xBB, 0xBF] := by
    intro htake
    refine canonicalizeValue_ne_byteOrderMark (N := N) v ((utf8Encode (canonicalizeValue N v)).drop 3) ?_
    rw [byteOrderMark, ← htake, List.take_append_drop]
  rw [decodeText, if_neg hmark,
    Utf8.decodeFatal_eq_some.mpr ⟨rfl, scalar_canonicalizeValue N v⟩]

theorem decodeText_byteOrderMark (v : JsValue) :
    decodeText (byteOrderMark ++ utf8Encode (canonicalizeValue N v)) =
      .ok (canonicalizeValue N v) := by
  have htake : (byteOrderMark ++ utf8Encode (canonicalizeValue N v)).take 3 = [0xEF, 0xBB, 0xBF] := rfl
  have hdrop : (byteOrderMark ++ utf8Encode (canonicalizeValue N v)).drop 3 =
    utf8Encode (canonicalizeValue N v) := rfl
  rw [decodeText, if_pos htake, hdrop,
    Utf8.decodeFatal_eq_some.mpr ⟨rfl, scalar_canonicalizeValue N v⟩]

/-- Bytes that are decoded to a canonical text are read as the value it denotes. -/
theorem parseCanonicalJson_of_decodeText {bytes : List UInt8} {v : JsValue} (hv : v.UniqueKeys)
    (hsafe : SafeNumbers v) (hkeys : NoForbiddenKeys N v)
    (h : decodeText bytes = .ok (canonicalizeValue N v)) (label : JsString) :
    parseCanonicalJson N bytes label = .ok (reread N v) := by
  have htext : canonicalizeValue N (reread N v) = canonicalizeValue N v :=
    (canonicalizeValue_eq_iff N _ _).mpr (canonicalJson_reread hv hsafe)
  have hcanonical := canonicalize_of_safe (N := N) _ (safeNumbers_reread (N := N) hv hsafe)
  have hforbidden := (assertNoForbiddenKeys_eq_ok (js "$") _).mpr (noForbiddenKeys_reread hv hkeys)
  rw [parseCanonicalJson, h]
  simp only [bind, Except.bind, jsonParse_canonicalizeValue, canonicalizeEvidenceDocument, hcanonical,
    htext, hforbidden, decide_true]
  rw [(assert_eq_ok (u := ())).mpr rfl]

/-- Canonical bytes are read as the value they denote. -/
theorem parseCanonicalJson_canonicalizeValue {v : JsValue} (hv : v.UniqueKeys)
    (hsafe : SafeNumbers v) (hkeys : NoForbiddenKeys N v) (label : JsString) :
    parseCanonicalJson N (utf8Encode (canonicalizeValue N v)) label = .ok (reread N v) :=
  parseCanonicalJson_of_decodeText hv hsafe hkeys (decodeText_canonicalizeValue v) label

/-- What is read has the text that the bytes are decoded to as its canonical text. -/
theorem parseCanonicalJson_eq_ok {bytes : List UInt8} {label : JsString} {v : JsValue}
    (h : parseCanonicalJson N bytes label = .ok v) :
    v.UniqueKeys ∧ SafeNumbers v ∧ NoForbiddenKeys N v ∧
      (bytes = utf8Encode (canonicalizeValue N v) ∨
        bytes = byteOrderMark ++ utf8Encode (canonicalizeValue N v)) := by
  simp only [parseCanonicalJson, bind_eq_ok, assert_eq_ok, decide_eq_true_eq] at h
  obtain ⟨text, htext, value, hvalue, canonical, hcanonical, _, rfl, _, hkeys, h⟩ := h
  cases h
  split at hvalue
  · rename_i w hparse
    cases hvalue
    obtain ⟨hsafe, rfl⟩ := canonicalize_eq_ok.mp hcanonical
    exact ⟨jsonParse_uniqueKeys hparse, hsafe, (assertNoForbiddenKeys_eq_ok _ _).mp hkeys,
      decodeText_eq_ok htext⟩
  · cases hvalue

theorem canonicalBytes_iff {bytes : List UInt8} : CanonicalBytes N bytes ↔
    ∃ v : JsValue, v.UniqueKeys ∧ SafeNumbers v ∧ NoForbiddenKeys N v ∧
      bytes = utf8Encode (canonicalizeValue N v) := by
  constructor
  · rintro ⟨v, text, -, hkeys, htext, rfl⟩
    obtain ⟨hsafe, rfl⟩ := canonicalize_eq_ok.mp htext
    exact ⟨v.value, v.unique, hsafe, hkeys, rfl⟩
  · rintro ⟨v, hv, hsafe, hkeys, rfl⟩
    exact ⟨⟨v, hv⟩, _, hsafe, hkeys, canonicalize_of_safe v hsafe, rfl⟩

end Read

/-- The reader accepts the canonical bytes and no others, and what it returns has the bytes as
    its encoding, exactly on the bytes that are not canonical bytes behind a byte order mark. -/
theorem parseCanonicalJson_canonical_iff (N : Normalization) (bytes : List UInt8) (label : JsString) :
    (((∃ value, parseCanonicalJson N bytes label = .ok value) ↔ CanonicalBytes N bytes) ∧
      ∀ value, parseCanonicalJson N bytes label = .ok value →
        ∃ text, canonicalizeEvidenceDocument N value = .ok text ∧ utf8Encode text = bytes) ↔
    ¬ ∃ rest, bytes = byteOrderMark ++ rest ∧ CanonicalBytes N rest := by
  constructor
  · rintro ⟨hiff, -⟩ ⟨rest, rfl, hrest⟩
    obtain ⟨v, hv, hsafe, hkeys, rfl⟩ := canonicalBytes_iff.mp hrest
    have hread := parseCanonicalJson_of_decodeText hv hsafe hkeys (decodeText_byteOrderMark v) label
    obtain ⟨w, -, -, -, hbytes⟩ := canonicalBytes_iff.mp (hiff.mp ⟨_, hread⟩)
    exact canonicalizeValue_ne_byteOrderMark w _ hbytes.symm
  · intro hmark
    have haccepted : ∀ value, parseCanonicalJson N bytes label = .ok value →
        value.UniqueKeys ∧ SafeNumbers value ∧ NoForbiddenKeys N value ∧
          bytes = utf8Encode (canonicalizeValue N value) := by
      intro value h
      obtain ⟨hv, hsafe, hkeys, hbytes | hbytes⟩ := parseCanonicalJson_eq_ok h
      · exact ⟨hv, hsafe, hkeys, hbytes⟩
      · exact absurd ⟨_, hbytes, canonicalBytes_iff.mpr ⟨value, hv, hsafe, hkeys, rfl⟩⟩ hmark
    refine ⟨⟨?_, ?_⟩, ?_⟩
    · rintro ⟨value, h⟩
      exact canonicalBytes_iff.mpr ⟨value, haccepted value h⟩
    · intro h
      obtain ⟨v, hv, hsafe, hkeys, rfl⟩ := canonicalBytes_iff.mp h
      exact ⟨_, parseCanonicalJson_canonicalizeValue hv hsafe hkeys label⟩
    · intro value h
      obtain ⟨-, hsafe, -, hbytes⟩ := haccepted value h
      exact ⟨_, canonicalize_of_safe value hsafe, hbytes.symm⟩

/-- An empty object behind a byte order mark is read, and is not canonical. -/
theorem not_parseCanonicalJson_byteOrderMark :
    ¬ ∀ (bytes : List UInt8) (label : JsString),
      ((∃ value, parseCanonicalJson devanagari bytes label = .ok value) ↔
        CanonicalBytes devanagari bytes) := by
  intro hall
  have hread := parseCanonicalJson_of_decodeText (N := devanagari) (v := .object [])
    ⟨List.nodup_nil, trivial⟩ trivial trivial (decodeText_byteOrderMark (.object [])) []
  obtain ⟨w, -, -, -, hbytes⟩ := canonicalBytes_iff.mp ((hall _ _).mp ⟨_, hread⟩)
  exact canonicalizeValue_ne_byteOrderMark w _ hbytes.symm

end OpenRisk.Filecoin
