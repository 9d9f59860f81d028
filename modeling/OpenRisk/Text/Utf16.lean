import Mathlib

/-!
# UTF-16 strings, code points and UTF-8

A JavaScript string is a sequence of 16-bit code units in which surrogates need
not be paired; a Python string is a sequence of code points. `codePoints` is
ECMAScript `StringToCodePoints`: it joins a high surrogate followed by a low one
and leaves every other unit as it is.

Results:
* `flatMap_utf16_codePoints`: re-encoding the code points of a string gives the
  string back, so no information is lost and `codePoints` is injective.
* `codePoints_append_of_isolated`: cutting a string where no surrogate pair is
  cut also cuts its code points.
* `codePoints_flatMap_utf16`: a sequence of code points in which no high
  surrogate is followed by a low one is its own reading.
-/

namespace OpenRisk.Text

/-- A JavaScript string: its UTF-16 code units. -/
abbrev JsString := List UInt16

/-- A Unicode code point, surrogates included (what a Python `str` is made of). -/
abbrev CodePoint := Fin 0x110000

/-- Whether two strings have the same units. The kernel compares numbers faster than it decides
    the equality of lists. -/
def sameUnits (s t : JsString) : Bool :=
  match s, t with
  | [], [] => true
  | [], _ :: _ => false
  | _ :: _, [] => false
  | u :: s, v :: t =>
    match Nat.beq u.toNat v.toNat with
    | true => sameUnits s t
    | false => false

theorem sameUnits_iff {s t : JsString} : sameUnits s t = true ↔ s = t := by
  fun_induction sameUnits s t with
  | case1 => simp
  | case2 => simp
  | case3 => simp
  | case4 u s v t h ih =>
    rw [ih, UInt16.toNat_inj.mp (Nat.eq_of_beq_eq_true h), List.cons.injEq, eq_self, true_and]
  | case5 u s v t h =>
    have hne : u ≠ v := fun heq => Nat.ne_of_beq_eq_false h (congrArg UInt16.toNat heq)
    simp [hne]

instance instDecidableEqJsString : DecidableEq JsString := fun s t =>
  match h : sameUnits s t with
  | true => isTrue (sameUnits_iff.mp h)
  | false => isFalse fun heq => Bool.false_ne_true (h.symm.trans (sameUnits_iff.mpr heq))

instance instBEqJsString : BEq JsString := ⟨sameUnits⟩

instance instLawfulBEqJsString : LawfulBEq JsString where
  eq_of_beq h := sameUnits_iff.mp h
  rfl := sameUnits_iff.mpr rfl

instance instNeZeroCodePoint : NeZero 0x110000 := ⟨by decide⟩

/-- The code units of a literal of this development. The bytes of an ASCII literal are its units,
    and the kernel reads them much faster than it decodes them. -/
def js (s : String) : JsString :=
  let bytes := s.toByteArray.data.toList
  if bytes.all fun b => b.toNat ≤ 127 then bytes.map fun b => b.toNat.toUInt16
  else s.toList.map fun c => c.toNat.toUInt16

theorem map_utf8EncodeChar_of_ascii {c : Char}
    (h : ((String.utf8EncodeChar c).all fun b => b.toNat ≤ 127) = true) :
    ((String.utf8EncodeChar c).map fun b => b.toNat.toUInt16) = [c.toNat.toUInt16] := by
  unfold String.utf8EncodeChar at h ⊢
  dsimp only at h ⊢
  split_ifs at h ⊢
  · have hbyte : (UInt8.ofNat c.val.toNat).toNat = c.toNat := by
      rw [UInt8.toNat_ofNat']
      exact Nat.mod_eq_of_lt (by omega)
    rw [List.map_singleton, hbyte]
  all_goals
    simp only [List.all_cons, Bool.and_eq_true, decide_eq_true_eq, UInt8.toNat_ofNat'] at h
    omega

/-- The units of a literal, without decoding it. -/
theorem js_ofList (l : List Char) : js (String.ofList l) = l.map fun c => c.toNat.toUInt16 := by
  rw [js, String.toByteArray_ofList, List.utf8Encode, List.toList_data_toByteArray,
    String.toList_ofList]
  split
  · rename_i h
    induction l with
    | nil => rfl
    | cons c l ih =>
      rw [List.flatMap_cons, List.all_append, Bool.and_eq_true] at h
      rw [List.flatMap_cons, List.map_append, map_utf8EncodeChar_of_ascii h.1, ih h.2]
      rfl
  · rfl

theorem js_eq (s : String) : js s = s.toList.map fun c => c.toNat.toUInt16 := by
  rw [← js_ofList, String.ofList_toList]

/-- A text is ASCII when the test of its units says so. -/
theorem ascii_of_all {s : JsString} (h : (s.all fun u => u.toNat < 0x80) = true) :
    ∀ u ∈ s, u.toNat < 0x80 := by
  simpa using h

/-! ## Surrogates -/

def isHigh (u : UInt16) : Bool := 0xD800 ≤ u.toNat && u.toNat < 0xDC00

def isLow (u : UInt16) : Bool := 0xDC00 ≤ u.toNat && u.toNat < 0xE000

/-- A code point that is a surrogate, so that it has no UTF-8 encoding. -/
def isSurrogate (c : CodePoint) : Bool := 0xD800 ≤ c.val && c.val < 0xE000

/-- `UTF16SurrogatePairToCodePoint`. -/
def joinPair (h l : UInt16) : CodePoint :=
  ⟨(0x10000 + (h.toNat % 0x400) * 0x400 + l.toNat % 0x400), by omega⟩

/-- A code unit on its own, read as a code point. -/
def unitPoint (u : UInt16) : CodePoint := ⟨u.toNat, by have := u.toNat_lt; omega⟩

/-- `StringToCodePoints`. -/
def codePoints : JsString → List CodePoint
  | [] => []
  | [u] => [unitPoint u]
  | u :: v :: rest =>
    if isHigh u && isLow v then joinPair u v :: codePoints rest
    else unitPoint u :: codePoints (v :: rest)

/-- `UTF16EncodeCodePoint`. -/
def utf16 (c : CodePoint) : JsString :=
  if c.val < 0x10000 then [c.val.toUInt16]
  else [(0xD800 + (c.val - 0x10000) / 0x400).toUInt16, (0xDC00 + (c.val - 0x10000) % 0x400).toUInt16]

@[simp] theorem unitPoint_val (u : UInt16) : (unitPoint u).val = u.toNat := rfl

@[simp] theorem joinPair_val (h l : UInt16) :
    (joinPair h l).val = 0x10000 + (h.toNat % 0x400) * 0x400 + l.toNat % 0x400 := rfl

theorem utf16_unitPoint (u : UInt16) : utf16 (unitPoint u) = [u] := by
  have h := u.toNat_lt
  rw [utf16, if_pos (by rw [unitPoint_val]; omega), unitPoint_val]
  simp

theorem utf16_joinPair {h l : UInt16} (hh : isHigh h = true) (hl : isLow l = true) :
    utf16 (joinPair h l) = [h, l] := by
  simp only [isHigh, isLow, Bool.and_eq_true, decide_eq_true_eq] at hh hl
  have e1 : 0xD800 + (0x10000 + (h.toNat % 0x400) * 0x400 + l.toNat % 0x400 - 0x10000) / 0x400 =
      h.toNat := by omega
  have e2 : 0xDC00 + (0x10000 + (h.toNat % 0x400) * 0x400 + l.toNat % 0x400 - 0x10000) % 0x400 =
      l.toNat := by omega
  rw [utf16, if_neg (by rw [joinPair_val]; omega), joinPair_val, e1, e2]
  simp

/-- Re-encoding the code points of a string gives the string back. -/
theorem flatMap_utf16_codePoints (s : JsString) : (codePoints s).flatMap utf16 = s := by
  fun_induction codePoints s with
  | case1 => rfl
  | case2 u => simp [utf16_unitPoint]
  | case3 u v rest h ih =>
    simp only [Bool.and_eq_true] at h
    rw [List.flatMap_cons, utf16_joinPair h.1 h.2, ih]
    rfl
  | case4 u v rest h ih => rw [List.flatMap_cons, utf16_unitPoint, ih]; rfl

theorem codePoints_injective : Function.Injective codePoints := by
  intro s t h
  rw [← flatMap_utf16_codePoints s, ← flatMap_utf16_codePoints t, h]

/-! ## Reading code points back -/

/-- No high surrogate is directly followed by a low one: the sequences that
    `codePoints` returns, and the Python strings read from JSON. -/
def NoSplitPair : List CodePoint → Prop
  | [] => True
  | [_] => True
  | c :: d :: rest =>
    ¬ ((0xD800 ≤ c.val ∧ c.val < 0xDC00) ∧ 0xDC00 ≤ d.val ∧ d.val < 0xE000) ∧
      NoSplitPair (d :: rest)

theorem NoSplitPair.tail {c : CodePoint} {l : List CodePoint} (h : NoSplitPair (c :: l)) :
    NoSplitPair l := by
  cases l with
  | nil => trivial
  | cons d rest => exact h.2

/-- A unit that cannot be the second half of a pair started by `u`. -/
theorem codePoints_cons_of_not_pair {u : UInt16} {s : JsString}
    (h : ∀ v rest, s = v :: rest → ¬ (isHigh u = true ∧ isLow v = true)) :
    codePoints (u :: s) = unitPoint u :: codePoints s := by
  cases s with
  | nil => rfl
  | cons v rest =>
    rw [codePoints, if_neg]
    simpa using h v rest rfl

theorem codePoints_pair {h l : UInt16} (hh : isHigh h = true) (hl : isLow l = true)
    (s : JsString) : codePoints (h :: l :: s) = joinPair h l :: codePoints s := by
  rw [codePoints, if_pos (by simp [hh, hl])]

/-- Cutting a string where no surrogate pair is cut. -/
theorem codePoints_append_of_isolated (s t : JsString)
    (h : ∀ u v rest, s.getLast? = some u → t = v :: rest → ¬ (isHigh u = true ∧ isLow v = true)) :
    codePoints (s ++ t) = codePoints s ++ codePoints t := by
  fun_induction codePoints s with
  | case1 => rfl
  | case2 u =>
    rw [List.singleton_append, codePoints_cons_of_not_pair fun v rest ht => h u v rest rfl ht]
    rfl
  | case3 u v rest huv ih =>
    simp only [Bool.and_eq_true] at huv
    rw [List.cons_append, List.cons_append, codePoints_pair huv.1 huv.2, List.cons_append]
    congr 1
    cases rest with
    | nil => rfl
    | cons w rest => exact ih fun a b r ha hb => h a b r (by simpa using ha) hb
  | case4 u v rest huv ih =>
    rw [List.cons_append, List.cons_append,
      codePoints_cons_of_not_pair fun v' rest' hv => by
        simp only [List.cons.injEq] at hv
        rw [← hv.1]
        simpa using huv]
    rw [← List.cons_append, ih fun a b r ha hb => h a b r (by simpa using ha) hb]
    rfl

/-- A sequence without split pairs is read back from its UTF-16 encoding. -/
theorem codePoints_flatMap_utf16 (l : List CodePoint) (h : NoSplitPair l) :
    codePoints (l.flatMap utf16) = l := by
  induction l with
  | nil => rfl
  | cons c l ih =>
    have hc := c.isLt
    rw [List.flatMap_cons, utf16]
    split_ifs with hlt
    · have hu : (c.val.toUInt16).toNat = c.val := by simp; omega
      rw [List.singleton_append, codePoints_cons_of_not_pair, ih h.tail]
      · exact congrArg₂ List.cons (Fin.ext hu) rfl
      · intro v rest hv
        simp only [isHigh, isLow, hu, Bool.and_eq_true, decide_eq_true_eq]
        -- the next unit is a low surrogate only if the next code point is one
        cases l with
        | nil => simp at hv
        | cons d l =>
          have hd := d.isLt
          rw [List.flatMap_cons, utf16] at hv
          split_ifs at hv with hd'
          · simp only [List.singleton_append, List.cons.injEq] at hv
            have : v.toNat = d.val := by rw [← hv.1]; simp; omega
            have := h.1
            omega
          · simp only [List.cons_append, List.cons.injEq] at hv
            have : v.toNat = 0xD800 + (d.val - 0x10000) / 0x400 := by rw [← hv.1]; simp; omega
            omega
    · have h1 : ((0xD800 + (c.val - 0x10000) / 0x400).toUInt16).toNat =
          0xD800 + (c.val - 0x10000) / 0x400 := by simp; omega
      have h2 : ((0xDC00 + (c.val - 0x10000) % 0x400).toUInt16).toNat =
          0xDC00 + (c.val - 0x10000) % 0x400 := by simp; omega
      rw [List.cons_append, List.singleton_append, codePoints_pair, ih h.tail]
      · refine congrArg₂ List.cons (Fin.ext ?_) rfl
        rw [joinPair_val, h1, h2]
        omega
      · simp only [isHigh, h1, Bool.and_eq_true, decide_eq_true_eq]; omega
      · simp only [isLow, h2, Bool.and_eq_true, decide_eq_true_eq]; omega

/-- The code points of a string have no split pair. -/
theorem noSplitPair_codePoints (s : JsString) : NoSplitPair (codePoints s) := by
  fun_induction codePoints s with
  | case1 => trivial
  | case2 u => trivial
  | case3 u v rest huv ih =>
    cases h : codePoints rest with
    | nil => trivial
    | cons d l =>
      rw [h] at ih
      refine ⟨?_, ih⟩
      rw [joinPair_val]
      omega
  | case4 u v rest huv ih =>
    cases rest with
    | nil =>
      refine ⟨?_, trivial⟩
      simpa [isHigh, isLow] using huv
    | cons w rest =>
      rw [codePoints] at ih ⊢
      split_ifs at ih ⊢ with hvw
      · exact ⟨by rw [joinPair_val]; omega, ih⟩
      · exact ⟨by simpa [isHigh, isLow] using huv, ih⟩

/-! ## UTF-8 -/

/-- The UTF-8 bytes of a code point below `0x110000`. A lone surrogate is written
    as U+FFFD, which is what Node.js does when it encodes a string. -/
def utf8 (c : CodePoint) : List UInt8 :=
  if c.val < 0x80 then [c.val.toUInt8]
  else if c.val < 0x800 then [(0xC0 + c.val / 0x40).toUInt8, (0x80 + c.val % 0x40).toUInt8]
  else if isSurrogate c then [0xEF, 0xBF, 0xBD]
  else if c.val < 0x10000 then
    [(0xE0 + c.val / 0x1000).toUInt8, (0x80 + c.val / 0x40 % 0x40).toUInt8,
      (0x80 + c.val % 0x40).toUInt8]
  else
    [(0xF0 + c.val / 0x40000).toUInt8, (0x80 + c.val / 0x1000 % 0x40).toUInt8,
      (0x80 + c.val / 0x40 % 0x40).toUInt8, (0x80 + c.val % 0x40).toUInt8]

/-- `Buffer.from(s, 'utf8')`. The units of an ASCII text are its bytes. -/
def utf8Encode (s : JsString) : List UInt8 :=
  if s.all fun u => u.toNat.ble 0x7F then s.map fun u => u.toNat.toUInt8
  else (codePoints s).flatMap utf8

theorem utf8Encode_eq (s : JsString) : utf8Encode s = (codePoints s).flatMap utf8 := by
  rw [utf8Encode]
  split
  · rename_i h
    fun_induction codePoints s with
    | case1 => rfl
    | case2 u =>
      rw [List.all_cons, Bool.and_eq_true, Nat.ble_eq] at h
      rw [List.flatMap_singleton, utf8, unitPoint_val, if_pos (Nat.lt_succ_of_le h.1),
        List.map_singleton]
    | case3 u v rest hpair =>
      rw [List.all_cons, Bool.and_eq_true, Nat.ble_eq] at h
      simp only [isHigh, Bool.and_eq_true, decide_eq_true_eq] at hpair
      omega
    | case4 u v rest hpair ih =>
      rw [List.all_cons, Bool.and_eq_true, Nat.ble_eq] at h
      rw [List.flatMap_cons, utf8, unitPoint_val, if_pos (Nat.lt_succ_of_le h.1), ← ih h.2]
      rfl
  · rfl

/-- `Buffer.byteLength(s, 'utf8')`. -/
def byteLength (s : JsString) : ℕ := (utf8Encode s).length

theorem byteLength_eq (s : JsString) : byteLength s = ((codePoints s).flatMap utf8).length := by
  rw [byteLength, utf8Encode_eq]

end OpenRisk.Text
