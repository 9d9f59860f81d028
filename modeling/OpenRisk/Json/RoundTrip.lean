import OpenRisk.Json.Syntax

/-!
# Reading back a compact JSON text

`parse_print`: the reader inverts the compact writer on every value whose numbers
are spelled as integers. The proof follows the reader: digits, string literals,
then values, elements and members together, with what may follow each of them
(`Follows`) and the fuel each of them needs (`need`).

`print_injective` is the statement the rest of the development uses: a compact
text determines its value.
-/

namespace OpenRisk.Json

open Text

/-! ## Digits -/

theorem hexValue_hexDigit : ∀ d, d < 16 → hexValue (hexDigit d) = some d := by decide

theorem radixValue_append (b : ℕ) (ds : JsString) (u : UInt16) :
    radixValue b (ds ++ [u]) = radixValue b ds * b + (hexValue u).getD 0 := by
  simp [radixValue]

theorem radixValue_map_hexDigit {b : ℕ} (hb : b ≤ 16) (l : List ℕ) (h : ∀ d ∈ l, d < b) :
    radixValue b (l.reverse.map hexDigit) = Nat.ofDigits b l := by
  induction l with
  | nil => rfl
  | cons d l ih =>
    have hd := h d (by simp)
    rw [List.reverse_cons, List.map_append, List.map_singleton, radixValue_append,
      ih fun x hx => h x (by simp [hx]), hexValue_hexDigit d (by omega), Option.getD_some,
      Nat.ofDigits_cons, Nat.add_comm, Nat.mul_comm]

/-- Reading the digits of `n` gives `n`. -/
theorem radixValue_radixText {b : ℕ} (h1 : 1 < b) (hb : b ≤ 16) (n : ℕ) :
    radixValue b (radixText b n) = n := by
  unfold radixText
  split_ifs with h
  · subst h; simp [radixValue, hexValue]
  · rw [radixValue_map_hexDigit hb _ fun d hd => Nat.digits_lt_base h1 hd, Nat.ofDigits_digits]

/-- A digit text is not empty and has no leading zero. -/
theorem radixText_cons {b : ℕ} (h1 : 1 < b) (hb : b ≤ 16) (n : ℕ) :
    ∃ u us, radixText b n = u :: us ∧ ¬ (u = 0x30 ∧ us ≠ []) := by
  unfold radixText
  split_ifs with h
  · exact ⟨0x30, [], rfl, by simp⟩
  · have hne : b.digits n ≠ [] := Nat.digits_ne_nil_iff_ne_zero.mpr h
    have hlast := Nat.getLast_digit_ne_zero b h
    have hlt := Nat.digits_lt_base h1 (List.getLast_mem hne)
    refine ⟨hexDigit ((b.digits n).getLast hne), (b.digits n).dropLast.reverse.map hexDigit, ?_, ?_⟩
    · conv_lhs => rw [← List.dropLast_append_getLast hne, List.reverse_append,
        List.reverse_singleton, List.singleton_append, List.map_cons]
    · rintro ⟨h0, -⟩
      have := hexValue_hexDigit _ (lt_of_lt_of_le hlt hb)
      rw [h0] at this
      exact hlast (by simpa [hexValue] using this.symm)

theorem isDigit_hexDigit : ∀ d, d < 10 → isDigit (hexDigit d) = true := by decide

theorem decimal_isDigit (n : ℕ) : ∀ u ∈ decimal n, isDigit u = true := by
  intro u hu
  unfold decimal radixText at hu
  split_ifs at hu with h
  · simp only [List.mem_singleton] at hu
    subst hu; rfl
  · obtain ⟨d, hd, rfl⟩ := List.mem_map.mp hu
    exact isDigit_hexDigit d (Nat.digits_lt_base (by norm_num) (List.mem_reverse.mp hd))

theorem decimal_injective : Function.Injective decimal := by
  intro m n h
  have := congrArg (radixValue 10) h
  rwa [decimal, decimal, radixValue_radixText (by norm_num) (by norm_num),
    radixValue_radixText (by norm_num) (by norm_num)] at this

theorem decimal_cons (n : ℕ) : ∃ u us, decimal n = u :: us ∧ ¬ (u = 0x30 ∧ us ≠ []) :=
  radixText_cons (by norm_num) (by norm_num) n

/-! ## What may follow a value in a compact text -/

/-- The text after a value: empty, or a comma or a closing bracket. -/
def Follows (rest : JsString) : Prop :=
  ∀ u r, rest = u :: r → u = 0x2C ∨ u = 0x5D ∨ u = 0x7D

theorem follows_nil : Follows [] := by intro u r h; cases h

theorem follows_cons {u : UInt16} (h : u = 0x2C ∨ u = 0x5D ∨ u = 0x7D) (r : JsString) :
    Follows (u :: r) := by
  intro v r' hv; cases hv; exact h

theorem Follows.takeWhile_isDigit {rest : JsString} (h : Follows rest) :
    rest.takeWhile isDigit = [] := by
  cases rest with
  | nil => rfl
  | cons u r => obtain rfl | rfl | rfl := h u r rfl <;> rfl

theorem Follows.dropWhile_isDigit {rest : JsString} (h : Follows rest) :
    rest.dropWhile isDigit = rest := by
  cases rest with
  | nil => rfl
  | cons u r => obtain rfl | rfl | rfl := h u r rfl <;> rfl

theorem Follows.scanFraction {rest : JsString} (h : Follows rest) :
    scanFraction rest = some (none, rest) := by
  cases rest with
  | nil => rfl
  | cons u r => obtain rfl | rfl | rfl := h u r rfl <;> rfl

theorem Follows.scanExponent {rest : JsString} (h : Follows rest) :
    scanExponent rest = some (none, rest) := by
  cases rest with
  | nil => rfl
  | cons u r => obtain rfl | rfl | rfl := h u r rfl <;> rfl

/-! ## Numbers -/

theorem printNumber_integer {t : NumberToken} (h : t.isInteger = true) :
    printNumber t = (if t.negative then [0x2D] else []) ++ decimal t.integer := by
  obtain ⟨neg, n, fr, ex⟩ := t
  simp only [NumberToken.isInteger, Bool.and_eq_true, Option.isNone_iff_eq_none] at h
  obtain ⟨rfl, rfl⟩ := h
  simp [printNumber]

theorem scanUnsigned_decimal (neg : Bool) (n : ℕ) {rest : JsString} (h : Follows rest) :
    scanUnsigned neg (decimal n ++ rest) = some (⟨neg, n, none, none⟩, rest) := by
  have ht : (decimal n ++ rest).takeWhile isDigit = decimal n := by
    rw [List.takeWhile_append_of_pos (decimal_isDigit n), h.takeWhile_isDigit, List.append_nil]
  have hd : (decimal n ++ rest).dropWhile isDigit = rest := by
    rw [List.dropWhile_append_of_pos (decimal_isDigit n), h.dropWhile_isDigit]
  obtain ⟨u, us, hu, h0⟩ := decimal_cons n
  have hv : radixValue 10 (decimal n) = n := radixValue_radixText (by norm_num) (by norm_num) n
  rw [scanUnsigned, ht, hd]
  rw [hu] at hv ⊢
  simp only [if_neg h0, h.scanFraction, Option.bind_some, h.scanExponent, Option.map_some, hv]

theorem scanNumber_printNumber {t : NumberToken} (ht : t.isInteger = true) {rest : JsString}
    (h : Follows rest) : scanNumber (printNumber t ++ rest) = some (t, rest) := by
  rw [printNumber_integer ht]
  obtain ⟨neg, n, fr, ex⟩ := t
  simp only [NumberToken.isInteger, Bool.and_eq_true, Option.isNone_iff_eq_none] at ht
  obtain ⟨rfl, rfl⟩ := ht
  cases neg with
  | true => simpa [scanNumber] using scanUnsigned_decimal true n h
  | false =>
    obtain ⟨u, us, hu, -⟩ := decimal_cons n
    have hud := decimal_isDigit n u (by simp [hu])
    have hne : u ≠ 0x2D := by rintro rfl; exact absurd hud (by decide)
    have := scanUnsigned_decimal false n h
    simp only [hu, List.cons_append] at this
    simp [hu, scanNumber, hne, this]

/-! ## String literals -/

theorem hex4_unicodeEscape (u : UInt16) :
    hex4 (hexDigit (u.toNat / 0x1000 % 16)) (hexDigit (u.toNat / 0x100 % 16))
      (hexDigit (u.toNat / 0x10 % 16)) (hexDigit (u.toNat % 16)) = some u := by
  have h := u.toNat_lt
  simp only [hex4, hexValue_hexDigit _ (Nat.mod_lt _ (by norm_num : 16 > 0)), Option.bind_some,
    Option.map_some, Option.some.injEq]
  rw [show (((u.toNat / 0x1000 % 16 * 16 + u.toNat / 0x100 % 16) * 16 + u.toNat / 0x10 % 16) * 16 +
    u.toNat % 16) = u.toNat by omega]
  simp

/-- A unit that is neither a quote, a backslash nor a control character stands for
    itself. -/
theorem scanString_plain {u : UInt16} (h1 : u ≠ 0x22) (h2 : u ≠ 0x5C) (h3 : ¬ u.toNat < 0x20)
    (s : JsString) : scanString (u :: s) = (scanString s).map fun p => (u :: p.1, p.2) := by
  rw [scanString.eq_def]
  simp only [if_neg h1, if_neg h2, if_neg h3]

theorem scanString_simple {e v : UInt16} (he : e ≠ 0x75) (hv : simpleEscape e = some v)
    (s : JsString) :
    scanString (0x5C :: e :: s) = (scanString s).map fun p => (v :: p.1, p.2) := by
  rw [scanString.eq_def]
  simp [he, hv]

theorem scanString_unicode (u : UInt16) (s : JsString) :
    scanString (unicodeEscape u.toNat ++ s) = (scanString s).map fun p => (u :: p.1, p.2) := by
  rw [scanString.eq_def]
  simp [unicodeEscape, hex4_unicodeEscape]

theorem toUInt16_toNat_of_lt {n : ℕ} (h : n < 0x10000) : n.toUInt16.toNat = n := by simp; omega

/-- Reading one escaped code point. -/
theorem scanString_escape (c : CodePoint) (s : JsString) :
    scanString (escape c ++ s) = (scanString s).map fun p => (utf16 c ++ p.1, p.2) := by
  have hbmp : c.val < 0x10000 → utf16 c = [c.val.toUInt16] := fun h => by rw [utf16, if_pos h]
  fun_cases escape c
  -- the seven two-character escapes
  next h => rw [hbmp (by omega), h]; exact scanString_simple (by decide) rfl s
  next h => rw [hbmp (by omega), h]; exact scanString_simple (by decide) rfl s
  next h => rw [hbmp (by omega), h]; exact scanString_simple (by decide) rfl s
  next h => rw [hbmp (by omega), h]; exact scanString_simple (by decide) rfl s
  next h => rw [hbmp (by omega), h]; exact scanString_simple (by decide) rfl s
  next h => rw [hbmp (by omega), h]; exact scanString_simple (by decide) rfl s
  next h => rw [hbmp (by omega), h]; exact scanString_simple (by decide) rfl s
  next h8 =>
    -- a control character or a lone surrogate
    have hlt : c.val < 0x10000 := by
      simp only [isSurrogate, Bool.and_eq_true, decide_eq_true_eq] at h8; omega
    have := scanString_unicode c.val.toUInt16 s
    rw [toUInt16_toNat_of_lt hlt] at this
    rw [this, hbmp hlt]
    rfl
  next h6 h7 h8 =>
    -- a code point that stands for itself, in one or two units
    simp only [isSurrogate, Bool.and_eq_true, decide_eq_true_eq, not_or, not_and, not_lt] at h8
    have hc := c.isLt
    by_cases hlt : c.val < 0x10000
    · have hu := toUInt16_toNat_of_lt hlt
      rw [hbmp hlt, List.singleton_append, scanString_plain]
      · rfl
      · intro h; rw [h] at hu; exact h6 hu.symm
      · intro h; rw [h] at hu; exact h7 hu.symm
      · rw [hu]; omega
    · have e1 : (0xD800 + (c.val - 0x10000) / 0x400) < 0x10000 := by omega
      have e2 : (0xDC00 + (c.val - 0x10000) % 0x400) < 0x10000 := by omega
      have n1 := toUInt16_toNat_of_lt e1
      have n2 := toUInt16_toNat_of_lt e2
      rw [utf16, if_neg hlt, List.cons_append, List.singleton_append, scanString_plain,
        scanString_plain, Option.map_map]
      · rfl
      all_goals
        first
          | (rw [n1]; omega)
          | (rw [n2]; omega)
          | (intro h; rw [h] at n1; simp at n1; omega)
          | (intro h; rw [h] at n2; simp at n2; omega)

theorem scanString_flatMap_escape (cs : List CodePoint) (rest : JsString) :
    scanString (cs.flatMap escape ++ 0x22 :: rest) = some (cs.flatMap utf16, rest) := by
  induction cs with
  | nil => rw [scanString.eq_def]; rfl
  | cons c cs ih =>
    rw [List.flatMap_cons, List.append_assoc, scanString_escape, ih, List.flatMap_cons]
    rfl

/-- Reading a quoted string, after its opening quote. -/
theorem scanString_quote (s rest : JsString) :
    scanString ((codePoints s).flatMap escape ++ 0x22 :: rest) = some (s, rest) := by
  rw [scanString_flatMap_escape, flatMap_utf16_codePoints]

theorem quote_append (s rest : JsString) :
    quote s ++ rest = 0x22 :: ((codePoints s).flatMap escape ++ 0x22 :: rest) := by
  simp [quote]

/-! ## Values -/

mutual

/-- Every number of the value is spelled as an integer. -/
def Integral : Json → Prop
  | .number t => t.isInteger = true
  | .array xs => IntegralElements xs
  | .object ms => IntegralMembers ms
  | _ => True

def IntegralElements : List Json → Prop
  | [] => True
  | x :: xs => Integral x ∧ IntegralElements xs

def IntegralMembers : List (JsString × Json) → Prop
  | [] => True
  | (_, x) :: ms => Integral x ∧ IntegralMembers ms

end

mutual

/-- The fuel `parseValue` needs on the compact text of a value. -/
def need : Json → ℕ
  | .array xs => needElements xs + 1
  | .object ms => needMembers ms + 1
  | _ => 1

def needElements : List Json → ℕ
  | [] => 0
  | x :: xs => max (need x) (needElements xs) + 1

def needMembers : List (JsString × Json) → ℕ
  | [] => 0
  | (_, x) :: ms => max (need x) (needMembers ms) + 1

end

theorem skipWs_cons {u : UInt16} (h : isWs u = false) (s : JsString) :
    skipWs (u :: s) = u :: s := by
  rw [skipWs, List.dropWhile_cons, if_neg (by simp [h])]

/-- A value's text starts with a unit that is neither white space nor the closing
    bracket of an empty array. -/
theorem print_head (j : Json) (hj : Integral j) :
    ∃ u us, print j = u :: us ∧ isWs u = false ∧ u ≠ 0x5D := by
  cases j with
  | null => exact ⟨_, _, rfl, by decide, by decide⟩
  | bool b => cases b <;> exact ⟨_, _, rfl, by decide, by decide⟩
  | string s => exact ⟨_, _, rfl, by decide, by decide⟩
  | array xs => exact ⟨_, _, by rw [print], by decide, by decide⟩
  | object ms => exact ⟨_, _, by rw [print], by decide, by decide⟩
  | number t =>
    rw [Integral] at hj
    rw [print, printNumber_integer hj]
    cases t.negative with
    | true => exact ⟨_, _, rfl, by decide, by decide⟩
    | false =>
      obtain ⟨u, us, hu, -⟩ := decimal_cons t.integer
      have hd := decimal_isDigit t.integer u (by simp [hu])
      simp only [Bool.false_eq_true, if_false, List.nil_append]
      refine ⟨u, us, hu, ?_, by rintro rfl; exact absurd hd (by decide)⟩
      cases hw : isWs u with
      | false => rfl
      | true =>
        simp only [isWs, Bool.or_eq_true, decide_eq_true_eq] at hw
        rcases hw with ((rfl | rfl) | rfl) | rfl <;> exact absurd hd (by decide)

theorem parseValue_number {fuel : ℕ} {t : NumberToken} (ht : t.isInteger = true)
    {rest : JsString} (h : Follows rest) :
    parseValue (fuel + 1) (printNumber t ++ rest) = some (.number t, rest) := by
  have hscan := scanNumber_printNumber ht h
  -- the first unit is a sign or a digit, which no other branch of the reader takes
  have hhead : ∃ u us, printNumber t = u :: us ∧ (u = 0x2D ∨ isDigit u = true) := by
    rw [printNumber_integer ht]
    cases t.negative with
    | true => exact ⟨_, _, rfl, .inl rfl⟩
    | false =>
      obtain ⟨u, us, hu, -⟩ := decimal_cons t.integer
      exact ⟨u, us, by simpa using hu, .inr (decimal_isDigit t.integer u (by simp [hu]))⟩
  obtain ⟨u, us, hu, hhead⟩ := hhead
  rw [hu, List.cons_append] at hscan ⊢
  have hne : ∀ v : UInt16, isDigit v = false → v ≠ 0x2D → u ≠ v := by
    rintro v hv hv' rfl
    rcases hhead with h | h
    · exact hv' h
    · rw [hv] at h; cases h
  have hws : isWs u = false := by
    simp only [isWs, Bool.or_eq_false_iff, decide_eq_false_iff_not]
    exact ⟨⟨⟨hne _ (by decide) (by decide), hne _ (by decide) (by decide)⟩,
      hne _ (by decide) (by decide)⟩, hne _ (by decide) (by decide)⟩
  rw [parseValue, skipWs_cons hws]
  simp only [if_neg (hne 0x7B (by decide) (by decide)), if_neg (hne 0x5B (by decide) (by decide)),
    if_neg (hne 0x22 (by decide) (by decide)), if_neg (hne 0x74 (by decide) (by decide)),
    if_neg (hne 0x66 (by decide) (by decide)), if_neg (hne 0x6E (by decide) (by decide)), hscan,
    Option.map_some]

mutual

/-- The reader inverts the compact writer, on a value, ... -/
theorem parseValue_print (j : Json) (hj : Integral j) (fuel : ℕ) (hf : need j ≤ fuel)
    (rest : JsString) (hr : Follows rest) :
    parseValue fuel (print j ++ rest) = some (j, rest) := by
  obtain _ | fuel := fuel
  · cases j <;> simp [need] at hf
  match j, hj, hf with
  | .null, _, _ => rfl
  | .bool true, _, _ => rfl
  | .bool false, _, _ => rfl
  | .number t, hj, _ => rw [Integral] at hj; rw [print]; exact parseValue_number hj hr
  | .string s, _, _ =>
    rw [print, quote_append, parseValue, skipWs_cons (by decide)]
    simp [scanString_quote]
  | .array [], _, _ => rfl
  | .array (x :: xs), hj, hf =>
    rw [Integral] at hj
    obtain ⟨u, us, hu, hws, hne⟩ := print_head x hj.1
    have hhead : ∃ us', printElements (x :: xs) ++ 0x5D :: rest = u :: us' := by
      cases xs with
      | nil => exact ⟨us ++ 0x5D :: rest, by rw [printElements, hu]; rfl⟩
      | cons y ys => exact ⟨_, by rw [printElements, hu]; rfl⟩
    obtain ⟨us', hus'⟩ := hhead
    have ih := parseElements_print (x :: xs) (by simp) hj fuel (by rw [need] at hf; omega) rest
    have htext : print (.array (x :: xs)) ++ rest = 0x5B :: (printElements (x :: xs) ++ 0x5D :: rest) := by
      simp [print]
    rw [htext, parseValue, skipWs_cons (by decide)]
    rw [hus'] at ih ⊢
    simp only [skipWs_cons hws, if_neg hne, ih, Option.map_some]
    simp
  | .object [], _, _ => rfl
  | .object ((k, x) :: ms), hj, hf =>
    rw [Integral] at hj
    have hhead : ∃ us', printMembers ((k, x) :: ms) ++ 0x7D :: rest = 0x22 :: us' := by
      cases ms with
      | nil => exact ⟨_, by rw [printMembers, quote]; rfl⟩
      | cons m ms => exact ⟨_, by rw [printMembers, quote]; rfl⟩
    obtain ⟨us', hus'⟩ := hhead
    have ih := parseMembers_print ((k, x) :: ms) (by simp) hj fuel (by rw [need] at hf; omega) rest
    have htext : print (.object ((k, x) :: ms)) ++ rest =
        0x7B :: (printMembers ((k, x) :: ms) ++ 0x7D :: rest) := by
      simp [print]
    rw [htext, parseValue, skipWs_cons (by decide)]
    rw [hus'] at ih ⊢
    simp only [skipWs_cons (u := 0x22) (by decide), ih, Option.map_some]
    simp

/-- ... on the elements of an array, ... -/
theorem parseElements_print (xs : List Json) (hne : xs ≠ []) (hx : IntegralElements xs) (fuel : ℕ)
    (hf : needElements xs ≤ fuel) (rest : JsString) :
    parseElements fuel (printElements xs ++ 0x5D :: rest) = some (xs, rest) := by
  match xs, hne, hx, fuel, hf with
  | [x], _, hx, fuel + 1, hf =>
    rw [needElements] at hf
    have ih := parseValue_print x hx.1 fuel (by omega) (0x5D :: rest)
      (follows_cons (.inr (.inl rfl)) rest)
    rw [printElements, parseElements, ih, Option.bind_some]
    simp [skipWs_cons (u := 0x5D) (by decide)]
  | x :: y :: ys, _, hx, fuel + 1, hf =>
    rw [needElements] at hf
    have ih := parseValue_print x hx.1 fuel (by omega)
      (0x2C :: (printElements (y :: ys) ++ 0x5D :: rest)) (follows_cons (.inl rfl) _)
    have ihs := parseElements_print (y :: ys) (by simp) hx.2 fuel (by omega) rest
    have htext : printElements (x :: y :: ys) ++ 0x5D :: rest =
        print x ++ 0x2C :: (printElements (y :: ys) ++ 0x5D :: rest) := by
      simp [printElements]
    rw [htext, parseElements, ih, Option.bind_some]
    simp [skipWs_cons (u := 0x2C) (by decide), ihs]
  | [x], _, _, 0, hf => simp [needElements] at hf
  | x :: y :: ys, _, _, 0, hf => simp [needElements] at hf

/-- ... and on the members of an object. -/
theorem parseMembers_print (ms : List (JsString × Json)) (hne : ms ≠ []) (hm : IntegralMembers ms)
    (fuel : ℕ) (hf : needMembers ms ≤ fuel) (rest : JsString) :
    parseMembers fuel (printMembers ms ++ 0x7D :: rest) = some (ms, rest) := by
  match ms, hne, hm, fuel, hf with
  | [(k, x)], _, hm, fuel + 1, hf =>
    rw [needMembers] at hf
    have ih := parseValue_print x hm.1 fuel (by omega) (0x7D :: rest)
      (follows_cons (.inr (.inr rfl)) rest)
    have htext : printMembers [(k, x)] ++ 0x7D :: rest =
        quote k ++ 0x3A :: (print x ++ 0x7D :: rest) := by
      simp [printMembers]
    rw [htext, quote_append, parseMembers, skipWs_cons (by decide)]
    simp [scanString_quote, skipWs_cons (u := 0x3A) (by decide),
      skipWs_cons (u := 0x7D) (by decide), ih]
  | (k, x) :: m :: ms, _, hm, fuel + 1, hf =>
    rw [needMembers] at hf
    have ih := parseValue_print x hm.1 fuel (by omega)
      (0x2C :: (printMembers (m :: ms) ++ 0x7D :: rest)) (follows_cons (.inl rfl) _)
    have ihs := parseMembers_print (m :: ms) (by simp) hm.2 fuel (by omega) rest
    have htext : printMembers ((k, x) :: m :: ms) ++ 0x7D :: rest =
        quote k ++ 0x3A :: (print x ++ 0x2C :: (printMembers (m :: ms) ++ 0x7D :: rest)) := by
      simp [printMembers]
    rw [htext, quote_append, parseMembers, skipWs_cons (by decide)]
    simp [scanString_quote, skipWs_cons (u := 0x3A) (by decide),
      skipWs_cons (u := 0x2C) (by decide), ih, ihs]
  | [(k, x)], _, _, 0, hf => simp [needMembers] at hf
  | (k, x) :: m :: ms, _, _, 0, hf => simp [needMembers] at hf

end

mutual

theorem need_le (j : Json) (hj : Integral j) : need j ≤ 2 * (print j).length := by
  obtain ⟨u, us, hu, -, -⟩ := print_head j hj
  have hpos : 1 ≤ (print j).length := by simp [hu]
  match j, hj with
  | .null, _ | .bool _, _ | .number _, _ | .string _, _ => rw [need] <;> first | omega | simp
  | .array xs, hj =>
    have := needElements_le xs (by rwa [Integral] at hj)
    simp only [need, print, List.length_cons, List.length_append, List.length_nil]
    omega
  | .object ms, hj =>
    have := needMembers_le ms (by rwa [Integral] at hj)
    simp only [need, print, List.length_cons, List.length_append, List.length_nil]
    omega

theorem needElements_le (xs : List Json) (hx : IntegralElements xs) :
    needElements xs ≤ 2 * (printElements xs).length + 1 := by
  match xs, hx with
  | [], _ => simp [needElements]
  | [x], hx =>
    have := need_le x hx.1
    simp only [needElements, printElements]
    omega
  | x :: y :: ys, hx =>
    have := need_le x hx.1
    have := needElements_le (y :: ys) hx.2
    rw [needElements, printElements]
    simp only [List.length_append, List.length_cons]
    omega

theorem needMembers_le (ms : List (JsString × Json)) (hm : IntegralMembers ms) :
    needMembers ms ≤ 2 * (printMembers ms).length + 1 := by
  match ms, hm with
  | [], _ => simp [needMembers]
  | [(k, x)], hm =>
    have := need_le x hm.1
    simp only [needMembers, printMembers, List.length_append, List.length_cons]
    omega
  | (k, x) :: m :: ms, hm =>
    have := need_le x hm.1
    have := needMembers_le (m :: ms) hm.2
    rw [needMembers, printMembers]
    simp only [List.length_append, List.length_cons]
    omega

end

/-- Reading a compact text gives the value it was written from. -/
theorem parse_print (j : Json) (hj : Integral j) : parse (print j) = some j := by
  have hfuel : need j ≤ textFuel (print j) := by
    have := need_le j hj
    rw [textFuel]; omega
  have := parseValue_print j hj _ hfuel [] follows_nil
  rw [List.append_nil] at this
  rw [parse, this]
  rfl

/-- A compact text determines its value. -/
theorem print_injective {j k : Json} (hj : Integral j) (hk : Integral k)
    (h : print j = print k) : j = k := by
  have := parse_print j hj
  rw [h, parse_print k hk] at this
  exact (Option.some.inj this).symm

end OpenRisk.Json
