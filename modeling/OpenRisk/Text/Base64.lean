import OpenRisk.Text.Scalar

/-!
# Base64

`encode` is the base64 text of bytes with the standard alphabet and padding, and `decode`
reads the characters of the alphabet up to the first `=`, as lenient readers do: the bits
that do not fill a byte are dropped.

Results:
* `decode_encode`: reading what was written.
* `length_encode`, `isPadded_encode`: the shape of the text.
-/

namespace OpenRisk.Text.Base64

/-- The character of a number below 64. -/
def digit (n : ℕ) : UInt16 :=
  if n < 26 then (n + 0x41).toUInt16
  else if n < 52 then (n - 26 + 0x61).toUInt16
  else if n < 62 then (n - 52 + 0x30).toUInt16
  else if n = 62 then 0x2B
  else 0x2F

/-- The number of a character of the alphabet. -/
def value (u : UInt16) : Option ℕ :=
  if 0x41 ≤ u.toNat ∧ u.toNat ≤ 0x5A then some (u.toNat - 0x41)
  else if 0x61 ≤ u.toNat ∧ u.toNat ≤ 0x7A then some (u.toNat - 0x61 + 26)
  else if 0x30 ≤ u.toNat ∧ u.toNat ≤ 0x39 then some (u.toNat - 0x30 + 52)
  else if u = 0x2B then some 62
  else if u = 0x2F then some 63
  else none

/-- The padding character `=`. -/
def pad : UInt16 := 0x3D

theorem value_digit : ∀ n < 64, value (digit n) = some n := by decide

theorem value_pad : value pad = none := by decide

/-- `bytes.toString('base64')`. -/
def encode : List UInt8 → JsString
  | [] => []
  | [a] => [digit (a.toNat / 4), digit (a.toNat % 4 * 16), pad, pad]
  | [a, b] =>
    [digit (a.toNat / 4), digit (a.toNat % 4 * 16 + b.toNat / 16), digit (b.toNat % 16 * 4), pad]
  | a :: b :: c :: rest =>
    digit (a.toNat / 4) :: digit (a.toNat % 4 * 16 + b.toNat / 16) ::
      digit (b.toNat % 16 * 4 + c.toNat / 64) :: digit (c.toNat % 64) :: encode rest

/-- The bytes of a sequence of six-bit numbers. -/
def bytes : List ℕ → List UInt8
  | w :: x :: y :: z :: rest =>
    (w * 4 + x / 16).toUInt8 :: (x % 16 * 16 + y / 4).toUInt8 :: (y % 4 * 64 + z).toUInt8 ::
      bytes rest
  | [w, x, y] => [(w * 4 + x / 16).toUInt8, (x % 16 * 16 + y / 4).toUInt8]
  | [w, x] => [(w * 4 + x / 16).toUInt8]
  | _ => []

/-- The six-bit numbers of a text. -/
def sextets (s : JsString) : List ℕ := (s.takeWhile (· ≠ pad)).filterMap value

/-- `Buffer.from(text, 'base64')` of a text over the alphabet and `=`. -/
def decode (s : JsString) : List UInt8 := bytes (sextets s)

theorem digit_ne_pad : ∀ n < 64, digit n ≠ pad := by decide

theorem sextets_digit_cons {n : ℕ} (h : n < 64) (s : JsString) :
    sextets (digit n :: s) = n :: sextets s := by
  rw [sextets, List.takeWhile_cons_of_pos (by simpa using digit_ne_pad n h),
    List.filterMap_cons_some (value_digit n h)]
  rfl

theorem sextets_pad_cons (s : JsString) : sextets (pad :: s) = [] := by
  rw [sextets, List.takeWhile_cons_of_neg (by simp)]
  rfl

/-- Reading what was written. -/
theorem decode_encode (bs : List UInt8) : decode (encode bs) = bs := by
  unfold decode
  induction bs using encode.induct with
  | case1 => rfl
  | case2 a =>
    have ha := a.toNat_lt
    rw [encode, sextets_digit_cons (by omega), sextets_digit_cons (by omega), sextets_pad_cons,
      bytes, toUInt8_of_eq (b := a) (by omega)]
  | case3 a b =>
    have ha := a.toNat_lt
    have hb := b.toNat_lt
    rw [encode, sextets_digit_cons (by omega), sextets_digit_cons (by omega),
      sextets_digit_cons (by omega), sextets_pad_cons, bytes, toUInt8_of_eq (b := a) (by omega),
      toUInt8_of_eq (b := b) (by omega)]
  | case4 a b c rest ih =>
    have ha := a.toNat_lt
    have hb := b.toNat_lt
    have hc := c.toNat_lt
    rw [encode, sextets_digit_cons (by omega), sextets_digit_cons (by omega),
      sextets_digit_cons (by omega), sextets_digit_cons (by omega), bytes, ih,
      toUInt8_of_eq (b := a) (by omega), toUInt8_of_eq (b := b) (by omega),
      toUInt8_of_eq (b := c) (by omega)]

theorem length_encode (bs : List UInt8) : (encode bs).length = 4 * ((bs.length + 2) / 3) := by
  induction bs using encode.induct with
  | case1 => rfl
  | case2 a => simp [encode]
  | case3 a b => simp [encode]
  | case4 a b c rest ih =>
    simp only [encode, List.length_cons, ih]
    omega

/-- `/^[A-Za-z0-9+/]+={0,2}$/`. -/
def isPadded (s : JsString) : Bool :=
  let tail := s.dropWhile fun u => (value u).isSome
  (s.head?.bind value).isSome && tail.length ≤ 2 && tail.all (· = pad)

theorem isPadded_digit_cons {n : ℕ} (h : n < 64) {s : JsString}
    (hs : s = [] ∨ s = [pad] ∨ s = [pad, pad] ∨ isPadded s = true) :
    isPadded (digit n :: s) = true := by
  have hsome : (value (digit n)).isSome = true := by rw [value_digit n h]; rfl
  simp only [isPadded, List.head?_cons, Option.bind_some, hsome, Bool.true_and,
    List.dropWhile_cons_of_pos]
  rcases hs with rfl | rfl | rfl | hs
  · rfl
  · decide
  · decide
  · simp only [isPadded, Bool.and_eq_true] at hs ⊢
    exact ⟨hs.1.2, hs.2⟩

theorem isPadded_encode {bs : List UInt8} (h : bs ≠ []) : isPadded (encode bs) = true := by
  induction bs using encode.induct with
  | case1 => exact absurd rfl h
  | case2 a =>
    have ha := a.toNat_lt
    exact isPadded_digit_cons (by omega) (.inr (.inr (.inr
      (isPadded_digit_cons (by omega) (.inr (.inr (.inl rfl)))))))
  | case3 a b =>
    have ha := a.toNat_lt
    have hb := b.toNat_lt
    exact isPadded_digit_cons (by omega) (.inr (.inr (.inr (isPadded_digit_cons (by omega)
      (.inr (.inr (.inr (isPadded_digit_cons (by omega) (.inr (.inl rfl))))))))))
  | case4 a b c rest ih =>
    have ha := a.toNat_lt
    have hb := b.toNat_lt
    have hc := c.toNat_lt
    have hrest : encode rest = [] ∨ isPadded (encode rest) = true := by
      by_cases hr : rest = []
      · left
        rw [hr]
        rfl
      · right
        exact ih hr
    have hlast : isPadded (digit (c.toNat % 64) :: encode rest) = true := by
      apply isPadded_digit_cons (by omega)
      rcases hrest with hr | hr
      · exact .inl hr
      · exact .inr (.inr (.inr hr))
    exact isPadded_digit_cons (by omega) (.inr (.inr (.inr (isPadded_digit_cons (by omega)
      (.inr (.inr (.inr (isPadded_digit_cons (by omega) (.inr (.inr (.inr hlast)))))))))))

example : encode [0x4D, 0x61, 0x6E, 0x4D] = js "TWFuTQ==" := by decide

end OpenRisk.Text.Base64
