import OpenRisk.Json.Syntax

/-!
# JavaScript numbers

The Number values a JSON text can denote, and the rounding of an exact decimal
to the nearest binary64 number, ties to even. The value of a finite number is an
exact rational; `-0` is a value of its own.

Results:
* `numberOfToken_isSafeInteger`: a number spelled as an integer is read as a safe
  integer exactly when it is below `2^53` in absolute value.
* `numberOfToken_safe`: it is then read exactly.
-/

namespace OpenRisk

/-- A Number value. -/
inductive JsNumber where
  | finite (q : ℚ)
  | negativeZero
  | infinity (negative : Bool)
  | nan
  deriving DecidableEq

namespace JsNumber

/-- `Number.MAX_SAFE_INTEGER`. -/
def maxSafeInteger : ℕ := 2 ^ 53 - 1

/-- `Number.isSafeInteger`. -/
def isSafeInteger : JsNumber → Bool
  | .finite q => q.den = 1 && q.num.natAbs ≤ maxSafeInteger
  | .negativeZero => true
  | .infinity _ => false
  | .nan => false

/-- The mathematical value of a safe integer (`-0` counts as `0`). -/
def toInt : JsNumber → ℤ
  | .finite q => q.num
  | _ => 0

/-- The number of an integer. -/
def ofInt (n : ℤ) : JsNumber := .finite n

/-- `String(x)` for an integer `x` below `10^21` in absolute value, the only
    numbers the modelled code converts (it tests `Number.isSafeInteger` first). -/
def text (x : JsNumber) : Text.JsString := Json.decimalInt x.toInt

theorem isSafeInteger_ofInt (n : ℤ) :
    (ofInt n).isSafeInteger = true ↔ n.natAbs ≤ maxSafeInteger := by
  rw [ofInt, isSafeInteger, Bool.and_eq_true, decide_eq_true_iff, decide_eq_true_iff,
    Rat.den_intCast, Rat.num_intCast, and_iff_right rfl]

@[simp] theorem toInt_ofInt (n : ℤ) : (ofInt n).toInt = n := by simp [ofInt, toInt]

/-- Safe integers are the integers, with `-0` beside `0`. -/
theorem eq_of_isSafeInteger {x : JsNumber} (h : x.isSafeInteger = true) :
    x = ofInt x.toInt ∨ x = .negativeZero := by
  cases x with
  | finite q =>
    simp only [isSafeInteger, Bool.and_eq_true, decide_eq_true_eq] at h
    left
    rw [ofInt, toInt, JsNumber.finite.injEq]
    exact (Rat.den_eq_one_iff q).mp h.1 |>.symm
  | negativeZero => exact .inr rfl
  | infinity _ => cases h
  | nan => cases h

/-! ## Rounding to binary64 -/

/-- The nearest integer, the even one on a tie. -/
def roundHalfEven (x : ℚ) : ℤ :=
  let f := ⌊x⌋
  if x - f < 1 / 2 then f else if 1 / 2 < x - f then f + 1 else if f % 2 = 0 then f else f + 1

/-- The distance of binary64 numbers around `x`, subnormal numbers included. -/
def quantum (x : ℚ) : ℚ := 2 ^ (max (Int.log 2 x) (-1022) - 52)

/-- The binary64 number nearest to `± x`, for `0 ≤ x`. -/
def roundBinary64 (negative : Bool) (x : ℚ) : JsNumber :=
  let m := (roundHalfEven (x / quantum x) : ℚ) * quantum x
  if (2 : ℚ) ^ 1024 ≤ m then .infinity negative
  else if m = 0 then (if negative then .negativeZero else .finite 0)
  else .finite (if negative then -m else m)

/-- The digits after the point, as a fraction. -/
def fractionValue (ds : List (Fin 10)) : ℚ := ds.foldr (fun d acc => (d.val + acc) / 10) 0

/-- The exact absolute value of a number token. -/
def tokenMagnitude (t : NumberToken) : ℚ :=
  (t.integer + fractionValue (t.fraction.getD [])) * (10 : ℚ) ^ (t.exponent.getD 0)

/-- The Number value of a number token. -/
def numberOfToken (t : NumberToken) : JsNumber := roundBinary64 t.negative (tokenMagnitude t)


/-! ## Integers below `2^53` are exact -/

theorem roundHalfEven_intCast (n : ℤ) : roundHalfEven (n : ℚ) = n := by
  simp [roundHalfEven]

theorem floor_le_roundHalfEven (x : ℚ) : ⌊x⌋ ≤ roundHalfEven x := by
  unfold roundHalfEven
  simp only
  split_ifs <;> omega

theorem tokenMagnitude_integer {t : NumberToken} (h : t.isInteger = true) :
    tokenMagnitude t = t.integer := by
  simp only [NumberToken.isInteger, Bool.and_eq_true, Option.isNone_iff_eq_none] at h
  simp [tokenMagnitude, fractionValue, h.1, h.2]

theorem log_natCast_rat (n : ℕ) : Int.log 2 (n : ℚ) = Nat.log 2 n := by
  exact_mod_cast Int.log_natCast (R := ℚ) 2 n

theorem quantum_natCast (n : ℕ) : quantum n = 2 ^ ((Nat.log 2 n : ℤ) - 52) := by
  have h : max ((Nat.log 2 n : ℕ) : ℤ) (-1022) = Nat.log 2 n := by omega
  rw [quantum, log_natCast_rat, h]

/-- Below `2^53` the quantum divides every integer, so rounding is exact. -/
theorem roundBinary64_of_lt (negative : Bool) {n : ℕ} (h : n < 2 ^ 53) :
    roundBinary64 negative n =
      if n = 0 then (if negative then .negativeZero else .finite 0)
      else .finite (if negative then -n else n) := by
  have hlog : Nat.log 2 n ≤ 52 := by
    have := Nat.log_lt_of_lt_pow' (b := 2) (x := 53) (y := n) (by norm_num) h
    omega
  have hq : (n : ℚ) / quantum n = ((n * 2 ^ (52 - Nat.log 2 n) : ℕ) : ℤ) := by
    rw [quantum_natCast, show ((Nat.log 2 n : ℕ) : ℤ) - 52 = -((52 - Nat.log 2 n : ℕ) : ℤ) by omega,
      zpow_neg, zpow_natCast]
    push_cast
    field_simp
  have hm : (roundHalfEven ((n : ℚ) / quantum n) : ℚ) * quantum n = n := by
    rw [hq, roundHalfEven_intCast, ← hq]
    exact div_mul_cancel₀ _ (by rw [quantum_natCast]; positivity)
  have hlt : ¬ (2 : ℚ) ^ 1024 ≤ n := by
    have h1 : (n : ℚ) < 2 ^ 53 := by exact_mod_cast h
    have h2 : (2 : ℚ) ^ 53 ≤ 2 ^ 1024 := pow_le_pow_right₀ (by norm_num) (by norm_num)
    exact not_le.mpr (lt_of_lt_of_le h1 h2)
  simp only [roundBinary64, hm, if_neg hlt, Nat.cast_eq_zero]

/-- From `2^53` on the rounded value stays at or above `2^53`. -/
theorem not_isSafeInteger_roundBinary64 (negative : Bool) {n : ℕ} (h : 2 ^ 53 ≤ n) :
    (roundBinary64 negative n).isSafeInteger = false := by
  have hn : n ≠ 0 := by omega
  have hlog : 53 ≤ Nat.log 2 n := (Nat.le_log_iff_pow_le (by norm_num) hn).mpr h
  have hpow : 2 ^ Nat.log 2 n ≤ n := Nat.pow_log_le_self 2 hn
  have hquantum : quantum n = 2 ^ (Nat.log 2 n - 52) := by
    rw [quantum_natCast, show ((Nat.log 2 n : ℕ) : ℤ) - 52 = ((Nat.log 2 n - 52 : ℕ) : ℤ) by omega,
      zpow_natCast]
  have hq : (0 : ℚ) < quantum n := by rw [hquantum]; positivity
  have hfloor : (2 : ℤ) ^ 52 ≤ roundHalfEven ((n : ℚ) / quantum n) := by
    refine le_trans (Int.le_floor.mpr ?_) (floor_le_roundHalfEven _)
    rw [le_div_iff₀ hq, hquantum, Int.cast_pow, Int.cast_ofNat, ← pow_add,
      show 52 + (Nat.log 2 n - 52) = Nat.log 2 n by omega]
    exact_mod_cast hpow
  set m := (roundHalfEven ((n : ℚ) / quantum n) : ℚ) * quantum n with hm
  have hge : (2 : ℚ) ^ 53 ≤ m := by
    have h1 : ((2 : ℤ) ^ 52 : ℚ) ≤ (roundHalfEven ((n : ℚ) / quantum n) : ℚ) := by exact_mod_cast hfloor
    calc (2 : ℚ) ^ 53 = 2 ^ 52 * 2 := by norm_num
      _ ≤ (roundHalfEven ((n : ℚ) / quantum n) : ℚ) * quantum n := by
        refine mul_le_mul (by exact_mod_cast h1) ?_ (by norm_num) (by linarith [h1, (by positivity : (0:ℚ) ≤ ((2 : ℤ) ^ 52 : ℚ))])
        rw [hquantum]
        calc (2 : ℚ) = 2 ^ 1 := by norm_num
          _ ≤ 2 ^ (Nat.log 2 n - 52) := pow_le_pow_right₀ (by norm_num) (by omega)
  have hm0 : m ≠ 0 := by intro h0; rw [h0] at hge; norm_num at hge
  have hbig : ∀ q : ℚ, (q = m ∨ q = -m) → (JsNumber.finite q).isSafeInteger = false := by
    intro q hqm
    cases hs : (JsNumber.finite q).isSafeInteger with
    | false => rfl
    | true =>
      simp only [isSafeInteger, Bool.and_eq_true, decide_eq_true_eq] at hs
      have hqn : q = q.num := ((Rat.den_eq_one_iff q).mp hs.1).symm
      have habs : |q| = ((q.num.natAbs : ℕ) : ℚ) := by
        rw [Nat.cast_natAbs, Int.cast_abs, ← hqn]
      have hle : ((q.num.natAbs : ℕ) : ℚ) ≤ (maxSafeInteger : ℕ) := by exact_mod_cast hs.2
      have hqabs : |q| = m := by
        rcases hqm with rfl | rfl
        · exact abs_of_nonneg (by linarith [(by norm_num : (0:ℚ) ≤ 2 ^ 53)])
        · rw [abs_neg]; exact abs_of_nonneg (by linarith [(by norm_num : (0:ℚ) ≤ 2 ^ 53)])
      rw [← habs, hqabs] at hle
      have : ((maxSafeInteger : ℕ) : ℚ) < 2 ^ 53 := by norm_num [maxSafeInteger]
      linarith
  simp only [roundBinary64, ← hm, if_neg hm0]
  split_ifs
  · rfl
  · exact hbig _ (.inr rfl)
  · exact hbig _ (.inl rfl)

/-- The integer a token spells. -/
def tokenInt (t : NumberToken) : ℤ := if t.negative then -t.integer else t.integer

/-- A number spelled as an integer is safe exactly when it is below `2^53`. -/
theorem numberOfToken_isSafeInteger {t : NumberToken} (h : t.isInteger = true) :
    (numberOfToken t).isSafeInteger = true ↔ t.integer ≤ maxSafeInteger := by
  rw [numberOfToken, tokenMagnitude_integer h]
  by_cases hlt : t.integer < 2 ^ 53
  · have hle : t.integer ≤ maxSafeInteger := by unfold maxSafeInteger; omega
    simp only [hle, iff_true]
    rw [roundBinary64_of_lt _ hlt]
    split_ifs
    · rfl
    · rfl
    · simp [isSafeInteger, hle]
    · simp [isSafeInteger, hle]
  · rw [not_isSafeInteger_roundBinary64 _ (by omega)]
    simp [maxSafeInteger]; omega

/-- A safe integer is read exactly. -/
theorem numberOfToken_safe {t : NumberToken} (h : t.isInteger = true)
    (hs : t.integer ≤ maxSafeInteger) : (numberOfToken t).toInt = tokenInt t := by
  have hlt : t.integer < 2 ^ 53 := by unfold maxSafeInteger at hs; omega
  rw [numberOfToken, tokenMagnitude_integer h, roundBinary64_of_lt _ hlt, tokenInt]
  split_ifs with h0 hneg hneg <;> simp_all [toInt]

end JsNumber

end OpenRisk
