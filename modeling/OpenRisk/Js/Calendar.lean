import OpenRisk.Js.Date
import OpenRisk.Json.RoundTrip

/-!
# The order of ISO texts

`toISOString` writes years outside 0..9999 with a sign, so that the order of two texts as
strings is the order of the instants only within one kind of year.

Results:
* `civil_lt`: a later day has a later date.
* `compare_toISOString`: the order of two texts.
* `le_iff_of_text_le`: for texts in string order, the instants are in order exactly when no
  year is passed backwards (`YearDrop`).
* `isoReader_readsIso`: there is a reader of all texts that `toISOString` writes.
-/

namespace OpenRisk

open Text

namespace Date

/-! ## Dates -/

/-- The day number of the first of March of a year, up to a constant. -/
def yearStart (year : ℤ) : ℤ := 365 * year + year / 4 - year / 100 + year / 400

theorem yearStart_lt {y y' : ℤ} (h : y < y') : yearStart y < yearStart y' := by
  unfold yearStart
  omega

/-- 400 years have 146097 days. -/
theorem yearStart_add (year era : ℤ) :
    yearStart (year + era * 400) = 146097 * era + yearStart year := by
  have h4 : (year + era * 400) / 4 = year / 4 + era * 100 := by omega
  have h100 : (year + era * 400) / 100 = year / 100 + era * 4 := by omega
  have h400 : (year + era * 400) / 400 = year / 400 + era := by omega
  unfold yearStart
  omega

/-- Year, month and day of a day in a year that starts in March. -/
def civilOf (year doy : ℤ) : ℤ × ℤ × ℤ :=
  let mp := (5 * doy + 2) / 153
  let month := if mp < 10 then mp + 3 else mp - 9
  (year + if month ≤ 2 then 1 else 0, month, doy - (153 * mp + 2) / 5 + 1)

/-- A day in the century `f`, when `e` periods of 1460 days have passed. -/
theorem yearOfCentury_bounds {doe e f q : ℤ} (hf0 : 0 ≤ f) (hf3 : f ≤ 3)
    (he : 1460 * e ≤ doe ∧ doe < 1460 * e + 1460) (hf : 36524 * f ≤ doe ∧ doe < 36524 * f + 36524)
    (hq : 365 * q ≤ doe - e + f ∧ doe - e + f < 365 * q + 365) :
    100 * f ≤ q ∧ q ≤ 100 * f + 99 ∧ q ≤ 4 * e + 3 ∧ 4 * e ≤ q + 1 := by
  have he0 : 25 * f ≤ e := by omega
  have he1 : e ≤ 25 * f + 25 := by omega
  refine ⟨?_, ?_, ?_, ?_⟩
  · rcases he0.eq_or_lt with h | h
    · omega
    · omega
  · rcases he1.eq_or_lt with h | h
    · omega
    · omega
  · omega
  · omega

/-- The year of a day in a period of 400 years. -/
theorem yearOfEra_bounds {doe e f g q : ℤ} (h0 : 0 ≤ doe) (h1 : doe ≤ 146096) (he : e = doe / 1460)
    (hf : f = doe / 36524) (hg : g = doe / 146096) (hq : q = (doe - e + f - g) / 365) :
    0 ≤ q ∧ q ≤ 399 ∧ yearStart q ≤ doe ∧ doe < yearStart (q + 1) := by
  have hf4 : f ≤ 4 := by omega
  unfold yearStart
  rcases hf4.lt_or_eq with hlt | hlast
  · have hg0 : g = 0 := by omega
    rw [hg0, sub_zero] at hq
    have he' : 1460 * e ≤ doe ∧ doe < 1460 * e + 1460 := by omega
    have hf' : 36524 * f ≤ doe ∧ doe < 36524 * f + 36524 := by omega
    have hq' : 365 * q ≤ doe - e + f ∧ doe - e + f < 365 * q + 365 := by omega
    have hf0 : 0 ≤ f := by omega
    clear he hf hg hq
    obtain ⟨hfirst, hlast, hleap, hnext⟩ := yearOfCentury_bounds hf0 (by omega) he' hf' hq'
    have hcentury : q / 100 = f := by omega
    have hera : q / 400 = 0 := by omega
    rw [hcentury, hera]
    refine ⟨by omega, by omega, by omega, ?_⟩
    -- the last year of a century ends with it
    by_cases hend : q = 100 * f + 99
    · omega
    · have hsame : (q + 1) / 100 = f := by omega
      have hdays : e ≤ (q + 1) / 4 := by omega
      omega
  · -- the last day of the period
    have hdoe : doe = 146096 := by omega
    subst hdoe
    omega

theorem civil_spec (days : ℤ) : ∃ year doy, civil days = civilOf year doy ∧
    days + 719468 = yearStart year + doy ∧ 0 ≤ doy ∧ days + 719468 < yearStart (year + 1) := by
  have h0 : 0 ≤ (days + 719468) % 146097 := by omega
  have h1 : (days + 719468) % 146097 ≤ 146096 := by omega
  obtain ⟨hq0, hq1, hlow, hhigh⟩ := yearOfEra_bounds h0 h1 rfl rfl rfl rfl
  set doe := (days + 719468) % 146097 with hdoe
  set era := (days + 719468) / 146097 with hera
  set yoe := (doe - doe / 1460 + doe / 36524 - doe / 146096) / 365 with hyoe
  have hsplit : days + 719468 = 146097 * era + doe := by omega
  have hstart := yearStart_add yoe era
  have hnext : yearStart (yoe + era * 400 + 1) = 146097 * era + yearStart (yoe + 1) := by
    rw [← yearStart_add]
    congr 1
    omega
  have hzero : yearStart yoe = 365 * yoe + yoe / 4 - yoe / 100 := by
    unfold yearStart
    omega
  refine ⟨yoe + era * 400, doe - (365 * yoe + yoe / 4 - yoe / 100), rfl, ?_, ?_, ?_⟩
  · omega
  · omega
  · omega

/-- A year has at most 366 days. -/
theorem yearStart_succ_le (year : ℤ) : yearStart (year + 1) ≤ yearStart year + 366 := by
  unfold yearStart
  omega

/-- The month counted from the year 0, the day and their bounds. -/
theorem civilOf_spec (year : ℤ) {doy : ℤ} (h0 : 0 ≤ doy) (h1 : doy ≤ 365) :
    ∃ y m d, civilOf year doy = (y, m, d) ∧ 1 ≤ m ∧ m ≤ 12 ∧ 1 ≤ d ∧ d ≤ 31 ∧
      12 * y + m = 12 * year + (5 * doy + 2) / 153 + 3 ∧
      d = doy - (153 * ((5 * doy + 2) / 153) + 2) / 5 + 1 := by
  refine ⟨_, _, _, rfl, ?_⟩
  split_ifs <;> omega

/-- Dates in the order of year, month and day. -/
def DateLt (a b : ℤ × ℤ × ℤ) : Prop :=
  a.1 < b.1 ∨ a.1 = b.1 ∧ (a.2.1 < b.2.1 ∨ a.2.1 = b.2.1 ∧ a.2.2 < b.2.2)

/-- A later day has a later date. -/
theorem civil_lt {days days' : ℤ} (h : days < days') : DateLt (civil days) (civil days') := by
  obtain ⟨year, doy, hcivil, hdays, h0, hend⟩ := civil_spec days
  obtain ⟨year', doy', hcivil', hdays', h0', hend'⟩ := civil_spec days'
  have hlen := yearStart_succ_le year
  have hlen' := yearStart_succ_le year'
  obtain ⟨y, m, d, heq, hm0, hm1, hd0, hd1, hmonth, hday⟩ := civilOf_spec year h0 (by omega)
  obtain ⟨y', m', d', heq', hm0', hm1', hd0', hd1', hmonth', hday'⟩ :=
    civilOf_spec year' h0' (by omega)
  rw [hcivil, hcivil', heq, heq']
  have hyear : year ≤ year' := by
    by_contra hlt
    have hle : yearStart (year' + 1) ≤ yearStart year := by
      rcases eq_or_lt_of_le (show year' + 1 ≤ year by omega) with he | hl
      · rw [he]
      · exact (yearStart_lt hl).le
    omega
  unfold DateLt
  rcases eq_or_lt_of_le hyear with rfl | hlt
  · have hdoy : doy < doy' := by omega
    dsimp only
    omega
  · dsimp only
    omega

/-- The year of an instant. -/
def yearOf (t : ℤ) : ℤ := (civil (t / msPerDay)).1

theorem yearOf_le {t t' : ℤ} (h : t ≤ t') : yearOf t ≤ yearOf t' := by
  have hdays : t / msPerDay ≤ t' / msPerDay := Int.ediv_le_ediv (by decide) h
  rcases eq_or_lt_of_le hdays with heq | hlt
  · rw [yearOf, heq, yearOf]
  · rcases civil_lt hlt with hyear | ⟨hyear, -⟩
    · exact hyear.le
    · exact hyear.le

theorem civil_bounds (days : ℤ) : ∃ y m d, civil days = (y, m, d) ∧ 1 ≤ m ∧ m ≤ 12 ∧ 1 ≤ d ∧ d ≤ 31 := by
  obtain ⟨year, doy, hcivil, hdays, h0, hend⟩ := civil_spec days
  have hlen := yearStart_succ_le year
  obtain ⟨y, m, d, heq, hm0, hm1, hd0, hd1, -⟩ := civilOf_spec year h0 (by omega)
  exact ⟨y, m, d, hcivil.trans heq, hm0, hm1, hd0, hd1⟩

/-- A year of a time value has at most six digits. -/
theorem natAbs_yearOf_lt {t : ℤ} (ht : t.natAbs ≤ maxTimeValue) : (yearOf t).natAbs < 10 ^ 6 := by
  obtain ⟨year, doy, hcivil, hdays, h0, hend⟩ := civil_spec (t / msPerDay)
  have hlen := yearStart_succ_le year
  have hdoy : doy ≤ 365 := by omega
  obtain ⟨y, m, d, heq, hm0, hm1, -, -, hmonth, -⟩ := civilOf_spec year h0 hdoy
  rw [yearOf, hcivil, heq]
  unfold maxTimeValue at ht
  unfold msPerDay yearStart at hdays
  dsimp only
  omega

/-! ## Texts -/

/-- The order of two texts whose first parts have the same length. -/
theorem compare_append {a a' b b' : JsString} (h : a.length = a'.length) :
    compare (a ++ b) (a' ++ b') = (compare a a').then (compare b b') := by
  induction a generalizing a' with
  | nil =>
    cases a' with
    | nil => simp
    | cons u a' => cases h
  | cons u a ih =>
    cases a' with
    | nil => cases h
    | cons u' a' =>
      rw [List.cons_append, List.cons_append, List.compare_cons_cons, List.compare_cons_cons,
        ih (Nat.succ.inj h)]
      cases compare u u' <;> rfl

theorem compare_cons_self (u : UInt16) (a b : JsString) : compare (u :: a) (u :: b) = compare a b := by
  rw [List.compare_cons_cons, (Std.ReflOrd.compare_self : compare u u = .eq)]
  rfl

theorem decimal_succ {n : ℕ} (h : 10 ≤ n) :
    Json.decimal n = Json.decimal (n / 10) ++ [Json.hexDigit (n % 10)] := by
  have hne : n ≠ 0 := by omega
  have hne' : n / 10 ≠ 0 := by omega
  rw [Json.decimal, Json.decimal, Json.radixText, Json.radixText, if_neg hne, if_neg hne',
    Nat.digits_def' (by decide) (by omega)]
  simp

theorem decimal_digit {n : ℕ} (h : n < 10) : Json.decimal n = [Json.hexDigit n] := by
  interval_cases n <;> decide

theorem padded_one {n : ℕ} (h : n < 10) : padded 1 n = [Json.hexDigit n] := by
  rw [padded, decimal_digit h]
  rfl

theorem padded_succ {w n : ℕ} (hw : 1 ≤ w) :
    padded (w + 1) n = padded w (n / 10) ++ [Json.hexDigit (n % 10)] := by
  by_cases h : 10 ≤ n
  · rw [padded, padded, decimal_succ h, List.length_append, List.length_singleton,
      Nat.add_sub_add_right, List.append_assoc]
  · have h0 : n / 10 = 0 := by omega
    have hmod : n % 10 = n := by omega
    rw [padded, padded, h0, hmod, decimal_digit (by omega), decimal_digit (by omega)]
    obtain ⟨v, rfl⟩ : ∃ v, w = v + 1 := ⟨w - 1, by omega⟩
    simp [List.replicate_succ', Json.hexDigit]

/-- Numbers are compared by their quotients and then by their remainders. -/
theorem compare_divMod (k x y : ℕ) :
    (compare (x / k) (y / k)).then (compare (x % k) (y % k)) = compare x y := by
  have hx := Nat.div_add_mod x k
  have hy := Nat.div_add_mod y k
  rcases lt_trichotomy (x / k) (y / k) with h | h | h
  · have hlt : x < y := by
      by_contra hle
      exact absurd (Nat.div_le_div_right (c := k) (Nat.not_lt.mp hle)) (Nat.not_le.mpr h)
    rw [compare_lt_iff_lt.mpr h, compare_lt_iff_lt.mpr hlt]
    rfl
  · rw [compare_eq_iff_eq.mpr h]
    rw [h] at hx
    rcases lt_trichotomy (x % k) (y % k) with h' | h' | h'
    · rw [compare_lt_iff_lt.mpr h', compare_lt_iff_lt.mpr (show x < y by omega)]
      rfl
    · rw [compare_eq_iff_eq.mpr h', compare_eq_iff_eq.mpr (show x = y by omega)]
      rfl
    · rw [compare_gt_iff_gt.mpr h', compare_gt_iff_gt.mpr (show y < x by omega)]
      rfl
  · have hlt : y < x := by
      by_contra hle
      exact absurd (Nat.div_le_div_right (c := k) (Nat.not_lt.mp hle)) (Nat.not_le.mpr h)
    rw [compare_gt_iff_gt.mpr h, compare_gt_iff_gt.mpr hlt]
    rfl

/-- The value and the length of a number with leading zeros, and the order of two of them. -/
theorem padded_spec {w : ℕ} (hw : 1 ≤ w) : ∀ {n : ℕ}, n < 10 ^ w → (padded w n).length = w ∧
    Json.radixValue 10 (padded w n) = n ∧
    ∀ {m : ℕ}, m < 10 ^ w → compare (padded w n) (padded w m) = compare n m := by
  induction w, hw using Nat.le_induction with
  | base =>
    intro n hn
    refine ⟨?_, ?_, ?_⟩
    · rw [padded_one hn]
      rfl
    · rw [padded_one hn]
      interval_cases n <;> decide
    · intro m hm
      rw [padded_one hn, padded_one hm]
      interval_cases n <;> interval_cases m <;> decide
  | succ w hw ih =>
    intro n hn
    rw [pow_succ] at hn
    obtain ⟨hlen, hvalue, hcompare⟩ := ih (n := n / 10) (by omega)
    refine ⟨?_, ?_, ?_⟩
    · rw [padded_succ hw, List.length_append, hlen]
      rfl
    · rw [padded_succ hw, Json.radixValue_append, hvalue,
        Json.hexValue_hexDigit _ (by omega), Option.getD_some]
      omega
    · intro m hm
      rw [pow_succ] at hm
      have hdigit : ∀ a < 10, ∀ b < 10,
          compare [Json.hexDigit a] [Json.hexDigit b] = compare a b := by decide
      obtain ⟨hlen', -, -⟩ := ih (n := m / 10) (by omega)
      rw [padded_succ hw, padded_succ hw, compare_append (hlen.trans hlen'.symm),
        hcompare (by omega), hdigit _ (by omega) _ (by omega), compare_divMod]

theorem length_padded {w n : ℕ} (hw : 1 ≤ w) (hn : n < 10 ^ w) : (padded w n).length = w :=
  (padded_spec hw hn).1

theorem radixValue_padded {w n : ℕ} (hw : 1 ≤ w) (hn : n < 10 ^ w) :
    Json.radixValue 10 (padded w n) = n := (padded_spec hw hn).2.1

theorem compare_padded {w n m : ℕ} (hw : 1 ≤ w) (hn : n < 10 ^ w) (hm : m < 10 ^ w) :
    compare (padded w n) (padded w m) = compare n m := (padded_spec hw hn).2.2 hm

/-- The order of two texts that start with numbers of the same width. -/
theorem compare_padded_append {w n m : ℕ} (hw : 1 ≤ w) (hn : n < 10 ^ w) (hm : m < 10 ^ w)
    (a b : JsString) :
    compare (padded w n ++ a) (padded w m ++ b) = (compare n m).then (compare a b) := by
  rw [compare_append ((length_padded hw hn).trans (length_padded hw hm).symm),
    compare_padded hw hn hm]

/-! ## Instants -/

/-- The part of an ISO text after the date. -/
def timeText (ms : ℕ) : JsString :=
  0x54 :: (padded 2 (ms / 3600000) ++ 0x3A :: (padded 2 (ms / 60000 % 60) ++
    0x3A :: (padded 2 (ms / 1000 % 60) ++ 0x2E :: (padded 3 (ms % 1000) ++ [0x5A]))))

/-- The part of an ISO text after the year. -/
def dateText (month day ms : ℕ) : JsString :=
  0x2D :: (padded 2 month ++ 0x2D :: (padded 2 day ++ timeText ms))

theorem toISOString_eq (t : ℤ) : toISOString t = yearText (yearOf t) ++
    dateText (civil (t / msPerDay)).2.1.toNat (civil (t / msPerDay)).2.2.toNat (t % msPerDay).toNat := by
  simp only [toISOString, dateText, timeText, yearOf, List.append_assoc, List.cons_append]

theorem compare_timeText {a b : ℕ} (ha : a < 86400000) (hb : b < 86400000) :
    compare (timeText a) (timeText b) = compare a b := by
  have hsecond : compare (a / 1000) (b / 1000) =
      (compare (a / 60000) (b / 60000)).then (compare (a / 1000 % 60) (b / 1000 % 60)) := by
    rw [← compare_divMod 60, Nat.div_div_eq_div_mul, Nat.div_div_eq_div_mul]
  have hminute : compare (a / 60000) (b / 60000) =
      (compare (a / 3600000) (b / 3600000)).then (compare (a / 60000 % 60) (b / 60000 % 60)) := by
    rw [← compare_divMod 60, Nat.div_div_eq_div_mul, Nat.div_div_eq_div_mul]
  simp only [timeText, compare_cons_self]
  rw [compare_padded_append (by decide) (by omega) (by omega), compare_cons_self,
    compare_padded_append (by decide) (by omega) (by omega), compare_cons_self,
    compare_padded_append (by decide) (by omega) (by omega), compare_cons_self,
    compare_padded_append (by decide) (by omega) (by omega),
    ← compare_divMod 1000 a b, hsecond, hminute]
  simp only [Ordering.then_assoc]
  rw [(Std.ReflOrd.compare_self : compare ([0x5A] : JsString) [0x5A] = .eq), Ordering.then_eq]

theorem compare_dateText {m m' d d' a a' : ℕ} (hm : m < 100) (hm' : m' < 100) (hd : d < 100)
    (hd' : d' < 100) (ha : a < 86400000) (ha' : a' < 86400000) :
    compare (dateText m d a) (dateText m' d' a') =
      (compare m m').then ((compare d d').then (compare a a')) := by
  simp only [dateText, compare_cons_self]
  rw [compare_padded_append (by decide) (by omega) (by omega), compare_cons_self,
    compare_padded_append (by decide) (by omega) (by omega), compare_timeText ha ha']

theorem msPerDay_pos : 0 < msPerDay := by decide

theorem dayTime_lt (t : ℤ) : (t % msPerDay).toNat < 86400000 := by
  have := Int.emod_lt_of_pos t msPerDay_pos
  unfold msPerDay at this ⊢
  omega

/-- Within a year the order of the texts is the order of the instants. -/
theorem compare_toISOString_lt_of_year_eq {t t' : ℤ} (hyear : yearOf t = yearOf t') (h : t < t') :
    compare (toISOString t) (toISOString t') = .lt := by
  obtain ⟨y, m, d, hcivil, hm0, hm1, hd0, hd1⟩ := civil_bounds (t / msPerDay)
  obtain ⟨y', m', d', hcivil', hm0', hm1', hd0', hd1'⟩ := civil_bounds (t' / msPerDay)
  have hdays : t / msPerDay ≤ t' / msPerDay := Int.ediv_le_ediv msPerDay_pos h.le
  rw [toISOString_eq, toISOString_eq, hyear, compare_append rfl,
    (Std.ReflOrd.compare_self : compare (yearText (yearOf t')) _ = .eq), hcivil, hcivil']
  show compare (dateText m.toNat d.toNat _) (dateText m'.toNat d'.toNat _) = _
  rw [compare_dateText (by omega) (by omega) (by omega) (by omega) (dayTime_lt t) (dayTime_lt t')]
  rcases eq_or_lt_of_le hdays with heq | hlt
  · rw [heq, hcivil'] at hcivil
    obtain ⟨-, hmm, hdd⟩ : y' = y ∧ m' = m ∧ d' = d := by simpa using hcivil
    have htime : (t % msPerDay).toNat < (t' % msPerDay).toNat := by
      have h1 := Int.mul_ediv_add_emod t msPerDay
      have h2 := Int.mul_ediv_add_emod t' msPerDay
      have h3 := Int.emod_nonneg t msPerDay_pos.ne'
      rw [heq] at h1
      omega
    rw [hmm, hdd, compare_lt_iff_lt.mpr htime, (Std.ReflOrd.compare_self : compare m.toNat _ = .eq),
      (Std.ReflOrd.compare_self : compare d.toNat _ = .eq)]
    rfl
  · have hdate := civil_lt hlt
    rw [yearOf, yearOf, hcivil, hcivil'] at hyear
    rw [hcivil, hcivil'] at hdate
    rcases hdate with hy | ⟨-, hmm | ⟨hmm, hdd⟩⟩
    · exact absurd hyear hy.ne
    · rw [compare_lt_iff_lt.mpr (show m.toNat < m'.toNat by dsimp only at hmm; omega)]
      rfl
    · dsimp only at hmm hdd
      rw [compare_eq_iff_eq.mpr (show m.toNat = m'.toNat by omega),
        compare_lt_iff_lt.mpr (show d.toNat < d'.toNat by omega)]
      rfl

/-- The instant after an instant of one kind of year has, as a text, gone backwards: from a
    year above 9999 to one below, or within the years before 0. -/
def YearDrop (year year' : ℤ) : Prop := (9999 < year ∧ year' ≤ 9999) ∨ (year < 0 ∧ year' < year)

theorem yearText_of_big {year : ℤ} (h : 9999 < year) :
    yearText year = 0x2B :: padded 6 year.natAbs := by
  rw [yearText, if_neg (by omega), if_neg (by omega)]

theorem yearText_of_neg {year : ℤ} (h : year < 0) :
    yearText year = 0x2D :: padded 6 year.natAbs := by
  rw [yearText, if_neg (by omega), if_pos h]

theorem yearText_of_small {year : ℤ} (h0 : 0 ≤ year) (h1 : year ≤ 9999) :
    yearText year = padded 4 year.toNat := by
  rw [yearText, if_pos ⟨h0, h1⟩]

/-- A text of four digits starts with a digit. -/
theorem padded_four_head {n : ℕ} (h : n < 10 ^ 4) :
    ∃ u us, padded 4 n = u :: us ∧ 0x30 ≤ u.toNat := by
  have hdigit : ∀ d < 10, 0x30 ≤ (Json.hexDigit d).toNat := by decide
  rw [padded_succ (by decide), padded_succ (by decide), padded_succ (by decide),
    padded_one (by omega)]
  exact ⟨_, _, rfl, hdigit _ (by omega)⟩

theorem compare_cons_lt {u v : UInt16} (h : u.toNat < v.toNat) (a b : JsString) :
    compare (u :: a) (v :: b) = .lt := by
  have huv : compare u v = .lt := if_pos (UInt16.lt_iff_toNat_lt.mpr h)
  rw [List.compare_cons_cons, huv]
  rfl

/-- The place of a year in the order of the texts: years above 9999, years before 0 by their
    distance from it, years of four digits. -/
def textRank (year : ℤ) : ℤ :=
  if 9999 < year then year - 10 ^ 7 else if year < 0 then -year - 10 ^ 6 else year

theorem compare_toISOString_lt_of_rank {t t' : ℤ} (ht : t.natAbs ≤ maxTimeValue)
    (ht' : t'.natAbs ≤ maxTimeValue) (h : textRank (yearOf t) < textRank (yearOf t')) :
    compare (toISOString t) (toISOString t') = .lt := by
  have hsix := natAbs_yearOf_lt ht
  have hsix' := natAbs_yearOf_lt ht'
  -- a text of four digits starts with a character above both signs
  have hdigit : 0 ≤ yearOf t' → yearOf t' ≤ 9999 → ∀ (u : UInt16) (us rest : JsString),
      u.toNat < 0x30 → compare (u :: us) (yearText (yearOf t') ++ rest) = .lt := by
    intro h0 h1 u us rest hu
    obtain ⟨v, vs, hhead, hv⟩ := padded_four_head (n := (yearOf t').toNat) (by omega)
    rw [yearText_of_small h0 h1, hhead]
    exact compare_cons_lt (lt_of_lt_of_le hu hv) _ _
  unfold textRank at h
  rw [toISOString_eq, toISOString_eq]
  by_cases hbig : 9999 < yearOf t
  · rw [yearText_of_big hbig, List.cons_append]
    by_cases hbig' : 9999 < yearOf t'
    · rw [if_pos hbig, if_pos hbig'] at h
      rw [yearText_of_big hbig', List.cons_append, compare_cons_self,
        compare_padded_append (by decide) hsix hsix', compare_lt_iff_lt.mpr (by omega)]
      rfl
    by_cases hneg' : yearOf t' < 0
    · rw [yearText_of_neg hneg']
      exact compare_cons_lt (by decide) _ _
    · exact hdigit (by omega) (by omega) _ _ _ (by decide)
  rw [if_neg hbig] at h
  by_cases hneg : yearOf t < 0
  · rw [if_pos hneg] at h
    rw [yearText_of_neg hneg, List.cons_append]
    have hbig' : ¬ 9999 < yearOf t' := by
      intro hbig'
      rw [if_pos hbig'] at h
      omega
    rw [if_neg hbig'] at h
    by_cases hneg' : yearOf t' < 0
    · rw [if_pos hneg'] at h
      rw [yearText_of_neg hneg', List.cons_append, compare_cons_self,
        compare_padded_append (by decide) hsix hsix', compare_lt_iff_lt.mpr (by omega)]
      rfl
    · exact hdigit (by omega) (by omega) _ _ _ (by decide)
  · rw [if_neg hneg] at h
    have hsmall' : 0 ≤ yearOf t' ∧ yearOf t' ≤ 9999 := by
      split_ifs at h <;> omega
    rw [if_neg (by omega), if_neg (by omega)] at h
    rw [yearText_of_small (by omega) (by omega), yearText_of_small hsmall'.1 hsmall'.2,
      compare_padded_append (by decide) (by omega) (by omega), compare_lt_iff_lt.mpr (by omega)]
    rfl

/-- The order of the texts: first the place of the year, then the instant. -/
theorem compare_toISOString {t t' : ℤ} (ht : t.natAbs ≤ maxTimeValue)
    (ht' : t'.natAbs ≤ maxTimeValue) : compare (toISOString t) (toISOString t') =
      (compare (textRank (yearOf t)) (textRank (yearOf t'))).then (compare t t') := by
  have hswap : compare (toISOString t) (toISOString t') =
      (compare (toISOString t') (toISOString t)).swap := Std.OrientedOrd.eq_swap
  rcases lt_trichotomy (textRank (yearOf t)) (textRank (yearOf t')) with hlt | heq | hgt
  · rw [compare_toISOString_lt_of_rank ht ht' hlt, compare_lt_iff_lt.mpr hlt]
    rfl
  · have hyear : yearOf t = yearOf t' := by
      have hsix := natAbs_yearOf_lt ht
      have hsix' := natAbs_yearOf_lt ht'
      unfold textRank at heq
      split_ifs at heq <;> omega
    rw [compare_eq_iff_eq.mpr heq]
    show _ = compare t t'
    rcases lt_trichotomy t t' with h | h | h
    · rw [compare_toISOString_lt_of_year_eq hyear h, compare_lt_iff_lt.mpr h]
    · rw [h, Std.ReflOrd.compare_self, Std.ReflOrd.compare_self]
    · rw [hswap, compare_toISOString_lt_of_year_eq hyear.symm h, compare_gt_iff_gt.mpr h]
      rfl
  · rw [hswap, compare_toISOString_lt_of_rank ht' ht hgt, compare_gt_iff_gt.mpr hgt]
    rfl

/-- An earlier instant has a smaller text, unless the years drop. -/
theorem compare_toISOString_lt {t t' : ℤ} (ht : t.natAbs ≤ maxTimeValue)
    (ht' : t'.natAbs ≤ maxTimeValue) (h : t < t') (hdrop : ¬ YearDrop (yearOf t') (yearOf t)) :
    compare (toISOString t) (toISOString t') = .lt := by
  have hle := yearOf_le h.le
  have hsix := natAbs_yearOf_lt ht
  have hsix' := natAbs_yearOf_lt ht'
  rcases eq_or_lt_of_le hle with heq | hlt
  · exact compare_toISOString_lt_of_year_eq heq h
  · refine compare_toISOString_lt_of_rank ht ht' ?_
    unfold YearDrop at hdrop
    unfold textRank
    split_ifs <;> omega

/-- For texts in string order, the instants are in order exactly when the years do not drop. -/
theorem le_iff_of_text_le {t t' : ℤ} (ht : t.natAbs ≤ maxTimeValue) (ht' : t'.natAbs ≤ maxTimeValue)
    (h : compare (toISOString t') (toISOString t) ≠ .lt) :
    t ≤ t' ↔ ¬ YearDrop (yearOf t) (yearOf t') := by
  constructor
  · intro hle hdrop
    have := yearOf_le hle
    unfold YearDrop at hdrop
    omega
  · intro hdrop
    by_contra hlt
    exact h (compare_toISOString_lt ht' ht (not_le.mp hlt) hdrop)

/-! ## Reading -/

/-- The day number of a date, the inverse of `civil`. -/
def dayOf (year : ℤ) (month day : ℕ) : ℤ :=
  let y := if month ≤ 2 then year - 1 else year
  yearStart y + (((153 * ((month + 9) % 12) + 2) / 5 : ℕ) + day - 1) - 719468

/-- The time value of a year and the rest `-MM-DDTHH:mm:ss.sssZ` of a text. -/
def timeOf (year : ℤ) (rest : JsString) : ℤ :=
  dayOf year (digitsAt rest 1 2) (digitsAt rest 4 2) * msPerDay +
    (((digitsAt rest 7 2 * 60 + digitsAt rest 10 2) * 60 + digitsAt rest 13 2) * 1000 +
      digitsAt rest 16 3 : ℕ)

/-- The time value of a text that `toISOString` writes. -/
def isoTime (s : JsString) : ℤ :=
  match s with
  | 0x2B :: rest => timeOf (digitsAt rest 0 6) (rest.drop 6)
  | 0x2D :: rest => timeOf (-digitsAt rest 0 6) (rest.drop 6)
  | _ => timeOf (digitsAt s 0 4) (s.drop 4)

/-- The reader of all texts that `toISOString` writes, and of no others. -/
def isoReader : DateParser where
  parse s :=
    if toISOString (isoTime s) = s ∧ (isoTime s).natAbs ≤ maxTimeValue then some (isoTime s) else none
  bounded s t h := by
    split_ifs at h with hs
    cases h
    exact hs.2

example : isoReader.parse (js "-271821-04-20T00:00:00.000Z") = some (-8640000000000000) := by
  decide +kernel

theorem dayOf_civil (days : ℤ) :
    dayOf (civil days).1 (civil days).2.1.toNat (civil days).2.2.toNat = days := by
  obtain ⟨year, doy, hcivil, hdays, h0, hend⟩ := civil_spec days
  have hlen := yearStart_succ_le year
  obtain ⟨y, m, d, heq, hm0, hm1, hd0, hd1, hmonth, hday⟩ := civilOf_spec year h0 (by omega)
  rw [hcivil, heq]
  unfold dayOf
  dsimp only
  by_cases hm : m ≤ 2
  · have hy : y - 1 = year := by omega
    have hmp : (m.toNat + 9) % 12 = ((5 * doy + 2) / 153).toNat := by omega
    rw [if_pos (by omega), hy, hmp]
    omega
  · have hy : y = year := by omega
    have hmp : (m.toNat + 9) % 12 = ((5 * doy + 2) / 153).toNat := by omega
    rw [if_neg (by omega), hy, hmp]
    omega

theorem digitsAt_cons (u : UInt16) (s : JsString) (offset w : ℕ) :
    digitsAt (u :: s) (1 + offset) w = digitsAt s offset w := by
  rw [Nat.add_comm]
  rfl

theorem digitsAt_skip {v n : ℕ} (hv : 1 ≤ v) (hn : n < 10 ^ v) (s : JsString) (offset w : ℕ) :
    digitsAt (padded v n ++ s) (v + offset) w = digitsAt s offset w := by
  rw [digitsAt, digitsAt, ← List.drop_drop, List.drop_append_of_le_length (length_padded hv hn).ge,
    List.drop_of_length_le (length_padded hv hn).le, List.nil_append]

theorem digitsAt_here {w n : ℕ} (hw : 1 ≤ w) (hn : n < 10 ^ w) (s : JsString) :
    digitsAt (padded w n ++ s) 0 w = n := by
  have hlen := length_padded hw hn
  rw [digitsAt, List.drop_zero, List.take_append_of_le_length hlen.ge,
    List.take_of_length_le hlen.le, radixValue_padded hw hn]

theorem timeOf_dateText {year : ℤ} {m d a : ℕ} (hm : m < 10 ^ 2) (hd : d < 10 ^ 2)
    (ha : a < 86400000) : timeOf year (dateText m d a) = dayOf year m d * msPerDay + a := by
  have two : 1 ≤ 2 := by decide
  have h1 : a / 3600000 < 10 ^ 2 := by omega
  have h2 : a / 60000 % 60 < 10 ^ 2 := by omega
  have h3 : a / 1000 % 60 < 10 ^ 2 := by omega
  have h4 : a % 1000 < 10 ^ 3 := by omega
  have hmonth : digitsAt (dateText m d a) 1 2 = m := by
    show digitsAt (dateText m d a) (1 + 0) 2 = m
    rw [dateText, digitsAt_cons, digitsAt_here two hm]
  have hday : digitsAt (dateText m d a) 4 2 = d := by
    show digitsAt (dateText m d a) (1 + (2 + (1 + 0))) 2 = d
    rw [dateText, digitsAt_cons, digitsAt_skip two hm, digitsAt_cons, digitsAt_here two hd]
  have htime : ∀ offset w, digitsAt (dateText m d a) (1 + (2 + (1 + (2 + offset)))) w =
      digitsAt (timeText a) offset w := by
    intro offset w
    rw [dateText, digitsAt_cons, digitsAt_skip two hm, digitsAt_cons, digitsAt_skip two hd]
  have hhour : digitsAt (dateText m d a) 7 2 = a / 3600000 := by
    rw [htime 1 2, timeText, digitsAt_cons _ _ 0, digitsAt_here two h1]
  have hminute : digitsAt (dateText m d a) 10 2 = a / 60000 % 60 := by
    rw [htime (1 + (2 + (1 + 0))) 2, timeText, digitsAt_cons, digitsAt_skip two h1, digitsAt_cons,
      digitsAt_here two h2]
  have hsecond : digitsAt (dateText m d a) 13 2 = a / 1000 % 60 := by
    rw [htime (1 + (2 + (1 + (2 + (1 + 0))))) 2, timeText, digitsAt_cons, digitsAt_skip two h1,
      digitsAt_cons, digitsAt_skip two h2, digitsAt_cons, digitsAt_here two h3]
  have hmilli : digitsAt (dateText m d a) 16 3 = a % 1000 := by
    rw [htime (1 + (2 + (1 + (2 + (1 + (2 + (1 + 0))))))) 3, timeText, digitsAt_cons,
      digitsAt_skip two h1, digitsAt_cons, digitsAt_skip two h2, digitsAt_cons, digitsAt_skip two h3,
      digitsAt_cons, digitsAt_here (by decide) h4]
  rw [timeOf, hmonth, hday, hhour, hminute, hsecond, hmilli]
  congr 1
  norm_cast
  omega

theorem isoTime_toISOString {t : ℤ} (ht : t.natAbs ≤ maxTimeValue) : isoTime (toISOString t) = t := by
  obtain ⟨y, m, d, hcivil, hm0, hm1, hd0, hd1⟩ := civil_bounds (t / msPerDay)
  have hyear : yearOf t = y := by rw [yearOf, hcivil]
  have hday := dayOf_civil (t / msPerDay)
  have hsix := natAbs_yearOf_lt ht
  rw [hyear] at hsix
  rw [hcivil] at hday
  -- what remains after the year
  have hrest : timeOf y (dateText m.toNat d.toNat (t % msPerDay).toNat) = t := by
    rw [timeOf_dateText (by omega) (by omega) (dayTime_lt t), hday]
    have hsum := Int.mul_ediv_add_emod t msPerDay
    have hpos := Int.emod_nonneg t msPerDay_pos.ne'
    rw [Int.toNat_of_nonneg hpos]
    linarith
  have hdigits : ∀ w n : ℕ, 1 ≤ w → n < 10 ^ w → ∀ rest : JsString,
      digitsAt (padded w n ++ rest) 0 w = n ∧ (padded w n ++ rest).drop w = rest := by
    intro w n hw hn rest
    refine ⟨digitsAt_here hw hn rest, ?_⟩
    rw [List.drop_append_of_le_length (length_padded hw hn).ge,
      List.drop_of_length_le (length_padded hw hn).le, List.nil_append]
  rw [toISOString_eq, hyear, hcivil]
  dsimp only
  by_cases hbig : 9999 < y
  · obtain ⟨hvalue, hdrop⟩ := hdigits 6 y.natAbs (by decide) hsix
      (dateText m.toNat d.toNat (t % msPerDay).toNat)
    rw [yearText_of_big hbig, List.cons_append, isoTime, hvalue, hdrop]
    rwa [show ((y.natAbs : ℕ) : ℤ) = y by omega]
  · by_cases hneg : y < 0
    · obtain ⟨hvalue, hdrop⟩ := hdigits 6 y.natAbs (by decide) hsix
        (dateText m.toNat d.toNat (t % msPerDay).toNat)
      rw [yearText_of_neg hneg, List.cons_append, isoTime, hvalue, hdrop]
      rwa [show -((y.natAbs : ℕ) : ℤ) = y by omega]
    · obtain ⟨hvalue, hdrop⟩ := hdigits 4 y.toNat (by decide) (by omega)
        (dateText m.toNat d.toNat (t % msPerDay).toNat)
      obtain ⟨u, us, hhead, hu⟩ := padded_four_head (n := y.toNat) (by omega)
      have hu1 : u ≠ 0x2B := by rintro rfl; exact absurd hu (by decide)
      have hu2 : u ≠ 0x2D := by rintro rfl; exact absurd hu (by decide)
      rw [yearText_of_small (by omega) (by omega), isoTime.eq_def]
      split
      · rename_i rest heq
        rw [hhead, List.cons_append] at heq
        exact absurd (List.cons.inj heq).1 hu1
      · rename_i rest heq
        rw [hhead, List.cons_append] at heq
        exact absurd (List.cons.inj heq).1 hu2
      · rw [hvalue, hdrop]
        rwa [show ((y.toNat : ℕ) : ℤ) = y by omega]

end Date

/-- The reader reads the texts that `toISOString` writes, as ECMAScript requires of
    `Date.parse`. -/
def DateParser.ReadsIso (P : DateParser) : Prop :=
  ∀ t : ℤ, t.natAbs ≤ maxTimeValue → P.parse (Date.toISOString t) = some t

theorem Date.isoReader_readsIso : isoReader.ReadsIso := by
  intro t ht
  simp only [isoReader, isoTime_toISOString ht, ht, and_self, if_true]

end OpenRisk
