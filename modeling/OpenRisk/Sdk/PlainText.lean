import OpenRisk.Js.Calendar
import OpenRisk.Sdk.Checks
import OpenRisk.Sdk.CanonicalSize

/-!
# Texts without escapes

The texts that the code itself writes into its documents: hashes, identifiers, decimal numbers
and instants. A string literal does not escape any of their units.

Results:
* `plainWithin_toISOString`: an ISO text has at most 27 units.
-/

namespace OpenRisk.Sdk

open Text Date

theorem isPlainUnit_of_isHashUnit {u : UInt16} (h : isHashUnit u = true) : isPlainUnit u = true := by
  simp only [isHashUnit, Json.isDigit, Bool.or_eq_true, Bool.and_eq_true, decide_eq_true_eq] at h
  simp only [isPlainUnit, Bool.and_eq_true, decide_eq_true_eq]
  omega

theorem plainWithin_hash (h : HashText) : PlainWithin 64 h.val :=
  ⟨fun _ hu => isPlainUnit_of_isHashUnit (h.isHashUnit_of_mem hu), h.length.le⟩

theorem length_identifier (i : Identifier) : i.val.length ≤ 128 := by
  obtain ⟨s, hs⟩ := i
  cases s with
  | nil => cases hs
  | cons u rest =>
    simp only [ID_PATTERN, Bool.and_eq_true, decide_eq_true_eq] at hs
    exact Nat.succ_le_succ hs.2

theorem plainWithin_identifier (i : Identifier) : PlainWithin 128 i.val :=
  ⟨fun _ hu => isPlainUnit_of_isKeyUnit (i.isKeyUnit_of_mem hu), length_identifier i⟩

theorem plainWithin_padded {w n : ℕ} (hw : 1 ≤ w) (hn : n < 10 ^ w) : PlainWithin w (padded w n) := by
  refine ⟨?_, (length_padded hw hn).le⟩
  intro u hu
  rcases List.mem_append.mp hu with hu | hu
  · rw [List.eq_of_mem_replicate hu]
    decide
  · exact isPlainUnit_of_isDigit (Json.decimal_isDigit n u hu)

theorem plainWithin_yearText {year : ℤ} (h : year.natAbs < 10 ^ 6) : PlainWithin 7 (yearText year) := by
  unfold yearText
  split_ifs with hsmall hneg
  · exact (plainWithin_padded (by norm_num) (by omega)).mono (by norm_num)
  · exact (plainWithin_padded (by norm_num) h).cons (by decide)
  · exact (plainWithin_padded (by norm_num) h).cons (by decide)

theorem plainWithin_timeText {ms : ℕ} (h : ms < 86400000) : PlainWithin 14 (timeText ms) := by
  have hend : PlainWithin 1 [0x5A] := ⟨List.forall_mem_singleton.mpr (by decide), by decide⟩
  have hms : PlainWithin 3 (padded 3 (ms % 1000)) := plainWithin_padded (by norm_num) (by omega)
  have hs : PlainWithin 2 (padded 2 (ms / 1000 % 60)) := plainWithin_padded (by norm_num) (by omega)
  have hm : PlainWithin 2 (padded 2 (ms / 60000 % 60)) := plainWithin_padded (by norm_num) (by omega)
  have hh : PlainWithin 2 (padded 2 (ms / 3600000)) := plainWithin_padded (by norm_num) (by omega)
  exact (hh.append ((hm.append ((hs.append ((hms.append hend).cons (by decide))).cons
    (by decide))).cons (by decide))).cons (by decide)

/-- The text of an instant has at most 27 units. -/
theorem plainWithin_toISOString {t : ℤ} (ht : t.natAbs ≤ maxTimeValue) :
    PlainWithin 27 (toISOString t) := by
  obtain ⟨y, m, d, hcivil, hm, hm', hd, hd'⟩ := civil_bounds (t / msPerDay)
  rw [toISOString_eq, hcivil, dateText]
  have hyear : PlainWithin 7 (yearText (yearOf t)) := plainWithin_yearText (natAbs_yearOf_lt ht)
  have hmonth : PlainWithin 2 (padded 2 m.toNat) := plainWithin_padded (by norm_num) (by omega)
  have hday : PlainWithin 2 (padded 2 d.toNat) := plainWithin_padded (by norm_num) (by omega)
  exact hyear.append ((hmonth.append ((hday.append (plainWithin_timeText (dayTime_lt t))).cons
    (by decide))).cons (by decide))

/-- The text of an instant is read back. -/
theorem ofText_text {P : DateParser} (i : UtcInstant P) : UtcInstant.ofText P i.text = some i := by
  have hlast : i.text.getLast? = some 0x5A := by
    rw [← i.toISOString_ms]
    exact List.getLast?_concat
  obtain ⟨text, ms, hparse, hiso⟩ := i
  rw [UtcInstant.ofText, if_pos hlast]
  split
  · rename_i t ht
    obtain rfl : t = ms := Option.some.inj (ht.symm.trans hparse)
    rw [dif_pos hiso]
  · rename_i hnone
    rw [hparse] at hnone
    cases hnone

theorem plainWithin_instant {P : DateParser} (i : UtcInstant P) : PlainWithin 27 i.text := by
  rw [← i.toISOString_ms]
  exact plainWithin_toISOString (P.bounded _ _ i.parse_text)

end OpenRisk.Sdk
