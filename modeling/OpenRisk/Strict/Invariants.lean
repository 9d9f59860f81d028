import OpenRisk.Strict.Verdict

/-!
# Invariant checkers of the strict verifier

Model of the five checkers `sdk/typescript/internal/pom-rx-v01-*.mjs` that
`runStrictInvariants` calls. Each takes a list of receipts and tests again what it needs of
them. Two compare a commitment between neighbours, two test the assertions of one phase;
these pairs are one definition each, with the names, codes and texts of its members.

Results:
* `runStrictInvariants_toJs`: on validated receipts whose phases are in order no checker
  throws, and every diagnostic is well formed and structural.
-/

namespace OpenRisk.Strict

open Text Sdk PomRx

/-! ## The common tests of the input -/

/-- `receipt.phase`, if it is one of `PHASES`. -/
def phaseOf (receipt : JsValue) : Option Phase :=
  readText Phase.text PHASES (receipt.get (js "phase"))

/-- The loop of `validateInput` over the receipts: `further` is the test of one checker. -/
def validateEach (name : JsString) (further : JsValue → Phase → Except StrictError Unit) :
    List JsValue → Except StrictError (List Phase)
  | [] => .ok []
  | receipt :: receipts => do
    require receipt.isObject (name ++ js " checker received a non-object receipt")
    match phaseOf receipt with
    | none => fail (name ++ js " checker received an unsupported phase")
    | some phase => do
      further receipt phase
      let phases ← validateEach name further receipts
      .ok (phase :: phases)

/-- The loop of `validateInput` over neighbours. -/
def validateContiguous (name : JsString) : Phase → List Phase → Except StrictError Unit
  | _, [] => .ok ()
  | previous, current :: phases => do
    require (current.index = previous.index + 1)
      (name ++ js " checker requires contiguous ordered phases")
    validateContiguous name current phases

/-- `validateInput(receipts)`. -/
def validateInput (name : JsString) (further : JsValue → Phase → Except StrictError Unit)
    (receipts : List JsValue) : Except StrictError (List Phase) := do
  require (1 ≤ receipts.length && receipts.length ≤ 3)
    (name ++ js " checker requires between one and three receipts")
  let phases ← validateEach name further receipts
  require (phases.head? = some .preflight)
    (name ++ js " checker requires preflight as the first phase")
  validateContiguous name .preflight phases.tail
  .ok phases

/-- One diagnostic, as a list. -/
def report (d : Diagnostic) : Except StrictError (List Diagnostic) := do
  let e ← makePomRxV01Diagnostic d
  .ok [e]

/-- The diagnostics of several checks, one after another. -/
def collect : List (Except StrictError (List Diagnostic)) → Except StrictError (List Diagnostic)
  | [] => .ok []
  | check :: checks => do
    let here ← check
    let later ← collect checks
    .ok (here ++ later)

/-! ## Continuity of a commitment -/

/-- What the two continuity checkers differ in. -/
structure Continuity where
  name : JsString
  field : JsString
  code : DiagnosticCode
  toExecution : DefectId
  toReconciliation : DefectId

/-- `DEFECT_BY_TRANSITION.get(transition)`. -/
def Continuity.defectByTransition (C : Continuity) : Phase → Phase → Option DefectId
  | .preflight, .execution => some C.toExecution
  | .execution, .reconciliation => some C.toReconciliation
  | _, _ => none

/-- `===` between values that have passed the pattern of a commitment: two strings, or
    different objects. -/
def sameText : Option JsValue → Option JsValue → Bool
  | some (.string s), some (.string t) => s = t
  | _, _ => false

/-- `${field} changed across ${previous.phase}>${current.phase}`. -/
def Continuity.message (C : Continuity) (previous current : Phase) : JsString :=
  C.field ++ js " changed across " ++ previous.text ++ 0x3E :: current.text

/-- One iteration of the loop over neighbours. -/
def Continuity.step (C : Continuity) (index : ℕ) (previous current : JsValue × Phase) :
    Except StrictError (List Diagnostic) :=
  if sameText (current.1.get C.field) (previous.1.get C.field) then .ok []
  else
    match C.defectByTransition previous.2 current.2 with
    | none => fail (C.name ++ js " checker reached an unregistered phase transition")
    | some defectId =>
      report {
        defectId := some defectId, diagnosticCode := C.code, phase := some current.2
        receiptIndex := some index, field := some C.field
        message := C.message previous.2 current.2 }

/-- The loop over neighbours, from the receipt `previous` on; `index` is that of the next. -/
def Continuity.loop (C : Continuity) :
    ℕ → JsValue × Phase → List (JsValue × Phase) → Except StrictError (List Diagnostic)
  | _, _, [] => .ok []
  | index, previous, current :: rest => do
    let here ← C.step index previous current
    let diagnostics ← C.loop (index + 1) current rest
    .ok (here ++ diagnostics)

/-- The checker of a commitment. -/
def Continuity.check (C : Continuity) (receipts : List JsValue) :
    Except StrictError (List Diagnostic) := do
  let phases ← validateInput C.name (fun receipt _ =>
    require (testPattern HASH_PATTERN (receipt.get C.field))
      (C.name ++ js " checker requires a canonical " ++ C.field)) receipts
  match receipts.zip phases with
  | [] => orderPomRxV01Diagnostics []
  | first :: rest => do
    let diagnostics ← C.loop 1 first rest
    orderPomRxV01Diagnostics diagnostics

def actionContinuity : Continuity where
  name := js "Action-continuity"
  field := js "action_commitment"
  code := .actionContinuity
  toExecution := .actionPreflightExecution
  toReconciliation := .actionExecutionReconciliation

def inputContinuity : Continuity where
  name := js "Input-continuity"
  field := js "input_commitment"
  code := .inputContinuity
  toExecution := .inputPreflightExecution
  toReconciliation := .inputExecutionReconciliation

/-- `checkPomRxV01ActionContinuity(receipts)`. -/
def checkPomRxV01ActionContinuity : List JsValue → Except StrictError (List Diagnostic) :=
  actionContinuity.check

/-- `checkPomRxV01InputContinuity(receipts)`. -/
def checkPomRxV01InputContinuity : List JsValue → Except StrictError (List Diagnostic) :=
  inputContinuity.check

/-! ## Assertions of a phase -/

/-- What the two consistency checkers differ in. -/
structure Consistency where
  name : JsString
  phase : Phase
  outcome : Outcome
  code : DiagnosticCode
  defect : DefectId
  message : JsString

/-- `assertion.result`, if it is one of `ASSERTION_RESULTS`. -/
def resultOf (assertion : JsValue) : Option AssertionResult :=
  readText AssertionResult.text ASSERTION_RESULTS (assertion.get (js "result"))

/-- `receipt.outcome`, if the phase has it. -/
def outcomeOf (receipt : JsValue) (phase : Phase) : Option Outcome :=
  readText Outcome.text (PHASE_OUTCOMES phase) (receipt.get (js "outcome"))

/-- `receipt.assertions`, if it is an array. -/
def assertionsOf (receipt : JsValue) : Option (List JsValue) :=
  match receipt.get (js "assertions") with
  | some (.array xs) => some xs
  | _ => none

/-- The tests of outcome and assertions in `validateInput`. -/
def Consistency.further (C : Consistency) (receipt : JsValue) (phase : Phase) :
    Except StrictError Unit := do
  require (outcomeOf receipt phase).isSome
    (C.name ++ js " checker received an invalid phase outcome")
  require ((assertionsOf receipt).any fun xs => 1 ≤ xs.length && xs.length ≤ 64)
    (C.name ++ js " checker requires between one and 64 assertions")
  require (((assertionsOf receipt).getD []).all fun x => x.isObject && (resultOf x).isSome)
    (C.name ++ js " checker received an invalid assertion result")

/-- The diagnostic for assertions that do not pass; `failed` says that one failed. -/
def Consistency.diagnostic (C : Consistency) (index : ℕ) (failed : Bool) : Diagnostic where
  defectId := if failed then some C.defect else none
  diagnosticCode := C.code
  phase := some C.phase
  receiptIndex := some index
  field := some (js "assertions")
  message := C.message

/-- The checker of the assertions of a phase. -/
def Consistency.check (C : Consistency) (receipts : List JsValue) :
    Except StrictError (List Diagnostic) := do
  let phases ← validateInput C.name C.further receipts
  match (receipts.zip phases).findIdx? fun r => r.2 = C.phase with
  | none => .ok []
  | some index =>
    let receipt := receipts.getD index .null
    if outcomeOf receipt C.phase ≠ some C.outcome then .ok []
    else
      let results := ((assertionsOf receipt).getD []).map resultOf
      let nonPassing := results.filter fun r => r ≠ some .pass
      if nonPassing = [] then .ok []
      else report (C.diagnostic index (some .fail ∈ nonPassing)) >>= orderPomRxV01Diagnostics

def executionConsistency : Consistency where
  name := js "Execution assertion-consistency"
  phase := .execution
  outcome := .accepted
  code := .executionAssertionConflict
  defect := .executionFailAssertion
  message := js "execution:accepted requires every assertion to pass"

def reconciliationConsistency : Consistency where
  name := js "Reconciliation assertion-consistency"
  phase := .reconciliation
  outcome := .matched
  code := .reconciliationAssertionConflict
  defect := .reconciliationFailAssertion
  message := js "reconciliation:matched requires every assertion to pass"

/-- `checkPomRxV01ExecutionAssertionConsistency(receipts)`. -/
def checkPomRxV01ExecutionAssertionConsistency :
    List JsValue → Except StrictError (List Diagnostic) := executionConsistency.check

/-- `checkPomRxV01ReconciliationAssertionConsistency(receipts)`. -/
def checkPomRxV01ReconciliationAssertionConsistency :
    List JsValue → Except StrictError (List Diagnostic) := reconciliationConsistency.check

/-! ## Uniqueness of receipt ids -/

/-- `typeof value === 'string' && RECEIPT_ID_PATTERN.test(value)`. -/
def isReceiptId : Option JsValue → Bool
  | some (.string s) => ID_PATTERN s
  | _ => false

/-- The key of a `Map`; ids are strings. -/
def textOf : Option JsValue → JsString
  | some (.string s) => s
  | _ => []

/-- The diagnostic for a receipt that repeats the id of an earlier one. -/
def duplicateDiagnostic (phase : Phase) (index firstIndex : ℕ) : Diagnostic where
  defectId := some .duplicateReceiptId
  diagnosticCode := .duplicateReceiptId
  phase := some phase
  receiptIndex := some index
  field := some (js "receipt_id")
  message := js "receipt_id duplicates receipt index " ++ Json.decimal firstIndex

/-- The loop over the receipts with `firstIndexByReceiptId`. -/
def uniquenessLoop : ℕ → List (JsString × ℕ) → List (JsValue × Phase) →
    Except StrictError (List Diagnostic)
  | _, _, [] => .ok []
  | index, seen, (receipt, phase) :: rest =>
    let id := textOf (receipt.get (js "receipt_id"))
    match seen.lookup id with
    | none => uniquenessLoop (index + 1) ((id, index) :: seen) rest
    | some firstIndex => do
      let here ← report (duplicateDiagnostic phase index firstIndex)
      let diagnostics ← uniquenessLoop (index + 1) seen rest
      .ok (here ++ diagnostics)

/-- `checkPomRxV01ReceiptIdUniqueness(receipts)`. -/
def checkPomRxV01ReceiptIdUniqueness (receipts : List JsValue) :
    Except StrictError (List Diagnostic) := do
  let phases ← validateInput (js "Receipt-ID uniqueness") (fun receipt _ =>
    require (isReceiptId (receipt.get (js "receipt_id")))
      (js "Receipt-ID uniqueness checker requires a canonical receipt_id")) receipts
  let diagnostics ← uniquenessLoop 0 [] (receipts.zip phases)
  orderPomRxV01Diagnostics diagnostics

/-- `runStrictInvariants(normalizedReceipts)`. -/
def runStrictInvariants (receipts : List JsValue) : Except StrictError (List Diagnostic) :=
  collect [checkPomRxV01ActionContinuity receipts, checkPomRxV01InputContinuity receipts,
    checkPomRxV01ExecutionAssertionConsistency receipts,
    checkPomRxV01ReconciliationAssertionConsistency receipts,
    checkPomRxV01ReceiptIdUniqueness receipts]

/-! ## Validated receipts -/

/-- A well-formed diagnostic with a structural code. -/
def Structural (d : Diagnostic) : Prop := d.WellFormed ∧ d.diagnosticCode.isStructural = true

/-- The result is a list of structural diagnostics, not an error. -/
def Reports (x : Except StrictError (List Diagnostic)) : Prop :=
  ∃ ds, x = .ok ds ∧ ∀ d ∈ ds, Structural d

theorem reports_nil : Reports (.ok []) := ⟨[], rfl, by simp⟩

theorem Reports.append {x y : Except StrictError (List Diagnostic)} (hx : Reports x) (hy : Reports y) :
    Reports (do let ds ← x; let es ← y; .ok (ds ++ es)) := by
  obtain ⟨ds, rfl, hds⟩ := hx
  obtain ⟨es, rfl, hes⟩ := hy
  exact ⟨ds ++ es, rfl, List.forall_mem_append.mpr ⟨hds, hes⟩⟩

theorem reports_collect {checks : List (Except StrictError (List Diagnostic))}
    (h : ∀ check ∈ checks, Reports check) : Reports (collect checks) := by
  induction checks with
  | nil => exact reports_nil
  | cons check checks ih =>
    obtain ⟨hhere, hlater⟩ := List.forall_mem_cons.mp h
    exact hhere.append (ih hlater)

theorem collect_eq_nil {checks : List (Except StrictError (List Diagnostic))} :
    collect checks = .ok [] ↔ ∀ check ∈ checks, check = .ok [] := by
  induction checks with
  | nil => simp [collect]
  | cons check checks ih =>
    rw [List.forall_mem_cons, ← ih]
    simp only [collect, bind_eq_ok, Except.ok.injEq, List.append_eq_nil_iff]
    constructor
    · rintro ⟨here, hhere, later, hlater, rfl, rfl⟩
      exact ⟨hhere, hlater⟩
    · rintro ⟨hhere, hlater⟩
      exact ⟨[], hhere, [], hlater, rfl, rfl⟩

theorem Reports.order {x : Except StrictError (List Diagnostic)} (hx : Reports x) :
    Reports (x >>= orderPomRxV01Diagnostics) := by
  obtain ⟨ds, rfl, hds⟩ := hx
  have horder := orderPomRxV01Diagnostics_eq_ok_iff.mpr ⟨fun d hd => (hds d hd).1, rfl⟩
  refine ⟨_, horder, fun d hd => hds d ?_⟩
  exact (ordered_diagnostics horder).2.1 d hd

theorem reports_report {d : Diagnostic} (h : Structural d) : Reports (report d) := by
  rw [report, makePomRxV01Diagnostic_eq_ok_iff.mpr ⟨h.1, rfl⟩]
  exact ⟨[d], rfl, by simpa using h⟩

/-- One to three receipts whose phases are the first ones in their order. -/
structure InOrder (receipts : List Receipt) : Prop where
  ne_nil : receipts ≠ []
  phases : receipts.map Receipt.phase <+: PHASES

theorem InOrder.length_le {receipts : List Receipt} (h : InOrder receipts) : receipts.length ≤ 3 := by
  have := h.phases.length_le
  rwa [List.length_map] at this

theorem InOrder.phases_eq {receipts : List Receipt} (h : InOrder receipts) :
    receipts.map Receipt.phase ∈ ([[.preflight], [.preflight, .execution],
      [.preflight, .execution, .reconciliation]] : List (List Phase)) := by
  have htake := List.prefix_iff_eq_take.mp h.phases
  have hlen := h.length_le
  have hpos := List.length_pos_iff.mpr h.ne_nil
  rw [List.length_map] at htake
  rw [htake]
  obtain hl | hl | hl : receipts.length = 1 ∨ receipts.length = 2 ∨ receipts.length = 3 := by omega
  all_goals
    rw [hl]
    decide

theorem phaseOf_toJs (r : Receipt) : phaseOf r.toJs = some r.phase := by
  refine (readText_eq_some Phase.text_injective).mpr ⟨?_, rfl⟩
  cases r.phase <;> decide

theorem validateEach_toJs {name : JsString} {further : JsValue → Phase → Except StrictError Unit}
    {receipts : List Receipt} (h : ∀ r ∈ receipts, further r.toJs r.phase = .ok ()) :
    validateEach name further (receipts.map Receipt.toJs) = .ok (receipts.map Receipt.phase) := by
  induction receipts with
  | nil => rfl
  | cons r receipts ih =>
    obtain ⟨hr, hrest⟩ := List.forall_mem_cons.mp h
    rw [List.map_cons, validateEach, phaseOf_toJs]
    simp only [hr, ih hrest]
    rfl

/-- The common tests accept validated receipts in order. -/
theorem validateInput_toJs {name : JsString} {further : JsValue → Phase → Except StrictError Unit}
    {receipts : List Receipt} (horder : InOrder receipts)
    (h : ∀ r ∈ receipts, further r.toJs r.phase = .ok ()) :
    validateInput name further (receipts.map Receipt.toJs) = .ok (receipts.map Receipt.phase) := by
  have hpos := List.length_pos_iff.mpr horder.ne_nil
  have hlen := horder.length_le
  have hphases := horder.phases_eq
  simp only [validateInput, bind_eq_ok, require_eq_ok, exists_const, validateEach_toJs h,
    List.length_map, Bool.and_eq_true, decide_eq_true_eq]
  refine ⟨⟨hpos, hlen⟩, _, rfl, ?_⟩
  simp only [List.mem_cons, List.not_mem_nil, or_false] at hphases
  rcases hphases with hp | hp | hp
  all_goals
    rw [hp]
    exact ⟨rfl, (), rfl, rfl⟩

theorem contiguous_of_prefix {receipts : List Receipt} {p : Phase}
    (h : receipts.map Receipt.phase <+: PHASES.drop p.index) :
    receipts.IsChain fun r s => s.phase.index = r.phase.index + 1 := by
  induction receipts generalizing p with
  | nil => simp
  | cons r receipts ih =>
    have hdrop : PHASES.drop p.index = p :: PHASES.drop (p.index + 1) := by cases p <;> rfl
    rw [hdrop, List.map_cons, List.cons_prefix_cons] at h
    obtain ⟨rfl, htail⟩ := h
    cases receipts with
    | nil => simp
    | cons s receipts =>
      -- the next phase exists, so `PHASES` has one more element
      obtain ⟨q, hq⟩ : ∃ q : Phase, PHASES.drop (r.phase.index + 1) = PHASES.drop q.index ∧
          q.index = r.phase.index + 1 := by
        cases hr : r.phase with
        | preflight => exact ⟨.execution, rfl, rfl⟩
        | execution => exact ⟨.reconciliation, rfl, rfl⟩
        | reconciliation =>
          rw [hr] at htail
          cases List.prefix_nil.mp htail
      have hs : s.phase = q := by
        rw [hq.1, show PHASES.drop q.index = q :: PHASES.drop (q.index + 1) by cases q <;> rfl,
          List.map_cons, List.cons_prefix_cons] at htail
        exact htail.1
      refine List.isChain_cons_cons.mpr ⟨by rw [hs, hq.2], ?_⟩
      rw [hq.1] at htail
      exact ih htail

/-! ### Continuity -/

/-- The parameters of a continuity checker fit the registry. -/
structure Continuity.Registered (C : Continuity) : Prop where
  structural : C.code.isStructural = true
  toExecution : C.toExecution.code = C.code
  toReconciliation : C.toReconciliation.code = C.code
  field : isPlainText MAX_DIAGNOSTIC_FIELD_LENGTH C.field = true
  message : ∀ p c, isPlainText MAX_DIAGNOSTIC_MESSAGE_LENGTH (C.message p c) = true

theorem actionContinuity_registered : actionContinuity.Registered where
  structural := rfl
  toExecution := rfl
  toReconciliation := rfl
  field := by decide
  message p c := by cases p <;> cases c <;> decide

theorem inputContinuity_registered : inputContinuity.Registered where
  structural := rfl
  toExecution := rfl
  toReconciliation := rfl
  field := by decide
  message p c := by cases p <;> cases c <;> decide

theorem severity_of_structural {code : DiagnosticCode} (h : code.isStructural = true) :
    Severity.error = code.severity := by
  cases code <;> first | rfl | cases h

section Continuity

variable {C : Continuity} (hC : C.Registered)

include hC

theorem Continuity.defect_code {p c : Phase} (h : c.index = p.index + 1) :
    ∃ defect, C.defectByTransition p c = some defect ∧ defect.code = C.code := by
  cases p <;> cases c <;> cases h
  · exact ⟨_, rfl, hC.toExecution⟩
  · exact ⟨_, rfl, hC.toReconciliation⟩

theorem Continuity.step_reports {previous current : JsValue × Phase} {index : ℕ}
    (hnext : current.2.index = previous.2.index + 1) (hindex : index ≤ maxSafeInteger) :
    Reports (C.step index previous current) := by
  unfold Continuity.step
  split_ifs
  · exact reports_nil
  · obtain ⟨defect, hdefect, hcode⟩ := Continuity.defect_code hC hnext
    rw [hdefect]
    refine reports_report ⟨⟨rfl, ?_, ?_, ?_, hC.message _ _⟩, hC.structural⟩
    · rintro d hd
      cases hd
      exact hcode
    · rintro i hi
      cases hi
      exact hindex
    · rintro f hf
      cases hf
      exact hC.field

theorem Continuity.loop_reports {previous : JsValue × Phase} {rest : List (JsValue × Phase)} {index : ℕ}
    (hchain : (previous :: rest).IsChain fun a b => b.2.index = a.2.index + 1)
    (hindex : index + rest.length ≤ maxSafeInteger) : Reports (C.loop index previous rest) := by
  induction rest generalizing previous index with
  | nil => exact reports_nil
  | cons current rest ih =>
    obtain ⟨hnext, hrest⟩ := List.isChain_cons_cons.mp hchain
    rw [List.length_cons] at hindex
    exact (Continuity.step_reports hC hnext (by omega)).append (ih hrest (by omega))

/-- A continuity checker reports on validated receipts in order. -/
theorem Continuity.check_reports {receipts : List Receipt} (horder : InOrder receipts)
    (hfield : ∀ r ∈ receipts, testPattern HASH_PATTERN (r.toJs.get C.field) = true) :
    Reports (C.check (receipts.map Receipt.toJs)) := by
  unfold Continuity.check
  rw [validateInput_toJs horder fun r hr => require_eq_ok.mpr (hfield r hr)]
  cases receipts with
  | nil => exact absurd rfl horder.ne_nil
  | cons r receipts =>
    have hchain := contiguous_of_prefix (p := .preflight) horder.phases
    have hlen := horder.length_le
    rw [List.length_cons] at hlen
    have hloop : Reports (C.loop 1 (r.toJs, r.phase)
        ((receipts.map Receipt.toJs).zip (receipts.map Receipt.phase))) := by
      apply Continuity.loop_reports hC
      · rw [List.zip_map', ← List.map_cons (f := fun r : Receipt => (r.toJs, r.phase)),
          List.isChain_map]
        exact hchain
      · rw [List.zip_map', List.length_map]
        unfold maxSafeInteger
        omega
    exact hloop.order

end Continuity

/-! ### Assertions -/

theorem outcomeOf_toJs (r : Receipt) : outcomeOf r.toJs r.phase = some r.outcome :=
  (readText_eq_some (Outcome.text_injective _)).mpr ⟨r.outcome_mem, rfl⟩

theorem resultOf_toJs (a : Assertion) : resultOf a.toJs = some a.result := by
  refine (readText_eq_some AssertionResult.text_injective).mpr ⟨?_, rfl⟩
  cases a.result <;> decide

theorem assertionsOf_toJs (r : Receipt) :
    assertionsOf r.toJs = some (r.assertions.val.map Assertion.toJs) := rfl

theorem Consistency.further_toJs (C : Consistency) (r : Receipt) :
    C.further r.toJs r.phase = .ok () := by
  have hlen := r.assertions.property.1
  simp only [Consistency.further, outcomeOf_toJs, assertionsOf_toJs, bind_eq_ok, require_eq_ok,
    exists_const, Option.any_some, List.length_map, Option.getD_some, List.all_map, Bool.and_eq_true,
    decide_eq_true_eq, List.all_eq_true, Function.comp_apply, resultOf_toJs]
  exact ⟨rfl, hlen, fun a _ => ⟨rfl, rfl⟩⟩

/-- The parameters of a consistency checker fit the registry. -/
structure Consistency.Registered (C : Consistency) : Prop where
  structural : C.code.isStructural = true
  defect : C.defect.code = C.code
  message : isPlainText MAX_DIAGNOSTIC_MESSAGE_LENGTH C.message = true

theorem executionConsistency_registered : executionConsistency.Registered where
  structural := rfl
  defect := rfl
  message := by decide

theorem reconciliationConsistency_registered : reconciliationConsistency.Registered where
  structural := rfl
  defect := rfl
  message := by decide

theorem isPlainText_assertions :
    isPlainText MAX_DIAGNOSTIC_FIELD_LENGTH (js "assertions") = true := by decide

theorem Consistency.diagnostic_structural {C : Consistency} (hC : C.Registered) {index : ℕ}
    (hindex : index ≤ maxSafeInteger) (failed : Bool) : Structural (C.diagnostic index failed) := by
  refine ⟨⟨rfl, ?_, ?_, ?_, hC.message⟩, hC.structural⟩
  · intro defect hdefect
    cases failed with
    | false => cases hdefect
    | true =>
      cases hdefect
      exact hC.defect
  · intro i hi
    cases hi
    exact hindex
  · intro f hf
    cases hf
    exact isPlainText_assertions

/-- A consistency checker reports on validated receipts in order. -/
theorem Consistency.check_reports {C : Consistency} (hC : C.Registered) {receipts : List Receipt}
    (horder : InOrder receipts) : Reports (C.check (receipts.map Receipt.toJs)) := by
  unfold Consistency.check
  rw [validateInput_toJs horder fun r _ => C.further_toJs r]
  have hlen := horder.length_le
  dsimp only [bind, Except.bind]
  split
  · exact reports_nil
  · rename_i index hindex
    have hlt : index < receipts.length := by
      have := (List.findIdx?_eq_some_iff_findIdx_eq.mp hindex).1
      simpa using this
    have hsafe : index ≤ maxSafeInteger := by
      unfold maxSafeInteger
      omega
    split_ifs
    · exact reports_nil
    · exact reports_nil
    · exact (reports_report (C.diagnostic_structural hC hsafe _)).order

/-! ### Receipt ids -/

theorem isReceiptId_toJs (r : Receipt) : isReceiptId (r.toJs.get (js "receipt_id")) = true :=
  r.receiptId.property

theorem isPlainText_duplicate : ∀ n < 3, isPlainText MAX_DIAGNOSTIC_MESSAGE_LENGTH
    (js "receipt_id duplicates receipt index " ++ Json.decimal n) = true := by decide

theorem isPlainText_receiptId :
    isPlainText MAX_DIAGNOSTIC_FIELD_LENGTH (js "receipt_id") = true := by decide

theorem duplicateDiagnostic_structural {phase : Phase} {index firstIndex : ℕ} (hindex : index < 3)
    (hfirst : firstIndex < 3) : Structural (duplicateDiagnostic phase index firstIndex) := by
  refine ⟨⟨rfl, ?_, ?_, ?_, isPlainText_duplicate firstIndex hfirst⟩, rfl⟩
  · intro defect hdefect
    cases hdefect
    rfl
  · intro i hi
    cases hi
    unfold maxSafeInteger
    omega
  · intro f hf
    cases hf
    exact isPlainText_receiptId

theorem uniquenessLoop_reports {index : ℕ} {seen : List (JsString × ℕ)}
    {receipts : List (JsValue × Phase)} (hindex : index + receipts.length ≤ 3)
    (hseen : ∀ e ∈ seen, e.2 < 3) : Reports (uniquenessLoop index seen receipts) := by
  induction receipts generalizing index seen with
  | nil => exact reports_nil
  | cons r receipts ih =>
    rw [List.length_cons] at hindex
    unfold uniquenessLoop
    dsimp only
    split
    · apply ih (by omega)
      exact List.forall_mem_cons.mpr ⟨by show index < 3; omega, hseen⟩
    · rename_i firstIndex hlookup
      obtain ⟨before, after, hsplit, -⟩ := List.lookup_eq_some_iff.mp hlookup
      have hfirst : firstIndex < 3 := by
        rw [hsplit] at hseen
        exact hseen _ List.mem_append_cons_self
      have hrest : Reports (uniquenessLoop (index + 1) seen receipts) := ih (by omega) hseen
      exact (reports_report (duplicateDiagnostic_structural (by omega) hfirst)).append hrest

/-- The checker of receipt ids reports on validated receipts in order. -/
theorem checkPomRxV01ReceiptIdUniqueness_reports {receipts : List Receipt} (horder : InOrder receipts) :
    Reports (checkPomRxV01ReceiptIdUniqueness (receipts.map Receipt.toJs)) := by
  unfold checkPomRxV01ReceiptIdUniqueness
  rw [validateInput_toJs horder fun r _ => require_eq_ok.mpr (isReceiptId_toJs r)]
  have hloop : Reports (uniquenessLoop 0 []
      ((receipts.map Receipt.toJs).zip (receipts.map Receipt.phase))) := by
    refine uniquenessLoop_reports ?_ (by simp)
    rw [List.zip_map', List.length_map, Nat.zero_add]
    exact horder.length_le
  exact hloop.order

/-- On validated receipts in order no checker throws. -/
theorem runStrictInvariants_toJs {receipts : List Receipt} (horder : InOrder receipts) :
    Reports (runStrictInvariants (receipts.map Receipt.toJs)) := by
  apply reports_collect
  simp only [List.forall_mem_cons, List.not_mem_nil, false_implies, implies_true, and_true]
  exact ⟨Continuity.check_reports actionContinuity_registered horder
      fun r _ => (testPattern_string _ _).trans r.actionCommitment.property,
    Continuity.check_reports inputContinuity_registered horder
      fun r _ => (testPattern_string _ _).trans r.inputCommitment.property,
    Consistency.check_reports executionConsistency_registered horder,
    Consistency.check_reports reconciliationConsistency_registered horder,
    checkPomRxV01ReceiptIdUniqueness_reports horder⟩

end OpenRisk.Strict
