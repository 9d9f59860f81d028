import OpenRisk.PomRx.Chain

/-!
# Diagnostics of the strict verifier

Model of `sdk/typescript/internal/pom-rx-v01-diagnostics.mjs`, and of `safeMessage` of the
verifier. Codes, severities, phases
and defect ids are enumerations, so the tests that a value is one of them are absent; the
`details` of an error, which no code reads, are left out.

Results:
* `orderPomRxV01Diagnostics_eq_ok_iff`: when the ordering succeeds, and its result.
* `ordered_diagnostics`: the result is sorted and no two diagnostics have one identity.
* `orderPomRxV01Diagnostics_of_ordered`: an ordered list stays as it is.
* `isPlainText_safeMessage`: a sanitized message passes the check of messages.
-/

namespace OpenRisk.Strict

open Text Sdk PomRx Sorting

/-! ## Registry -/

inductive DiagnosticCode where
  | profileRequired
  | profileUnsupported
  | downgradeForbidden
  | policyCapabilityRequired
  | policyCapabilityStale
  | policyInvalid
  | policyTimeUnavailable
  | artifactManifestInvalid
  | verifierNotAllowed
  | verifierWithdrawn
  | implementationArtifactMismatch
  | runtimeEnvironmentUnsupported
  | schemaInvalid
  | canonicalizationFailed
  | receiptHashLinkInvalid
  | chainPhaseInvalid
  | chainTimestampInvalid
  | chainSharedFieldChanged
  | partialChainForbidden
  | actionContinuity
  | inputContinuity
  | executionAssertionConflict
  | reconciliationAssertionConflict
  | duplicateReceiptId
  | profileIncomplete
  | internalVerifierError
  | legacyNonAuthorizing
  deriving DecidableEq

def DiagnosticCode.text : DiagnosticCode → JsString
  | .profileRequired => js "POMRX_V01_E_PROFILE_REQUIRED"
  | .profileUnsupported => js "POMRX_V01_E_PROFILE_UNSUPPORTED"
  | .downgradeForbidden => js "POMRX_V01_E_DOWNGRADE_FORBIDDEN"
  | .policyCapabilityRequired => js "POMRX_V01_E_POLICY_CAPABILITY_REQUIRED"
  | .policyCapabilityStale => js "POMRX_V01_E_POLICY_CAPABILITY_STALE"
  | .policyInvalid => js "POMRX_V01_E_POLICY_INVALID"
  | .policyTimeUnavailable => js "POMRX_V01_E_POLICY_TIME_UNAVAILABLE"
  | .artifactManifestInvalid => js "POMRX_V01_E_ARTIFACT_MANIFEST_INVALID"
  | .verifierNotAllowed => js "POMRX_V01_E_VERIFIER_NOT_ALLOWED"
  | .verifierWithdrawn => js "POMRX_V01_E_VERIFIER_WITHDRAWN"
  | .implementationArtifactMismatch => js "POMRX_V01_E_IMPLEMENTATION_ARTIFACT_MISMATCH"
  | .runtimeEnvironmentUnsupported => js "POMRX_V01_E_RUNTIME_ENVIRONMENT_UNSUPPORTED"
  | .schemaInvalid => js "POMRX_V01_E_SCHEMA_INVALID"
  | .canonicalizationFailed => js "POMRX_V01_E_CANONICALIZATION_FAILED"
  | .receiptHashLinkInvalid => js "POMRX_V01_E_RECEIPT_HASH_LINK_INVALID"
  | .chainPhaseInvalid => js "POMRX_V01_E_CHAIN_PHASE_INVALID"
  | .chainTimestampInvalid => js "POMRX_V01_E_CHAIN_TIMESTAMP_INVALID"
  | .chainSharedFieldChanged => js "POMRX_V01_E_CHAIN_SHARED_FIELD_CHANGED"
  | .partialChainForbidden => js "POMRX_V01_E_PARTIAL_CHAIN_FORBIDDEN"
  | .actionContinuity => js "POMRX_V01_E_ACTION_CONTINUITY"
  | .inputContinuity => js "POMRX_V01_E_INPUT_CONTINUITY"
  | .executionAssertionConflict => js "POMRX_V01_E_EXECUTION_ASSERTION_CONFLICT"
  | .reconciliationAssertionConflict => js "POMRX_V01_E_RECONCILIATION_ASSERTION_CONFLICT"
  | .duplicateReceiptId => js "POMRX_V01_E_DUPLICATE_RECEIPT_ID"
  | .profileIncomplete => js "POMRX_V01_E_PROFILE_INCOMPLETE"
  | .internalVerifierError => js "POMRX_V01_E_INTERNAL_VERIFIER_ERROR"
  | .legacyNonAuthorizing => js "POMRX_V01_W_LEGACY_NON_AUTHORIZING"

inductive Severity where
  | error
  | warning
  deriving DecidableEq

def Severity.text : Severity → JsString
  | .error => js "error"
  | .warning => js "warning"

/-- The registry class of a code: `WARNING_CODES` has one element, `ERROR_CODES` all others. -/
def DiagnosticCode.severity : DiagnosticCode → Severity
  | .legacyNonAuthorizing => .warning
  | _ => .error

inductive DefectId where
  | actionPreflightExecution
  | actionExecutionReconciliation
  | inputPreflightExecution
  | inputExecutionReconciliation
  | executionFailAssertion
  | reconciliationFailAssertion
  | duplicateReceiptId
  deriving DecidableEq

def DefectId.text : DefectId → JsString
  | .actionPreflightExecution => js "POMRX-001-ACTION-PREFLIGHT-EXECUTION"
  | .actionExecutionReconciliation => js "POMRX-001-ACTION-EXECUTION-RECONCILIATION"
  | .inputPreflightExecution => js "POMRX-001-INPUT-PREFLIGHT-EXECUTION"
  | .inputExecutionReconciliation => js "POMRX-001-INPUT-EXECUTION-RECONCILIATION"
  | .executionFailAssertion => js "POMRX-006-EXECUTION-FAIL-ASSERTION"
  | .reconciliationFailAssertion => js "POMRX-006-RECONCILIATION-FAIL-ASSERTION"
  | .duplicateReceiptId => js "POMRX-007-DUPLICATE-RECEIPT-ID"

/-- `DEFECT_CODE_MAP`. -/
def DefectId.code : DefectId → DiagnosticCode
  | .actionPreflightExecution => .actionContinuity
  | .actionExecutionReconciliation => .actionContinuity
  | .inputPreflightExecution => .inputContinuity
  | .inputExecutionReconciliation => .inputContinuity
  | .executionFailAssertion => .executionAssertionConflict
  | .reconciliationFailAssertion => .reconciliationAssertionConflict
  | .duplicateReceiptId => .duplicateReceiptId

/-- `PROFILE_LIMITATIONS`. -/
def PROFILE_LIMITATIONS : List JsString :=
  ["POMRX_V01_L_OPAQUE_COMMITMENT_CONTENT_UNPROVED", "POMRX_V01_L_NATIVE_EXECUTION_UNPROVED",
    "POMRX_V01_L_CROSS_CHAIN_REPLAY_UNPROVED", "POMRX_V01_L_SIGNED_WITNESS_UNPROVED",
    "POMRX_V01_L_GATE_AUTHORIZATION_UNPROVED",
    "POMRX_V01_L_MALICIOUS_LOCAL_RUNTIME_UNPROVED"].map js

/-! ## Model -/

/-- `PomRxV01StrictError`. -/
structure StrictError where
  code : DiagnosticCode
  message : JsString
  deriving DecidableEq

/-- `fail(message)`. -/
def fail {α : Type} (message : JsString) : Except StrictError α :=
  .error ⟨.internalVerifierError, message⟩

/-- `if (!condition) fail(message)`. -/
def require (condition : Bool) (message : JsString) : Except StrictError Unit :=
  if condition then .ok () else fail message

theorem require_eq_ok {condition : Bool} {message : JsString} {u : Unit} :
    require condition message = .ok u ↔ condition = true := by
  cases condition <;> simp [require, fail]

/-- A diagnostic. -/
structure Diagnostic where
  defectId : Option DefectId := none
  diagnosticCode : DiagnosticCode
  severity : Severity := diagnosticCode.severity
  phase : Option Phase := none
  receiptIndex : Option ℕ := none
  field : Option JsString := none
  message : JsString
  deriving DecidableEq

def MAX_DIAGNOSTIC_FIELD_LENGTH : ℕ := 256

def MAX_DIAGNOSTIC_MESSAGE_LENGTH : ℕ := 2048

/-- `Number.MAX_SAFE_INTEGER`. -/
def maxSafeInteger : ℕ := 2 ^ 53 - 1

/-- A text of 1 to `limit` code units without control characters. -/
def isPlainText (limit : ℕ) (s : JsString) : Bool :=
  s.length ≠ 0 && s.length ≤ limit && !s.any isControlUnit

/-- `makePomRxV01Diagnostic({ ... })`. -/
def makePomRxV01Diagnostic (d : Diagnostic) : Except StrictError Diagnostic := do
  require (d.severity = d.diagnosticCode.severity)
    (js "Diagnostic severity does not match its registry class")
  require (d.defectId.all fun defect => defect.code = d.diagnosticCode)
    (js "Diagnostic defect_id and code do not match the stable registry")
  require (d.receiptIndex.all fun index => index ≤ maxSafeInteger)
    (js "Diagnostic receipt_index is invalid")
  require (d.field.all (isPlainText MAX_DIAGNOSTIC_FIELD_LENGTH)) (js "Diagnostic field is invalid")
  require (isPlainText MAX_DIAGNOSTIC_MESSAGE_LENGTH d.message) (js "Diagnostic message is invalid")
  .ok d

/-- `compareUnicodeScalars(left, right)`. -/
def compareUnicodeScalars (left right : JsString) : Ordering :=
  compare (codePoints left) (codePoints right)

/-- `compareNullable(left, right, comparator)`: `null` comes last. -/
def compareNullable {α : Type} (comparator : α → α → Ordering) : Option α → Option α → Ordering
  | none, none => .eq
  | none, some _ => .gt
  | some _, none => .lt
  | some a, some b => comparator a b

/-- The comparator of `orderPomRxV01Diagnostics`. -/
def compareDiagnostics (left right : Diagnostic) : Ordering :=
  (compareNullable (fun a b => compare a.index b.index) left.phase right.phase).then <|
  (compareNullable compare left.receiptIndex right.receiptIndex).then <|
  (compareUnicodeScalars left.diagnosticCode.text right.diagnosticCode.text).then <|
  (compareNullable compareUnicodeScalars left.field right.field).then <|
  compareNullable (fun a b => compareUnicodeScalars a.text b.text) left.defectId right.defectId

/-- A string or `null`. -/
def jsonText : Option JsString → Json
  | some s => .string s
  | none => .null

/-- A number or `null`. -/
def jsonIndex : Option ℕ → Json
  | some n => .number ⟨false, n, none, none⟩
  | none => .null

/-- The text `identity` of the filter. -/
def Diagnostic.identity (d : Diagnostic) : JsString :=
  Json.print (.array [jsonText (d.phase.map Phase.text), jsonIndex d.receiptIndex,
    .string d.diagnosticCode.text, jsonText d.field, jsonText (d.defectId.map DefectId.text)])

/-- The filter that keeps the first diagnostic of each identity. -/
def dedupe : List JsString → List Diagnostic → List Diagnostic
  | _, [] => []
  | seen, d :: ds =>
    if d.identity ∈ seen then dedupe seen ds else d :: dedupe (d.identity :: seen) ds

/-- `normalized.sort(...)`. -/
def sortDiagnostics (ds : List Diagnostic) : List Diagnostic :=
  ds.insertionSort (NotAfter compareDiagnostics)

/-- `orderPomRxV01Diagnostics(diagnostics)`. -/
def orderPomRxV01Diagnostics (diagnostics : List Diagnostic) : Except StrictError (List Diagnostic) := do
  let normalized ← diagnostics.mapM makePomRxV01Diagnostic
  .ok (dedupe [] (sortDiagnostics normalized))

/-! ## Well-formed diagnostics -/

/-- What `makePomRxV01Diagnostic` checks. -/
structure Diagnostic.WellFormed (d : Diagnostic) : Prop where
  severity : d.severity = d.diagnosticCode.severity
  defectId : ∀ defect ∈ d.defectId, defect.code = d.diagnosticCode
  receiptIndex : ∀ index ∈ d.receiptIndex, index ≤ maxSafeInteger
  field : ∀ s ∈ d.field, isPlainText MAX_DIAGNOSTIC_FIELD_LENGTH s = true
  message : isPlainText MAX_DIAGNOSTIC_MESSAGE_LENGTH d.message = true

theorem makePomRxV01Diagnostic_eq_ok_iff {d e : Diagnostic} :
    makePomRxV01Diagnostic d = .ok e ↔ d.WellFormed ∧ e = d := by
  simp only [makePomRxV01Diagnostic, bind_eq_ok, require_eq_ok, exists_const, decide_eq_true_eq,
    Option.all_eq_true_iff_get, Except.ok.injEq]
  constructor
  · rintro ⟨hseverity, hdefect, hindex, hfield, hmessage, rfl⟩
    refine ⟨⟨hseverity, ?_, ?_, ?_, hmessage⟩, rfl⟩
    · rintro defect hd
      simpa [Option.mem_def.mp hd] using hdefect (by simp [Option.mem_def.mp hd])
    · rintro index hi
      simpa [Option.mem_def.mp hi] using hindex (by simp [Option.mem_def.mp hi])
    · rintro s hs
      simpa [Option.mem_def.mp hs] using hfield (by simp [Option.mem_def.mp hs])
  · rintro ⟨h, rfl⟩
    refine ⟨h.severity, fun hs => h.defectId _ ?_, fun hs => h.receiptIndex _ ?_,
      fun hs => h.field _ ?_, h.message, rfl⟩
    all_goals exact Option.get_mem hs

theorem mapM_makePomRxV01Diagnostic_eq_ok_iff {ds es : List Diagnostic} :
    ds.mapM makePomRxV01Diagnostic = .ok es ↔ (∀ d ∈ ds, d.WellFormed) ∧ es = ds := by
  rw [mapM_eq_ok_iff]
  constructor
  · intro h
    induction h with
    | nil => simp
    | cons hd _ ih =>
      obtain ⟨hw, rfl⟩ := makePomRxV01Diagnostic_eq_ok_iff.mp hd
      obtain ⟨hws, rfl⟩ := ih
      exact ⟨List.forall_mem_cons.mpr ⟨hw, hws⟩, rfl⟩
  · rintro ⟨h, rfl⟩
    rw [List.forall₂_same]
    intro d hd
    exact makePomRxV01Diagnostic_eq_ok_iff.mpr ⟨h d hd, rfl⟩

/-- When the ordering succeeds, and its result. -/
theorem orderPomRxV01Diagnostics_eq_ok_iff {ds os : List Diagnostic} :
    orderPomRxV01Diagnostics ds = .ok os ↔
      (∀ d ∈ ds, d.WellFormed) ∧ os = dedupe [] (sortDiagnostics ds) := by
  simp only [orderPomRxV01Diagnostics, bind_eq_ok, mapM_makePomRxV01Diagnostic_eq_ok_iff,
    Except.ok.injEq]
  constructor
  · rintro ⟨es, ⟨h, rfl⟩, rfl⟩
    exact ⟨h, rfl⟩
  · rintro ⟨h, rfl⟩
    exact ⟨ds, ⟨h, rfl⟩, rfl⟩

/-! ## Order -/

instance instTransCmpNullable {α : Type} {cmp : α → α → Ordering} [Std.TransCmp cmp] :
    Std.TransCmp (compareNullable cmp) where
  eq_swap {a b} := by
    cases a with
    | none => cases b <;> rfl
    | some x =>
      cases b with
      | none => rfl
      | some y => exact (Std.OrientedCmp.eq_swap : cmp x y = (cmp y x).swap)
  isLE_trans {a b c} hab hbc := by
    cases a <;> cases b <;> cases c <;> simp_all [compareNullable]
    exact Std.TransCmp.isLE_trans hab hbc

instance instTransCmpScalars : Std.TransCmp compareUnicodeScalars :=
  transCmp_on (compare : List CodePoint → List CodePoint → Ordering) codePoints

instance instTransCmpDiagnostics : Std.TransCmp compareDiagnostics := by
  have hindex := transCmp_on (compare : ℕ → ℕ → Ordering) Phase.index
  have hdefect := transCmp_on compareUnicodeScalars DefectId.text
  have h1 := transCmp_on (compareNullable fun a b : Phase => compare a.index b.index) Diagnostic.phase
  have h2 := transCmp_on (compareNullable (compare : ℕ → ℕ → Ordering)) Diagnostic.receiptIndex
  have h3 := transCmp_on compareUnicodeScalars fun d : Diagnostic => d.diagnosticCode.text
  have h4 := transCmp_on (compareNullable compareUnicodeScalars) Diagnostic.field
  have h5 := transCmp_on (compareNullable fun a b : DefectId => compareUnicodeScalars a.text b.text)
    Diagnostic.defectId
  exact inferInstanceAs (Std.TransCmp (compareLex _ (compareLex _ (compareLex _ (compareLex _ _)))))

theorem sortDiagnostics_perm (ds : List Diagnostic) : (sortDiagnostics ds).Perm ds :=
  List.perm_insertionSort _ ds

theorem dedupe_sublist (seen : List JsString) (ds : List Diagnostic) :
    (dedupe seen ds).Sublist ds := by
  induction ds generalizing seen with
  | nil => exact .refl _
  | cons d ds ih =>
    rw [dedupe]
    split_ifs
    · exact (ih seen).cons d
    · exact (ih _).cons_cons d

/-- The filter keeps one diagnostic of each identity. -/
theorem dedupe_nodup (seen : List JsString) (ds : List Diagnostic) :
    ((dedupe seen ds).map Diagnostic.identity).Nodup ∧
      ∀ d ∈ dedupe seen ds, d.identity ∉ seen := by
  induction ds generalizing seen with
  | nil => simp [dedupe]
  | cons d ds ih =>
    rw [dedupe]
    split_ifs with hseen
    · exact ih seen
    · obtain ⟨hnodup, hfresh⟩ := ih (d.identity :: seen)
      rw [List.map_cons, List.nodup_cons]
      refine ⟨⟨?_, hnodup⟩, ?_⟩
      · intro hmem
        obtain ⟨e, he, heq⟩ := List.mem_map.mp hmem
        exact hfresh e he (by rw [heq]; exact List.mem_cons_self)
      · intro e he
        rcases List.mem_cons.mp he with rfl | he
        · exact hseen
        · exact fun hmem => hfresh e he (List.mem_cons_of_mem _ hmem)

theorem dedupe_eq_self {seen : List JsString} {ds : List Diagnostic}
    (hnodup : (ds.map Diagnostic.identity).Nodup) (hfresh : ∀ d ∈ ds, d.identity ∉ seen) :
    dedupe seen ds = ds := by
  induction ds generalizing seen with
  | nil => rfl
  | cons d ds ih =>
    rw [List.map_cons, List.nodup_cons] at hnodup
    rw [dedupe, if_neg (hfresh d List.mem_cons_self)]
    congr 1
    apply ih hnodup.2
    intro e he hmem
    rcases List.mem_cons.mp hmem with heq | hmem
    · exact hnodup.1 (heq ▸ List.mem_map_of_mem he)
    · exact hfresh e (List.mem_cons_of_mem d he) hmem

/-- Sorted, without two diagnostics of one identity. -/
structure Ordered (ds : List Diagnostic) : Prop where
  sorted : ds.Pairwise (NotAfter compareDiagnostics)
  nodup : (ds.map Diagnostic.identity).Nodup

theorem ordered_diagnostics {ds os : List Diagnostic} (h : orderPomRxV01Diagnostics ds = .ok os) :
    Ordered os ∧ (∀ d ∈ os, d ∈ ds) ∧ (∀ d ∈ os, d.WellFormed) ∧ (ds ≠ [] → os ≠ []) := by
  obtain ⟨hw, rfl⟩ := orderPomRxV01Diagnostics_eq_ok_iff.mp h
  have hsub := dedupe_sublist [] (sortDiagnostics ds)
  have hmem : ∀ d ∈ dedupe [] (sortDiagnostics ds), d ∈ ds := fun d hd =>
    (sortDiagnostics_perm ds).mem_iff.mp (hsub.subset hd)
  refine ⟨⟨(List.pairwise_insertionSort _ ds).sublist hsub, (dedupe_nodup _ _).1⟩, hmem,
    fun d hd => hw d (hmem d hd), ?_⟩
  intro hne hnil
  -- the first of the sorted list is kept
  cases hsort : sortDiagnostics ds with
  | nil =>
    have hperm := sortDiagnostics_perm ds
    rw [hsort] at hperm
    exact hne hperm.nil_eq.symm
  | cons d rest =>
    rw [hsort, dedupe, if_neg List.not_mem_nil] at hnil
    cases hnil

/-- A well-formed ordered list stays as it is. -/
theorem orderPomRxV01Diagnostics_of_ordered {os : List Diagnostic} (hw : ∀ d ∈ os, d.WellFormed)
    (h : Ordered os) : orderPomRxV01Diagnostics os = .ok os := by
  refine orderPomRxV01Diagnostics_eq_ok_iff.mpr ⟨hw, ?_⟩
  rw [sortDiagnostics, h.sorted.insertionSort_eq, dedupe_eq_self h.nodup (fun _ _ => List.not_mem_nil)]

/-! ## Messages -/

/-- `safeMessage(value, fallback)`: control characters become spaces, and the text is
    trimmed and cut to 2048 code units. -/
def safeMessage (value : Option JsString) (fallback : JsString) : JsString :=
  let raw := value.getD fallback
  let sanitized := (trim (raw.map fun u => if isControlUnit u then 0x20 else u)).take 2048
  if sanitized = [] then fallback else sanitized

theorem mem_trim {s : JsString} {u : UInt16} (h : u ∈ trim s) : u ∈ s := by
  unfold trim at h
  have h1 := (List.dropWhile_sublist _).subset (List.mem_reverse.mp h)
  exact (List.dropWhile_sublist _).subset (List.mem_reverse.mp h1)

theorem isPlainText_safeMessage {value : Option JsString} {fallback : JsString}
    (hfallback : isPlainText MAX_DIAGNOSTIC_MESSAGE_LENGTH fallback = true) :
    isPlainText MAX_DIAGNOSTIC_MESSAGE_LENGTH (safeMessage value fallback) = true := by
  unfold safeMessage
  dsimp only
  split_ifs with hempty
  · exact hfallback
  · simp only [isPlainText, Bool.and_eq_true, decide_eq_true_eq, Bool.not_eq_true']
    refine ⟨⟨?_, ?_⟩, ?_⟩
    · simpa using hempty
    · exact List.length_take_le _ _
    · rw [Bool.eq_false_iff]
      intro hany
      obtain ⟨u, hu, hcontrol⟩ := List.any_eq_true.mp hany
      obtain ⟨v, -, hv⟩ := List.mem_map.mp (mem_trim (List.mem_of_mem_take hu))
      split_ifs at hv with hv'
      · rw [← hv] at hcontrol
        exact absurd hcontrol (by decide)
      · rw [hv] at hv'
        exact hv' hcontrol

end OpenRisk.Strict
