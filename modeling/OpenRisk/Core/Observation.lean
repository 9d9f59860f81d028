import OpenRisk.Core.ExecutionEvidence
import OpenRisk.Core.ObserverChannel

/-!
# Observation and reconciliation

Model of `core/observation/reference-observation-reconciliation.mjs`. A call of
`captureAndReconcile` checks its input, asks the trusted clock, invokes the observer, waits for
the observation, asks the clock again, and compares the observation with the authorization.
Calls of one instance share `lastTrustedTimeMs` and may interleave in any way.

The source reads the fields of the binding from the captured record; they are the fields of the
validated binding.
-/

namespace OpenRisk.Core

open Text Sdk

/-! ## Records -/

/-- `EXECUTION_STATUSES`. -/
inductive ExecutionStatus where
  | success
  | error
  | unknown
  deriving DecidableEq

def ExecutionStatus.text : ExecutionStatus → JsString
  | .success => js "success"
  | .error => js "error"
  | .unknown => js "unknown"

/-- `EXPECTED_EXECUTION_STATUSES`. -/
inductive ExpectedStatus where
  | success
  | error
  | any
  deriving DecidableEq

def ExpectedStatus.text : ExpectedStatus → JsString
  | .success => js "success"
  | .error => js "error"
  | .any => js "any"

def EXPECTED_KEYS : List JsString :=
  ["authorization_binding", "expected_execution_status", "expected_effect_commitment"].map js

def observationFailure {α : Type} (code message : JsString) : Except ObservationError α :=
  .error ⟨code, message⟩

/-- `assertHash(value, field, { nullable: true, code })`. -/
def assertNullableHash (value : Option JsValue) (field code : String) :
    Except ObservationError (Option HashText) :=
  match value with
  | some .null => .ok none
  | some (.string s) =>
    if h : HASH_PATTERN s = true then .ok (some ⟨s, h⟩)
    else observationFailure (js code) (js field ++ js " must be a lowercase SHA-256 hash or null")
  | _ => observationFailure (js code) (js field ++ js " must be a lowercase SHA-256 hash or null")

/-- The result of `normalizeExpected`. -/
structure Expected (P : DateParser) where
  bindingProfile : Profile
  runId : Identifier
  authorizationCommitment : HashText
  actionCommitment : HashText
  contextCommitment : HashText
  authorizationIssuedAt : UtcInstant P
  authorizationValidUntil : UtcInstant P
  expectedExecutionStatus : ExpectedStatus
  expectedEffectCommitment : Option HashText

/-- The result of `normalizeObserved`. -/
structure Observation (P : DateParser) where
  bindingProfile : Profile
  runId : Identifier
  actionCommitment : HashText
  contextCommitment : HashText
  executionStatus : ExecutionStatus
  effectCommitment : Option HashText
  executedAt : UtcInstant P
  observedAt : UtcInstant P

section Normalize

variable (P : DateParser) (N : Normalization) (S : Hash)

end Normalize

/-! ## Classification -/

inductive Verdict where
  | match
  | mismatch
  | indeterminate
  deriving DecidableEq

def Verdict.text : Verdict → JsString
  | .match => js "MATCH"
  | .mismatch => js "MISMATCH"
  | .indeterminate => js "INDETERMINATE"

/-- The reasons of `classify`. -/
inductive Reason where
  | bindingProfile
  | run
  | action
  | context
  | authWindow
  | status
  | effect
  | indeterminateExecution
  deriving DecidableEq

def Reason.text : Reason → JsString
  | .bindingProfile => js "POMRX_RECON_MISMATCH_BINDING_PROFILE"
  | .run => js "POMRX_RECON_MISMATCH_RUN"
  | .action => js "POMRX_RECON_MISMATCH_ACTION"
  | .context => js "POMRX_RECON_MISMATCH_CONTEXT"
  | .authWindow => js "POMRX_RECON_MISMATCH_AUTH_WINDOW"
  | .status => js "POMRX_RECON_MISMATCH_STATUS"
  | .effect => js "POMRX_RECON_MISMATCH_EFFECT"
  | .indeterminateExecution => js "POMRX_RECON_INDETERMINATE_EXECUTION"

structure Classification where
  verdict : Verdict
  reasons : List Reason

section Classify

variable {P : DateParser}

end Classify

/-! ## Commitments -/

def POM_RX_REFERENCE_OBSERVATION_VERSION : JsString := js "pom-rx-reference-observation/0.1"

def POM_RX_REFERENCE_RECONCILIATION_VERSION : JsString := js "pom-rx-reference-reconciliation/0.1"

/-- What a call rejects with: an error of this module or one of `canonicalizePayload`. -/
inductive ReconcileError where
  | observation (e : ObservationError)
  | payload (e : PayloadError)

section Commit

variable {P : DateParser} (N : Normalization) (S : Hash)

/-- The fields of an observation. -/
def observationFields (o : Observation P) : List (JsString × JsValue) :=
  [(js "schema_version", .string POM_RX_REFERENCE_OBSERVATION_VERSION),
    (js "binding_profile", .string o.bindingProfile.val), (js "run_id", .string o.runId.val),
    (js "action_commitment", .string o.actionCommitment.val),
    (js "context_commitment", .string o.contextCommitment.val),
    (js "execution_status", .string o.executionStatus.text),
    (js "effect_commitment", nullableHash o.effectCommitment),
    (js "executed_at", .string o.executedAt.text), (js "observed_at", .string o.observedAt.text)]

/-- The fields of `payload` in `commitReconciliation`. -/
def reconciliationFields (expected : Expected P) (observationHash : HashText) (c : Classification) :
    List (JsString × JsValue) :=
  [(js "schema_version", .string POM_RX_REFERENCE_RECONCILIATION_VERSION),
    (js "binding_profile", .string expected.bindingProfile.val),
    (js "run_id", .string expected.runId.val),
    (js "authorization_commitment", .string expected.authorizationCommitment.val),
    (js "action_commitment", .string expected.actionCommitment.val),
    (js "context_commitment", .string expected.contextCommitment.val),
    (js "expected_execution_status", .string expected.expectedExecutionStatus.text),
    (js "expected_effect_commitment", nullableHash expected.expectedEffectCommitment),
    (js "observation_hash", .string observationHash.val), (js "verdict", .string c.verdict.text),
    (js "reasons", .array (c.reasons.map fun reason => .string reason.text))]

/-- A reconciliation. -/
structure Reconciliation (P : DateParser) where
  expected : Expected P
  observationHash : HashText
  classification : Classification
  reconciliationHash : HashText

/-- The result of `captureAndReconcile(input)`. -/
structure Reconciled (P : DateParser) where
  observation : Observation P
  observationHash : HashText
  reconciliation : Reconciliation P

/-- The returned record. -/
def Reconciled.toJs (r : Reconciled P) : JsValue :=
  .object [(js "observation", .object (observationFields r.observation ++
      [(js "observation_hash", JsValue.string r.observationHash.val)])),
    (js "reconciliation", .object (reconciliationFields r.reconciliation.expected
        r.reconciliation.observationHash r.reconciliation.classification ++
      [(js "reconciliation_hash", JsValue.string r.reconciliation.reconciliationHash.val),
        (js "reference_only", JsValue.bool true), (js "external_world_proved", JsValue.bool false)]))]

end Commit

/-! ## The machine -/

section Machine

variable {P : DateParser} (N : Normalization) (S : Hash)

/-- Where a call stands. -/
inductive CapturePhase (P : DateParser) where
  /-- The clock is asked before the observer is invoked. -/
  | starting (expected : Expected P)
  /-- The observer is invoked, or its promise is awaited. -/
  | observing (expected : Expected P) (channel : Channel)
  | settled (result : Except ReconcileError (Reconciled P))

/-- A call of `captureAndReconcile`, with its argument and the samples of the clock it took. -/
structure Capture (P : DateParser) where
  input : HostValue
  samples : List (UtcInstant P)
  phase : CapturePhase P

structure ReconcilerState (P : DateParser) where
  lastTrustedTimeMs : Option ℤ
  calls : List (Capture P)

def ReconcilerState.initial (P : DateParser) : ReconcilerState P := ⟨none, []⟩

end Machine

end OpenRisk.Core
