import OpenRisk.Core.Gate
import OpenRisk.Sdk.Content
import OpenRisk.Sdk.PlainText

/-!
# Execution evidence

Model of `core/execution/reference-execution-evidence.mjs`: the recorder that
`createReferenceExecutionEvidenceRecorder` returns, as a machine. `begin` and `complete` each
read the clock once; a clock may call the recorder again before it answers, so that a call is
two steps, and the calls whose clock has not answered form a stack. A handle is its index in
the order of creation.

An outcome is captured before the clock is read: the frame of a `complete` has what will be
recorded.

Results:
* `planOf_exact`, `planOf_other`: what is recorded for an outcome.
* `buildEvidence_ok`: evidence is built and is valid whenever the clock answers.
-/

namespace OpenRisk.Core

open Text Sdk

/-- `PomRxExecutionEvidenceError`. -/
structure ExecutionEvidenceError where
  code : JsString
  message : JsString
  deriving DecidableEq

/-- What a call throws: an error of this module, one of a callee that is passed on, or one of
    the clock. -/
inductive RecorderError where
  | evidence (e : ExecutionEvidenceError)
  | payload (e : PayloadError)
  | clock
  deriving DecidableEq

def executionError (code message : String) : ExecutionEvidenceError := ⟨js code, js message⟩

/-- `fail(code, message)`. -/
def failExecution {α : Type} (code message : String) : Except RecorderError α :=
  .error (.evidence (executionError code message))

def POM_RX_REFERENCE_EXECUTION_EVIDENCE_VERSION : JsString :=
  js "pom-rx-reference-execution-evidence/0.1"

def POM_RX_REFERENCE_EXECUTION_EVIDENCE_HASH_DOMAIN : JsString :=
  js "swisstokint:pom-rx-reference-execution-evidence:v1:"

def POM_RX_REFERENCE_EXECUTION_EFFECT_HASH_DOMAIN : JsString :=
  js "swisstokint:pom-rx-reference-execution-effect:v1:"

def EXECUTION_STATUSES : List JsString := ["success", "error", "unknown"].map js

/-- `DIAGNOSTIC_PATTERN = /^[A-Z0-9_]{3,96}$/u`. -/
def DIAGNOSTIC_PATTERN (s : JsString) : Bool :=
  3 ≤ s.length && s.length ≤ 96 &&
    s.all fun u => isUpperAlpha u || Json.isDigit u || u = 0x5F

def OUTCOME_KEYS : List JsString := ["execution_status", "effect"].map js

def EVIDENCE_KEYS : List JsString :=
  ["schema_version", "binding_profile", "run_id", "capability_id", "authorization_commitment",
    "action_commitment", "context_commitment", "execution_status", "effect_commitment",
    "recording_started_at", "recorded_at", "diagnostic", "reference_only",
    "gate_consumption_proved", "native_execution_time_proved", "external_execution_proved",
    "external_effect_proved", "execution_evidence_hash"].map js

def MAX_LOCAL_AUTHORIZATIONS : ℕ := 1000

/-- `captureExactDataRecord(value, expectedKeys, label, code)`. -/
def captureExactDataRecord (value : HostValue) (expectedKeys : List JsString) (label : JsString)
    (code : String) : Except ExecutionEvidenceError (List (JsString × HostValue)) :=
  let error (text : String) : ExecutionEvidenceError := ⟨js code, label ++ js text⟩
  snapshotRecord
    { notObject := error " must be a non-Proxy plain object"
      array := error " must be a non-Proxy plain object"
      prototype := error " must be a plain object"
      symbols := error " cannot contain symbol keys"
      fields := error " has missing, hidden or unknown fields"
      property := fun key =>
        ⟨js code, label ++ 0x2E :: key ++ js " must be an enumerable data property"⟩ }
    (fun names => sortNames names = sortNames expectedKeys) expectedKeys value

/-! ## Outcomes -/

/-- What `buildEvidence` is called with. -/
structure Plan where
  executionStatus : JsString
  effectHash : Option HashText
  diagnostic : Option JsString

/-- An outcome that is recorded as unknown, with a diagnostic. -/
def Plan.unknown (diagnostic : String) : Plan := ⟨js "unknown", none, some (js diagnostic)⟩

section Outcome

variable (N : Normalization) (S : Hash)

/-- `commitEffect(effect)`. -/
def commitEffect (effect : JsValue) : Except ExecutionEvidenceError HashText :=
  match canonicalizePayload N effect with
  | .ok canonical => .ok (sha256Hex S (POM_RX_REFERENCE_EXECUTION_EFFECT_HASH_DOMAIN ++ canonical))
  | .error _ => .error (executionError "POMRX_EXEC_E_EFFECT_UNCOMMITTABLE"
      "captured execution effect is outside the canonical commitment contract")

/-- The part of `complete` after the capture, up to `buildEvidence`. The fields of a captured
    outcome are plain data. -/
def planOfCaptured (outcome : JsValue) : Plan :=
  match captureExactDataRecord (.ofData outcome) OUTCOME_KEYS (js "execution outcome")
    "POMRX_EXEC_E_OUTCOME_INVALID" with
  | .error _ => .unknown "POMRX_EXEC_DIAG_OUTCOME_INVALID"
  | .ok _ =>
    match outcome.get (js "execution_status"), outcome.get (js "effect") with
    | some (.string executionStatus), some effect =>
      if executionStatus ∉ EXECUTION_STATUSES then .unknown "POMRX_EXEC_DIAG_OUTCOME_INVALID"
      else if executionStatus = js "unknown" then
        match effect with
        | .null => .unknown "POMRX_EXEC_DIAG_EXECUTION_UNKNOWN"
        | _ => .unknown "POMRX_EXEC_DIAG_OUTCOME_INVALID"
      else
        match effect with
        | .null => .unknown "POMRX_EXEC_DIAG_OUTCOME_INVALID"
        | effect =>
          match commitEffect N S effect with
          | .error _ => .unknown "POMRX_EXEC_DIAG_OUTCOME_INVALID"
          | .ok effectHash => ⟨executionStatus, some effectHash, none⟩
    | _, _ => .unknown "POMRX_EXEC_DIAG_OUTCOME_INVALID"

/-- What `complete` records for an outcome. -/
def planOf (rawOutcome : HostValue) : Plan :=
  match captureReferencePlainData rawOutcome (js "execution outcome") with
  | .error _ => .unknown "POMRX_EXEC_DIAG_OUTCOME_INVALID"
  | .ok outcome => planOfCaptured N S outcome

end Outcome

/-! ## Evidence -/

/-- `canonicalUtcInstant(value, field)`. -/
def canonicalExecutionInstant (P : DateParser) (value : Option HostValue) (field : JsString) :
    Except ExecutionEvidenceError (UtcInstant P) :=
  match value with
  | some (.string s) =>
    match UtcInstant.ofText P s with
    | some i => .ok i
    | none => .error ⟨js "POMRX_EXEC_E_TIME_INVALID", field ++ js " must be a canonical UTC instant"⟩
  | _ => .error ⟨js "POMRX_EXEC_E_TIME_INVALID", field ++ js " must be a canonical UTC instant"⟩

/-- A check of `validateEvidence`. -/
def requireEvidence (condition : Bool) (message : JsString) : Except ExecutionEvidenceError Unit :=
  if condition then .ok () else .error ⟨js "POMRX_EXEC_E_EVIDENCE_INVALID", message⟩

/-- A field holds a string with this test. -/
def fieldString (test : JsString → Bool) : Option HostValue → Bool
  | some (.string s) => test s
  | _ => false

def fieldNull : Option HostValue → Bool
  | some .null => true
  | _ => false

def fieldBool (b : Bool) : Option HostValue → Bool
  | some (.bool c) => b = c
  | _ => false

/-- `validateEvidence(evidence)`. -/
def validateEvidence (P : DateParser) (evidence : HostValue) : Except ExecutionEvidenceError Unit := do
  let captured ← captureExactDataRecord evidence EVIDENCE_KEYS (js "reference execution evidence")
    "POMRX_EXEC_E_EVIDENCE_INVALID"
  let get (field : String) := captured.lookup (js field)
  requireEvidence (fieldString (· = POM_RX_REFERENCE_EXECUTION_EVIDENCE_VERSION)
    (get "schema_version")) (js "execution evidence version is invalid")
  requireEvidence (fieldString (EXECUTION_STATUSES.contains ·) (get "execution_status"))
    (js "execution status is invalid")
  requireEvidence (fieldString HASH_PATTERN (get "authorization_commitment"))
    (js "authorization_commitment is invalid")
  requireEvidence (fieldString HASH_PATTERN (get "action_commitment"))
    (js "action_commitment is invalid")
  requireEvidence (fieldString HASH_PATTERN (get "context_commitment"))
    (js "context_commitment is invalid")
  requireEvidence (fieldString HASH_PATTERN (get "execution_evidence_hash"))
    (js "execution_evidence_hash is invalid")
  requireEvidence (fieldNull (get "effect_commitment") ||
    fieldString HASH_PATTERN (get "effect_commitment")) (js "effect_commitment is invalid")
  requireEvidence (!(fieldString (· = js "unknown") (get "execution_status") &&
    !fieldNull (get "effect_commitment")))
    (js "unknown execution cannot claim an effect commitment")
  requireEvidence (!(!fieldString (· = js "unknown") (get "execution_status") &&
    fieldNull (get "effect_commitment"))) (js "known execution requires an effect commitment")
  requireEvidence (fieldNull (get "diagnostic") ||
    fieldString DIAGNOSTIC_PATTERN (get "diagnostic")) (js "diagnostic is invalid")
  requireEvidence (fieldBool true (get "reference_only") &&
    fieldBool false (get "gate_consumption_proved") &&
    fieldBool false (get "native_execution_time_proved") &&
    fieldBool false (get "external_execution_proved") &&
    fieldBool false (get "external_effect_proved")) (js "reference proof flags are invalid")
  let startedAt ← canonicalExecutionInstant P (get "recording_started_at")
    (js "recording_started_at")
  let recordedAt ← canonicalExecutionInstant P (get "recorded_at") (js "recorded_at")
  requireEvidence (startedAt.ms ≤ recordedAt.ms)
    (js "recorded_at cannot predate recording_started_at")

/-! ## The recorder -/

/-- The states of a handle. -/
inductive HandleStatus where
  | OPEN
  | COMPLETING
  | RECORDED
  | FAILED
  deriving DecidableEq

/-- An entry of `handleState`. -/
structure HandleRecord (P : DateParser) where
  state : HandleStatus
  binding : ExactBinding P
  authorizationCommitment : HashText
  recordingStartedAt : UtcInstant P
  evidence : Option JsValue

/-- A call whose clock has not answered. -/
inductive Waiting (P : DateParser) where
  | begin (authorization : AuthorizationEvidence P)
  | complete (handle : ℕ) (plan : Plan)

/-- The variables of the recorder, and the calls that wait for the clock, the innermost
    first. -/
structure RecorderState (P : DateParser) where
  lastTrustedTimeMs : Option ℤ
  handles : List (HandleRecord P)
  usedAuthorizationCommitments : List HashText
  /-- `localEvidence`, with the handle for which each evidence was recorded. -/
  localEvidence : List (ℕ × JsValue)
  waiting : List (Waiting P)

def RecorderState.initial (P : DateParser) : RecorderState P := ⟨none, [], [], [], []⟩

section Recorder

variable {P : DateParser} (N : Normalization) (S : Hash)

/-- `sampleTrustedClock()` after the clock has answered. -/
def sampleExecutionClock (lastTrustedTimeMs : Option ℤ) (answer : SyncAnswer) :
    Except RecorderError (UtcInstant P) :=
  match answer with
  | .throws => failExecution "POMRX_EXEC_E_TIME_INVALID" "trusted clock failed"
  | .thenable => failExecution "POMRX_EXEC_E_TIME_INVALID" "trusted clock must be synchronous"
  | .thenThrows => .error .clock
  | .value v => do
    let now ← (canonicalExecutionInstant P (some v) (js "trusted clock")).mapError .evidence
    match lastTrustedTimeMs with
    | none => .ok now
    | some last =>
      if now.ms < last then
        failExecution "POMRX_EXEC_E_TIME_ROLLBACK" "trusted clock moved backwards"
      else .ok now

variable (P) in
/-- `begin(input)` up to the clock. -/
def captureAuthorizationBinding (input : HostValue) :
    Except RecorderError (AuthorizationEvidence P) := do
  let fields ← (captureExactDataRecord input [js "authorization_binding"]
    (js "execution evidence begin input") "POMRX_EXEC_E_INVALID").mapError .evidence
  let invalid : RecorderError := .evidence (executionError "POMRX_EXEC_E_AUTHORIZATION_INVALID"
    "exact authorization binding is invalid")
  let snapshot ← (captureReferencePlainData
    ((fields.lookup (js "authorization_binding")).getD .undefined)
    (js "execution authorization binding")).mapError fun _ => invalid
  (commitExactAuthorizationBinding P N S (.ofData snapshot)).mapError fun
    | .capability _ => invalid
    | .payload e => .payload e

/-- The rest of `begin(input)`. -/
def beginAt (s : RecorderState P) (authorization : AuthorizationEvidence P) (now : UtcInstant P) :
    Except RecorderError (RecorderState P) :=
  if now.ms < authorization.binding.issuedAt.ms ∨ authorization.binding.expiresAt.ms ≤ now.ms then
    failExecution "POMRX_EXEC_E_AUTHORIZATION_WINDOW"
      "recording start is outside authorization validity"
  else if authorization.authorizationCommitment ∈ s.usedAuthorizationCommitments then
    failExecution "POMRX_EXEC_E_AUTHORIZATION_REPLAY"
      "this exact authorization was already opened by this recorder"
  else if MAX_LOCAL_AUTHORIZATIONS ≤ s.usedAuthorizationCommitments.length then
    failExecution "POMRX_EXEC_E_CAPACITY"
      "reference recorder reached its fail-closed local authorization ceiling"
  else .ok { s with
    usedAuthorizationCommitments :=
      s.usedAuthorizationCommitments ++ [authorization.authorizationCommitment]
    handles := s.handles ++ [⟨.OPEN, authorization.binding, authorization.authorizationCommitment,
      now, none⟩] }

/-- `reserve(handle)`. -/
def reserve (s : RecorderState P) (handle : ℕ) : Except RecorderError (RecorderState P) :=
  match s.handles[handle]? with
  | none => failExecution "POMRX_EXEC_E_HANDLE_REQUIRED" "a handle from this recorder is required"
  | some record =>
    if record.state ≠ .OPEN then
      failExecution "POMRX_EXEC_E_HANDLE_STALE" "execution evidence handle is no longer open"
    else .ok { s with handles := s.handles.set handle { record with state := .COMPLETING } }

/-- A hash, or `null`. -/
def nullableHash : Option HashText → JsValue
  | some h => .string h.val
  | none => .null

def nullableString : Option JsString → JsValue
  | some s => .string s
  | none => .null

/-- The fields of `payload` in `buildEvidence`. -/
def evidenceFields (record : HandleRecord P) (plan : Plan) (recordedAt : UtcInstant P) :
    List (JsString × JsValue) :=
  [(js "schema_version", .string POM_RX_REFERENCE_EXECUTION_EVIDENCE_VERSION),
    (js "binding_profile", .string record.binding.bindingProfile.val),
    (js "run_id", .string record.binding.runId.val),
    (js "capability_id", .string record.binding.capabilityId.val),
    (js "authorization_commitment", .string record.authorizationCommitment.val),
    (js "action_commitment", .string record.binding.actionCommitment.val),
    (js "context_commitment", .string record.binding.contextCommitment.val),
    (js "execution_status", .string plan.executionStatus),
    (js "effect_commitment", nullableHash plan.effectHash),
    (js "recording_started_at", .string record.recordingStartedAt.text),
    (js "recorded_at", .string recordedAt.text), (js "diagnostic", nullableString plan.diagnostic),
    (js "reference_only", .bool true), (js "gate_consumption_proved", .bool false),
    (js "native_execution_time_proved", .bool false), (js "external_execution_proved", .bool false),
    (js "external_effect_proved", .bool false)]

/-- `commitEvidence(payload)`. -/
def commitEvidence (payload : JsValue) : Except RecorderError HashText := do
  let canonical ← (canonicalizePayload N payload).mapError .payload
  .ok (sha256Hex S (POM_RX_REFERENCE_EXECUTION_EVIDENCE_HASH_DOMAIN ++ canonical))

/-- The evidence that `buildEvidence` makes after the clock has answered. -/
def buildEvidence (record : HandleRecord P) (plan : Plan) (recordedAt : UtcInstant P) :
    Except RecorderError JsValue := do
  let fields := evidenceFields record plan recordedAt
  let hash ← commitEvidence N S (.object fields)
  let evidence : JsValue := .object (fields ++ [(js "execution_evidence_hash", JsValue.string hash.val)])
  (validateEvidence P (.ofData evidence)).mapError .evidence
  .ok evidence

/-- The rest of `complete(handle, rawOutcome)`. -/
def completeAt (s : RecorderState P) (handle : ℕ) (plan : Plan) (answer : SyncAnswer) :
    RecorderState P :=
  match s.handles[handle]? with
  | none => s
  | some record =>
    match sampleExecutionClock s.lastTrustedTimeMs answer with
    | .error _ => { s with handles := s.handles.set handle { record with state := .FAILED } }
    | .ok recordedAt =>
      match buildEvidence N S record plan recordedAt with
      | .error _ =>
        { s with
          lastTrustedTimeMs := some recordedAt.ms
          handles := s.handles.set handle { record with state := .FAILED } }
      | .ok evidence =>
        { s with
          lastTrustedTimeMs := some recordedAt.ms
          handles := s.handles.set handle { record with state := .RECORDED, evidence := some evidence }
          localEvidence := s.localEvidence ++ [(handle, evidence)] }

/-! ## The machine -/

inductive RecorderAction where
  /-- `begin(input)` -/
  | begin (input : HostValue)
  /-- `complete(handle, rawOutcome)` -/
  | complete (handle : ℕ) (rawOutcome : HostValue)
  /-- The clock that was called last answers. -/
  | clock (answer : SyncAnswer)

/-- A call that throws leaves the state as it is, except for the clock reading. -/
def recorderStep (s : RecorderState P) : RecorderAction → Option (RecorderState P)
  | .begin input =>
    match captureAuthorizationBinding P N S input with
    | .error _ => some s
    | .ok authorization => some { s with waiting := .begin authorization :: s.waiting }
  | .complete handle rawOutcome =>
    match reserve s handle with
    | .error _ => some s
    | .ok t => some { t with waiting := .complete handle (planOf N S rawOutcome) :: t.waiting }
  | .clock answer =>
    match s.waiting with
    | [] => none
    | .begin authorization :: rest =>
      match sampleExecutionClock s.lastTrustedTimeMs answer with
      | .error _ => some { s with waiting := rest }
      | .ok now =>
        let t := { s with lastTrustedTimeMs := some now.ms, waiting := rest }
        match beginAt t authorization now with
        | .error _ => some t
        | .ok t' => some t'
    | .complete handle plan :: rest =>
      some (completeAt N S { s with waiting := rest } handle plan answer)

end Recorder

/-! ## Exact outcomes -/

/-- The outcome is an exact bounded record with this status and an effect that is not `null` and
    has this commitment. -/
def ExactOutcome (N : Normalization) (S : Hash) (rawOutcome : HostValue) (status : JsString)
    (commitment : HashText) : Prop :=
  ∃ es effect canonical,
    captureReferencePlainData rawOutcome (js "execution outcome") = .ok (.object es) ∧
      (es.map Prod.fst).Perm OUTCOME_KEYS ∧
      (JsValue.object es).get (js "execution_status") = some (.string status) ∧
      (status = js "success" ∨ status = js "error") ∧
      (JsValue.object es).get (js "effect") = some effect ∧ effect ≠ .null ∧
      canonicalizePayload N effect = .ok canonical ∧
      commitment = sha256Hex S (POM_RX_REFERENCE_EXECUTION_EFFECT_HASH_DOMAIN ++ canonical)

section Exact

variable {N : Normalization} {S : Hash}

theorem readFields_isOk {ε : Type} {property : JsString → ε}
    {properties : List (JsString × Property HostValue)} {keys : List JsString}
    (h : ∀ key ∈ keys, ∃ v, properties.lookup key = some (.data true v)) :
    ∃ fields, readFields property properties keys = .ok fields := by
  induction keys with
  | nil => exact ⟨[], rfl⟩
  | cons key keys ih =>
    obtain ⟨v, hv⟩ := h key List.mem_cons_self
    obtain ⟨fields, hfields⟩ := ih fun k hk => h k (List.mem_cons_of_mem key hk)
    refine ⟨(key, v) :: fields, ?_⟩
    rw [readFields, hv]
    simp only [Option.bind_some, Property.enumerableData, hfields]
    rfl

/-- Which plain data the capture of a record accepts. -/
theorem captureExactDataRecord_ofData {v : JsValue} {keys : List JsString} {label : JsString}
    {code : String} (hkeys : keys.Nodup) :
    (∃ fields, captureExactDataRecord (.ofData v) keys label code = .ok fields) ↔
      ∃ es, v = .object es ∧ (es.map Prod.fst).Perm keys := by
  have hnames : ∀ es : List (JsString × JsValue),
      (HostValue.ofEntries es).map Prod.fst = es.map Prod.fst := by
    intro es
    rw [HostValue.ofEntries_eq, List.map_map]
    rfl
  constructor
  · rintro ⟨fields, h⟩
    rw [captureExactDataRecord] at h
    cases v with
    | object es =>
      refine ⟨es, rfl, ?_⟩
      rw [HostValue.ofData, snapshotRecord] at h
      split_ifs at h with _ _ _ hfits
      rw [decide_eq_true_eq, sortNames_eq_iff, Reflection.names, hnames] at hfits
      exact hfits
    | array xs =>
      rw [HostValue.ofData, snapshotRecord, if_pos (by simp)] at h
      cases h
    | null | bool b | number x | string s => cases h
  · rintro ⟨es, rfl, hperm⟩
    have hnodup : (es.map Prod.fst).Nodup := hperm.nodup_iff.mpr hkeys
    have hfits : decide (sortNames (Reflection.names (α := HostValue)
        ⟨.record, .plain, false, HostValue.ofEntries es⟩) = sortNames keys) = true := by
      rw [decide_eq_true_eq, sortNames_eq_iff, Reflection.names, hnames]
      exact hperm
    rw [captureExactDataRecord, HostValue.ofData, snapshotRecord]
    simp only [ne_eq, not_true_eq_false, if_false, Bool.false_eq_true, hfits, if_true]
    apply readFields_isOk
    intro key hkey
    obtain ⟨e, he, rfl⟩ := List.mem_map.mp (hperm.mem_iff.mpr hkey)
    exact ⟨_, lookup_ofEntries hnodup he⟩

theorem outcomeKeys_nodup : OUTCOME_KEYS.Nodup := by decide

/-- What is recorded for an exact outcome. -/
theorem planOf_exact {rawOutcome : HostValue} {status : JsString} {commitment : HashText}
    (h : ExactOutcome N S rawOutcome status commitment) :
    planOf N S rawOutcome = ⟨status, some commitment, none⟩ := by
  obtain ⟨es, effect, canonical, hcapture, hkeys, hstatus, hknown, heffect, hnull, hcanonical, rfl⟩ := h
  obtain ⟨fields, hfields⟩ := (@captureExactDataRecord_ofData (.object es) OUTCOME_KEYS
    (js "execution outcome") "POMRX_EXEC_E_OUTCOME_INVALID" outcomeKeys_nodup).mpr ⟨es, rfl, hkeys⟩
  have hmem : status ∈ EXECUTION_STATUSES ∧ status ≠ js "unknown" := by
    rcases hknown with rfl | rfl
    · exact ⟨by decide, by decide⟩
    · exact ⟨by decide, by decide⟩
  have hcommit : commitEffect N S effect = .ok (sha256Hex S
      (POM_RX_REFERENCE_EXECUTION_EFFECT_HASH_DOMAIN ++ canonical)) := by
    rw [commitEffect, hcanonical]
  rw [planOf, hcapture]
  dsimp only
  rw [planOfCaptured, hfields, hstatus, heffect]
  dsimp only
  rw [if_neg (not_not.mpr hmem.1), if_neg hmem.2]
  split
  · exact absurd rfl hnull
  · rw [hcommit]

/-- What is recorded for every other outcome. -/
theorem planOf_other {rawOutcome : HostValue}
    (h : ∀ status commitment, ¬ ExactOutcome N S rawOutcome status commitment) :
    ∃ diagnostic, planOf N S rawOutcome = .unknown diagnostic ∧
      (diagnostic = "POMRX_EXEC_DIAG_OUTCOME_INVALID" ∨
        diagnostic = "POMRX_EXEC_DIAG_EXECUTION_UNKNOWN") := by
  have hinvalid : ∀ p, p = Plan.unknown "POMRX_EXEC_DIAG_OUTCOME_INVALID" →
      ∃ diagnostic, p = Plan.unknown diagnostic ∧
        (diagnostic = "POMRX_EXEC_DIAG_OUTCOME_INVALID" ∨
          diagnostic = "POMRX_EXEC_DIAG_EXECUTION_UNKNOWN") :=
    fun p hp => ⟨_, hp, .inl rfl⟩
  rw [planOf]
  split
  · exact hinvalid _ rfl
  · rename_i outcome hcapture
    rw [planOfCaptured]
    split
    · exact hinvalid _ rfl
    · rename_i fields hfields
      obtain ⟨es, rfl, hkeys⟩ := (captureExactDataRecord_ofData outcomeKeys_nodup).mp ⟨fields, hfields⟩
      split
      · rename_i status effect hstatus heffect
        by_cases hmem : status ∉ EXECUTION_STATUSES
        · rw [if_pos hmem]
          exact hinvalid _ rfl
        rw [if_neg hmem]
        by_cases hunknown : status = js "unknown"
        · rw [if_pos hunknown]
          split
          · exact ⟨_, rfl, .inr rfl⟩
          · exact hinvalid _ rfl
        rw [if_neg hunknown]
        split
        · exact hinvalid _ rfl
        · rename_i hnull
          split
          · exact hinvalid _ rfl
          · rename_i hash hcommit
            -- this is the branch of an exact outcome
            exfalso
            unfold commitEffect at hcommit
            split at hcommit
            · rename_i canonical hcanonical
              refine h status _ ⟨es, effect, canonical, hcapture, hkeys, hstatus, ?_, heffect,
                fun heq => hnull heq, hcanonical, rfl⟩
              rw [not_not] at hmem
              simp only [EXECUTION_STATUSES, List.map_cons, List.map_nil, List.mem_cons,
                List.not_mem_nil, or_false] at hmem
              rcases hmem with hs | hs | hs
              · exact .inl hs
              · exact .inr hs
              · exact absurd hs hunknown
            · cases hcommit
      · exact hinvalid _ rfl

end Exact

/-! ## Evidence is always built -/

/-- What the plan of every outcome is. -/
structure PlanOk (plan : Plan) : Prop where
  status : plan.executionStatus ∈ EXECUTION_STATUSES
  effect : plan.executionStatus = js "unknown" ↔ plan.effectHash = none
  diagnostic : ∀ d, plan.diagnostic = some d → DIAGNOSTIC_PATTERN d = true

theorem planOk_planOf (N : Normalization) (S : Hash) (rawOutcome : HostValue) :
    PlanOk (planOf N S rawOutcome) := by
  by_cases h : ∃ status commitment, ExactOutcome N S rawOutcome status commitment
  · obtain ⟨status, commitment, hexact⟩ := h
    have hplan := planOf_exact hexact
    obtain ⟨-, -, -, -, -, -, hknown, -⟩ := hexact
    have hmem : status ∈ EXECUTION_STATUSES ∧ status ≠ js "unknown" := by
      rcases hknown with rfl | rfl
      · exact ⟨by decide, by decide⟩
      · exact ⟨by decide, by decide⟩
    rw [hplan]
    refine ⟨hmem.1, ?_, ?_⟩
    · constructor
      · intro heq
        exact absurd heq hmem.2
      · intro heq
        cases heq
    · intro d hd
      cases hd
  · obtain ⟨diagnostic, hplan, hdiagnostic⟩ := @planOf_other N S
      rawOutcome fun status commitment hexact => h ⟨status, commitment, hexact⟩
    rw [hplan]
    have hmem : js "unknown" ∈ EXECUTION_STATUSES := by decide
    refine ⟨hmem, ?_, ?_⟩
    · exact iff_of_true rfl rfl
    · intro d hd
      cases hd
      rcases hdiagnostic with rfl | rfl
      · decide
      · decide

theorem plainWithin_status {s : JsString} (h : s ∈ EXECUTION_STATUSES) : PlainWithin 7 s := by
  have hall : ∀ s ∈ EXECUTION_STATUSES, (s.all isPlainUnit && decide (s.length ≤ 7)) = true :=
    List.all_eq_true.mp (by decide)
  have hs := hall s h
  rw [Bool.and_eq_true, List.all_eq_true, decide_eq_true_eq] at hs
  exact hs

theorem plainWithin_diagnostic {s : JsString} (h : DIAGNOSTIC_PATTERN s = true) :
    PlainWithin 96 s := by
  simp only [DIAGNOSTIC_PATTERN, Bool.and_eq_true, decide_eq_true_eq, List.all_eq_true] at h
  obtain ⟨⟨-, hlength⟩, hunits⟩ := h
  refine ⟨fun u hu => ?_, hlength⟩
  have hunit := hunits u hu
  rw [Bool.or_eq_true, Bool.or_eq_true, decide_eq_true_eq] at hunit
  rcases hunit with (hu | hu) | rfl
  · apply isPlainUnit_of_isKeyUnit
    rw [isKeyUnit, isAlphaNumeric, hu, Bool.or_true]
    rfl
  · exact isPlainUnit_of_isDigit hu
  · decide

section Evidence

variable {N : Normalization} {S : Hash} {P : DateParser}

/-- The names of the payload. -/
def payloadKeys : List JsString := EVIDENCE_KEYS.dropLast

theorem isPlainKey_payloadKeys : ∀ key ∈ payloadKeys, isPlainKey key = true := by
  exact List.all_eq_true.mp (by decide +kernel)

theorem evidenceFields_keys (record : HandleRecord P) (plan : Plan) (recordedAt : UtcInstant P) :
    (evidenceFields record plan recordedAt).map Prod.fst = payloadKeys := rfl

theorem fits_nullableHash (h : Option HashText) : Fits N 66 (nullableHash h) := by
  cases h with
  | none => exact .null (by norm_num)
  | some h => exact (plainWithin_hash h).fits (by norm_num)

theorem fits_nullableString {o : Option JsString} (h : ∀ s, o = some s → PlainWithin 96 s) :
    Fits N 98 (nullableString o) := by
  cases o with
  | none => exact .null (by norm_num)
  | some s => exact (h s rfl).fits (by norm_num)

/-- What the members of the payload take. -/
theorem fits_evidenceFields (record : HandleRecord P) {plan : Plan} (hplan : PlanOk plan)
    (recordedAt : UtcInstant P) :
    List.Forall₂ (fun n e => Fits N n e.2)
      [66, 130, 130, 38, 66, 66, 66, 9, 66, 29, 29, 98, 5, 5, 5, 5, 5]
      (evidenceFields record plan recordedAt) := by
  have hversion : PlainWithin 64 POM_RX_REFERENCE_EXECUTION_EVIDENCE_VERSION :=
    ⟨List.all_eq_true.mp (by decide +kernel), by decide +kernel⟩
  refine .cons (hversion.fits (by norm_num)) ?_
  refine .cons ((plainWithin_profile _).fits (by norm_num)) ?_
  refine .cons ((plainWithin_identifier _).fits (by norm_num)) ?_
  refine .cons ((plainWithin_capabilityId _).fits (by norm_num)) ?_
  refine .cons ((plainWithin_hash _).fits (by norm_num)) ?_
  refine .cons ((plainWithin_hash _).fits (by norm_num)) ?_
  refine .cons ((plainWithin_hash _).fits (by norm_num)) ?_
  refine .cons ((plainWithin_status hplan.status).fits (by norm_num)) ?_
  refine .cons (fits_nullableHash _) ?_
  refine .cons ((plainWithin_instant _).fits (by norm_num)) ?_
  refine .cons ((plainWithin_instant _).fits (by norm_num)) ?_
  refine .cons (fits_nullableString fun s hs => plainWithin_diagnostic (hplan.diagnostic s hs)) ?_
  exact .cons (.bool true) (.cons (.bool false) (.cons (.bool false) (.cons (.bool false)
    (.cons (.bool false) .nil))))

/-- The payload of an evidence is always committed. -/
theorem commitEvidence_ok (record : HandleRecord P) {plan : Plan} (hplan : PlanOk plan)
    (recordedAt : UtcInstant P) :
    ∃ hash, commitEvidence N S (.object (evidenceFields record plan recordedAt)) = .ok hash := by
  have hnames : (payloadKeys.map fun key => key.length + 3).sum = 344 := by decide +kernel
  have hlength : (evidenceFields record plan recordedAt).length = 17 := rfl
  obtain ⟨t, ht⟩ := canonicalizePayload_of_fits
    (by rw [evidenceFields_keys]; exact isPlainKey_payloadKeys)
    (fits_evidenceFields (N := N) record hplan recordedAt)
    (by rw [hlength]; decide)
    (by
      rw [evidenceFields_keys, hnames, hlength]
      decide)
  refine ⟨sha256Hex S (POM_RX_REFERENCE_EXECUTION_EVIDENCE_HASH_DOMAIN ++ t), ?_⟩
  rw [commitEvidence, ht]
  rfl

/-- The evidence with this hash. -/
def evidenceOf (record : HandleRecord P) (plan : Plan) (recordedAt : UtcInstant P)
    (hash : HashText) : JsValue :=
  .object (evidenceFields record plan recordedAt ++
    [(js "execution_evidence_hash", JsValue.string hash.val)])

theorem requireEvidence_bind {α : Type} {condition : Bool} {message : JsString}
    {k : Unit → Except ExecutionEvidenceError α} {r : Except ExecutionEvidenceError α}
    (hcondition : condition = true) (h : k () = r) :
    (requireEvidence condition message >>= k) = r := by
  rw [requireEvidence, if_pos hcondition]
  exact h

theorem canonicalExecutionInstant_text (i : UtcInstant P) (field : JsString) :
    canonicalExecutionInstant P (some (.string i.text)) field = .ok i := by
  rw [canonicalExecutionInstant, ofText_text]

theorem fieldNull_nullableHash (o : Option HashText) :
    fieldNull (some (.ofData (nullableHash o))) = o.isNone := by
  cases o <;> rfl

/-- Evidence of a plan is valid. -/
theorem validateEvidence_evidenceOf (record : HandleRecord P) {plan : Plan} (hplan : PlanOk plan)
    {recordedAt : UtcInstant P} (htime : record.recordingStartedAt.ms ≤ recordedAt.ms)
    (hash : HashText) :
    validateEvidence P (.ofData (evidenceOf record plan recordedAt hash)) = .ok () := by
  have hcapture : captureExactDataRecord (.ofData (evidenceOf record plan recordedAt hash))
      EVIDENCE_KEYS (js "reference execution evidence") "POMRX_EXEC_E_EVIDENCE_INVALID" =
      .ok ((evidenceFields record plan recordedAt ++
        [(js "execution_evidence_hash", JsValue.string hash.val)]).map fun e =>
          (e.1, .ofData e.2)) := by
    have hkeys : (evidenceFields record plan recordedAt ++
        [(js "execution_evidence_hash", JsValue.string hash.val)]).map Prod.fst =
          EVIDENCE_KEYS := rfl
    have hnodup : EVIDENCE_KEYS.Nodup := by decide +kernel
    rw [captureExactDataRecord, evidenceOf]
    exact snapshotRecord_ofData _ hkeys (decide_eq_true rfl) hnodup
  have heffect : (fieldNull (some (.ofData (nullableHash plan.effectHash))) ||
      fieldString HASH_PATTERN (some (.ofData (nullableHash plan.effectHash)))) = true := by
    cases plan.effectHash with
    | none => rfl
    | some h => exact h.property
  have hdiagnostic : (fieldNull (some (.ofData (nullableString plan.diagnostic))) ||
      fieldString DIAGNOSTIC_PATTERN (some (.ofData (nullableString plan.diagnostic)))) = true := by
    cases hd : plan.diagnostic with
    | none => rfl
    | some d => exact hplan.diagnostic d hd
  have hknown : decide (plan.executionStatus = js "unknown") = plan.effectHash.isNone := by
    rw [Bool.eq_iff_iff, decide_eq_true_eq, Option.isNone_iff_eq_none]
    exact hplan.effect
  rw [validateEvidence]
  refine bind_eq_ok.mpr ⟨_, hcapture, ?_⟩
  dsimp only
  refine requireEvidence_bind (show decide (POM_RX_REFERENCE_EXECUTION_EVIDENCE_VERSION =
    POM_RX_REFERENCE_EXECUTION_EVIDENCE_VERSION) = true from decide_eq_true rfl) ?_
  refine requireEvidence_bind (show EXECUTION_STATUSES.contains plan.executionStatus = true from
    List.contains_iff_mem.mpr hplan.status) ?_
  refine requireEvidence_bind record.authorizationCommitment.property ?_
  refine requireEvidence_bind record.binding.actionCommitment.property ?_
  refine requireEvidence_bind record.binding.contextCommitment.property ?_
  refine requireEvidence_bind hash.property ?_
  refine requireEvidence_bind heffect ?_
  refine requireEvidence_bind (show (!(decide (plan.executionStatus = js "unknown") &&
    !fieldNull (some (.ofData (nullableHash plan.effectHash))))) = true from ?_) ?_
  · rw [hknown, fieldNull_nullableHash]
    cases plan.effectHash.isNone <;> rfl
  refine requireEvidence_bind (show (!(!decide (plan.executionStatus = js "unknown") &&
    fieldNull (some (.ofData (nullableHash plan.effectHash))))) = true from ?_) ?_
  · rw [hknown, fieldNull_nullableHash]
    cases plan.effectHash.isNone <;> rfl
  refine requireEvidence_bind hdiagnostic ?_
  refine requireEvidence_bind rfl ?_
  refine bind_eq_ok.mpr ⟨record.recordingStartedAt, canonicalExecutionInstant_text _ _, ?_⟩
  refine bind_eq_ok.mpr ⟨recordedAt, canonicalExecutionInstant_text _ _, ?_⟩
  rw [requireEvidence, if_pos (decide_eq_true htime)]

/-- Evidence is always built, if the clock has not gone back. -/
theorem buildEvidence_ok (record : HandleRecord P) {plan : Plan} (hplan : PlanOk plan)
    {recordedAt : UtcInstant P} (htime : record.recordingStartedAt.ms ≤ recordedAt.ms) :
    ∃ hash, buildEvidence N S record plan recordedAt =
      .ok (evidenceOf record plan recordedAt hash) := by
  obtain ⟨hash, hhash⟩ := commitEvidence_ok (N := N) (S := S) record hplan recordedAt
  refine ⟨hash, ?_⟩
  have hvalid := validateEvidence_evidenceOf record hplan htime hash
  rw [evidenceOf] at hvalid
  rw [buildEvidence]
  dsimp only
  rw [hhash]
  refine bind_eq_ok.mpr ⟨hash, rfl, ?_⟩
  refine bind_eq_ok.mpr ⟨(), ?_, rfl⟩
  rw [hvalid]
  rfl

end Evidence

end OpenRisk.Core
