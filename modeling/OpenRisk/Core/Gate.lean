import OpenRisk.Core.Authorization
import OpenRisk.Machine.Run

/-!
# The reference single-use Gate

Model of `core/gate/reference-single-use-gate.mjs` as a machine. The code of `consume`
runs without interruption between two uses of a callback; the callbacks (the clock, the
observer and the downstream execution) return control to the outside, which may call the
Gate again before it answers. A step of the machine is such a piece of code:

* `issue`: a call of `issueReferenceAuthorizationForTest`,
* `consume`: a call of `consume` up to the first clock reading,
* `clock`, `observer`, `downstream`: the continuation of one call with an answer.

Every order of steps is admitted, so that runs cover concurrent, re-entrant and
sequential calls. The state has a trace of what happened, which the code does not keep.
-/

namespace OpenRisk.Core

open Text

/-- The identity of an object. A primitive in the place of a capability behaves as an
    object that was never issued. -/
abbrev ObjectId := ℕ

/-- `PomRxGateError`. -/
structure GateError where
  code : JsString
  message : JsString
  deriving DecidableEq

def gateError {α : Type} (code message : String) : Except GateError α := .error ⟨js code, js message⟩

/-! ## Answers of the callbacks -/

/-- What a callback does that must answer at once, such as `trustedClock()`. -/
inductive SyncAnswer where
  | throws
  /-- An object with a callable `then`. -/
  | thenable
  /-- An object whose `then` cannot be read. -/
  | thenThrows
  | value (v : HostValue)

/-- How the promise of `observeBinding(attempt)` settles. -/
inductive ObserverAnswer where
  /-- Rejected, with a `PomRxGateError` or another reason. -/
  | rejected (reason : Option GateError)
  | resolved (v : HostValue)

/-- How the promise of `executeDownstream(prepared)` settles. -/
inductive DownstreamAnswer where
  | rejected
  | resolved (v : HostValue)

/-! ## Capabilities -/

inductive CapabilityState where
  | available
  | validating
  | rejected
  | consuming
  | consumedSuccess
  | consumedError
  deriving DecidableEq

structure CapabilityRecord (P : DateParser) where
  state : CapabilityState
  binding : ExactBinding P

/-- `capabilityState`, a `WeakMap`. -/
abbrev CapabilityMap (P : DateParser) := ObjectId → Option (CapabilityRecord P)

section Capabilities

variable {P : DateParser} (capabilities : CapabilityMap P) (capability : ObjectId)

/-- `record.state = state`. -/
def setState (record : CapabilityRecord P) (state : CapabilityState) : CapabilityMap P :=
  Function.update capabilities capability (some { record with state })

/-- `reserveCapability(capability)`. -/
def reserveCapability : Except GateError (CapabilityMap P × ExactBinding P) :=
  match capabilities capability with
  | none => gateError "POMRX_GATE_E_CAPABILITY_REQUIRED"
      "A capability from this reference Gate is required"
  | some record =>
    if record.state ≠ .available then
      gateError "POMRX_GATE_E_CAPABILITY_STALE" "Reference capability is no longer available"
    else .ok (setState capabilities capability record .validating, record.binding)

/-- `rejectCapability(capability)`. -/
def rejectCapability : Except GateError (CapabilityMap P) :=
  match capabilities capability with
  | none => gateError "POMRX_GATE_E_CAPABILITY_STALE"
      "Reference capability cannot be rejected from its current state"
  | some record =>
    if record.state ≠ .validating then
      gateError "POMRX_GATE_E_CAPABILITY_STALE"
        "Reference capability cannot be rejected from its current state"
    else .ok (setState capabilities capability record .rejected)

/-- `beginConsumption(capability)`. -/
def beginConsumption : Except GateError (CapabilityMap P) :=
  match capabilities capability with
  | none => gateError "POMRX_GATE_E_CAPABILITY_STALE" "Reference capability cannot begin consumption"
  | some record =>
    if record.state ≠ .validating then
      gateError "POMRX_GATE_E_CAPABILITY_STALE" "Reference capability cannot begin consumption"
    else .ok (setState capabilities capability record .consuming)

/-- `completeConsumption(capability, success)`. -/
def completeConsumption (success : Bool) : Except GateError (CapabilityMap P) :=
  match capabilities capability with
  | none => gateError "POMRX_GATE_E_CAPABILITY_STALE" "Reference capability is not consuming"
  | some record =>
    if record.state ≠ .consuming then
      gateError "POMRX_GATE_E_CAPABILITY_STALE" "Reference capability is not consuming"
    else .ok (setState capabilities capability record
      (if success then .consumedSuccess else .consumedError))

end Capabilities

/-! ## Time -/

section Time

variable (P : DateParser)

/-- `canonicalClockInstant(value)`. -/
def canonicalClockInstant (value : HostValue) : Except GateError (UtcInstant P) :=
  match value with
  | .string s =>
    match UtcInstant.ofText P s with
    | some i => .ok i
    | none => gateError "POMRX_GATE_E_TIME_INVALID" "Trusted clock returned an invalid instant"
  | _ => gateError "POMRX_GATE_E_TIME_INVALID" "Trusted clock returned an invalid instant"

/-- `sampleTrustedClock(trustedClock)`. The error of a throwing `then` is no Gate error;
    `normalizeCapabilityError` gives it the code below. -/
def sampleTrustedClock (answer : SyncAnswer) : Except GateError (UtcInstant P) :=
  match answer with
  | .throws => gateError "POMRX_GATE_E_TIME_INVALID" "Trusted clock failed"
  | .thenable => gateError "POMRX_GATE_E_TIME_INVALID" "Trusted clock must be synchronous"
  | .thenThrows => gateError "POMRX_GATE_E_CAPABILITY_REQUIRED"
      "A branded reference capability is required"
  | .value v => canonicalClockInstant P v

/-- The rollback test of `sampleGateClock()`. -/
def checkRollback (lastTrustedTimeMs : Option ℤ) (nowMs : ℤ) : Except GateError Unit :=
  match lastTrustedTimeMs with
  | some last =>
    if nowMs < last then gateError "POMRX_GATE_E_TIME_ROLLBACK" "Trusted clock moved backwards"
    else .ok ()
  | none => .ok ()

variable {P}

/-- `assertCapabilityActive(binding, now)`. The two texts are read again; a comparison with
    an invalid date is false. -/
def assertCapabilityActive (binding : ExactBinding P) (nowMs : ℤ) : Except GateError Unit :=
  if (P.parse binding.issuedAt.text).any fun issuedAtMs => nowMs < issuedAtMs then
    gateError "POMRX_GATE_E_CAPABILITY_NOT_YET_VALID" "Reference capability is not yet valid"
  else if (P.parse binding.expiresAt.text).any fun expiresAtMs => nowMs ≥ expiresAtMs then
    gateError "POMRX_GATE_E_CAPABILITY_EXPIRED" "Reference capability is expired"
  else .ok ()

end Time

/-! ## Observation -/

/-- A validated answer of the observer. -/
structure Observed where
  bindingProfile : Profile
  actionCommitment : HashText
  contextCommitment : HashText
  preparedExecution : JsValue

/-- `OBSERVED_KEYS`. -/
def OBSERVED_KEYS : List JsString :=
  [js "binding_profile", js "action_commitment", js "context_commitment", js "prepared_execution"]

def observerFailed (message : String) : GateError := ⟨js "POMRX_GATE_E_OBSERVER_FAILED", js message⟩

/-- `snapshotObservedRecord(value)`. -/
def snapshotObservedRecord (value : HostValue) : Except GateError (List (JsString × HostValue)) :=
  snapshotRecord
    { notObject := observerFailed "Trusted binding observer returned an invalid record"
      array := observerFailed "Trusted binding observer returned an invalid record"
      prototype := observerFailed "Trusted binding observer record must be plain data"
      symbols := observerFailed "Trusted binding observer record cannot contain symbol keys"
      fields := observerFailed "Trusted binding observer returned an invalid record"
      property := fun _ =>
        observerFailed "Trusted binding observer fields must be enumerable data properties" }
    (fun names => names.length = OBSERVED_KEYS.length && OBSERVED_KEYS.all (names.contains ·))
    OBSERVED_KEYS value

/-- A field that must be a string of a format. -/
def observedString (value : Option HostValue) (pattern : JsString → Bool) (message : String) :
    Except GateError { s : JsString // pattern s = true } :=
  match value with
  | some (.string s) =>
    if h : pattern s = true then .ok ⟨s, h⟩ else .error (observerFailed message)
  | _ => .error (observerFailed message)

/-- `validateObservedBinding(value)`. -/
def validateObservedBinding (value : HostValue) : Except GateError Observed := do
  let snapshot ← snapshotObservedRecord value
  let bindingProfile ← observedString (snapshot.lookup (js "binding_profile")) PROFILE_PATTERN
    "Trusted binding observer returned an invalid profile"
  let actionCommitment ← observedString (snapshot.lookup (js "action_commitment")) HASH_PATTERN
    "Trusted binding observer returned an invalid commitment"
  let contextCommitment ← observedString (snapshot.lookup (js "context_commitment")) HASH_PATTERN
    "Trusted binding observer returned an invalid commitment"
  match captureReferencePlainData ((snapshot.lookup (js "prepared_execution")).getD .undefined)
      (js "trusted Gate prepared execution") with
  | .ok preparedExecution =>
    .ok { bindingProfile, actionCommitment, contextCommitment, preparedExecution }
  | .error _ => .error (observerFailed
      "Trusted binding observer returned non-inert or out-of-bounds prepared data")

/-- `exactBindingMatches(binding, observed)`. -/
def exactBindingMatches {P : DateParser} (binding : ExactBinding P) (observed : Observed) : Bool :=
  binding.bindingProfile = observed.bindingProfile &&
    binding.actionCommitment = observed.actionCommitment &&
    binding.contextCommitment = observed.contextCommitment

/-! ## The machine -/

/-- Where a call of `consume` waits, with the local variables it still uses. -/
inductive Phase (P : DateParser) where
  | firstClock (binding : ExactBinding P)
  | observing (binding : ExactBinding P)
  | secondClock (binding : ExactBinding P) (observed : Observed)
  | executing
  | settled (result : Except GateError HostValue)

/-- A call of `consume`; `attempt` is the caller's execution attempt. -/
structure Call (P : DateParser) (A : Type) where
  capability : ObjectId
  attempt : A
  phase : Phase P

/-- What happened; a call is named by its place in the order of calls. -/
inductive Event (P : DateParser) where
  | issued (capability : ObjectId) (binding : ExactBinding P)
  /-- The clock gave a canonical instant to the call, accepted or not. -/
  | sampled (call : ℕ) (ms : ℤ)
  /-- The observer's promise resolved. -/
  | observed (call : ℕ) (answer : HostValue)
  /-- `executeDownstream(argument)` was called. -/
  | started (call : ℕ) (capability : ObjectId) (argument : JsValue)

structure GateState (P : DateParser) (A : Type) where
  capabilities : CapabilityMap P
  lastTrustedTimeMs : Option ℤ
  calls : List (Call P A)
  trace : List (Event P)

inductive Action (A : Type) where
  /-- `capability` is the new object and `randomBytes` what the issuance draws. -/
  | issue (capability : ObjectId) (randomBytes : List UInt8)
      (bindingInput witnessValidUntil : HostValue)
  | consume (capability : ObjectId) (attempt : A)
  | clock (call : ℕ) (answer : SyncAnswer)
  | observer (call : ℕ) (answer : ObserverAnswer)
  | downstream (call : ℕ) (answer : DownstreamAnswer)

namespace GateState

variable {P : DateParser} {A : Type}

/-- A Gate that `createReferenceSingleUseGateHarness` has just made. -/
def initial : GateState P A := ⟨fun _ => none, none, [], []⟩

/-- The call now waits in another phase. -/
def setPhase (s : GateState P A) (call : ℕ) (phase : Phase P) : GateState P A :=
  { s with calls := s.calls.modify call fun c => { c with phase } }

/-- `rejectCapability(capability)` and the throw after it. -/
def reject (s : GateState P A) (call : ℕ) (capability : ObjectId) (error : GateError) :
    GateState P A :=
  match rejectCapability s.capabilities capability with
  | .ok capabilities => { s with capabilities }.setPhase call (.settled (.error error))
  | .error stale => s.setPhase call (.settled (.error stale))

def log (s : GateState P A) (events : List (Event P)) : GateState P A :=
  { s with trace := s.trace ++ events }

end GateState

section Step

variable (P : DateParser) (N : Normalization) (S : Hash) {A : Type}

/-- `issueReferenceAuthorizationForTest(bindingInput, { witnessValidUntil })`. The object is
    new and `crypto.randomBytes(16)` gives 16 bytes. -/
def issueStep (s : GateState P A) (capability : ObjectId) (randomBytes : List UInt8)
    (bindingInput witnessValidUntil : HostValue) : Option (GateState P A) :=
  if (s.capabilities capability).isSome ∨ randomBytes.length ≠ 16 then none
  else
    match prepareReferenceExactAuthorizationRecord P N S bindingInput witnessValidUntil
        (.string (js "cap-" ++ randomBytes.flatMap hexByte)) with
    | .ok prepared =>
      some ({ s with capabilities := Function.update s.capabilities capability
                        (some ⟨.available, prepared.binding⟩) }.log
              [.issued capability prepared.binding])
    | .error _ => some s

variable {P}

/-- `consume(capability, executionAttempt)` up to the first clock reading. -/
def consumeStep (s : GateState P A) (capability : ObjectId) (attempt : A) : GateState P A :=
  match reserveCapability s.capabilities capability with
  | .ok (capabilities, binding) =>
    { s with capabilities, calls := s.calls ++ [⟨capability, attempt, .firstClock binding⟩] }
  | .error e => { s with calls := s.calls ++ [⟨capability, attempt, .settled (.error e)⟩] }

/-- `sampleGateClock()` and `assertCapabilityActive(binding, now)`, with what follows when
    both succeed. -/
def clockStep (s : GateState P A) (call : ℕ) (capability : ObjectId) (binding : ExactBinding P)
    (answer : SyncAnswer) (next : GateState P A → GateState P A) : GateState P A :=
  match sampleTrustedClock P answer with
  | .error e => s.reject call capability e
  | .ok now =>
    match checkRollback s.lastTrustedTimeMs now.ms with
    | .error e => (s.log [.sampled call now.ms]).reject call capability e
    | .ok () =>
      let s := { s with lastTrustedTimeMs := some now.ms }.log [.sampled call now.ms]
      match assertCapabilityActive binding now.ms with
      | .error e => s.reject call capability e
      | .ok () => next s

/-- `beginConsumption(capability)` and the call of `executeDownstream`. -/
def startDownstream (call : ℕ) (capability : ObjectId) (observed : Observed) (s : GateState P A) :
    GateState P A :=
  match beginConsumption s.capabilities capability with
  | .ok capabilities =>
    ({ s with capabilities }.setPhase call .executing).log
      [.started call capability observed.preparedExecution]
  | .error e => s.setPhase call (.settled (.error e))

/-- The continuation after `await observeBinding(executionAttempt)`. -/
def observerStep (s : GateState P A) (call : ℕ) (capability : ObjectId) (binding : ExactBinding P)
    (answer : ObserverAnswer) : GateState P A :=
  match answer with
  | .rejected (some e) => s.reject call capability e
  | .rejected none => s.reject call capability (observerFailed "Trusted binding observer failed")
  | .resolved v =>
    let s := s.log [.observed call v]
    match validateObservedBinding v with
    | .error e => s.reject call capability e
    | .ok observed =>
      if exactBindingMatches binding observed then s.setPhase call (.secondClock binding observed)
      else s.reject call capability ⟨js "POMRX_GATE_E_BINDING_MISMATCH",
        js "Observed execution binding does not match authorization"⟩

def downstreamFailed : GateError :=
  ⟨js "POMRX_GATE_E_DOWNSTREAM_FAILED", js "Downstream execution failed"⟩

/-- The `catch` block after `executeDownstream`. -/
def failDownstream (s : GateState P A) (call : ℕ) (capability : ObjectId) : GateState P A :=
  match completeConsumption s.capabilities capability false with
  | .ok capabilities =>
    { s with capabilities }.setPhase call (.settled (.error downstreamFailed))
  | .error e => s.setPhase call (.settled (.error e))

/-- The continuation after `await executeDownstream(...)`. -/
def downstreamStep (s : GateState P A) (call : ℕ) (capability : ObjectId)
    (answer : DownstreamAnswer) : GateState P A :=
  match answer with
  | .rejected => failDownstream s call capability
  | .resolved v =>
    match completeConsumption s.capabilities capability true with
    | .ok capabilities => { s with capabilities }.setPhase call (.settled (.ok v))
    | .error _ => failDownstream s call capability

/-- One step; `none` where the call does not wait for this answer. -/
def gateStep (s : GateState P A) (action : Action A) : Option (GateState P A) :=
  match action with
  | .issue capability randomBytes bindingInput witnessValidUntil =>
    issueStep P N S s capability randomBytes bindingInput witnessValidUntil
  | .consume capability attempt => some (consumeStep s capability attempt)
  | .clock call answer =>
    match s.calls[call]? with
    | some ⟨capability, _, .firstClock binding⟩ =>
      some (clockStep s call capability binding answer fun s => s.setPhase call (.observing binding))
    | some ⟨capability, _, .secondClock binding observed⟩ =>
      some (clockStep s call capability binding answer (startDownstream call capability observed))
    | _ => none
  | .observer call answer =>
    match s.calls[call]? with
    | some ⟨capability, _, .observing binding⟩ =>
      some (observerStep s call capability binding answer)
    | _ => none
  | .downstream call answer =>
    match s.calls[call]? with
    | some ⟨capability, _, .executing⟩ => some (downstreamStep s call capability answer)
    | _ => none

/-- A run of the Gate. -/
def gateRun (s : GateState P A) (actions : List (Action A)) : Option (GateState P A) :=
  Machine.run (gateStep N S) s actions

end Step

end OpenRisk.Core
