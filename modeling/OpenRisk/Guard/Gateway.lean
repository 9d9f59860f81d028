import OpenRisk.Guard.Context

/-!
# The Wallet Guard gateway

Model of `createWalletGuardReferenceProviderGateway` in
`applications/blockchain-digital-assets/wallet-guard/provider.mjs` as a machine over the
reference single-use Gate. A call of `gateway.request` runs without interruption between
two uses of a callback; the trusted origin, the context source, the clock, the
authorization supplier and the provider are outside and may call the gateway again before
they answer. A step is such a piece of code:

* `request`: a call of `gateway.request` up to the first origin sample,
* `sample`, `clock`, `supplier`, `provider`: the continuation of one request with an answer,
* `resume`: the Gate goes on after a promise of the gateway's own functions has settled.

Every order of steps is admitted, so that runs cover concurrent, re-entrant and
sequential requests. What the Gate does is a step of the machine of `Core.Gate`.

The options are trusted: their functions are callable, and `capabilityLifetimeMs`, which
the source reads again at each request, keeps the value it had when it was checked.
-/

namespace OpenRisk.Guard

open Text Sdk
open OpenRisk.Core

/-! ## Requests -/

def MAX_REQUEST_DEPTH : ℕ := 8

def MAX_REQUEST_NODES : ℕ := 1000

def MAX_REQUEST_STRING : ℕ := 16384

def MAX_REQUEST_KEY : ℕ := 64

/-- `FORBIDDEN_KEYS`. -/
def FORBIDDEN_KEYS : List JsString := ["__proto__", "constructor", "prototype"].map js

def requestFail {α : Type} (message : String) : Except GatewayError α :=
  providerFail "POMRX_WG_PROVIDER_E_REQUEST_INVALID" message

section Clone

variable (clone : HostValue → ℕ → Except GatewayError (JsValue × ℕ))
variable (properties : List (JsString × Property HostValue))

/-- The loop over the keys of an array. -/
def cloneItems : List JsString → ℕ → Except GatewayError (List JsValue × ℕ)
  | [], budget => .ok ([], budget)
  | key :: rest, budget =>
    match properties.lookup key with
    | some (.data _ value) => do
      let (x, budget) ← clone value budget
      let (xs, budget) ← cloneItems rest budget
      .ok (x :: xs, budget)
    | _ => requestFail "request arrays cannot contain accessors"

/-- The loop over the keys of an object. -/
def cloneMembers : List JsString → ℕ → Except GatewayError (List (JsString × JsValue) × ℕ)
  | [], budget => .ok ([], budget)
  | key :: rest, budget =>
    if key.length = 0 ∨ MAX_REQUEST_KEY < key.length ∨ key ∈ FORBIDDEN_KEYS then
      requestFail "request contains an unsafe key"
    else
      match properties.lookup key with
      | some (.data _ value) => do
        let (x, budget) ← clone value budget
        let (es, budget) ← cloneMembers rest budget
        .ok ((key, x) :: es, budget)
      | _ => requestFail "request cannot contain accessors"

/-- The clone of an array or object, of which `keys` are `Object.keys`. -/
def cloneObject (keys : List JsString) (r : Reflection HostValue) (budget : ℕ) :
    Except GatewayError (JsValue × ℕ) :=
  match r.kind with
  | .array length =>
    if keys ≠ (List.range length).map Json.decimal then requestFail "request arrays must be dense"
    else do
      let (xs, budget) ← cloneItems clone r.properties keys budget
      .ok (.array xs, budget)
  | .record =>
    if r.prototype ≠ .plain then requestFail "request must contain plain objects only"
    else if r.hasSymbols then requestFail "request cannot contain symbol keys"
    else do
      let (es, budget) ← cloneMembers clone r.properties keys budget
      .ok (.object (ownProperties es), budget)

end Clone

/-- `clonePlainRequest(value, depth, budget)` with `room = MAX_REQUEST_DEPTH + 1 - depth`;
    returns `budget.remaining` as well. -/
def cloneValue : (room : ℕ) → HostValue → ℕ → Except GatewayError (JsValue × ℕ)
  | 0, _, _ => requestFail "request exceeds reference bounds"
  | room + 1, value, budget =>
    if budget = 0 then requestFail "request exceeds reference bounds"
    else
      match value with
      | .null => .ok (.null, budget - 1)
      | .bool b => .ok (.bool b, budget - 1)
      | .string s =>
        if MAX_REQUEST_STRING < s.length then requestFail "request string is too long"
        else .ok (.string s, budget - 1)
      | .number x =>
        if x.isSafeInteger then .ok (.number x, budget - 1)
        else requestFail "request numbers must be safe integers"
      | .undefined => requestFail "request contains unsupported values"
      | .other => requestFail "request contains unsupported values"
      | .object r => cloneObject (cloneValue room) r.keys r (budget - 1)
      | .proxy (some (keys, r)) => cloneObject (cloneValue room) keys r (budget - 1)
      | .proxy none => .error .foreign

/-- `clonePlainRequest(value)`. -/
def clonePlainRequest (value : HostValue) : Except GatewayError JsValue :=
  (cloneValue (MAX_REQUEST_DEPTH + 1) value MAX_REQUEST_NODES).map Prod.fst

/-! ## Authorizations of the supplier -/

/-- What `referenceAuthorizationForRequest(summary)` does. -/
inductive SupplierAnswer where
  | throws
  | returned (value : HostValue)

def REFERENCE_AUTH_KEYS : List JsString :=
  ["run_id", "agent_ref", "subject_ref", "preflight_receipt_hash", "witness_ack_hash",
    "source_key_id", "witness_key_id", "verification_profile", "verifier_version",
    "implementation_artifact_sha256", "effective_verification_policy_sha256",
    "witness_valid_until"].map js

/-- A validated authorization of the supplier. -/
structure ReferenceAuthorization (P : DateParser) where
  runId : Identifier
  agentRef : Identifier
  subjectRef : Identifier
  preflightReceiptHash : HashText
  witnessAckHash : HashText
  sourceKeyId : KeyId
  witnessKeyId : KeyId
  verificationProfile : Profile
  verifierVersion : Profile
  implementationArtifactSha256 : HashText
  effectiveVerificationPolicySha256 : HashText
  witnessValidUntil : UtcInstant P
  distinct_keys : sourceKeyId ≠ witnessKeyId

def providerInvalid (message : JsString) : GatewayError :=
  .provider ⟨js "POMRX_WG_PROVIDER_E_INVALID", message⟩

/-- `snapshotExactOwnDataRecord(value, expected, label)`. -/
def snapshotExactOwnDataRecord (value : HostValue) (expected : List JsString) (label : JsString) :
    Except GatewayError (List (JsString × HostValue)) :=
  snapshotRecord
    { notObject := providerInvalid (label ++ js " must be a non-Proxy object")
      array := providerInvalid (label ++ js " must be a non-Proxy object")
      prototype := providerInvalid (label ++ js " must be a plain object")
      symbols := providerInvalid (label ++ js " cannot contain symbol fields")
      fields := providerInvalid (label ++ js " has missing or unknown fields")
      property := fun key => providerInvalid
        (label ++ 0x2E :: key ++ js " must be an enumerable data property") }
    (fun names => names.length = expected.length) expected value

/-- A field of the authorization that must be a string of a format. -/
def authorizationString (snapshot : List (JsString × HostValue)) (pattern : JsString → Bool)
    (field : String) : Except GatewayError { s : JsString // pattern s = true } :=
  match snapshot.lookup (js field) with
  | some (.string s) =>
    if h : pattern s = true then .ok ⟨s, h⟩
    else .error (providerInvalid (js field ++ js " is invalid"))
  | _ => .error (providerInvalid (js field ++ js " is invalid"))

section Time

variable (P : DateParser)

/-- `canonicalUtcInstant(value, field)`. -/
def providerInstant (value : HostValue) (field : String) : Except GatewayError (UtcInstant P) :=
  let invalid : GatewayError :=
    .provider ⟨js "POMRX_WG_PROVIDER_E_TIME_INVALID", js field ++ js " must be a canonical UTC instant"⟩
  match value with
  | .string s =>
    match UtcInstant.ofText P s with
    | some i => .ok i
    | none => .error invalid
  | _ => .error invalid

/-- `sampleTrustedClock(trustedClock)` of the provider module. -/
def sampleProviderClock (answer : SyncAnswer) : Except GatewayError (UtcInstant P) :=
  match answer with
  | .throws => providerFail "POMRX_WG_PROVIDER_E_TIME_INVALID" "trusted clock failed"
  | .thenable => providerFail "POMRX_WG_PROVIDER_E_TIME_INVALID" "trusted clock must be synchronous"
  | .thenThrows => .error .foreign
  | .value v => providerInstant P v "trusted clock"

/-- `new Date(issuedAt.getTime() + capabilityLifetimeMs).toISOString()`. -/
def expiryText (issuedAt : UtcInstant P) (capabilityLifetimeMs : ℕ) : Except GatewayError JsString :=
  if (issuedAt.ms + capabilityLifetimeMs).natAbs ≤ maxTimeValue then
    .ok (Date.toISOString (issuedAt.ms + capabilityLifetimeMs))
  else .error .foreign

/-- `validateReferenceAuthorization(value)`. -/
def validateReferenceAuthorization (value : HostValue) :
    Except GatewayError (ReferenceAuthorization P) := do
  let snapshot ← snapshotExactOwnDataRecord value REFERENCE_AUTH_KEYS
    (js "reference authorization evidence")
  let runId ← authorizationString snapshot ID_PATTERN "run_id"
  let agentRef ← authorizationString snapshot ID_PATTERN "agent_ref"
  let subjectRef ← authorizationString snapshot ID_PATTERN "subject_ref"
  let verificationProfile ← authorizationString snapshot PROFILE_PATTERN "verification_profile"
  let verifierVersion ← authorizationString snapshot PROFILE_PATTERN "verifier_version"
  let preflightReceiptHash ← authorizationString snapshot HASH_PATTERN "preflight_receipt_hash"
  let witnessAckHash ← authorizationString snapshot HASH_PATTERN "witness_ack_hash"
  let implementationArtifactSha256 ←
    authorizationString snapshot HASH_PATTERN "implementation_artifact_sha256"
  let effectiveVerificationPolicySha256 ←
    authorizationString snapshot HASH_PATTERN "effective_verification_policy_sha256"
  let sourceKeyId ← authorizationString snapshot KEY_ID_PATTERN "source_key_id"
  let witnessKeyId ← authorizationString snapshot KEY_ID_PATTERN "witness_key_id"
  if distinct_keys : sourceKeyId ≠ witnessKeyId then
    let witnessValidUntil ← providerInstant P (fieldOf snapshot "witness_valid_until")
      "witness_valid_until"
    .ok { runId, agentRef, subjectRef, preflightReceiptHash, witnessAckHash, sourceKeyId,
          witnessKeyId, verificationProfile, verifierVersion, implementationArtifactSha256,
          effectiveVerificationPolicySha256, witnessValidUntil, distinct_keys }
  else .error (providerInvalid (js "source and witness identities must be distinct"))

/-- `getReferenceAuthorizationForRequest(factory, requestSummary)` after the call of
    `factory`. -/
def getReferenceAuthorizationForRequest (answer : SupplierAnswer) :
    Except GatewayError (ReferenceAuthorization P) :=
  match answer with
  | .throws => providerFail "POMRX_WG_PROVIDER_E_REFERENCE_UNAVAILABLE"
      "reference authorization evidence supplier failed"
  | .returned value => validateReferenceAuthorization P value

end Time

/-! ## Evaluation and execution of a request -/

def WALLET_GUARD_BINDING_PROFILE : JsString := js "pom-rx-wallet-guard/0.1"

def WALLET_GUARD_PREPARED_EXECUTION_VERSION : JsString := js "wallet_guard_prepared_execution/0.1"

def METHOD_COMMIT_DOMAIN : JsString := js "swisstokint:pom-rx-wallet-guard-method:v1:"

/-- `commitMethod(method)`. -/
def commitMethod (S : Hash) (method : JsString) : HashText := sha256Hex S (METHOD_COMMIT_DOMAIN ++ method)

/-- The trusted options of `createWalletGuardReferenceProviderGateway`. -/
structure Bootstrap (U : UrlParser) where
  policy : Policy U
  capabilityLifetimeMs : ℕ
  lifetime : 1000 ≤ capabilityLifetimeMs ∧ capabilityLifetimeMs ≤ 300000

/-- What `gateway.request` has computed when its policy is evaluated. -/
structure Evaluation where
  context : TrustedContext
  intent : Intent
  policyResult : PolicyResult
  intentCommitment : HashText

/-- The result of `makeDecisionResult`. -/
structure DecisionResult where
  decision : Decision
  reasons : List Reason
  policyHash : HashText
  intentCommitment : HashText
  forwarded : Bool
  providerResult : HostValue
  referenceAuthorizationOnly : Bool

/-- `makeDecisionResult(policyResult, committed, forwarded, providerResult)`. -/
def makeDecisionResult (e : Evaluation) (forwarded : Bool) (providerResult : HostValue) :
    DecisionResult where
  decision := e.policyResult.decision
  reasons := e.policyResult.reasons
  policyHash := e.policyResult.policyHash
  intentCommitment := e.intentCommitment
  forwarded := forwarded
  providerResult := providerResult
  referenceAuthorizationOnly := true

/-- The caller's execution attempt. -/
structure Attempt where
  requestId : JsString
  request : JsValue

/-- `PREPARED_KEYS`. -/
def PREPARED_KEYS : List JsString :=
  ["schema_version", "request_id", "origin", "chain_id", "account", "intent_commitment",
    "policy_hash", "request"].map js

/-- A prepared execution after `validatePreparedExecution`. -/
structure Prepared where
  requestId : Option JsValue
  origin : Option JsValue
  chainId : Option JsValue
  account : Option JsValue
  intentCommitment : HashText
  policyHash : HashText
  request : Option JsValue

def preparedInvalid (message : String) : GatewayError :=
  .provider ⟨js "POMRX_WG_PROVIDER_E_PREPARED_INVALID", js message⟩

/-- `validatePreparedExecution(prepared)`. -/
def validatePreparedExecution (prepared : JsValue) : Except GatewayError Prepared := do
  if prepared.isObject then
    if exactKeys (some prepared) PREPARED_KEYS then
      if isString (prepared.get (js "schema_version")) WALLET_GUARD_PREPARED_EXECUTION_VERSION then
        let hashes := preparedInvalid "prepared execution commitments are invalid"
        let intentCommitment ← (assertHash (prepared.get (js "intent_commitment")) []).mapError
          fun _ => hashes
        let policyHash ← (assertHash (prepared.get (js "policy_hash")) []).mapError fun _ => hashes
        .ok { requestId := prepared.get (js "request_id")
              origin := prepared.get (js "origin")
              chainId := prepared.get (js "chain_id")
              account := prepared.get (js "account")
              intentCommitment, policyHash
              request := prepared.get (js "request") }
      else .error (preparedInvalid "prepared execution version is invalid")
    else .error (providerInvalid (js "prepared execution has missing or unknown fields"))
  else .error (providerInvalid (js "prepared execution must be an object"))

/-- `exactContextMatches(prepared, context)`. -/
def exactContextMatches (prepared : Prepared) (context : TrustedContext) : Bool :=
  isString prepared.origin context.origin && isString prepared.chainId context.chainId.val &&
    isString prepared.account context.account.val

section Evaluate

variable (U : UrlParser) (N : Normalization) (S : Hash) (policy : Policy U)

/-- `normalizeWalletGuardIntent` under a sampled context. -/
def normalizeUnder (requestId : Option JsValue) (context : TrustedContext) (request : JsValue) :
    Except GatewayError Intent :=
  (normalizeWalletGuardIntent U N S requestId (some (.string context.origin))
    (some (.string context.chainId.val)) (some (.string context.account.val)) request).mapError .intent

/-- `evaluateWalletGuardPolicy(intent, policy, { status: 'not_run' })`. -/
def evaluateNotRun (intent : Intent) : Except GatewayError PolicyResult :=
  (evaluateWalletGuardPolicy U S intent true policy.toHost simulationNotRun).mapError .policy

/-- `commitWalletGuardIntent(intent)`. -/
def commitIntent (intent : Intent) : Except GatewayError HashText :=
  (commitWalletGuardIntent U S intent).mapError .intent

/-- The part of `request` between the context sample and the decision. -/
def evaluateRequest (requestId : JsString) (request : JsValue) (context : TrustedContext) :
    Except GatewayError Evaluation := do
  let intent ← normalizeUnder U N S (some (.string requestId)) context request
  let policyResult ← evaluateNotRun U S policy intent
  let intentCommitment ← commitIntent U S intent
  .ok { context, intent, policyResult, intentCommitment }

/-- The prepared execution of the observer. -/
def preparedExecution (requestId : JsString) (context : TrustedContext) (intentCommitment policyHash : HashText)
    (request : JsValue) : JsValue :=
  .object [(js "schema_version", .string WALLET_GUARD_PREPARED_EXECUTION_VERSION),
    (js "request_id", .string requestId), (js "origin", .string context.origin),
    (js "chain_id", .string context.chainId.val), (js "account", .string context.account.val),
    (js "intent_commitment", .string intentCommitment.val),
    (js "policy_hash", .string policyHash.val), (js "request", request)]

/-- The record that the observer returns. -/
def observedRecord (context : TrustedContext) (intentCommitment policyHash : HashText)
    (prepared : JsValue) : JsValue :=
  .object [(js "binding_profile", .string WALLET_GUARD_BINDING_PROFILE),
    (js "action_commitment", .string intentCommitment.val),
    (js "context_commitment", .string (commitContext S context policyHash).val),
    (js "prepared_execution", prepared)]

def policyChanged (message : String) : GatewayError :=
  .provider ⟨js "POMRX_WG_PROVIDER_E_POLICY_CHANGED", js message⟩

/-- `observeBinding(attempt)` after its context sample. -/
def observeBinding (attempt : Attempt) (context : TrustedContext) : Except GatewayError JsValue := do
  let request ← clonePlainRequest (.ofData attempt.request)
  let intent ← normalizeUnder U N S (some (.string attempt.requestId)) context request
  let policyResult ← evaluateNotRun U S policy intent
  if policyResult.decision ≠ .allow then
    .error (policyChanged "policy no longer allows the execution attempt")
  else
    let intentCommitment ← commitIntent U S intent
    .ok (observedRecord S context intentCommitment policyResult.policyHash
      (preparedExecution attempt.requestId context intentCommitment policyResult.policyHash request))

def contextChanged : GatewayError :=
  .provider ⟨js "POMRX_WG_PROVIDER_E_CONTEXT_CHANGED",
    js "trusted context changed immediately before forwarding"⟩

/-- The check of the prepared request under the first context sample of
    `executeDownstream(prepared)`; returns the request to forward. -/
def checkPrepared (prepared : Prepared) (context : TrustedContext) : Except GatewayError JsValue := do
  if exactContextMatches prepared context then
    let request ← clonePlainRequest ((prepared.request.map HostValue.ofData).getD .undefined)
    let intent ← normalizeUnder U N S prepared.requestId context request
    let intentCommitment ← commitIntent U S intent
    if intentCommitment ≠ prepared.intentCommitment then
      .error (.provider ⟨js "POMRX_WG_PROVIDER_E_BINDING_CHANGED",
        js "prepared request no longer matches the Gate-bound intent"⟩)
    else
      let policyResult ← evaluateNotRun U S policy intent
      if policyResult.decision ≠ .allow ∨ policyResult.policyHash ≠ prepared.policyHash then
        .error (policyChanged "policy no longer allows the prepared request")
      else .ok request
  else .error contextChanged

end Evaluate

/-- The binding input of an issuance. -/
def bindingInput {P : DateParser} (S : Hash) (e : Evaluation) (authorization : ReferenceAuthorization P)
    (issuedAt : UtcInstant P) (expiresAt : JsString) : JsValue :=
  .object [(js "binding_profile", .string WALLET_GUARD_BINDING_PROFILE),
    (js "run_id", .string authorization.runId.val),
    (js "agent_ref", .string authorization.agentRef.val),
    (js "subject_ref", .string authorization.subjectRef.val),
    (js "method_hash", .string (commitMethod S e.intent.rpcMethod).val),
    (js "policy_hash", .string e.policyResult.policyHash.val),
    (js "action_commitment", .string e.intentCommitment.val),
    (js "context_commitment", .string (commitContext S e.context e.policyResult.policyHash).val),
    (js "preflight_receipt_hash", .string authorization.preflightReceiptHash.val),
    (js "witness_ack_hash", .string authorization.witnessAckHash.val),
    (js "source_key_id", .string authorization.sourceKeyId.val),
    (js "witness_key_id", .string authorization.witnessKeyId.val),
    (js "verification_profile", .string authorization.verificationProfile.val),
    (js "verifier_version", .string authorization.verifierVersion.val),
    (js "implementation_artifact_sha256", .string authorization.implementationArtifactSha256.val),
    (js "effective_verification_policy_sha256",
      .string authorization.effectiveVerificationPolicySha256.val),
    (js "issued_at", .string issuedAt.text), (js "expires_at", .string expiresAt)]

/-- The summary that the supplier is called with. -/
def referenceRequest {P : DateParser} (S : Hash) (requestId : JsString) (e : Evaluation)
    (issuedAt : UtcInstant P) (expiresAt : JsString) : JsValue :=
  .object [(js "request_id", .string requestId),
    (js "method_hash", .string (commitMethod S e.intent.rpcMethod).val),
    (js "policy_hash", .string e.policyResult.policyHash.val),
    (js "action_commitment", .string e.intentCommitment.val),
    (js "context_commitment", .string (commitContext S e.context e.policyResult.policyHash).val),
    (js "issued_at", .string issuedAt.text), (js "expires_at", .string expiresAt)]

/-! ## The machine -/

/-- What a sampled context is for. -/
inductive Site where
  /-- The sample of `request`. -/
  | atRequest
  /-- The sample of `observeBinding`, for a call of the Gate. -/
  | atObservation (e : Evaluation) (call : ℕ)
  /-- The first sample of `executeDownstream`. -/
  | beforeCheck (e : Evaluation) (call : ℕ) (prepared : Prepared)
  /-- The final sample of `executeDownstream`, before `request` is forwarded. -/
  | beforeForward (e : Evaluation) (call : ℕ) (prepared : Prepared) (request : JsValue)

/-- Where a request waits, with the local variables it still uses. -/
inductive RequestPhase (P : DateParser) where
  | sampling (site : Site) (sampling : Sampling)
  /-- `request` waits for its own clock reading. -/
  | clock (e : Evaluation)
  | supplier (e : Evaluation) (issuedAt : UtcInstant P) (expiresAt : JsString)
  /-- The Gate waits for a clock reading. -/
  | gateClock (e : Evaluation) (call : ℕ)
  /-- The promise of `observeBinding` has settled. -/
  | observed (e : Evaluation) (call : ℕ) (answer : ObserverAnswer)
  /-- `provider.request` has been called. -/
  | forwarded (e : Evaluation) (call : ℕ)
  /-- The promise of `executeDownstream` has been rejected before a call of `provider.request`. -/
  | refused (e : Evaluation) (call : ℕ)
  | settled (result : Except GatewayError DecisionResult)

/-- A call of `gateway.request` whose request was cloned. -/
structure Request (P : DateParser) where
  requestId : JsString
  snapshot : JsValue
  phase : RequestPhase P

/-- The identities that an authorization spends. -/
structure Identities where
  runId : JsString
  preflightReceiptHash : JsString
  witnessAckHash : JsString

/-- What happened; a request is named by its place in the order of requests. -/
inductive GatewayEvent where
  /-- A callback gave a well-formed sample of the trusted context. -/
  | sampled (request : ℕ) (sample : Sample)
  /-- The supplier was called. -/
  | asked (request : ℕ) (summary : JsValue)
  | reserved (request : ℕ) (identities : Identities)
  /-- `provider.request(value)` was called. -/
  | forwarded (request : ℕ) (value : JsValue)

structure GatewayState (P : DateParser) where
  gate : GateState P Attempt
  requests : List (Request P)
  requestCounter : ℕ
  usedRunIds : List JsString
  usedPreflightHashes : List JsString
  usedWitnessHashes : List JsString
  trace : List GatewayEvent

inductive GatewayAction where
  | request (untrustedRequest : HostValue)
  /-- `captureTrustedOrigin()` or `captureContext(...)` has returned. -/
  | sample (request : ℕ) (answer : SampleAnswer)
  /-- `trustedClock()` has returned. -/
  | clock (request : ℕ) (answer : SyncAnswer)
  /-- `referenceAuthorizationForRequest(summary)` has returned; `capability` is the new
      object of an issuance and `randomBytes` what it draws. -/
  | supplier (request : ℕ) (answer : SupplierAnswer) (capability : ObjectId)
      (randomBytes : List UInt8)
  | resume (request : ℕ)
  /-- `provider.request(value)` has settled. -/
  | provider (request : ℕ) (answer : DownstreamAnswer)

namespace GatewayState

variable {P : DateParser}

/-- A gateway that has just been made. -/
def initial : GatewayState P := ⟨.initial, [], 0, [], [], [], []⟩

/-- The request now waits in another phase. -/
def setPhase (s : GatewayState P) (k : ℕ) (phase : RequestPhase P) : GatewayState P :=
  { s with requests := s.requests.modify k fun r => { r with phase } }

def log (s : GatewayState P) (events : List GatewayEvent) : GatewayState P :=
  { s with trace := s.trace ++ events }

/-- One of the identities has been used. -/
def replayed (s : GatewayState P) (i : Identities) : Bool :=
  s.usedRunIds.contains i.runId || s.usedPreflightHashes.contains i.preflightReceiptHash ||
    s.usedWitnessHashes.contains i.witnessAckHash

/-- The three `setAdd` of the reservation. -/
def reserve (s : GatewayState P) (k : ℕ) (i : Identities) : GatewayState P :=
  { s with
    usedRunIds := s.usedRunIds.insert i.runId
    usedPreflightHashes := s.usedPreflightHashes.insert i.preflightReceiptHash
    usedWitnessHashes := s.usedWitnessHashes.insert i.witnessAckHash
    trace := s.trace ++ [.reserved k i] }

end GatewayState

def ReferenceAuthorization.identities {P : DateParser} (a : ReferenceAuthorization P) : Identities :=
  ⟨a.runId.val, a.preflightReceiptHash.val, a.witnessAckHash.val⟩

/-- `wg-reference-request-` and the counter with at least eight digits. -/
def requestIdOf (counter : ℕ) : JsString := js "wg-reference-request-" ++ Date.padded 8 counter

section Step

variable (U : UrlParser) (N : Normalization) (S : Hash) {P : DateParser} (b : Bootstrap U)

/-- `gateway.request(untrustedRequest)` up to the first sample. A request that cannot be
    cloned is rejected and changes nothing. -/
def requestStep (s : GatewayState P) (untrustedRequest : HostValue) : GatewayState P :=
  match clonePlainRequest untrustedRequest with
  | .error _ => s
  | .ok snapshot =>
    { s with
      requestCounter := s.requestCounter + 1
      requests := s.requests ++
        [⟨requestIdOf (s.requestCounter + 1), snapshot, .sampling .atRequest .originBefore⟩] }

/-- The request goes on when its call of `consume` has gone on: with the clock, with the
    functions `observeBinding` and `executeDownstream(argument)`, or with the result. -/
def follow (gate : GateState P Attempt) (e : Evaluation) (call : ℕ) (argument : JsValue) :
    RequestPhase P :=
  match (gate.calls[call]?).map Call.phase with
  | some (.firstClock _) => .gateClock e call
  | some (.observing _) => .sampling (.atObservation e call) .originBefore
  | some (.secondClock _ _) => .gateClock e call
  | some .executing =>
    match validatePreparedExecution argument with
    | .ok prepared => .sampling (.beforeCheck e call prepared) .originBefore
    | .error _ => .refused e call
  | some (.settled (.ok v)) => .settled (.ok (makeDecisionResult e true v))
  | some (.settled (.error error)) => .settled (.error (.gate error))
  | none => .refused e call

/-- A step of the Gate in a call of `consume`, after which the request goes on. -/
def gateContinue (s : GatewayState P) (k : ℕ) (e : Evaluation) (call : ℕ) (argument : JsValue)
    (action : Action Attempt) : Option (GatewayState P) :=
  (gateStep N S s.gate action).map fun gate =>
    { s with gate }.setPhase k (follow gate e call argument)

/-- A context sample has failed. -/
def sampleFailed (site : Site) (error : GatewayError) : RequestPhase P :=
  match site with
  | .atRequest => .settled (.error error)
  | .atObservation e call => .observed e call (.rejected none)
  | .beforeCheck e call _ => .refused e call
  | .beforeForward e call _ _ => .refused e call

/-- The decision of the request, under its context. -/
def decideRequest (r : Request P) (context : TrustedContext) : RequestPhase P :=
  match evaluateRequest U N S b.policy r.requestId r.snapshot context with
  | .error error => .settled (.error error)
  | .ok e =>
    if e.policyResult.decision = .allow then .clock e
    else .settled (.ok (makeDecisionResult e false .null))

/-- A context has been sampled. -/
def sampleDone (s : GatewayState P) (k : ℕ) (r : Request P) (site : Site) (context : TrustedContext) :
    GatewayState P :=
  match site with
  | .atRequest => s.setPhase k (decideRequest U N S b r context)
  | .atObservation e call =>
    match observeBinding U N S b.policy ⟨r.requestId, r.snapshot⟩ context with
    | .ok observed => s.setPhase k (.observed e call (.resolved (.ofData observed)))
    | .error _ => s.setPhase k (.observed e call (.rejected none))
  | .beforeCheck e call prepared =>
    match checkPrepared U N S b.policy prepared context with
    | .ok request => s.setPhase k (.sampling (.beforeForward e call prepared request) .originBefore)
    | .error _ => s.setPhase k (.refused e call)
  | .beforeForward e call prepared request =>
    if exactContextMatches prepared context then
      (s.setPhase k (.forwarded e call)).log [.forwarded k request]
    else s.setPhase k (.refused e call)

/-- An answer to a context sample. -/
def sampleStep (s : GatewayState P) (k : ℕ) (r : Request P) (site : Site) (sampling : Sampling)
    (answer : SampleAnswer) : Option (GatewayState P) :=
  (sampling.resume U answer).map fun (new, progress) =>
    let s := s.log (new.map (.sampled k))
    match progress with
    | .waiting sampling => s.setPhase k (.sampling site sampling)
    | .failed error => s.setPhase k (sampleFailed site error)
    | .done context => sampleDone U N S b s k r site context

/-- `sampleTrustedClock(trustedClock)` of the request, up to the call of the supplier. -/
def clockAnswer (s : GatewayState P) (k : ℕ) (r : Request P) (e : Evaluation) (answer : SyncAnswer) :
    GatewayState P :=
  match sampleProviderClock P answer with
  | .error error => s.setPhase k (.settled (.error error))
  | .ok issuedAt =>
    match expiryText P issuedAt b.capabilityLifetimeMs with
    | .error error => s.setPhase k (.settled (.error error))
    | .ok expiresAt =>
      (s.setPhase k (.supplier e issuedAt expiresAt)).log
        [.asked k (referenceRequest S r.requestId e issuedAt expiresAt)]

/-- `issueReferenceAuthorizationForTest(bindingInput, ...)` and `consume(capability, ...)`. -/
def issueAndConsume (s : GatewayState P) (k : ℕ) (r : Request P) (e : Evaluation) (input : HostValue)
    (witnessValidUntil : JsString) (capability : ObjectId) (randomBytes : List UInt8) :
    Option (GatewayState P) :=
  (gateStep N S s.gate (.issue capability randomBytes input (.string witnessValidUntil))).bind
    fun gate =>
      match prepareReferenceExactAuthorizationRecord P N S input (.string witnessValidUntil)
          (.string (js "cap-" ++ randomBytes.flatMap hexByte)) with
      | .error error => some ({ s with gate }.setPhase k (.settled (.error (.issue error))))
      | .ok _ =>
        gateContinue N S { s with gate } k e gate.calls.length .null
          (.consume capability ⟨r.requestId, r.snapshot⟩)

/-- The part of `request` after the answer of the supplier. -/
def supplierStep (s : GatewayState P) (k : ℕ) (r : Request P) (e : Evaluation) (issuedAt : UtcInstant P)
    (expiresAt : JsString) (answer : SupplierAnswer) (capability : ObjectId)
    (randomBytes : List UInt8) : Option (GatewayState P) :=
  match getReferenceAuthorizationForRequest P answer with
  | .error error => some (s.setPhase k (.settled (.error error)))
  | .ok authorization =>
    if (P.parse expiresAt).any fun t => authorization.witnessValidUntil.ms < t then
      some (s.setPhase k (.settled (.error (.provider ⟨js "POMRX_WG_PROVIDER_E_TIME_INVALID",
        js "capability expiry exceeds witness validity"⟩))))
    else if s.replayed authorization.identities then
      some (s.setPhase k (.settled (.error (.provider ⟨js "POMRX_WG_PROVIDER_E_REFERENCE_REPLAY",
        js "reference authorization evidence was already used by this gateway"⟩))))
    else issueAndConsume N S (s.reserve k authorization.identities) k r e
      (.ofData (bindingInput S e authorization issuedAt expiresAt))
      authorization.witnessValidUntil.text capability randomBytes

/-- The prepared execution of a call of `consume` that waits for its second clock reading. -/
def pendingArgument (gate : GateState P Attempt) (call : ℕ) : JsValue :=
  match (gate.calls[call]?).map Call.phase with
  | some (.secondClock _ observed) => observed.preparedExecution
  | _ => .null

/-- One step; `none` where the request does not wait for this answer. -/
def gatewayStep (s : GatewayState P) (action : GatewayAction) : Option (GatewayState P) :=
  match action with
  | .request untrustedRequest => some (requestStep s untrustedRequest)
  | .sample k answer =>
    match s.requests[k]? with
    | some r =>
      match r.phase with
      | .sampling site sampling => sampleStep U N S b s k r site sampling answer
      | _ => none
    | none => none
  | .clock k answer =>
    match s.requests[k]? with
    | some r =>
      match r.phase with
      | .clock e => some (clockAnswer U S b s k r e answer)
      | .gateClock e call =>
        gateContinue N S s k e call (pendingArgument s.gate call) (.clock call answer)
      | _ => none
    | none => none
  | .supplier k answer capability randomBytes =>
    match s.requests[k]? with
    | some r =>
      match r.phase with
      | .supplier e issuedAt expiresAt =>
        supplierStep N S s k r e issuedAt expiresAt answer capability randomBytes
      | _ => none
    | none => none
  | .resume k =>
    match s.requests[k]? with
    | some r =>
      match r.phase with
      | .observed e call answer => gateContinue N S s k e call .null (.observer call answer)
      | .refused e call => gateContinue N S s k e call .null (.downstream call .rejected)
      | _ => none
    | none => none
  | .provider k answer =>
    match s.requests[k]? with
    | some r =>
      match r.phase with
      | .forwarded e call => gateContinue N S s k e call .null (.downstream call answer)
      | _ => none
    | none => none

/-- What a step does, by the phase of the request it is about. -/
inductive StepCase (s s' : GatewayState P) : Prop where
  | request (v : HostValue) (h : s' = requestStep s v)
  | sample {k : ℕ} {r : Request P} {site : Site} {sampling : Sampling} (answer : SampleAnswer)
      (hr : s.requests[k]? = some r) (hphase : r.phase = .sampling site sampling)
      (h : sampleStep U N S b s k r site sampling answer = some s')
  | clock {k : ℕ} {r : Request P} {e : Evaluation} (answer : SyncAnswer)
      (hr : s.requests[k]? = some r) (hphase : r.phase = .clock e)
      (h : s' = clockAnswer U S b s k r e answer)
  | supplier {k : ℕ} {r : Request P} {e : Evaluation} {issuedAt : UtcInstant P} {expiresAt : JsString}
      (answer : SupplierAnswer) (capability : ObjectId) (randomBytes : List UInt8)
      (hr : s.requests[k]? = some r) (hphase : r.phase = .supplier e issuedAt expiresAt)
      (h : supplierStep N S s k r e issuedAt expiresAt answer capability randomBytes = some s')
  | gateClock {k : ℕ} {r : Request P} {e : Evaluation} {call : ℕ} (answer : SyncAnswer)
      (hr : s.requests[k]? = some r) (hphase : r.phase = .gateClock e call)
      (h : gateContinue N S s k e call (pendingArgument s.gate call) (.clock call answer) = some s')
  | observed {k : ℕ} {r : Request P} {e : Evaluation} {call : ℕ} {answer : ObserverAnswer}
      (hr : s.requests[k]? = some r) (hphase : r.phase = .observed e call answer)
      (h : gateContinue N S s k e call .null (.observer call answer) = some s')
  | executed {k : ℕ} {r : Request P} {e : Evaluation} {call : ℕ} (answer : DownstreamAnswer)
      (hr : s.requests[k]? = some r) (hphase : r.phase = .forwarded e call ∨ r.phase = .refused e call)
      (h : gateContinue N S s k e call .null (.downstream call answer) = some s')

theorem gatewayStep_cases {s s' : GatewayState P} {action : GatewayAction}
    (h : gatewayStep U N S b s action = some s') : StepCase U N S b s s' := by
  cases action with
  | request v =>
    cases h
    exact .request v rfl
  | sample k answer =>
    simp only [gatewayStep] at h
    split at h
    · rename_i r hr
      split at h
      · rename_i site sampling hphase
        exact .sample answer hr hphase h
      · cases h
    · cases h
  | clock k answer =>
    simp only [gatewayStep] at h
    split at h
    · rename_i r hr
      split at h
      · rename_i e hphase
        cases h
        exact .clock answer hr hphase rfl
      · rename_i e call hphase
        exact .gateClock answer hr hphase h
      · cases h
    · cases h
  | supplier k answer capability randomBytes =>
    simp only [gatewayStep] at h
    split at h
    · rename_i r hr
      split at h
      · rename_i e issuedAt expiresAt hphase
        exact .supplier answer capability randomBytes hr hphase h
      · cases h
    · cases h
  | resume k =>
    simp only [gatewayStep] at h
    split at h
    · rename_i r hr
      split at h
      · rename_i e call answer hphase
        exact .observed hr hphase h
      · rename_i e call hphase
        exact .executed .rejected hr (.inr hphase) h
      · cases h
    · cases h
  | provider k answer =>
    simp only [gatewayStep] at h
    split at h
    · rename_i r hr
      split at h
      · rename_i e call hphase
        exact .executed answer hr (.inl hphase) h
      · cases h
    · cases h

/-- A run of the gateway. -/
def gatewayRun (s : GatewayState P) (actions : List GatewayAction) : Option (GatewayState P) :=
  Machine.run (gatewayStep U N S b) s actions

end Step

end OpenRisk.Guard
