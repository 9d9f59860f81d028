import OpenRisk.Guard.Gateway
import OpenRisk.PomRx.Witness

/-!
# The Witness authorization supplier

Model of `applications/blockchain-digital-assets/wallet-guard/witness-authorization.mjs` and
of `core/witness/reference-evidence-binding.mjs`. The supplier takes a summary of a request,
asks one foreign function for the evidence and another one for its verification, and gives the
gateway a `ReferenceAuthorization`. What the two functions return is arbitrary.

Results:
* `verifyReferenceWitnessEvidenceResultBinding_eq_ok`: what a bound result identifies.
* `referenceAuthorizationForRequest_sound`: what an authorization rests on.
-/

namespace OpenRisk.Guard.WitnessAuthorization

open Text Sdk PomRx
open OpenRisk.Core

/-! ## Binding a result to its evidence -/

/-- What `verifyReferenceWitnessEvidenceResultBinding` does when it is not `ok`: it throws, or
    it answers `{ ok: false, code, error }`. -/
inductive EvidenceError where
  | data (e : PlainDataError)
  | typeError
  | failure (code error : JsString)

/-- What it answers when it is `ok`. -/
structure EvidenceBinding where
  receiptHash : HashText
  acknowledgementHash : HashText
  sourceKeyId : JsString
  witnessKeyId : JsString
  acknowledgementReceivedAt : IsoDate
  acknowledgementValidUntil : IsoDate

section Binding

variable (N : Normalization) (R : Runtime) {Key PublicKey : Type} (K : KeyProvider Key PublicKey)

/-- What the acknowledgement must say of a source. -/
def sourceExpectation (source : SourceVerified) : AckExpectation where
  receiptHash := some source.receiptHash.val
  receiptId := some source.receipt.receiptId.val
  runId := some source.receipt.runId.val
  outcome := some source.receipt.outcome.text
  sourceKeyId := some source.sourceKeyId
  mode := some (js "witnessed")
  witnessKeyId := none
  unexpiredAt := none

/-- `verifyReferenceWitnessEvidenceResultBinding(sourceEnvelope, witnessAcknowledgement,
    verificationResult)`. -/
def verifyReferenceWitnessEvidenceResultBinding
    (sourceEnvelope witnessAcknowledgement verificationResult : HostValue) :
    Except EvidenceError EvidenceBinding := do
  let sourceSnapshot ← (captureReferencePlainData sourceEnvelope
    (js "POM-RX Witness binding source envelope")).mapError .data
  let acknowledgementSnapshot ← (captureReferencePlainData witnessAcknowledgement
    (js "POM-RX Witness binding acknowledgement")).mapError .data
  let resultSnapshot ← (captureReferencePlainData verificationResult
    (js "POM-RX Witness binding verification result")).mapError .data
  let source ← (verifyPomRxSourceEnvelope N R K sourceSnapshot).mapError fun _ =>
    .failure (js "POMRX_WITNESS_BINDING_E_SOURCE")
      (js "source envelope does not verify against the exact supplied evidence")
  let acknowledgement ← (verifyPomRxWitnessAck N R K acknowledgementSnapshot
    (sourceExpectation source)).mapError fun _ =>
      .failure (js "POMRX_WITNESS_BINDING_E_ACK")
        (js "Witness acknowledgement does not verify against the exact supplied source evidence")
  match resultSnapshot with
  | .null => .error .typeError
  | result =>
    if isText (result.get (js "receipt_hash")) source.receiptHash.val &&
        isText (result.get (js "source_key_id")) source.sourceKeyId &&
        isText (result.get (js "acknowledgement_hash")) acknowledgement.acknowledgementHash.val &&
        isText (result.get (js "witness_key_id")) acknowledgement.payload.witnessKeyId then
      .ok { receiptHash := source.receiptHash
            acknowledgementHash := acknowledgement.acknowledgementHash
            sourceKeyId := source.sourceKeyId
            witnessKeyId := acknowledgement.payload.witnessKeyId
            acknowledgementReceivedAt := acknowledgement.payload.receivedAt
            acknowledgementValidUntil := acknowledgement.payload.validUntil }
    else .error (.failure (js "POMRX_WITNESS_BINDING_E_RESULT")
      (js "Witness verification result does not identify the exact supplied signed evidence"))

end Binding

/-! ## Captures -/

/-- What the supplier throws: a `WalletGuardWitnessAuthorizationError`, an error of the capture
    of plain data, a `TypeError`, or an error of foreign code. -/
inductive WitnessError where
  | witness (code message : JsString)
  | data (e : PlainDataError)
  | typeError
  | foreign

def E_INVALID : JsString := js "POMRX_WG_WITNESS_E_INVALID"

def E_EVIDENCE : JsString := js "POMRX_WG_WITNESS_E_EVIDENCE"

def E_VERIFY : JsString := js "POMRX_WG_WITNESS_E_VERIFY"

def E_TIME_INVALID : JsString := js "POMRX_WG_WITNESS_E_TIME_INVALID"

def E_BINDING_MISMATCH : JsString := js "POMRX_WG_WITNESS_E_BINDING_MISMATCH"

def witnessFail {α : Type} (code : JsString) (message : JsString) : Except WitnessError α :=
  .error (.witness code message)

def VERIFICATION_BINDING_KEYS : List JsString :=
  ["verification_profile", "verifier_version", "implementation_artifact_sha256",
    "effective_verification_policy_sha256"].map js

def REQUEST_SUMMARY_KEYS : List JsString :=
  ["request_id", "method_hash", "policy_hash", "action_commitment", "context_commitment",
    "issued_at", "expires_at"].map js

def EVIDENCE_KEYS : List JsString := ["sourceEnvelope", "witnessAcknowledgement"].map js

def VERIFIED_SUCCESS_KEYS : List JsString :=
  ["ok", "source_key_id", "witness_key_id", "receipt_hash", "acknowledgement_hash", "current_time",
    "authorization_valid_until", "trust_revision", "trust_state_hash", "reference_only",
    "production_trust_proved"].map js

def VERIFIED_FAILURE_KEYS : List JsString := ["ok", "code", "error"].map js

/-- `captureExactEnvelope(value, expectedKeys, label, code)`. -/
def captureExactEnvelope (value : HostValue) (expectedKeys : List JsString) (label code : JsString) :
    Except WitnessError (List (JsString × HostValue)) :=
  snapshotRecord
    { notObject := .witness code (label ++ js " must be a non-Proxy plain object")
      array := .witness code (label ++ js " must be a non-Proxy plain object")
      prototype := .witness code (label ++ js " must be a plain object")
      symbols := .witness code (label ++ js " cannot contain symbol keys")
      fields := .witness code (label ++ js " has missing, hidden or unknown fields")
      property := fun key =>
        .witness code (label ++ 0x2E :: key ++ js " must be an enumerable data property") }
    (fun names => sortNames names = sortNames expectedKeys) expectedKeys value

/-- `exactKeys(value, expectedKeys, label, code)` of captured data. -/
def exactKeys (value : JsValue) (expectedKeys : List JsString) (label code : JsString) :
    Except WitnessError Unit :=
  match value with
  | .null => .error .typeError
  | .object es =>
    if sortNames (es.map Prod.fst) = sortNames expectedKeys then .ok ()
    else witnessFail code (label ++ js " has missing or unknown fields")
  | _ => witnessFail code (label ++ js " has missing or unknown fields")

/-- `assertPattern(value, pattern, field, code)`. -/
def assertPattern (value : Option JsValue) (pattern : JsString → Bool) (field code : JsString) :
    Except WitnessError { s : JsString // pattern s = true } :=
  match value with
  | some (.string s) =>
    if h : pattern s = true then .ok ⟨s, h⟩
    else witnessFail code (field ++ js " has an invalid format")
  | _ => witnessFail code (field ++ js " has an invalid format")

/-- `value === b`. -/
def isBool (value : Option JsValue) (b : Bool) : Bool :=
  match value with
  | some (.bool b') => b' = b
  | _ => false

/-- `canonicalUtcInstant(value, field, code)`. -/
def witnessInstant (P : DateParser) (value : Option JsValue) (field code : JsString) :
    Except WitnessError (UtcInstant P) :=
  match value with
  | some (.string s) =>
    match UtcInstant.ofText P s with
    | some i => .ok i
    | none => witnessFail code (field ++ js " must be a canonical UTC instant")
  | _ => witnessFail code (field ++ js " must be a canonical UTC instant")

/-- The verification binding of a supplier. -/
structure VerificationBinding where
  verificationProfile : Profile
  verifierVersion : Profile
  implementationArtifactSha256 : HashText
  effectiveVerificationPolicySha256 : HashText

/-- `normalizeVerificationBinding(value)`. -/
def normalizeVerificationBinding (value : HostValue) : Except WitnessError VerificationBinding := do
  let captured ← (captureReferencePlainData value
    (js "Wallet Guard Witness verification binding")).mapError .data
  exactKeys captured VERIFICATION_BINDING_KEYS (js "Wallet Guard Witness verification binding") E_INVALID
  let verificationProfile ← assertPattern (captured.get (js "verification_profile")) PROFILE_PATTERN
    (js "verification_profile") E_INVALID
  let verifierVersion ← assertPattern (captured.get (js "verifier_version")) PROFILE_PATTERN
    (js "verifier_version") E_INVALID
  let implementationArtifactSha256 ← assertPattern
    (captured.get (js "implementation_artifact_sha256")) HASH_PATTERN
    (js "implementation_artifact_sha256") E_INVALID
  let effectiveVerificationPolicySha256 ← assertPattern
    (captured.get (js "effective_verification_policy_sha256")) HASH_PATTERN
    (js "effective_verification_policy_sha256") E_INVALID
  .ok ⟨verificationProfile, verifierVersion, implementationArtifactSha256,
    effectiveVerificationPolicySha256⟩

def MIN_LIFETIME_MS : ℤ := 1000

def MAX_LIFETIME_MS : ℤ := 300000

/-- A normalized summary of a request. -/
structure RequestSummary (P : DateParser) where
  requestId : Identifier
  methodHash : HashText
  policyHash : HashText
  actionCommitment : HashText
  contextCommitment : HashText
  issuedAt : UtcInstant P
  expiresAt : UtcInstant P
  lifetime : MIN_LIFETIME_MS ≤ expiresAt.ms - issuedAt.ms ∧
    expiresAt.ms - issuedAt.ms ≤ MAX_LIFETIME_MS

section Captures

variable (P : DateParser)

/-- `normalizeRequestSummary(value)`. -/
def normalizeRequestSummary (value : HostValue) : Except WitnessError (RequestSummary P) := do
  let captured ← (captureReferencePlainData value
    (js "Wallet Guard Witness authorization request")).mapError .data
  exactKeys captured REQUEST_SUMMARY_KEYS (js "Wallet Guard Witness authorization request") E_INVALID
  let requestId ← assertPattern (captured.get (js "request_id")) ID_PATTERN (js "request_id") E_INVALID
  let methodHash ← assertPattern (captured.get (js "method_hash")) HASH_PATTERN (js "method_hash")
    E_INVALID
  let policyHash ← assertPattern (captured.get (js "policy_hash")) HASH_PATTERN (js "policy_hash")
    E_INVALID
  let actionCommitment ← assertPattern (captured.get (js "action_commitment")) HASH_PATTERN
    (js "action_commitment") E_INVALID
  let contextCommitment ← assertPattern (captured.get (js "context_commitment")) HASH_PATTERN
    (js "context_commitment") E_INVALID
  let issuedAt ← witnessInstant P (captured.get (js "issued_at")) (js "issued_at") E_TIME_INVALID
  let expiresAt ← witnessInstant P (captured.get (js "expires_at")) (js "expires_at") E_TIME_INVALID
  if lifetime : MIN_LIFETIME_MS ≤ expiresAt.ms - issuedAt.ms ∧
      expiresAt.ms - issuedAt.ms ≤ MAX_LIFETIME_MS then
    .ok { requestId, methodHash, policyHash, actionCommitment, contextCommitment, issuedAt, expiresAt,
          lifetime }
  else
    witnessFail E_TIME_INVALID
      (js "requested capability lifetime must be between 1 second and 5 minutes")

/-- The captured evidence. -/
structure Evidence where
  sourceEnvelope : JsValue
  witnessAcknowledgement : JsValue

/-- `captureEvidence(value)`. -/
def captureEvidence (value : HostValue) : Except WitnessError Evidence := do
  let envelope ← captureExactEnvelope value EVIDENCE_KEYS (js "Wallet Guard Witness evidence bundle")
    E_EVIDENCE
  let sourceEnvelope ← (captureReferencePlainData (fieldOf envelope "sourceEnvelope")
    (js "Wallet Guard source envelope")).mapError .data
  let witnessAcknowledgement ← (captureReferencePlainData (fieldOf envelope "witnessAcknowledgement")
    (js "Wallet Guard Witness acknowledgement")).mapError .data
  .ok ⟨sourceEnvelope, witnessAcknowledgement⟩

/-- A captured verification result that reports success. -/
structure Verified where
  result : JsValue
  sourceKeyId : KeyId
  witnessKeyId : KeyId
  receiptHash : HashText
  acknowledgementHash : HashText
  currentTime : UtcInstant P
  authorizationValidUntil : UtcInstant P
  distinct_keys : sourceKeyId ≠ witnessKeyId

/-- The tests of a result that says `ok: true`. -/
def captureVerifiedSuccess (captured : JsValue) : Except WitnessError (Verified P) := do
  exactKeys captured VERIFIED_SUCCESS_KEYS (js "POM-RX Witness verification result") E_VERIFY
  let sourceKeyId ← assertPattern (captured.get (js "source_key_id")) KEY_ID_PATTERN
    (js "source_key_id") E_VERIFY
  let witnessKeyId ← assertPattern (captured.get (js "witness_key_id")) KEY_ID_PATTERN
    (js "witness_key_id") E_VERIFY
  if distinct_keys : sourceKeyId ≠ witnessKeyId then
    let receiptHash ← assertPattern (captured.get (js "receipt_hash")) HASH_PATTERN
      (js "receipt_hash") E_VERIFY
    let acknowledgementHash ← assertPattern (captured.get (js "acknowledgement_hash")) HASH_PATTERN
      (js "acknowledgement_hash") E_VERIFY
    let _ ← assertPattern (captured.get (js "trust_state_hash")) HASH_PATTERN (js "trust_state_hash")
      E_VERIFY
    let currentTime ← witnessInstant P (captured.get (js "current_time")) (js "current_time") E_VERIFY
    let authorizationValidUntil ← witnessInstant P (captured.get (js "authorization_valid_until"))
      (js "authorization_valid_until") E_VERIFY
    match captured.get (js "trust_revision") with
    | some (.number x) =>
      if x.isSafeInteger = false ∨ x.toInt < 0 then
        witnessFail E_VERIFY (js "trust_revision is invalid")
      else if isBool (captured.get (js "reference_only")) true &&
          isBool (captured.get (js "production_trust_proved")) false then
        .ok { result := captured, sourceKeyId, witnessKeyId, receiptHash, acknowledgementHash,
              currentTime, authorizationValidUntil, distinct_keys }
      else witnessFail E_VERIFY (js "POM-RX Witness verification result overclaims trust")
    | _ => witnessFail E_VERIFY (js "trust_revision is invalid")
  else witnessFail E_VERIFY (js "source and Witness identities must be distinct")

/-- `captureVerificationResult(value)`. -/
def captureVerificationResult (value : HostValue) : Except WitnessError (Verified P) := do
  let captured ← (captureReferencePlainData value (js "POM-RX Witness verification result")).mapError
    .data
  match captured with
  | .null => .error .typeError
  | captured =>
    if isBool (captured.get (js "ok")) false then do
      exactKeys captured VERIFIED_FAILURE_KEYS (js "POM-RX Witness verification failure") E_VERIFY
      match captured.get (js "code") with
      | some (.string code) =>
        witnessFail E_VERIFY (js "POM-RX Witness verification failed: " ++ code)
      | _ => witnessFail E_VERIFY (js "POM-RX Witness verification failed")
    else if isBool (captured.get (js "ok")) true then captureVerifiedSuccess P captured
    else witnessFail E_VERIFY (js "POM-RX Witness verification result has an invalid status")

end Captures

/-! ## The supplier -/

/-- What `assertReceiptBinding` reads from the receipt. -/
structure ReceiptBinding (P : DateParser) where
  occurredAt : UtcInstant P
  runId : Identifier
  agentRef : Identifier
  subjectRef : Identifier

section Supplier

/-- `assertReceiptBinding(receipt, summary, issuedAt)`. -/
def assertReceiptBinding {P : DateParser} (receipt : JsValue) (summary : RequestSummary P) :
    Except WitnessError (ReceiptBinding P) := do
  if (isText (receipt.get (js "phase")) (js "preflight") &&
      isText (receipt.get (js "outcome")) (js "allow")) = false then
    witnessFail E_BINDING_MISMATCH (js "verified source receipt is not an allow preflight")
  else if (isText (receipt.get (js "method_hash")) summary.methodHash.val &&
      isText (receipt.get (js "policy_hash")) summary.policyHash.val &&
      isText (receipt.get (js "action_commitment")) summary.actionCommitment.val) = false then
    witnessFail E_BINDING_MISMATCH
      (js "verified source receipt does not match the exact Wallet Guard request commitments")
  else
    let occurredAt ← witnessInstant P (receipt.get (js "occurred_at")) (js "preflight occurred_at")
      E_BINDING_MISMATCH
    if summary.issuedAt.ms < occurredAt.ms then
      witnessFail E_BINDING_MISMATCH (js "verified preflight cannot occur after capability issuance")
    else
      let runId ← assertPattern (receipt.get (js "run_id")) ID_PATTERN (js "run_id") E_BINDING_MISMATCH
      let agentRef ← assertPattern (receipt.get (js "agent_ref")) ID_PATTERN (js "agent_ref")
        E_BINDING_MISMATCH
      let subjectRef ← assertPattern (receipt.get (js "subject_ref")) ID_PATTERN (js "subject_ref")
        E_BINDING_MISMATCH
      .ok ⟨occurredAt, runId, agentRef, subjectRef⟩

/-- The receipt of an envelope, as far as it is an object. -/
def sourceReceipt (sourceEnvelope : JsValue) : Except WitnessError JsValue :=
  match sourceEnvelope.get (js "receipt") with
  | some (.object es) => .ok (.object es)
  | some (.array xs) => .ok (.array xs)
  | _ => witnessFail E_BINDING_MISMATCH (js "verified source receipt is unavailable")

variable (N : Normalization) (R : Runtime) {Key PublicKey : Type} (K : KeyProvider Key PublicKey)

/-- `assertVerifiedEvidenceContinuity(evidence, verified)`. -/
def assertVerifiedEvidenceContinuity (evidence : Evidence) (verified : Verified R.date) :
    Except WitnessError Unit :=
  match verifyReferenceWitnessEvidenceResultBinding N R K (.ofData evidence.sourceEnvelope)
      (.ofData evidence.witnessAcknowledgement) (.ofData verified.result) with
  | .error (.data e) => .error (.data e)
  | .error .typeError => .error .typeError
  | .error (.failure _ _) => witnessFail E_BINDING_MISMATCH
      (js "Core verification result is not bound to the exact captured signed evidence")
  | .ok binding => do
    let acknowledgementValidUntil ← witnessInstant R.date
      (some (.string binding.acknowledgementValidUntil.text)) (js "acknowledgement_valid_until")
      E_BINDING_MISMATCH
    if acknowledgementValidUntil.ms < verified.authorizationValidUntil.ms then
      witnessFail E_BINDING_MISMATCH
        (js "Core authorization validity exceeds the exact signed acknowledgement validity")
    else .ok ()

/-- The call of a foreign function. -/
def answerOf : SupplierAnswer → Except WitnessError HostValue
  | .throws => .error .foreign
  | .returned value => .ok value

/-- `referenceAuthorizationForRequest(rawSummary)`, with the answers of `evidenceForRequest` and
    of `verifyAuthorizationCandidate`. -/
def referenceAuthorizationForRequest (verificationBinding : VerificationBinding)
    (rawSummary : HostValue) (evidenceForRequest verifyAuthorizationCandidate : SupplierAnswer) :
    Except WitnessError (ReferenceAuthorization R.date) := do
  let summary ← normalizeRequestSummary R.date rawSummary
  let rawEvidence ← answerOf evidenceForRequest
  let evidence ← captureEvidence rawEvidence
  let rawVerification ← answerOf verifyAuthorizationCandidate
  let verified ← captureVerificationResult R.date rawVerification
  assertVerifiedEvidenceContinuity N R K evidence verified
  let receipt ← sourceReceipt evidence.sourceEnvelope
  let bound ← assertReceiptBinding receipt summary
  if verified.currentTime.ms < summary.issuedAt.ms ∨
      summary.expiresAt.ms ≤ verified.currentTime.ms then
    witnessFail E_TIME_INVALID
      (js "Core Witness verification time must be inside the requested capability window")
  else if verified.authorizationValidUntil.ms < summary.expiresAt.ms then
    witnessFail E_TIME_INVALID
      (js "trust-bounded Witness authorization expires before the requested capability")
  else
    .ok { runId := bound.runId
          agentRef := bound.agentRef
          subjectRef := bound.subjectRef
          preflightReceiptHash := verified.receiptHash
          witnessAckHash := verified.acknowledgementHash
          sourceKeyId := verified.sourceKeyId
          witnessKeyId := verified.witnessKeyId
          verificationProfile := verificationBinding.verificationProfile
          verifierVersion := verificationBinding.verifierVersion
          implementationArtifactSha256 := verificationBinding.implementationArtifactSha256
          effectiveVerificationPolicySha256 := verificationBinding.effectiveVerificationPolicySha256
          witnessValidUntil := verified.authorizationValidUntil
          distinct_keys := verified.distinct_keys }

variable {N R K}

/-! ## What an authorization rests on -/

theorem assertPattern_eq_ok {value : Option JsValue} {pattern : JsString → Bool}
    {field code : JsString} {s : { s : JsString // pattern s = true }}
    (h : assertPattern value pattern field code = .ok s) : value = some (.string s.val) := by
  unfold assertPattern at h
  split at h
  · split_ifs at h
    · cases h
      rfl
    · cases h
  · cases h

theorem witnessInstant_eq_ok {P : DateParser} {value : Option JsValue} {field code : JsString}
    {i : UtcInstant P} (h : witnessInstant P value field code = .ok i) :
    value = some (.string i.text) := by
  unfold witnessInstant at h
  split at h
  · split at h
    · rename_i i' hi
      cases h
      rw [UtcInstant.text_of_ofText hi]
    · cases h
  · cases h

/-- A result that is bound identifies the evidence: the two signed texts verify, the
    acknowledgement is about the receipt, and the result has their hashes and key ids. -/
theorem verifyReferenceWitnessEvidenceResultBinding_eq_ok {envelope ack result : JsValue}
    {binding : EvidenceBinding}
    (h : verifyReferenceWitnessEvidenceResultBinding N R K (.ofData envelope) (.ofData ack)
      (.ofData result) = .ok binding) :
    ∃ (v : SourceVerified) (a : AckVerified) (k k' : Ed25519Key K),
      SourceEvidence N R K envelope v k ∧
      AckEvidence N R K ack a.payload a.acknowledgementHash k' ∧
      checkExpected ack (sourceExpectation v).fields = .ok () ∧
      result.get (js "receipt_hash") = some (.string v.receiptHash.val) ∧
      result.get (js "source_key_id") = some (.string v.sourceKeyId) ∧
      result.get (js "acknowledgement_hash") = some (.string a.acknowledgementHash.val) ∧
      result.get (js "witness_key_id") = some (.string a.payload.witnessKeyId) ∧
      binding.acknowledgementValidUntil = a.payload.validUntil := by
  unfold verifyReferenceWitnessEvidenceResultBinding at h
  obtain ⟨envelope', henvelope, h₁⟩ := bind_eq_ok.mp h
  obtain ⟨ack', hack, h₂⟩ := bind_eq_ok.mp h₁
  obtain ⟨result', hresult, h₃⟩ := bind_eq_ok.mp h₂
  obtain ⟨v, hv, h₄⟩ := bind_eq_ok.mp h₃
  obtain ⟨a, ha, hfields⟩ := bind_eq_ok.mp h₄
  rw [mapError_eq_ok] at henvelope hack hresult hv ha
  rw [captureReferencePlainData_ofData henvelope] at hv
  rw [captureReferencePlainData_ofData hack] at ha
  rw [captureReferencePlainData_ofData hresult] at hfields
  obtain ⟨k, hsource⟩ := verifyPomRxSourceEnvelope_eq_ok hv
  obtain ⟨⟨k', hevidence⟩, hexpected, -⟩ := verifyPomRxWitnessAck_eq_ok ha
  split at hfields
  · cases hfields
  · split_ifs at hfields with hbound
    · cases hfields
      simp only [Bool.and_eq_true, isText_eq_true] at hbound
      exact ⟨v, a, k, k', hsource, hevidence, hexpected, hbound.1.1.1, hbound.1.1.2, hbound.1.2,
        hbound.2, rfl⟩

/-- The fields that a verification result has been read for. -/
structure ReadsResult {P : DateParser} (v : Verified P) : Prop where
  sourceKeyId : v.result.get (js "source_key_id") = some (.string v.sourceKeyId.val)
  witnessKeyId : v.result.get (js "witness_key_id") = some (.string v.witnessKeyId.val)
  receiptHash : v.result.get (js "receipt_hash") = some (.string v.receiptHash.val)
  acknowledgementHash :
    v.result.get (js "acknowledgement_hash") = some (.string v.acknowledgementHash.val)
  currentTime : v.result.get (js "current_time") = some (.string v.currentTime.text)

theorem captureVerifiedSuccess_eq_ok {P : DateParser} {captured : JsValue} {v : Verified P}
    (h : captureVerifiedSuccess P captured = .ok v) : v.result = captured ∧ ReadsResult v := by
  unfold captureVerifiedSuccess at h
  obtain ⟨_, -, h⟩ := bind_eq_ok.mp h
  obtain ⟨sourceKeyId, hsource, h⟩ := bind_eq_ok.mp h
  obtain ⟨witnessKeyId, hwitness, h⟩ := bind_eq_ok.mp h
  by_cases hdistinct : sourceKeyId ≠ witnessKeyId
  · rw [dif_pos hdistinct] at h
    obtain ⟨receiptHash, hreceipt, h⟩ := bind_eq_ok.mp h
    obtain ⟨acknowledgementHash, hack, h⟩ := bind_eq_ok.mp h
    obtain ⟨_, -, h⟩ := bind_eq_ok.mp h
    obtain ⟨currentTime, hcurrent, h⟩ := bind_eq_ok.mp h
    obtain ⟨validUntil, hvalid, h⟩ := bind_eq_ok.mp h
    split at h
    · split_ifs at h
      · cases h
      · cases h
        exact ⟨rfl, assertPattern_eq_ok hsource, assertPattern_eq_ok hwitness,
          assertPattern_eq_ok hreceipt, assertPattern_eq_ok hack, witnessInstant_eq_ok hcurrent⟩
      · cases h
    · cases h
  · rw [dif_neg hdistinct] at h
    cases h

theorem captureVerificationResult_eq_ok {P : DateParser} {value : HostValue} {v : Verified P}
    (h : captureVerificationResult P value = .ok v) :
    captureReferencePlainData value (js "POM-RX Witness verification result") = .ok v.result ∧
      ReadsResult v := by
  unfold captureVerificationResult at h
  obtain ⟨captured, hcaptured, h⟩ := bind_eq_ok.mp h
  rw [mapError_eq_ok] at hcaptured
  split at h
  · cases h
  · split_ifs at h
    · obtain ⟨_, -, h⟩ := bind_eq_ok.mp h
      split at h <;> cases h
    · obtain ⟨hresult, hreads⟩ := captureVerifiedSuccess_eq_ok h
      rw [hresult]
      exact ⟨hcaptured, hreads⟩
    · cases h

theorem assertVerifiedEvidenceContinuity_eq_ok {evidence : Evidence} {verified : Verified R.date}
    (h : assertVerifiedEvidenceContinuity N R K evidence verified = .ok ()) :
    ∃ binding, verifyReferenceWitnessEvidenceResultBinding N R K (.ofData evidence.sourceEnvelope)
        (.ofData evidence.witnessAcknowledgement) (.ofData verified.result) = .ok binding ∧
      verified.authorizationValidUntil.ms ≤ binding.acknowledgementValidUntil.ms := by
  unfold assertVerifiedEvidenceContinuity at h
  split at h
  · cases h
  · cases h
  · cases h
  · rename_i binding hbinding
    obtain ⟨validUntil, hvalid, h⟩ := bind_eq_ok.mp h
    split_ifs at h with hle
    · cases h
    · have htext := witnessInstant_eq_ok hvalid
      rw [Option.some.injEq, JsValue.string.injEq] at htext
      rw [ms_of_text_eq htext.symm] at hle
      exact ⟨binding, hbinding, Int.not_lt.mp hle⟩

/-- What `assertReceiptBinding` has tested. -/
theorem assertReceiptBinding_eq_ok {P : DateParser} {receipt : JsValue} {summary : RequestSummary P}
    {bound : ReceiptBinding P} (h : assertReceiptBinding receipt summary = .ok bound) :
    receipt.get (js "phase") = some (.string (js "preflight")) ∧
      receipt.get (js "outcome") = some (.string (js "allow")) ∧
      receipt.get (js "method_hash") = some (.string summary.methodHash.val) ∧
      receipt.get (js "policy_hash") = some (.string summary.policyHash.val) ∧
      receipt.get (js "action_commitment") = some (.string summary.actionCommitment.val) ∧
      receipt.get (js "occurred_at") = some (.string bound.occurredAt.text) ∧
      bound.occurredAt.ms ≤ summary.issuedAt.ms := by
  unfold assertReceiptBinding at h
  split_ifs at h with hphase hcommitments
  · cases h
  · cases h
  · obtain ⟨occurredAt, hoccurred, h⟩ := bind_eq_ok.mp h
    split_ifs at h with horder
    · cases h
    · obtain ⟨runId, -, h⟩ := bind_eq_ok.mp h
      obtain ⟨agentRef, -, h⟩ := bind_eq_ok.mp h
      obtain ⟨subjectRef, -, h⟩ := bind_eq_ok.mp h
      cases h
      simp only [Bool.not_eq_false, Bool.and_eq_true, isText_eq_true] at hphase hcommitments
      exact ⟨hphase.1, hphase.2, hcommitments.1.1, hcommitments.1.2, hcommitments.2,
        witnessInstant_eq_ok hoccurred, Int.not_lt.mp horder⟩

theorem sourceReceipt_eq_ok {sourceEnvelope receipt : JsValue}
    (h : sourceReceipt sourceEnvelope = .ok receipt) :
    sourceEnvelope.get (js "receipt") = some receipt := by
  unfold sourceReceipt at h
  split at h
  · rename_i hes
    cases h
    exact hes
  · rename_i hxs
    cases h
    exact hxs
  · cases h

theorem answerOf_eq_ok {answer : SupplierAnswer} {value : HostValue}
    (h : answerOf answer = .ok value) : answer = .returned value := by
  cases answer with
  | throws => cases h
  | returned v =>
    cases h
    rfl

/-- For every summary, every evidence and every answer of `verifyAuthorizationCandidate`: where
    the supplier returns a record,
    the receipt in the captured envelope is an allow preflight with the commitments of the
    summary;
    the envelope and the acknowledgement verify, the acknowledgement is about this receipt, and
    the hashes and key ids of the record are those of this evidence;
    and the instants are in order, up to the `valid_until` of the acknowledgement. -/
theorem referenceAuthorizationForRequest_sound {verificationBinding : VerificationBinding}
    {rawSummary : HostValue} {evidenceForRequest verifyAuthorizationCandidate : SupplierAnswer}
    {record : ReferenceAuthorization R.date}
    (h : referenceAuthorizationForRequest N R K verificationBinding rawSummary evidenceForRequest
      verifyAuthorizationCandidate = .ok record) :
    ∃ (summary : RequestSummary R.date) (rawEvidence rawVerification : HostValue)
      (evidence : Evidence) (result receipt : JsValue) (occurredAt currentTime : UtcInstant R.date)
      (v : SourceVerified) (a : AckVerified) (k k' : Ed25519Key K),
      normalizeRequestSummary R.date rawSummary = .ok summary ∧
      evidenceForRequest = .returned rawEvidence ∧ captureEvidence rawEvidence = .ok evidence ∧
      verifyAuthorizationCandidate = .returned rawVerification ∧
      captureReferencePlainData rawVerification (js "POM-RX Witness verification result") =
        .ok result ∧
      evidence.sourceEnvelope.get (js "receipt") = some receipt ∧
      receipt.get (js "phase") = some (.string (js "preflight")) ∧
      receipt.get (js "outcome") = some (.string (js "allow")) ∧
      receipt.get (js "method_hash") = some (.string summary.methodHash.val) ∧
      receipt.get (js "policy_hash") = some (.string summary.policyHash.val) ∧
      receipt.get (js "action_commitment") = some (.string summary.actionCommitment.val) ∧
      SourceEvidence N R K evidence.sourceEnvelope v k ∧
      AckEvidence N R K evidence.witnessAcknowledgement a.payload a.acknowledgementHash k' ∧
      a.payload.receiptHash = v.receiptHash ∧
      record.preflightReceiptHash = v.receiptHash ∧ record.witnessAckHash = a.acknowledgementHash ∧
      record.sourceKeyId.val = pomRxKeyId K R.hash k ∧
      record.witnessKeyId.val = pomRxKeyId K R.hash k' ∧
      receipt.get (js "occurred_at") = some (.string occurredAt.text) ∧
      result.get (js "current_time") = some (.string currentTime.text) ∧
      occurredAt.ms ≤ summary.issuedAt.ms ∧ summary.issuedAt.ms ≤ currentTime.ms ∧
      currentTime.ms < summary.expiresAt.ms ∧
      summary.expiresAt.ms ≤ record.witnessValidUntil.ms ∧
      record.witnessValidUntil.ms ≤ a.payload.validUntil.ms := by
  unfold referenceAuthorizationForRequest at h
  obtain ⟨summary, hsummary, h⟩ := bind_eq_ok.mp h
  obtain ⟨rawEvidence, hrawEvidence, h⟩ := bind_eq_ok.mp h
  obtain ⟨evidence, hevidence, h⟩ := bind_eq_ok.mp h
  obtain ⟨rawVerification, hrawVerification, h⟩ := bind_eq_ok.mp h
  obtain ⟨verified, hverified, h⟩ := bind_eq_ok.mp h
  obtain ⟨_, hcontinuity, h⟩ := bind_eq_ok.mp h
  obtain ⟨receipt, hreceipt, h⟩ := bind_eq_ok.mp h
  obtain ⟨bound, hbound, h⟩ := bind_eq_ok.mp h
  split_ifs at h with hwindow hexpiry
  · cases h
  · cases h
  · cases h
    push Not at hwindow
    obtain ⟨hresult, hreads⟩ := captureVerificationResult_eq_ok hverified
    obtain ⟨binding, hbinding, hle⟩ := assertVerifiedEvidenceContinuity_eq_ok hcontinuity
    obtain ⟨v, a, k, k', hsource, hack, hexpected, hreceiptHash', hsourceId', hackHash', hwitnessId',
      hvalid⟩ := verifyReferenceWitnessEvidenceResultBinding_eq_ok hbinding
    obtain ⟨hphase, houtcome, hmethod, hpolicy, haction, hoccurred, horder⟩ :=
      assertReceiptBinding_eq_ok hbound
    rw [hreads.receiptHash, Option.some.injEq, JsValue.string.injEq] at hreceiptHash'
    rw [hreads.acknowledgementHash, Option.some.injEq, JsValue.string.injEq] at hackHash'
    rw [hreads.sourceKeyId, Option.some.injEq, JsValue.string.injEq] at hsourceId'
    rw [hreads.witnessKeyId, Option.some.injEq, JsValue.string.injEq] at hwitnessId'
    have hsame : a.payload.receiptHash = v.receiptHash := by
      have hexpect := checkExpected_eq_ok hexpected
        (List.mem_cons_self : (js "receipt_hash", some v.receiptHash.val) ∈ _)
      rw [hack.receiptHash, Option.some.injEq, JsValue.string.injEq] at hexpect
      exact Subtype.ext hexpect
    refine ⟨summary, rawEvidence, rawVerification, evidence, verified.result, receipt,
      bound.occurredAt, verified.currentTime, v, a, k, k', hsummary, answerOf_eq_ok hrawEvidence,
      hevidence, answerOf_eq_ok hrawVerification, hresult, sourceReceipt_eq_ok hreceipt, hphase,
      houtcome, hmethod, hpolicy, haction, hsource, hack, hsame, Subtype.ext hreceiptHash',
      Subtype.ext hackHash', hsourceId'.trans hsource.keyId, hwitnessId'.trans hack.keyId, hoccurred,
      hreads.currentTime, horder, hwindow.1, hwindow.2, Int.not_lt.mp hexpiry, ?_⟩
    rw [← hvalid]
    exact hle

end Supplier

/-! ## A sample -/

/-- The summary of a request that the receipt of 2026 commits to. -/
def sampleSummary : HostValue :=
  .ofData (.object [(js "request_id", .string (js "request-witnessed-0001")),
    (js "method_hash", hashOf 0x61), (js "policy_hash", hashOf 0x62),
    (js "action_commitment", hashOf 0x64), (js "context_commitment", hashOf 0x65),
    (js "issued_at", .string (js "2026-06-01T10:00:02.000Z")),
    (js "expires_at", .string (js "2026-06-01T10:00:32.000Z"))])

def sampleEvidenceAnswer : SupplierAnswer :=
  .returned (.ofData (.object [(js "sourceEnvelope", evidence2026.envelope),
    (js "witnessAcknowledgement", evidence2026.ack)]))

def sampleVerificationAnswer : SupplierAnswer :=
  .returned (.ofData (.object [(js "ok", .bool true),
    (js "source_key_id", .string (js "ed25519-a050837d85070582ccf7394b0988847c")),
    (js "witness_key_id", .string (js "ed25519-824c89aa8efb95ef93629b4519599129")),
    (js "receipt_hash", .string (js evidence2026.receiptHash)),
    (js "acknowledgement_hash",
      .string (js "35eebdb8e14080cd85c434589a8883b7ac6643a0981d9803e15946373af3a1d0")),
    (js "current_time", .string (js "2026-06-01T10:00:03.000Z")),
    (js "authorization_valid_until", .string (js "2026-06-01T10:05:00.000Z")),
    (js "trust_revision", .number (.ofInt 2)), (js "trust_state_hash", hashOf 0x66),
    (js "reference_only", .bool true), (js "production_trust_proved", .bool false)]))

def sampleBinding : VerificationBinding :=
  ⟨⟨js "reference-profile", by decide⟩, ⟨js "verifier/0.1", by decide⟩,
    ⟨List.replicate 64 0x31, by decide⟩, ⟨List.replicate 64 0x32, by decide⟩⟩

theorem referenceAuthorizationForRequest_sample :
    (referenceAuthorizationForRequest devanagari sampleRuntime evidence2026.keys sampleBinding
      sampleSummary sampleEvidenceAnswer sampleVerificationAnswer).isOk = true := by
  decide +kernel

theorem referenceAuthorizationForRequest_sound_sample :
    ∃ record, referenceAuthorizationForRequest devanagari sampleRuntime evidence2026.keys
        sampleBinding sampleSummary sampleEvidenceAnswer sampleVerificationAnswer = .ok record ∧
      ∃ (a : AckVerified) (k k' : Ed25519Key evidence2026.keys),
        record.sourceKeyId.val = pomRxKeyId evidence2026.keys strictSha256 k ∧
        record.witnessKeyId.val = pomRxKeyId evidence2026.keys strictSha256 k' ∧
        record.witnessAckHash = a.acknowledgementHash ∧
        record.witnessValidUntil.ms ≤ a.payload.validUntil.ms := by
  obtain ⟨record, h⟩ := isOk_iff.mp referenceAuthorizationForRequest_sample
  obtain ⟨_, _, _, _, _, _, _, _, _, a, k, k', -, -, -, -, -, -, -, -, -, -, -, -, -, -, -, hhash,
    hsource, hwitness, -, -, -, -, -, -, hle⟩ := referenceAuthorizationForRequest_sound h
  exact ⟨record, h, a, k, k', hsource, hwitness, hhash, hle⟩

end OpenRisk.Guard.WitnessAuthorization
