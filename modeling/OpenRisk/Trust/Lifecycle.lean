import OpenRisk.Core.Gate
import OpenRisk.Core.PlainData
import OpenRisk.Machine.Run
import OpenRisk.PomRx.Witness

/-!
# The Witness trust lifecycle

Model of `core/witness/reference-trust-lifecycle.mjs`: a set of enrolled identities that
four operations extend and change, and the verifier that reads it.

The `Map` of records is a list in the order of insertion. The key that an input refers to is
an argument of its own, since it is no plain data; decoding it runs no foreign code. A call is
one step: the only foreign code it runs is the trusted clock, before it reads the records. What
a call does with the clock remains when it fails.
-/

namespace OpenRisk.Trust

open Text Sdk PomRx
open OpenRisk.Core

/-! ## Records -/

def POM_RX_REFERENCE_WITNESS_TRUST_STATE_VERSION : JsString := js "pom-rx-witness-trust-state/0.1"

def POM_RX_REFERENCE_WITNESS_TRUST_HASH_DOMAIN : JsString :=
  js "swisstokint:pom-rx-witness-trust-state:v1:"

def POM_RX_REFERENCE_WITNESS_TRUST_MAX_IDENTITIES : ℕ := 32

def MAX_VALIDITY_MS : ℤ := 366 * 24 * 60 * 60 * 1000

def MIN_VALIDITY_MS : ℤ := 1000

inductive Role where
  | source
  | witness
  deriving DecidableEq

def Role.text : Role → JsString
  | .source => js "source"
  | .witness => js "witness"

/-- `ROLES`. -/
def ROLES : List Role := [.source, .witness]

inductive Status where
  | active
  | revoked
  | rotated
  | recovered
  deriving DecidableEq

def Status.text : Status → JsString
  | .active => js "active"
  | .revoked => js "revoked"
  | .rotated => js "rotated"
  | .recovered => js "recovered"

inductive TransitionReason where
  | compromise
  | retired
  | operator
  | policy
  | lost
  | operatorRecovery
  | keyRotation
  deriving DecidableEq

def TransitionReason.text : TransitionReason → JsString
  | .compromise => js "compromise"
  | .retired => js "retired"
  | .operator => js "operator"
  | .policy => js "policy"
  | .lost => js "lost"
  | .operatorRecovery => js "operator_recovery"
  | .keyRotation => js "key_rotation"

/-- `REVOCATION_REASONS`. -/
def REVOCATION_REASONS : List TransitionReason := [.compromise, .retired, .operator, .policy]

/-- `RECOVERY_REASONS`. -/
def RECOVERY_REASONS : List TransitionReason := [.compromise, .lost, .operatorRecovery]

/-- An identity record. -/
structure Record (P : DateParser) where
  keyId : KeyId
  role : Role
  publicKeySpki : JsString
  enrolledAt : UtcInstant P
  validUntil : UtcInstant P
  status : Status
  predecessorKeyId : Option KeyId
  transitionAt : Option (UtcInstant P)
  transitionReason : Option TransitionReason

/-- A text or `null`. -/
def nullableText : Option JsString → JsValue
  | some s => .string s
  | none => .null

section Records

variable {P : DateParser}

def Record.toJs (r : Record P) : JsValue :=
  .object [(js "key_id", .string r.keyId.val), (js "role", .string r.role.text),
    (js "public_key_spki", .string r.publicKeySpki), (js "enrolled_at", .string r.enrolledAt.text),
    (js "valid_until", .string r.validUntil.text), (js "status", .string r.status.text),
    (js "predecessor_key_id", nullableText (r.predecessorKeyId.map (·.val))),
    (js "transition_at", nullableText (r.transitionAt.map (·.text))),
    (js "transition_reason", nullableText (r.transitionReason.map (·.text)))]

/-- `{ ...record, status, transition_at, transition_reason }`. -/
def Record.transition (r : Record P) (status : Status) (now : UtcInstant P)
    (reason : TransitionReason) : Record P :=
  { r with status, transitionAt := some now, transitionReason := some reason }

/-- `recordActiveAt(record, instant)`. -/
def recordActiveAt (r : Record P) (instantMs : ℤ) : Bool :=
  r.enrolledAt.ms ≤ instantMs && instantMs < r.validUntil.ms &&
    match r.transitionAt with
    | some t => instantMs < t.ms
    | none => true

/-- `records.get(keyId)`. -/
def getRecord (records : List (Record P)) (keyId : KeyId) : Option (Record P) :=
  records.find? fun r => r.keyId = keyId

/-- `records.has(keyId)`. -/
def hasRecord (records : List (Record P)) (keyId : KeyId) : Bool :=
  records.any fun r => r.keyId = keyId

/-- `records.set(record.key_id, record)`: a known key keeps its place. -/
def setRecord (records : List (Record P)) (record : Record P) : List (Record P) :=
  if hasRecord records record.keyId then
    records.map fun r => if r.keyId = record.keyId then record else r
  else records ++ [record]

end Records

/-! ## Errors and checks -/

/-- What a call throws: a `PomRxWitnessTrustError`, an error of `canonicalizePayload`, or an
    error of foreign code. -/
inductive TrustFailure where
  | trust (code message : JsString)
  | payload (e : PayloadError)
  | foreign

def trustFail {α : Type} (code : String) (message : JsString) : Except TrustFailure α :=
  .error (.trust (js code) message)

/-- `snapshotExactReferences(value, expected, label)`. -/
def snapshotExactReferences (value : HostValue) (expected : List JsString) (label : JsString) :
    Except TrustFailure (List (JsString × HostValue)) :=
  let invalid (message : JsString) : TrustFailure :=
    .trust (js "POMRX_WITNESS_TRUST_E_INVALID") message
  match value with
  | .proxy _ => .error (invalid (label ++ js " cannot be a Proxy"))
  | value =>
    snapshotRecord
      { notObject := invalid (label ++ js " must be an object")
        array := invalid (label ++ js " must be an object")
        prototype := invalid (label ++ js " must be a plain object")
        symbols := invalid (label ++ js " cannot contain symbol keys")
        fields := invalid (label ++ js " has missing or unknown fields")
        property := fun key =>
          invalid (label ++ js "." ++ key ++ js " must be an enumerable data property") }
      (fun names => sortNames names = sortNames expected) expected value

/-- `captured[key]`. -/
def captured (fields : List (JsString × HostValue)) (key : String) : HostValue :=
  (fields.lookup (js key)).getD .undefined

/-- `canonicalUtcInstant(value, field)`. -/
def canonicalUtcInstant (P : DateParser) (value : HostValue) (field : JsString) :
    Except TrustFailure (UtcInstant P) :=
  match value with
  | .string s =>
    match UtcInstant.ofText P s with
    | some i => .ok i
    | none => trustFail "POMRX_WITNESS_TRUST_E_TIME_INVALID"
        (field ++ js " must be a canonical UTC instant")
  | _ => trustFail "POMRX_WITNESS_TRUST_E_TIME_INVALID"
      (field ++ js " must be a canonical UTC instant")

/-- `validateKeyId(value, field)`. -/
def validateKeyId (value : HostValue) (field : JsString) : Except TrustFailure KeyId :=
  match value with
  | .string s =>
    if h : KEY_ID_PATTERN s = true then .ok ⟨s, h⟩
    else trustFail "POMRX_WITNESS_TRUST_E_KEY_INVALID" (field ++ js " is invalid")
  | _ => trustFail "POMRX_WITNESS_TRUST_E_KEY_INVALID" (field ++ js " is invalid")

/-- The alternative that a value is the text of. -/
def readAlternative {α : Type} (text : α → JsString) (alternatives : List α) (value : HostValue) :
    Option α :=
  match value with
  | .string s => alternatives.find? fun a => text a = s
  | _ => none

/-- `validateRole(role)`. -/
def validateRole (value : HostValue) : Except TrustFailure Role :=
  match readAlternative Role.text ROLES value with
  | some role => .ok role
  | none => trustFail "POMRX_WITNESS_TRUST_E_INVALID" (js "role must be source or witness")

/-- `REASONS.has(captured.reason)`. -/
def validateReason (reasons : List TransitionReason) (value : HostValue) (message : JsString) :
    Except TrustFailure TransitionReason :=
  match readAlternative TransitionReason.text reasons value with
  | some reason => .ok reason
  | none => trustFail "POMRX_WITNESS_TRUST_E_INVALID" message

/-- `validateValidityWindow(now, validUntil)`. -/
def validateValidityWindow {P : DateParser} (now : UtcInstant P) (validUntil : HostValue) :
    Except TrustFailure (UtcInstant P) := do
  let expiry ← canonicalUtcInstant P validUntil (js "valid_until")
  if expiry.ms - now.ms < MIN_VALIDITY_MS ∨ MAX_VALIDITY_MS < expiry.ms - now.ms then
    trustFail "POMRX_WITNESS_TRUST_E_TIME_INVALID"
      (js "identity validity must be between 1 second and 366 days")
  else .ok expiry

section Keys

variable {Key PublicKey : Type} (K : KeyProvider Key PublicKey)

/-- `toEd25519PublicKey(key)` of this module. -/
def identityKey (key : Key) : Except TrustFailure (Ed25519Key K) :=
  match K.createPublicKey key with
  | .error _ => trustFail "POMRX_WITNESS_TRUST_E_KEY_INVALID" (js "identity key cannot be decoded")
  | .ok keyObject =>
    if h : K.isEd25519 keyObject = true then .ok ⟨keyObject, h⟩
    else trustFail "POMRX_WITNESS_TRUST_E_KEY_INVALID" (js "identity key must be Ed25519")

/-- `pomRxKeyId(key)`, with its format. -/
def identityKeyId (S : Hash) (k : Ed25519Key K) : KeyId :=
  ⟨pomRxKeyId K S k, KEY_ID_PATTERN_pomRxKeyId S k⟩

end Keys

/-! ## State and operations -/

/-- The state of a lifecycle. -/
structure TrustState (P : DateParser) where
  records : List (Record P)
  revision : ℕ
  lastTrustedTimeMs : Option ℤ

/-- `buildSnapshot(records, revision)`; the identities are sorted by `key_id`. -/
structure TrustSnapshot (P : DateParser) where
  revision : ℕ
  identities : List (Record P)
  trustStateHash : HashText

/-- `prepared`, with the records that the call changes. -/
structure Prepared (P : DateParser) where
  changed : List (Record P)
  records : List (Record P)
  trust : TrustSnapshot P

section Operations

variable (N : Normalization) (S : Hash) {P : DateParser}

def TrustState.initial : TrustState P := ⟨[], 0, none⟩

/-- `identities.sort(lexicalKeyIdCompare)`. -/
def sortIdentities (records : List (Record P)) : List (Record P) :=
  records.insertionSort fun a b => compare a.keyId.val b.keyId.val ≠ .gt

/-- The payload of `buildSnapshot`. -/
def trustPayload (records : List (Record P)) (revision : ℕ) : JsValue :=
  .object [(js "schema_version", .string POM_RX_REFERENCE_WITNESS_TRUST_STATE_VERSION),
    (js "revision", .number (.ofInt revision)),
    (js "identities", .array ((sortIdentities records).map Record.toJs))]

/-- `buildSnapshot(sourceRecords, sourceRevision)`. -/
def buildSnapshot (records : List (Record P)) (revision : ℕ) :
    Except TrustFailure (TrustSnapshot P) := do
  let canonical ← (canonicalizePayload N (trustPayload records revision)).mapError .payload
  .ok ⟨revision, sortIdentities records,
    sha256Hex S (POM_RX_REFERENCE_WITNESS_TRUST_HASH_DOMAIN ++ canonical)⟩

/-- `snapshot()`. -/
def TrustState.snapshot (s : TrustState P) : Except TrustFailure (TrustSnapshot P) :=
  buildSnapshot N S s.records s.revision

/-- `stageMutation(applyMutation)`, where the mutation sets these records in order. -/
def stageMutation (s : TrustState P) (changed : List (Record P)) :
    Except TrustFailure (Prepared P) := do
  let prospectiveRecords := changed.foldl setRecord s.records
  if POM_RX_REFERENCE_WITNESS_TRUST_MAX_IDENTITIES < prospectiveRecords.length then
    trustFail "POMRX_WITNESS_TRUST_E_CAPACITY"
      (js "reference Witness trust state is limited to 32 identities")
  else
    let trust ← buildSnapshot N S prospectiveRecords (s.revision + 1)
    .ok ⟨changed, prospectiveRecords, trust⟩

/-- `commitMutation(prepared)`. -/
def commitMutation (s : TrustState P) (prepared : Prepared P) : TrustState P :=
  { s with records := prepared.records, revision := prepared.trust.revision }

/-- `sampleTrustedClock()`. -/
def sampleTrustedClock (s : TrustState P) (clock : SyncAnswer) :
    Except TrustFailure (UtcInstant P) := do
  let raw ← match clock with
    | .throws => trustFail "POMRX_WITNESS_TRUST_E_TIME_INVALID" (js "trusted clock failed")
    | .thenable =>
      trustFail "POMRX_WITNESS_TRUST_E_TIME_INVALID" (js "trusted clock must be synchronous")
    | .thenThrows => .error .foreign
    | .value v => .ok v
  let now ← canonicalUtcInstant P raw (js "trusted clock")
  match s.lastTrustedTimeMs with
  | some last =>
    if now.ms < last then
      trustFail "POMRX_WITNESS_TRUST_E_TIME_ROLLBACK" (js "trusted clock moved backwards")
    else .ok now
  | none => .ok now

/-- The state after a sample of the clock. -/
def TrustState.sampled (s : TrustState P) (now : UtcInstant P) : TrustState P :=
  { s with lastTrustedTimeMs := some now.ms }

/-- What the four operations share: they read their input, sample the clock, work out the
    records to set, and publish them. -/
def mutate {α : Type} (s : TrustState P) (clock : SyncAnswer) (input : Except TrustFailure α)
    (changes : α → UtcInstant P → Except TrustFailure (List (Record P))) :
    TrustState P × Except TrustFailure (Prepared P) :=
  match input with
  | .error e => (s, .error e)
  | .ok a =>
    match sampleTrustedClock s clock with
    | .error e => (s, .error e)
    | .ok now =>
      match changes a now >>= stageMutation N S s with
      | .error e => (s.sampled now, .error e)
      | .ok prepared => (commitMutation (s.sampled now) prepared, .ok prepared)

variable {Key PublicKey : Type} (K : KeyProvider Key PublicKey)

/-- A record of a new identity. -/
def newRecord (k : Ed25519Key K) (role : Role) (now expiry : UtcInstant P)
    (predecessorKeyId : Option KeyId) : Record P where
  keyId := identityKeyId K S k
  role := role
  publicKeySpki := exportPublicKey K k
  enrolledAt := now
  validUntil := expiry
  status := .active
  predecessorKeyId := predecessorKeyId
  transitionAt := none
  transitionReason := none

/-- `enrollIdentity` after the clock. -/
def enrollChanges (s : TrustState P) (publicKey : Key) (fields : List (JsString × HostValue))
    (now : UtcInstant P) : Except TrustFailure (List (Record P)) := do
  let publicKey ← identityKey K publicKey
  if hasRecord s.records (identityKeyId K S publicKey) then
    trustFail "POMRX_WITNESS_TRUST_E_DUPLICATE" (js "identity is already enrolled")
  else
    let expiry ← validateValidityWindow now (captured fields "validUntil")
    let role ← validateRole (captured fields "role")
    .ok [newRecord S K publicKey role now expiry none]

/-- `enrollIdentity(input)`. -/
def enrollIdentity (s : TrustState P) (input : HostValue) (publicKey : Key) (clock : SyncAnswer) :
    TrustState P × Except TrustFailure (Prepared P) :=
  mutate N S s clock
    (snapshotExactReferences input (["publicKey", "role", "validUntil"].map js)
      (js "identity enrollment"))
    (enrollChanges S K s publicKey)

/-- `revokeIdentity` after the clock. -/
def revokeChanges (s : TrustState P) (fields : List (JsString × HostValue)) (now : UtcInstant P) :
    Except TrustFailure (List (Record P)) := do
  let keyId ← validateKeyId (captured fields "keyId") (js "key_id")
  let reason ← validateReason REVOCATION_REASONS (captured fields "reason")
    (js "revocation reason is invalid")
  match getRecord s.records keyId with
  | none => trustFail "POMRX_WITNESS_TRUST_E_NOT_ENROLLED" (js "identity is not enrolled")
  | some existing =>
    if existing.status ≠ .active then
      trustFail "POMRX_WITNESS_TRUST_E_TRANSITION_INVALID" (js "identity is not active")
    else .ok [existing.transition .revoked now reason]

/-- `revokeIdentity(input)`. -/
def revokeIdentity (s : TrustState P) (input : HostValue) (clock : SyncAnswer) :
    TrustState P × Except TrustFailure (Prepared P) :=
  mutate N S s clock
    (snapshotExactReferences input (["keyId", "reason"].map js) (js "identity revocation"))
    (revokeChanges s)

/-- The arguments of `replaceIdentity` that are data. -/
structure Replacement where
  predecessor : HostValue
  validUntil : HostValue
  transitionStatus : Status
  reason : TransitionReason

/-- `replaceIdentity` after the clock. -/
def replaceChanges (s : TrustState P) (successorPublicKey : Key) (r : Replacement)
    (now : UtcInstant P) : Except TrustFailure (List (Record P)) := do
  let predecessorKeyId ← validateKeyId r.predecessor (js "predecessor_key_id")
  match getRecord s.records predecessorKeyId with
  | none => trustFail "POMRX_WITNESS_TRUST_E_NOT_ENROLLED" (js "predecessor is not enrolled")
  | some existing =>
    if existing.status ≠ .active ∨ recordActiveAt existing now.ms = false then
      trustFail "POMRX_WITNESS_TRUST_E_TRANSITION_INVALID" (js "predecessor is not currently active")
    else if s.records.any fun r => r.predecessorKeyId = some predecessorKeyId then
      trustFail "POMRX_WITNESS_TRUST_E_TRANSITION_INVALID" (js "identity already has a successor")
    else
      let successor ← identityKey K successorPublicKey
      let successorKeyId := identityKeyId K S successor
      if successorKeyId = predecessorKeyId ∨ hasRecord s.records successorKeyId then
        trustFail "POMRX_WITNESS_TRUST_E_DUPLICATE" (js "successor identity is not new")
      else
        let expiry ← validateValidityWindow now r.validUntil
        .ok [existing.transition r.transitionStatus now r.reason,
          newRecord S K successor existing.role now expiry (some predecessorKeyId)]

/-- `rotateIdentity(input)`. -/
def rotateIdentity (s : TrustState P) (input : HostValue) (successorPublicKey : Key)
    (clock : SyncAnswer) : TrustState P × Except TrustFailure (Prepared P) :=
  mutate N S s clock
    (do
      let fields ← snapshotExactReferences input
        (["predecessorKeyId", "successorPublicKey", "validUntil"].map js) (js "identity rotation")
      .ok (Replacement.mk (captured fields "predecessorKeyId") (captured fields "validUntil") .rotated
        .keyRotation))
    (replaceChanges S K s successorPublicKey)

/-- `recoverIdentity(input)`. -/
def recoverIdentity (s : TrustState P) (input : HostValue) (successorPublicKey : Key)
    (clock : SyncAnswer) : TrustState P × Except TrustFailure (Prepared P) :=
  mutate N S s clock
    (do
      let fields ← snapshotExactReferences input
        (["compromisedKeyId", "successorPublicKey", "validUntil", "reason"].map js)
        (js "identity recovery")
      let reason ← validateReason RECOVERY_REASONS (captured fields "reason")
        (js "recovery reason is invalid")
      .ok (Replacement.mk (captured fields "compromisedKeyId") (captured fields "validUntil")
        .recovered reason))
    (replaceChanges S K s successorPublicKey)

end Operations

/-! ## Verification -/

/-- `verificationFailure(code, message)`; the message of foreign code is not modelled. -/
structure VerificationFailure where
  code : JsString
  error : Option JsString

/-- What `verifyAuthorizationCandidate` answers when it is `ok`. -/
structure Authorization (P : DateParser) where
  sourceKeyId : JsString
  witnessKeyId : JsString
  receiptHash : HashText
  acknowledgementHash : HashText
  currentTime : UtcInstant P
  authorizationValidUntilMs : ℤ
  trustRevision : ℕ
  trustStateHash : HashText

def verificationFailure {α : Type} (code : String) (message : JsString) :
    Except VerificationFailure α :=
  .error ⟨js code, some message⟩

/-- The `catch` of `verifyAuthorizationCandidate`. -/
def TrustFailure.verification : TrustFailure → VerificationFailure
  | .trust code message => ⟨code, some message⟩
  | .payload e => ⟨js "POMRX_WITNESS_TRUST_E_VERIFY_FAILED", some e.message⟩
  | .foreign => ⟨js "POMRX_WITNESS_TRUST_E_VERIFY_FAILED", none⟩

/-- The record of a key id that need not have the format. -/
def getRecordText {P : DateParser} (records : List (Record P)) (keyId : JsString) : Option (Record P) :=
  records.find? fun r => r.keyId.val = keyId

/-- `value?.text`: the text that a value is, if it is a string. -/
def stringOf : Option JsValue → Option JsString
  | some (.string s) => some s
  | _ => none

/-- What the verifier expects of the acknowledgement. -/
def ackExpectation {P : DateParser} (source : SourceVerified) (acknowledgement : JsValue)
    (now : UtcInstant P) : AckExpectation where
  receiptHash := some source.receiptHash.val
  receiptId := some source.receipt.receiptId.val
  runId := some source.receipt.runId.val
  outcome := some source.receipt.outcome.text
  sourceKeyId := some source.sourceKeyId
  mode := some (js "witnessed")
  witnessKeyId := stringOf (acknowledgement.get (js "witness_key_id"))
  unexpiredAt := some now.text

section Verify

variable (N : Normalization) (R : Runtime) {Key PublicKey : Type} (K : KeyProvider Key PublicKey)

/-- The part of `verifyAuthorizationCandidate` that reads the evidence: the envelope, the
    acknowledgement and what they verify as. -/
def readCandidate (envelope acknowledgement : HostValue) (now : UtcInstant R.date) :
    Except VerificationFailure (JsValue × SourceVerified × JsValue × AckVerified) := do
  let envelopeSnapshot ← (captureReferencePlainData envelope (js "source envelope")).mapError fun _ =>
    ⟨js "POMRX_WITNESS_TRUST_E_SOURCE_INVALID",
      some (js "source envelope is not inert bounded plain data")⟩
  let source ← (verifyPomRxSourceEnvelope N R K envelopeSnapshot).mapError fun e =>
    ⟨js "POMRX_WITNESS_TRUST_E_SOURCE_INVALID", some e⟩
  let acknowledgementSnapshot ← (captureReferencePlainData acknowledgement
    (js "witness acknowledgement")).mapError fun _ =>
      ⟨js "POMRX_WITNESS_TRUST_E_ACK_INVALID",
        some (js "Witness acknowledgement is not inert bounded plain data")⟩
  match acknowledgementSnapshot with
  -- reading `witness_key_id` of `null` throws
  | .null =>
    verificationFailure "POMRX_WITNESS_TRUST_E_VERIFY_FAILED"
      (js "Cannot read properties of null (reading 'witness_key_id')")
  | acknowledgementSnapshot => do
    let ack ← (verifyPomRxWitnessAck N R K acknowledgementSnapshot
      (ackExpectation source acknowledgementSnapshot now)).mapError fun e =>
        ⟨js "POMRX_WITNESS_TRUST_E_ACK_INVALID", some e⟩
    .ok (envelopeSnapshot, source, acknowledgementSnapshot, ack)

/-- `verifyAuthorizationCandidate(envelope, acknowledgement)` after the clock. -/
def authorizeCandidate (s : TrustState R.date) (envelope acknowledgement : HostValue)
    (now : UtcInstant R.date) : Except VerificationFailure (Authorization R.date) := do
  let (envelopeSnapshot, source, acknowledgementSnapshot, ack) ←
    readCandidate N R K envelope acknowledgement now
  if source.receipt.outcome ≠ .allow then
    verificationFailure "POMRX_WITNESS_TRUST_E_NOT_AUTHORIZABLE" (js "preflight outcome is not allow")
  else
    match getRecordText s.records source.sourceKeyId,
        getRecordText s.records ack.payload.witnessKeyId with
    | some sourceRecord, some witnessRecord =>
      if sourceRecord.role ≠ .source ∨ witnessRecord.role ≠ .witness then
        verificationFailure "POMRX_WITNESS_TRUST_E_ROLE_MISMATCH"
          (js "source or witness role does not match trust enrollment")
      else if isText (envelopeSnapshot.get (js "source_public_key")) sourceRecord.publicKeySpki = false ∨
          isText (acknowledgementSnapshot.get (js "witness_public_key"))
            witnessRecord.publicKeySpki = false then
        verificationFailure "POMRX_WITNESS_TRUST_E_KEY_MISMATCH"
          (js "signed public key does not match enrolled key bytes")
      else
        let occurredAt ← (canonicalUtcInstant R.date (.string source.receipt.occurredAt.text)
          (js "occurred_at")).mapError TrustFailure.verification
        let receivedAt ← (canonicalUtcInstant R.date (.string ack.payload.receivedAt.text)
          (js "received_at")).mapError TrustFailure.verification
        if receivedAt.ms < occurredAt.ms then
          verificationFailure "POMRX_WITNESS_TRUST_E_CHRONOLOGY"
            (js "Witness acknowledgement predates the source occurrence time")
        else if recordActiveAt sourceRecord occurredAt.ms = false ∨
            recordActiveAt witnessRecord receivedAt.ms = false ∨ sourceRecord.status ≠ .active ∨
            witnessRecord.status ≠ .active ∨ recordActiveAt sourceRecord now.ms = false ∨
            recordActiveAt witnessRecord now.ms = false then
          verificationFailure "POMRX_WITNESS_TRUST_E_INACTIVE"
            (js "source or witness identity is inactive at the relevant trusted time")
        else
          let acknowledgementValidUntil ← (canonicalUtcInstant R.date
            (.string ack.payload.validUntil.text)
            (js "acknowledgement valid_until")).mapError TrustFailure.verification
          let authorizationValidUntilMs := min (min acknowledgementValidUntil.ms
            sourceRecord.validUntil.ms) witnessRecord.validUntil.ms
          if authorizationValidUntilMs ≤ now.ms then
            verificationFailure "POMRX_WITNESS_TRUST_E_INACTIVE"
              (js "trust-bounded authorization window is exhausted")
          else
            let trust ← (s.snapshot N R.hash).mapError TrustFailure.verification
            .ok { sourceKeyId := source.sourceKeyId
                  witnessKeyId := ack.payload.witnessKeyId
                  receiptHash := source.receiptHash
                  acknowledgementHash := ack.acknowledgementHash
                  currentTime := now
                  authorizationValidUntilMs := authorizationValidUntilMs
                  trustRevision := trust.revision
                  trustStateHash := trust.trustStateHash }
    | _, _ =>
      verificationFailure "POMRX_WITNESS_TRUST_E_NOT_ENROLLED"
        (js "source or witness identity is not enrolled")

/-- `verifyAuthorizationCandidate(envelope, acknowledgement)`. -/
def verifyAuthorizationCandidate (s : TrustState R.date) (envelope acknowledgement : HostValue)
    (clock : SyncAnswer) :
    TrustState R.date × Except VerificationFailure (Authorization R.date) :=
  match sampleTrustedClock s clock with
  | .error e => (s, .error e.verification)
  | .ok now => (s.sampled now, authorizeCandidate N R K s envelope acknowledgement now)

/-! ## Runs -/

/-- A call, with the answer of the trusted clock to it. -/
inductive TrustAction (Key : Type) where
  | enroll (input : HostValue) (publicKey : Key) (clock : SyncAnswer)
  | revoke (input : HostValue) (clock : SyncAnswer)
  | rotate (input : HostValue) (successorPublicKey : Key) (clock : SyncAnswer)
  | recover (input : HostValue) (successorPublicKey : Key) (clock : SyncAnswer)
  | verify (envelope acknowledgement : HostValue) (clock : SyncAnswer)

/-- The state after a call, and whether it was a mutation that succeeded. -/
def trustCall (s : TrustState R.date) (action : TrustAction Key) : TrustState R.date × Bool :=
  match action with
  | .enroll input publicKey clock =>
    let (t, result) := enrollIdentity N R.hash K s input publicKey clock
    (t, result.isOk)
  | .revoke input clock =>
    let (t, result) := revokeIdentity N R.hash s input clock
    (t, result.isOk)
  | .rotate input successorPublicKey clock =>
    let (t, result) := rotateIdentity N R.hash K s input successorPublicKey clock
    (t, result.isOk)
  | .recover input successorPublicKey clock =>
    let (t, result) := recoverIdentity N R.hash K s input successorPublicKey clock
    (t, result.isOk)
  | .verify envelope acknowledgement clock =>
    ((verifyAuthorizationCandidate N R K s envelope acknowledgement clock).1, false)

/-- Every call is possible in every state. -/
def trustStep (s : TrustState R.date) (action : TrustAction Key) : Option (TrustState R.date) :=
  some (trustCall N R K s action).1

end Verify

end OpenRisk.Trust
