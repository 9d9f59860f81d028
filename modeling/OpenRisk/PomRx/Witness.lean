import OpenRisk.Core.Authorization
import OpenRisk.Js.Calendar
import OpenRisk.PomRx.Envelope

/-!
# Witness acknowledgements

Model of `verifyPomRxWitnessAck` of `sdk/typescript/pom-rx-witness.mjs` (lines 211–303). The
expectations are the texts that callers pass; the current time, where it is required, is
passed too.

Results:
* `verifyPomRxSourceEnvelope_eq_ok`: what a verified envelope is.
* `verifyPomRxWitnessAck_eq_ok`: what a verified acknowledgement is.
-/

namespace OpenRisk.PomRx

open Text Sdk OpenRisk.Core

/-! ## Model of the verifier -/

def POM_RX_WITNESS_ACK_VERSION : JsString := js "pom-rx-witness-ack/0.1"

def ACK_KEYS : List JsString :=
  ["schema_version", "receipt_hash", "receipt_id", "run_id", "outcome", "source_key_id",
    "received_at", "valid_until", "mode", "witness_key_id", "witness_public_key",
    "witness_signature"].map js

inductive AckMode where
  | witnessed
  | dryRun
  deriving DecidableEq

def AckMode.text : AckMode → JsString
  | .witnessed => js "witnessed"
  | .dryRun => js "dry_run"

def ACK_MODES : List AckMode := [.witnessed, .dryRun]

theorem AckMode.text_injective : ∀ a ∈ ACK_MODES, ∀ b ∈ ACK_MODES, a.text = b.text → a = b := by
  decide +kernel

/-- The signed payload of an acknowledgement. `KEY_ID_PATTERN.test` converts its argument, so
    `source_key_id` need not be a string. -/
structure AckPayload where
  receiptHash : HashText
  receiptId : JsString
  runId : JsString
  outcome : Outcome
  sourceKeyId : JsValue
  receivedAt : IsoDate
  validUntil : IsoDate
  mode : AckMode
  witnessKeyId : JsString

def AckPayload.toJs (p : AckPayload) : JsValue :=
  .object [(js "schema_version", .string POM_RX_WITNESS_ACK_VERSION),
    (js "receipt_hash", .string p.receiptHash.val), (js "receipt_id", .string p.receiptId),
    (js "run_id", .string p.runId), (js "outcome", .string p.outcome.text),
    (js "source_key_id", p.sourceKeyId), (js "received_at", .string p.receivedAt.text),
    (js "valid_until", .string p.validUntil.text), (js "mode", .string p.mode.text),
    (js "witness_key_id", .string p.witnessKeyId)]

/-- `expected`: texts that fields must have, and the time at which the acknowledgement must be
    valid. -/
structure AckExpectation where
  receiptHash : Option JsString
  receiptId : Option JsString
  runId : Option JsString
  outcome : Option JsString
  sourceKeyId : Option JsString
  mode : Option JsString
  witnessKeyId : Option JsString
  unexpiredAt : Option JsString

/-- `expectedFields`, each with what is expected. -/
def AckExpectation.fields (e : AckExpectation) : List (JsString × Option JsString) :=
  [(js "receipt_hash", e.receiptHash), (js "receipt_id", e.receiptId), (js "run_id", e.runId),
    (js "outcome", e.outcome), (js "source_key_id", e.sourceKeyId), (js "mode", e.mode),
    (js "witness_key_id", e.witnessKeyId)]

structure AckVerified where
  payload : AckPayload
  acknowledgementHash : HashText

/-- The check of `receipt_id` and `run_id`. -/
def checkLongText (value : Option JsValue) (field : JsString) : Except JsString JsString :=
  match value with
  | some (.string s) => if 16 ≤ s.length then .ok s else .error (field ++ js " is invalid")
  | _ => .error (field ++ js " is invalid")

/-- The loop over `expectedFields`. -/
def checkExpected (ack : JsValue) : List (JsString × Option JsString) → Except JsString Unit
  | [] => .ok ()
  | (_, none) :: rest => checkExpected ack rest
  | (key, some text) :: rest => do
    check (isText (ack.get key) text) (js "Witness " ++ key ++ js " does not match expectation")
    checkExpected ack rest

section Verify

variable (N : Normalization) (R : Runtime) {Key PublicKey : Type} (K : KeyProvider Key PublicKey)

/-- `witnessSignatureMessage(payload)`. -/
def witnessSignatureMessage (payload : AckPayload) : Except JsString JsString := do
  let canonical ← (canonicalizePayload N payload.toJs).mapError PayloadError.message
  .ok (js "swisstokint:pom-rx-witness-ack:v1:" ++ canonical)

/-- The tests of `expected.requireUnexpired`: the normalized texts are compared as strings. -/
def checkUnexpired (receivedAt validUntil : IsoDate) :
    Option JsString → Except JsString Unit
  | none => .ok ()
  | some time => do
    let currentTime ← (normalizeDateTime R.date (some (.string time)) (js "currentTime")).mapError
      TypeError.message
    check (compare currentTime.text receivedAt.text ≠ .lt)
      (js "Witness acknowledgement is not yet valid")
    check (compare currentTime.text validUntil.text ≠ .gt) (js "Witness acknowledgement has expired")

/-- The checks of the fields, up to the payload that must be signed. -/
def readAck (ack : JsValue) : Except JsString (AckPayload × Ed25519Key K) := do
  (assertExactKeys ack ACK_KEYS (js "POM-RX witness acknowledgement")).mapError TypeError.message
  check (isText (ack.get (js "schema_version")) POM_RX_WITNESS_ACK_VERSION)
    (js "Unsupported witness acknowledgement version")
  let receiptHash ← (assertHash (ack.get (js "receipt_hash")) (js "receipt_hash")).mapError
    TypeError.message
  let receiptId ← checkLongText (ack.get (js "receipt_id")) (js "receipt_id")
  let runId ← checkLongText (ack.get (js "run_id")) (js "run_id")
  let outcome ← (assertOneOf Outcome.text (PHASE_OUTCOMES .preflight) (ack.get (js "outcome"))
    (js "Witness outcome must be allow or deny")).mapError TypeError.message
  check (testPattern KEY_ID_PATTERN (ack.get (js "source_key_id"))) (js "source_key_id is invalid")
  let mode ← (assertOneOf AckMode.text ACK_MODES (ack.get (js "mode"))
    (js "Unsupported witness acknowledgement mode")).mapError TypeError.message
  check (testPattern KEY_ID_PATTERN (ack.get (js "witness_key_id"))) (js "witness_key_id is invalid")
  check (match ack.get (js "source_key_id"), ack.get (js "witness_key_id") with
      | some (.string s), some (.string t) => s ≠ t
      | _, _ => true)
    (js "Source and witness signing keys must be distinct")
  let receivedAt ← (normalizeDateTime R.date (ack.get (js "received_at")) (js "received_at")).mapError
    TypeError.message
  let validUntil ← (normalizeDateTime R.date (ack.get (js "valid_until")) (js "valid_until")).mapError
    TypeError.message
  check (1000 ≤ validUntil.ms - receivedAt.ms && validUntil.ms - receivedAt.ms ≤ 300000)
    (js "Witness acknowledgement validity must be between 1 second and 5 minutes")
  let publicKey ← decodePublicKey K (ack.get (js "witness_public_key"))
  check (isText (ack.get (js "witness_key_id")) (pomRxKeyId K R.hash publicKey))
    (js "Witness public key does not match witness_key_id")
  .ok ({ receiptHash, receiptId, runId, outcome := outcome.val
         sourceKeyId := (ack.get (js "source_key_id")).getD .null
         receivedAt, validUntil, mode := mode.val
         witnessKeyId := pomRxKeyId K R.hash publicKey }, publicKey)

/-- `verifyPomRxWitnessAck(ack, expected)`: `.error` is `{ ok: false, error }`. -/
def verifyPomRxWitnessAck (ack : JsValue) (expected : AckExpectation) :
    Except JsString AckVerified := do
  let (payload, publicKey) ← readAck R K ack
  let message ← witnessSignatureMessage N payload
  let signature ← decodeSignature (ack.get (js "witness_signature")) (js "Witness signature")
  check (K.verify (utf8Encode message) publicKey.val signature) (js "Witness signature is invalid")
  checkExpected ack expected.fields
  checkUnexpired R payload.receivedAt payload.validUntil expected.unexpiredAt
  .ok ⟨payload, sha256Hex R.hash message⟩

variable {N R K}

theorem KEY_ID_PATTERN_pomRxKeyId (S : Hash) (k : Ed25519Key K) :
    KEY_ID_PATTERN (pomRxKeyId K S k) = true := by
  have hdigits := HASH_PATTERN_digest S (K.exportSpki k.val)
  simp only [HASH_PATTERN, Bool.and_eq_true, decide_eq_true_eq, List.all_eq_true] at hdigits
  have htake : (pomRxKeyId K S k).take (js "ed25519-").length = js "ed25519-" := List.take_left
  have hdrop : (pomRxKeyId K S k).drop (js "ed25519-").length =
      ((S.digest (K.exportSpki k.val)).flatMap hexByte).take 32 := List.drop_left
  simp only [KEY_ID_PATTERN, tagged, htake, hdrop, Bool.and_eq_true, decide_eq_true_eq,
    List.all_eq_true, List.length_take, hdigits.1]
  refine ⟨⟨trivial, by decide⟩, ?_⟩
  intro u hu
  exact hdigits.2 u (List.mem_of_mem_take hu)

/-! ## What is verified -/

/-- The instant of the text that a date has is the date. -/
theorem ms_of_text_eq {P : DateParser} {i : UtcInstant P} {d : IsoDate} (h : i.text = d.text) :
    i.ms = d.ms := by
  have hi : i.ms.natAbs ≤ maxTimeValue := P.bounded _ _ i.parse_text
  rw [← i.toISOString_ms, IsoDate.text] at h
  rw [← Date.isoTime_toISOString hi, h, Date.isoTime_toISOString d.bounded]

/-- The evidence in an envelope that is `ok`: the committed receipt, and a signature of its hash
    under the key of the envelope. -/
structure SourceEvidence (N : Normalization) (R : Runtime) (K : KeyProvider Key PublicKey)
    (envelope : JsValue) (v : SourceVerified) (k : Ed25519Key K) : Prop where
  committed : ∃ c, commitPomRxReceipt N R ((envelope.get (js "receipt")).getD .null) = .ok c ∧
    v.receipt = c.receipt ∧ v.receiptHash = c.receiptHash
  hash : envelope.get (js "receipt_hash") = some (.string v.receiptHash.val)
  key : decodePublicKey K (envelope.get (js "source_public_key")) = .ok k
  keyId : v.sourceKeyId = pomRxKeyId K R.hash k
  receiptKeyId : v.receipt.sourceKeyId.val = v.sourceKeyId
  verified : ∃ signature,
    K.verify (utf8Encode (sourceSignatureMessage v.receiptHash)) k.val signature = true

theorem verifyPomRxSourceEnvelope_eq_ok {envelope : JsValue} {v : SourceVerified}
    (h : verifyPomRxSourceEnvelope N R K envelope = .ok v) : ∃ k, SourceEvidence N R K envelope v k := by
  simp only [verifyPomRxSourceEnvelope, bind_eq_ok, mapError_eq_ok, check_eq_ok, exists_const,
    decide_eq_true_eq] at h
  obtain ⟨-, -, -, hash, hhash, c, hc, hmatch, k, hk, hid, signature, -, hverify, h⟩ := h
  cases h
  rw [← hmatch] at hhash hverify
  exact ⟨k, ⟨c, hc, rfl, rfl⟩, assertHash_eq_ok.mp hhash, hk, rfl, hid, signature, hverify⟩

/-- The evidence in an acknowledgement: its fields, and a signature of the payload under the key
    of the acknowledgement. -/
structure AckEvidence (N : Normalization) (R : Runtime) (K : KeyProvider Key PublicKey)
    (ack : JsValue) (p : AckPayload) (hash : HashText) (k : Ed25519Key K) : Prop where
  receiptHash : ack.get (js "receipt_hash") = some (.string p.receiptHash.val)
  receiptId : ack.get (js "receipt_id") = some (.string p.receiptId)
  runId : ack.get (js "run_id") = some (.string p.runId)
  outcome : ack.get (js "outcome") = some (.string p.outcome.text)
  outcome_mem : p.outcome ∈ PHASE_OUTCOMES .preflight
  sourceKeyId : ack.get (js "source_key_id") = some p.sourceKeyId
  mode : ack.get (js "mode") = some (.string p.mode.text)
  witnessKeyId : ack.get (js "witness_key_id") = some (.string p.witnessKeyId)
  distinct : p.sourceKeyId ≠ .string p.witnessKeyId
  receivedAt : normalizeDateTime R.date (ack.get (js "received_at")) (js "received_at") = .ok p.receivedAt
  validUntil : normalizeDateTime R.date (ack.get (js "valid_until")) (js "valid_until") = .ok p.validUntil
  validity : 1000 ≤ p.validUntil.ms - p.receivedAt.ms ∧ p.validUntil.ms - p.receivedAt.ms ≤ 300000
  key : decodePublicKey K (ack.get (js "witness_public_key")) = .ok k
  keyId : p.witnessKeyId = pomRxKeyId K R.hash k
  verified : ∃ message signature, witnessSignatureMessage N p = .ok message ∧
    hash = sha256Hex R.hash message ∧ K.verify (utf8Encode message) k.val signature = true

theorem checkLongText_eq_ok {value : Option JsValue} {field s : JsString}
    (h : checkLongText value field = .ok s) : value = some (.string s) := by
  unfold checkLongText at h
  split at h
  · split_ifs at h
    cases h
    rfl
  · cases h

/-- A value that passes `KEY_ID_PATTERN.test` is there. -/
theorem get_of_testPattern {value : Option JsValue} (h : testPattern KEY_ID_PATTERN value = true) :
    value = some (value.getD .null) := by
  cases value with
  | none => exact absurd h (by decide)
  | some v => rfl

theorem verifyPomRxWitnessAck_eq_ok {ack : JsValue} {expected : AckExpectation} {v : AckVerified}
    (h : verifyPomRxWitnessAck N R K ack expected = .ok v) :
    (∃ k, AckEvidence N R K ack v.payload v.acknowledgementHash k) ∧
      checkExpected ack expected.fields = .ok () ∧
      checkUnexpired R v.payload.receivedAt v.payload.validUntil expected.unexpiredAt = .ok () := by
  unfold verifyPomRxWitnessAck at h
  obtain ⟨⟨payload, k⟩, hread, h⟩ := bind_eq_ok.mp h
  simp only [bind_eq_ok, check_eq_ok, exists_const] at h
  obtain ⟨message, hmessage, signature, -, hverify, _, hexpected, _, hunexpired, h⟩ := h
  cases h
  refine ⟨⟨k, ?_⟩, hexpected, hunexpired⟩
  simp only [readAck, bind_eq_ok, mapError_eq_ok, check_eq_ok, exists_const, Bool.and_eq_true,
    decide_eq_true_eq] at hread
  obtain ⟨-, -, -, hash, hhash, receiptId, hreceiptId, runId, hrunId, outcome, houtcome, hsource,
    mode, hmode, -, hdistinct, receivedAt, hreceivedAt, validUntil, hvalidUntil, hvalidity, k', hk,
    hkeyId, hpayload⟩ := hread
  cases hpayload
  have hwitness := isText_eq_true.mp hkeyId
  have hsource := get_of_testPattern hsource
  refine ⟨assertHash_eq_ok.mp hhash, checkLongText_eq_ok hreceiptId, checkLongText_eq_ok hrunId,
    (assertOneOf_eq_ok (Outcome.text_injective .preflight)).mp houtcome, outcome.property, hsource,
    (assertOneOf_eq_ok AckMode.text_injective).mp hmode, hwitness, ?_, hreceivedAt, hvalidUntil,
    hvalidity, hk, rfl, message, signature, hmessage, rfl, hverify⟩
  intro heq
  dsimp only at heq
  rw [hsource, heq, hwitness] at hdistinct
  exact absurd rfl (of_decide_eq_true hdistinct)

/-- An expected text that is given is what the acknowledgement has. -/
theorem checkExpected_eq_ok {ack : JsValue} {fields : List (JsString × Option JsString)}
    (h : checkExpected ack fields = .ok ()) {key text : JsString} (hmem : (key, some text) ∈ fields) :
    ack.get key = some (.string text) := by
  induction fields with
  | nil => cases hmem
  | cons f fields ih =>
    obtain ⟨key', expectation⟩ := f
    cases expectation with
    | none =>
      rcases List.mem_cons.mp hmem with heq | hmem
      · cases heq
      · exact ih h hmem
    | some text' =>
      simp only [checkExpected, bind_eq_ok, check_eq_ok, exists_const] at h
      rcases List.mem_cons.mp hmem with heq | hmem
      · cases heq
        exact isText_eq_true.mp h.1
      · exact ih h.2 hmem

end Verify

/-! ## Sample evidence -/

/-- An allow preflight receipt whose references are identifiers. -/
def sampleAllow (occurredAt : String) : JsValue :=
  .object [(js "schema_version", .string POM_RX_SCHEMA_VERSION),
    (js "receipt_id", .string (js "receipt-preflight-0001")),
    (js "run_id", .string (js "run-2026-06-01-0001")),
    (js "phase", .string (js "preflight")), (js "outcome", .string (js "allow")),
    (js "agent_ref", .string (js "agent-witnessed-0001")),
    (js "subject_ref", .string (js "subject-witnessed-0001")),
    (js "method_hash", hashOf 0x61), (js "policy_hash", hashOf 0x62),
    (js "input_commitment", hashOf 0x63), (js "action_commitment", hashOf 0x64),
    (js "assertions", .array [.object [(js "rule_id", .string (js "limits.daily")),
      (js "rule_hash", hashOf 0x65), (js "result", .string (js "pass")),
      (js "proof_mode", .string (js "commitment")), (js "evidence_hash", hashOf 0x66)]]),
    (js "previous_receipt_hash", .null), (js "occurred_at", .string (js occurredAt)),
    (js "source_key_id", .string (js "ed25519-a050837d85070582ccf7394b0988847c"))]

/-- Evidence of a receipt: its hash, the two signatures, and the window of the acknowledgement. -/
structure SampleEvidence where
  occurredAt : String
  receiptHash : String
  sourceSignature : ℕ
  receivedAt : String
  validUntil : String
  witnessSignature : ℕ

def SampleEvidence.envelope (e : SampleEvidence) : JsValue :=
  .object [(js "schema_version", .string POM_RX_SOURCE_ENVELOPE_VERSION),
    (js "receipt", sampleAllow e.occurredAt), (js "receipt_hash", .string (js e.receiptHash)),
    (js "source_public_key", .string (Base64.encode SampleKey.source.spki)),
    (js "source_signature", .string (Base64.encode (bytesOf 64 e.sourceSignature)))]

def SampleEvidence.ackPayload (e : SampleEvidence) : List (JsString × JsValue) :=
  [(js "schema_version", .string POM_RX_WITNESS_ACK_VERSION),
    (js "receipt_hash", .string (js e.receiptHash)),
    (js "receipt_id", .string (js "receipt-preflight-0001")),
    (js "run_id", .string (js "run-2026-06-01-0001")), (js "outcome", .string (js "allow")),
    (js "source_key_id", .string (js "ed25519-a050837d85070582ccf7394b0988847c")),
    (js "received_at", .string (js e.receivedAt)), (js "valid_until", .string (js e.validUntil)),
    (js "mode", .string (js "witnessed")),
    (js "witness_key_id", .string (js "ed25519-824c89aa8efb95ef93629b4519599129"))]

def SampleEvidence.ack (e : SampleEvidence) : JsValue :=
  .object (e.ackPayload ++ [(js "witness_public_key", JsValue.string (Base64.encode SampleKey.witness.spki)),
    (js "witness_signature", JsValue.string (Base64.encode (bytesOf 64 e.witnessSignature)))])

/-- The keys, with the signatures of this evidence. -/
def SampleEvidence.keys (e : SampleEvidence) : KeyProvider SampleKey SampleKey :=
  tableKeys
    [(.source, utf8Encode (js "swisstokint:pom-rx-source:v1:" ++ js e.receiptHash),
        bytesOf 64 e.sourceSignature),
      (.witness, utf8Encode (js "swisstokint:pom-rx-witness-ack:v1:" ++
          canonicalizeValue devanagari (.object e.ackPayload)),
        bytesOf 64 e.witnessSignature)]

/-- A receipt that is acknowledged a second after it occurred. -/
def evidence2026 : SampleEvidence where
  occurredAt := "2026-06-01T10:00:00.000Z"
  receiptHash := "06b0da2c2351b23839c09db4a8bb0cabc393016170e419107796cfb0801dd959"
  sourceSignature := 0x08d5adb200b7f828dfb05ec9b596fe83335d5720d9dddc3ab2b70d728af3ac7f18919db4f66f14f2cd9565148f93e671d4d7f57cc396c6e17a5f07eb8b4faf08
  receivedAt := "2026-06-01T10:00:01.000Z"
  validUntil := "2026-06-01T10:05:01.000Z"
  witnessSignature := 0x15f50ba40cb31fa80ede66fdd73391f0b75f977a6dceeed1b95f09711f59a589c65b0c4944344685303185202281b007f0788b2eb8634ffcc2f1cc3c992efa0e

end OpenRisk.PomRx
