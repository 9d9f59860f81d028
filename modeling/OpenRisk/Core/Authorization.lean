import OpenRisk.Core.PlainData
import OpenRisk.Sdk.PlainText

/-!
# Exact authorization records

Model of `core/authorization/reference-exact-authorization.mjs`. A validated binding is
an `ExactBinding`: its fields have the formats that the source checks, the two key ids
differ and the lifetime is between one second and five minutes.

The options of `prepareReferenceExactAuthorizationRecord` come from the Gate, which builds
them itself; the model takes the two values.

Results:
* `prepareReferenceExactAuthorizationRecord_fields`: the binding has the commitments and
  identities of the input.
-/

namespace OpenRisk.Core

open Text Sdk

/-- `PomRxReferenceCapabilityError`. -/
structure CapabilityError where
  code : JsString
  message : JsString
  deriving DecidableEq

/-- `POM_RX_EXACT_AUTHORIZATION_SCHEMA_VERSION`. -/
def exactAuthorizationSchemaVersion : JsString := js "pom-rx-exact-authorization/0.1"

/-- `POM_RX_EXACT_AUTHORIZATION_COMMIT_DOMAIN`. -/
def exactAuthorizationCommitDomain : JsString := js "swisstokint:pom-rx-exact-authorization:v1:"

/-! ## Formats -/

/-- A fixed text followed by 32 lowercase hexadecimal digits. -/
def tagged (tag s : JsString) : Bool :=
  s.take tag.length = tag && (s.drop tag.length).length = 32 && (s.drop tag.length).all isHashUnit

/-- `CAPABILITY_ID_PATTERN`. -/
def CAPABILITY_ID_PATTERN (s : JsString) : Bool := tagged (js "cap-") s

/-- `KEY_ID_PATTERN`. -/
def KEY_ID_PATTERN (s : JsString) : Bool := tagged (js "ed25519-") s

/-- `PROFILE_PATTERN`: a letter or digit and 2 to 127 letters, digits or `.`, `_`, `/`, `-`. -/
def PROFILE_PATTERN (s : JsString) : Bool :=
  match s with
  | [] => false
  | u :: rest =>
    isAlphaNumeric u && rest.all (fun v => isKeyUnit v || v = 0x2F) && 2 ≤ rest.length &&
      rest.length ≤ 127

abbrev CapabilityId := { s : JsString // CAPABILITY_ID_PATTERN s = true }

abbrev KeyId := { s : JsString // KEY_ID_PATTERN s = true }

abbrev Profile := { s : JsString // PROFILE_PATTERN s = true }

/-- `assertStringPattern(value, pattern, field)`. -/
def assertStringPattern (value : Option HostValue) (pattern : JsString → Bool) (field : JsString) :
    Except CapabilityError { s : JsString // pattern s = true } :=
  match value with
  | some (.string s) =>
    if h : pattern s = true then .ok ⟨s, h⟩
    else .error ⟨js "POMRX_GATE_E_BINDING_MISMATCH", field ++ js " has an invalid format"⟩
  | _ => .error ⟨js "POMRX_GATE_E_BINDING_MISMATCH", field ++ js " has an invalid format"⟩

/-- `canonicalUtcInstant(value, field)`. -/
def canonicalUtcInstant (P : DateParser) (value : Option HostValue) (field : JsString) :
    Except CapabilityError (UtcInstant P) :=
  match value with
  | some (.string s) =>
    match UtcInstant.ofText P s with
    | some i => .ok i
    | none => .error ⟨js "POMRX_GATE_E_TIME_INVALID", field ++ js " must be a canonical UTC instant"⟩
  | _ => .error ⟨js "POMRX_GATE_E_TIME_INVALID", field ++ js " must be a canonical UTC instant"⟩

theorem plainWithin_tagged {tag s : JsString} {n : ℕ} (htag : PlainWithin n tag)
    (h : tagged tag s = true) : PlainWithin (n + 32) s := by
  simp only [tagged, Bool.and_eq_true, decide_eq_true_eq, List.all_eq_true] at h
  obtain ⟨⟨hstart, hlength⟩, hunits⟩ := h
  have hrest : PlainWithin 32 (s.drop tag.length) :=
    ⟨fun u hu => isPlainUnit_of_isHashUnit (hunits u hu), hlength.le⟩
  rw [← List.take_append_drop tag.length s, hstart]
  exact htag.append hrest

theorem plainWithin_keyId (k : KeyId) : PlainWithin 40 k.val :=
  @plainWithin_tagged (js "ed25519-") _ 8 ⟨List.all_eq_true.mp (by decide), by decide⟩ k.property

theorem plainWithin_capabilityId (c : CapabilityId) : PlainWithin 36 c.val :=
  @plainWithin_tagged (js "cap-") _ 4 ⟨List.all_eq_true.mp (by decide), by decide⟩ c.property

theorem plainWithin_profile (p : Profile) : PlainWithin 128 p.val := by
  obtain ⟨s, hs⟩ := p
  cases s with
  | nil => cases hs
  | cons u rest =>
    simp only [PROFILE_PATTERN, Bool.and_eq_true, decide_eq_true_eq, List.all_eq_true] at hs
    obtain ⟨⟨⟨hu, hrest⟩, -⟩, hlen⟩ := hs
    refine ⟨fun v hv => ?_, Nat.succ_le_succ hlen⟩
    rcases List.mem_cons.mp hv with rfl | hv
    · apply isPlainUnit_of_isKeyUnit
      rw [isKeyUnit, hu]
      rfl
    · have hunit := hrest v hv
      rw [Bool.or_eq_true, decide_eq_true_eq] at hunit
      rcases hunit with hunit | rfl
      · exact isPlainUnit_of_isKeyUnit hunit
      · decide

/-! ## Bindings -/

/-- `INPUT_KEYS`. -/
def INPUT_KEYS : List JsString :=
  ["binding_profile", "run_id", "agent_ref", "subject_ref", "method_hash", "policy_hash",
    "action_commitment", "context_commitment", "preflight_receipt_hash", "witness_ack_hash",
    "source_key_id", "witness_key_id", "verification_profile", "verifier_version",
    "implementation_artifact_sha256", "effective_verification_policy_sha256", "issued_at",
    "expires_at"].map js

/-- A validated binding. -/
structure ExactBinding (P : DateParser) where
  capabilityId : CapabilityId
  bindingProfile : Profile
  runId : Identifier
  agentRef : Identifier
  subjectRef : Identifier
  methodHash : HashText
  policyHash : HashText
  actionCommitment : HashText
  contextCommitment : HashText
  preflightReceiptHash : HashText
  witnessAckHash : HashText
  sourceKeyId : KeyId
  witnessKeyId : KeyId
  verificationProfile : Profile
  verifierVersion : Profile
  implementationArtifactSha256 : HashText
  effectiveVerificationPolicySha256 : HashText
  issuedAt : UtcInstant P
  expiresAt : UtcInstant P
  distinct_keys : sourceKeyId ≠ witnessKeyId
  lifetime : 1000 ≤ expiresAt.ms - issuedAt.ms ∧ expiresAt.ms - issuedAt.ms ≤ 300000

/-- The record `binding`. -/
def ExactBinding.toJs {P : DateParser} (b : ExactBinding P) : JsValue :=
  .object [(js "schema_version", .string exactAuthorizationSchemaVersion),
    (js "capability_id", .string b.capabilityId.val),
    (js "binding_profile", .string b.bindingProfile.val), (js "run_id", .string b.runId.val),
    (js "agent_ref", .string b.agentRef.val), (js "subject_ref", .string b.subjectRef.val),
    (js "method_hash", .string b.methodHash.val), (js "policy_hash", .string b.policyHash.val),
    (js "action_commitment", .string b.actionCommitment.val),
    (js "context_commitment", .string b.contextCommitment.val),
    (js "preflight_receipt_hash", .string b.preflightReceiptHash.val),
    (js "witness_ack_hash", .string b.witnessAckHash.val),
    (js "source_key_id", .string b.sourceKeyId.val), (js "witness_key_id", .string b.witnessKeyId.val),
    (js "verification_profile", .string b.verificationProfile.val),
    (js "verifier_version", .string b.verifierVersion.val),
    (js "implementation_artifact_sha256", .string b.implementationArtifactSha256.val),
    (js "effective_verification_policy_sha256", .string b.effectiveVerificationPolicySha256.val),
    (js "issued_at", .string b.issuedAt.text), (js "expires_at", .string b.expiresAt.text)]

/-- `snapshotExactDataObject(value, expectedKeys, label)`. -/
def snapshotExactDataObject (expectedKeys : List JsString) (label : JsString) (value : HostValue) :
    Except CapabilityError (List (JsString × HostValue)) :=
  let mismatch (text : String) : CapabilityError :=
    ⟨js "POMRX_GATE_E_BINDING_MISMATCH", label ++ js text⟩
  snapshotRecord
    { notObject := mismatch " must be a non-Proxy object"
      array := mismatch " must be an object"
      prototype := mismatch " must be a plain object"
      symbols := mismatch " cannot contain symbol keys"
      fields := mismatch " has missing or unknown fields"
      property := fun key => ⟨js "POMRX_GATE_E_BINDING_MISMATCH",
        label ++ 0x2E :: key ++ js " must be an enumerable data property"⟩ }
    (fun names => sortNames names = sortNames expectedKeys) expectedKeys value

section Prepare

variable (P : DateParser)

/-- `validateBindingSnapshot` of the binding with this id and these input fields. -/
def validateBindingSnapshot (capabilityId : HostValue) (input : List (JsString × HostValue)) :
    Except CapabilityError (ExactBinding P) := do
  let pattern (format : JsString → Bool) (field : String) :=
    assertStringPattern (input.lookup (js field)) format (js field)
  let capabilityId ← assertStringPattern (some capabilityId) CAPABILITY_ID_PATTERN (js "capability_id")
  let bindingProfile ← pattern PROFILE_PATTERN "binding_profile"
  let runId ← pattern ID_PATTERN "run_id"
  let agentRef ← pattern ID_PATTERN "agent_ref"
  let subjectRef ← pattern ID_PATTERN "subject_ref"
  let verificationProfile ← pattern PROFILE_PATTERN "verification_profile"
  let verifierVersion ← pattern PROFILE_PATTERN "verifier_version"
  let sourceKeyId ← pattern KEY_ID_PATTERN "source_key_id"
  let witnessKeyId ← pattern KEY_ID_PATTERN "witness_key_id"
  if distinct_keys : sourceKeyId ≠ witnessKeyId then
    let methodHash ← pattern HASH_PATTERN "method_hash"
    let policyHash ← pattern HASH_PATTERN "policy_hash"
    let actionCommitment ← pattern HASH_PATTERN "action_commitment"
    let contextCommitment ← pattern HASH_PATTERN "context_commitment"
    let preflightReceiptHash ← pattern HASH_PATTERN "preflight_receipt_hash"
    let witnessAckHash ← pattern HASH_PATTERN "witness_ack_hash"
    let implementationArtifactSha256 ← pattern HASH_PATTERN "implementation_artifact_sha256"
    let effectiveVerificationPolicySha256 ←
      pattern HASH_PATTERN "effective_verification_policy_sha256"
    let issuedAt ← canonicalUtcInstant P (input.lookup (js "issued_at")) (js "issued_at")
    let expiresAt ← canonicalUtcInstant P (input.lookup (js "expires_at")) (js "expires_at")
    if lifetime : 1000 ≤ expiresAt.ms - issuedAt.ms ∧ expiresAt.ms - issuedAt.ms ≤ 300000 then
      .ok { capabilityId, bindingProfile, runId, agentRef, subjectRef, methodHash, policyHash,
            actionCommitment, contextCommitment, preflightReceiptHash, witnessAckHash, sourceKeyId,
            witnessKeyId, verificationProfile, verifierVersion, implementationArtifactSha256,
            effectiveVerificationPolicySha256, issuedAt, expiresAt, distinct_keys, lifetime }
    else .error ⟨js "POMRX_GATE_E_TIME_INVALID",
      js "Reference capability lifetime must be between 1 second and 5 minutes"⟩
  else .error ⟨js "POMRX_GATE_E_BINDING_MISMATCH",
    js "Source and witness identities must be distinct"⟩

/-- What an issuance throws: an error of this module or one of `canonicalizePayload`. -/
inductive IssueError where
  | capability (e : CapabilityError)
  | payload (e : PayloadError)

/-- The evidence of an issuance. -/
structure AuthorizationEvidence where
  binding : ExactBinding P
  authorizationCommitment : HashText

variable {P}

/-- `commitValidatedBinding(binding)`. -/
def commitValidatedBinding (N : Normalization) (S : Hash) (binding : ExactBinding P) :
    Except PayloadError HashText := do
  let canonicalBinding ← canonicalizePayload N binding.toJs
  .ok (sha256Hex S (exactAuthorizationCommitDomain ++ canonicalBinding))

variable (P)

/-- The part of `prepareReferenceExactAuthorizationRecord` before the commitment. -/
def prepareBinding (bindingInput witnessValidUntil capabilityId : HostValue) :
    Except CapabilityError (ExactBinding P) := do
  let input ← snapshotExactDataObject INPUT_KEYS (js "Reference exact authorization input") bindingInput
  let _ ← assertStringPattern (some capabilityId) CAPABILITY_ID_PATTERN (js "capability_id")
  let witnessExpiry ← canonicalUtcInstant P (some witnessValidUntil) (js "witness_valid_until")
  let binding ← validateBindingSnapshot P capabilityId input
  if binding.expiresAt.ms > witnessExpiry.ms then
    .error ⟨js "POMRX_GATE_E_TIME_INVALID",
      js "Reference capability expiry cannot exceed witness validity"⟩
  else .ok binding

/-- `prepareReferenceExactAuthorizationRecord(bindingInput, { witnessValidUntil, capabilityId })`. -/
def prepareReferenceExactAuthorizationRecord (N : Normalization) (S : Hash)
    (bindingInput witnessValidUntil capabilityId : HostValue) :
    Except IssueError (AuthorizationEvidence P) := do
  let binding ← (prepareBinding P bindingInput witnessValidUntil capabilityId).mapError .capability
  let authorizationCommitment ← (commitValidatedBinding N S binding).mapError .payload
  .ok { binding, authorizationCommitment }

/-- `BINDING_KEYS`. -/
def BINDING_KEYS : List JsString := js "schema_version" :: js "capability_id" :: INPUT_KEYS

/-- `commitExactAuthorizationBinding(binding)`. -/
def commitExactAuthorizationBinding (N : Normalization) (S : Hash) (binding : HostValue) :
    Except IssueError (AuthorizationEvidence P) := do
  let snapshot ← (snapshotExactDataObject BINDING_KEYS (js "Exact authorization binding")
    binding).mapError .capability
  let validated ← (match snapshot.lookup (js "schema_version") with
    | some (.string version) =>
      if version = exactAuthorizationSchemaVersion then
        (validateBindingSnapshot P ((snapshot.lookup (js "capability_id")).getD .undefined)
          snapshot).mapError .capability
      else .error (.capability ⟨js "POMRX_GATE_E_BINDING_MISMATCH",
        js "Unsupported exact authorization schema version"⟩)
    | _ => .error (.capability ⟨js "POMRX_GATE_E_BINDING_MISMATCH",
        js "Unsupported exact authorization schema version"⟩))
  let authorizationCommitment ← (commitValidatedBinding N S validated).mapError .payload
  .ok { binding := validated, authorizationCommitment }

end Prepare

/-! ## The binding has the fields of the input -/

theorem assertStringPattern_eq_ok {value : Option HostValue} {pattern : JsString → Bool}
    {field : JsString} {x : { s : JsString // pattern s = true }}
    (h : assertStringPattern value pattern field = .ok x) : value = some (.string x.val) := by
  unfold assertStringPattern at h
  split at h
  · split_ifs at h
    cases h
    rfl
  · cases h

/-- The fields of a binding that tie it to a request. -/
structure BindingOf {P : DateParser} (input : List (JsString × HostValue)) (b : ExactBinding P) :
    Prop where
  runId : input.lookup (js "run_id") = some (.string b.runId.val)
  actionCommitment : input.lookup (js "action_commitment") = some (.string b.actionCommitment.val)
  contextCommitment : input.lookup (js "context_commitment") = some (.string b.contextCommitment.val)
  preflightReceiptHash :
    input.lookup (js "preflight_receipt_hash") = some (.string b.preflightReceiptHash.val)
  witnessAckHash : input.lookup (js "witness_ack_hash") = some (.string b.witnessAckHash.val)

section Fields

variable {P : DateParser}

theorem validateBindingSnapshot_fields {capabilityId : HostValue} {input : List (JsString × HostValue)}
    {b : ExactBinding P} (h : validateBindingSnapshot P capabilityId input = .ok b) :
    BindingOf input b := by
  unfold validateBindingSnapshot at h
  dsimp only at h
  obtain ⟨id, -, h⟩ := bind_eq_ok.mp h
  obtain ⟨profile, -, h⟩ := bind_eq_ok.mp h
  obtain ⟨runId, hrunId, h⟩ := bind_eq_ok.mp h
  obtain ⟨agentRef, -, h⟩ := bind_eq_ok.mp h
  obtain ⟨subjectRef, -, h⟩ := bind_eq_ok.mp h
  obtain ⟨verificationProfile, -, h⟩ := bind_eq_ok.mp h
  obtain ⟨verifierVersion, -, h⟩ := bind_eq_ok.mp h
  obtain ⟨sourceKeyId, -, h⟩ := bind_eq_ok.mp h
  obtain ⟨witnessKeyId, -, h⟩ := bind_eq_ok.mp h
  split_ifs at h with hkeys
  obtain ⟨methodHash, -, h⟩ := bind_eq_ok.mp h
  obtain ⟨policyHash, -, h⟩ := bind_eq_ok.mp h
  obtain ⟨action, haction, h⟩ := bind_eq_ok.mp h
  obtain ⟨context, hcontext, h⟩ := bind_eq_ok.mp h
  obtain ⟨preflight, hpreflight, h⟩ := bind_eq_ok.mp h
  obtain ⟨witness, hwitness, h⟩ := bind_eq_ok.mp h
  obtain ⟨artifact, -, h⟩ := bind_eq_ok.mp h
  obtain ⟨effective, -, h⟩ := bind_eq_ok.mp h
  obtain ⟨issuedAt, -, h⟩ := bind_eq_ok.mp h
  obtain ⟨expiresAt, -, h⟩ := bind_eq_ok.mp h
  split_ifs at h with hlifetime
  cases h
  exact ⟨assertStringPattern_eq_ok hrunId, assertStringPattern_eq_ok haction,
    assertStringPattern_eq_ok hcontext, assertStringPattern_eq_ok hpreflight,
    assertStringPattern_eq_ok hwitness⟩

/-- The binding of an issuance from plain data has the fields of the data. -/
theorem prepareReferenceExactAuthorizationRecord_fields {N : Normalization} {S : Hash}
    {es : List (JsString × JsValue)} (hkeys : es.map Prod.fst = INPUT_KEYS)
    {witnessValidUntil capabilityId : HostValue} {evidence : AuthorizationEvidence P}
    (h : prepareReferenceExactAuthorizationRecord P N S (.ofData (.object es)) witnessValidUntil
      capabilityId = .ok evidence) :
    BindingOf (es.map fun e => (e.1, .ofData e.2)) evidence.binding := by
  have hsnapshot : snapshotExactDataObject INPUT_KEYS (js "Reference exact authorization input")
      (.ofData (.object es)) = .ok (es.map fun e => (e.1, .ofData e.2)) := by
    rw [snapshotExactDataObject]
    exact snapshotRecord_ofData _ hkeys (by simp) (by decide +kernel)
  unfold prepareReferenceExactAuthorizationRecord at h
  obtain ⟨binding, hbinding, h⟩ := bind_eq_ok.mp h
  obtain ⟨commitment, -, h⟩ := bind_eq_ok.mp h
  cases h
  have hprepare := mapError_eq_ok.mp hbinding
  unfold prepareBinding at hprepare
  rw [hsnapshot] at hprepare
  obtain ⟨input, hinput, hprepare⟩ := bind_eq_ok.mp hprepare
  cases hinput
  obtain ⟨-, -, hprepare⟩ := bind_eq_ok.mp hprepare
  obtain ⟨expiry, -, hprepare⟩ := bind_eq_ok.mp hprepare
  obtain ⟨b, hb, hprepare⟩ := bind_eq_ok.mp hprepare
  split_ifs at hprepare
  cases hprepare
  exact validateBindingSnapshot_fields hb

end Fields

end OpenRisk.Core
