import OpenRisk.PomRx.Receipt
import OpenRisk.Crypto.Sha256Eval
import OpenRisk.Text.Base64

/-!
# Signed source envelopes

Model of `createPomRxSourceEnvelope` and `verifyPomRxSourceEnvelope` of
`sdk/typescript/pom-rx-witness.mjs` (lines 1–157). Keys and signatures are those of
`node:crypto`, a parameter `KeyProvider`; what the code relies on is `KeyProvider.Lawful`.
A thrown error is its message, which is all the verifier keeps of it.

Results:
* `verifyPomRxSourceEnvelope_create`: the verifier accepts a created envelope, with the
  same hash, when its receipt commits to the same hash again.
* `verifyPomRxSourceEnvelope_create_iff`: this is so exactly when the two references of
  the receipt still have their format after normalization.
-/

namespace OpenRisk.PomRx

open Text Sdk

/-! ## Keys -/

/-- What the code uses of `node:crypto`. `Key` is what callers pass as a key, `PublicKey` a
    public `KeyObject`; a call that throws gives the message. -/
structure KeyProvider (Key PublicKey : Type) where
  /-- `key?.type === 'public' ? key : crypto.createPublicKey(key)` -/
  createPublicKey : Key → Except JsString PublicKey
  /-- `key.asymmetricKeyType === 'ed25519'` -/
  isEd25519 : PublicKey → Bool
  /-- `key.export({ format: 'der', type: 'spki' })` -/
  exportSpki : PublicKey → List UInt8
  /-- `crypto.createPublicKey({ key, format: 'der', type: 'spki' })` -/
  importSpki : List UInt8 → Except JsString PublicKey
  /-- `crypto.sign(null, data, key)` -/
  sign : List UInt8 → Key → Except JsString (List UInt8)
  /-- `crypto.verify(null, data, key, signature)` -/
  verify : List UInt8 → PublicKey → List UInt8 → Bool

/-- What the code relies on: an Ed25519 key has an SPKI form of 44 bytes that reads back,
    and a signature of 64 bytes that verifies. -/
structure KeyProvider.Lawful {Key PublicKey : Type} (K : KeyProvider Key PublicKey) : Prop where
  length_exportSpki : ∀ k, K.isEd25519 k = true → (K.exportSpki k).length = 44
  importSpki_exportSpki : ∀ k, K.isEd25519 k = true → K.importSpki (K.exportSpki k) = .ok k
  length_sign : ∀ key k m s, K.createPublicKey key = .ok k → K.isEd25519 k = true →
    K.sign m key = .ok s → s.length = 64
  verify_sign : ∀ key k m s, K.createPublicKey key = .ok k → K.isEd25519 k = true →
    K.sign m key = .ok s → K.verify m k s = true

section Keys

variable {Key PublicKey : Type} (K : KeyProvider Key PublicKey)

/-- A public key that has passed the test of its type. -/
abbrev Ed25519Key := { k : PublicKey // K.isEd25519 k = true }

/-- `assert(condition, message)` where only the message of an error matters. -/
def check (condition : Bool) (message : JsString) : Except JsString Unit :=
  if condition then .ok () else .error message

theorem check_eq_ok {condition : Bool} {message : JsString} {u : Unit} :
    check condition message = .ok u ↔ condition = true := by
  cases condition <;> simp [check]

/-- `toEd25519PublicKey(key)`. -/
def toEd25519PublicKey (key : Key) : Except JsString (Ed25519Key K) := do
  let keyObject ← K.createPublicKey key
  if h : K.isEd25519 keyObject = true then .ok ⟨keyObject, h⟩ else .error (js "Key must be Ed25519")

theorem toEd25519PublicKey_eq_ok {key : Key} {k : Ed25519Key K} :
    toEd25519PublicKey K key = .ok k ↔ K.createPublicKey key = .ok k.val := by
  simp only [toEd25519PublicKey, bind_eq_ok]
  constructor
  · rintro ⟨a, ha, h⟩
    split_ifs at h
    cases h
    exact ha
  · intro h
    refine ⟨k.val, h, ?_⟩
    rw [dif_pos k.property]

/-- `pomRxKeyId(key)`. -/
def pomRxKeyId (S : Hash) (key : Ed25519Key K) : JsString :=
  js "ed25519-" ++ ((S.digest (K.exportSpki key.val)).flatMap hexByte).take 32

/-- The checks that `decodePublicKey` and `decodeSignature` share: a length between `lo` and
    `hi`, the alphabet, and that the bytes have this base64 text. -/
def decodeBase64 (lo hi : ℕ) (value : Option JsValue) (label : JsString) :
    Except JsString (List UInt8) :=
  match value with
  | some (.string s) => do
    check (lo ≤ s.length && s.length ≤ hi && Base64.isPadded s) (label ++ js " must be bounded base64")
    check (Base64.encode (Base64.decode s) = s) (label ++ js " must use canonical base64")
    .ok (Base64.decode s)
  | _ => .error (label ++ js " must be bounded base64")

theorem decodeBase64_eq_ok {lo hi : ℕ} {value : Option JsValue} {label : JsString}
    {bytes : List UInt8} (h : decodeBase64 lo hi value label = .ok bytes) :
    value = some (.string (Base64.encode bytes)) := by
  unfold decodeBase64 at h
  split at h
  · rename_i s
    simp only [bind_eq_ok, check_eq_ok, exists_const, Except.ok.injEq, decide_eq_true_eq] at h
    obtain ⟨-, hcanonical, rfl⟩ := h
    rw [hcanonical]
  · cases h

theorem decodeBase64_encode {lo hi : ℕ} {label : JsString} {bytes : List UInt8} (hne : bytes ≠ [])
    (hlo : lo ≤ 4 * ((bytes.length + 2) / 3)) (hhi : 4 * ((bytes.length + 2) / 3) ≤ hi) :
    decodeBase64 lo hi (some (.string (Base64.encode bytes))) label = .ok bytes := by
  simp only [decodeBase64, bind_eq_ok, check_eq_ok, exists_const, Base64.decode_encode,
    Bool.and_eq_true, decide_eq_true_eq, Base64.length_encode]
  exact ⟨⟨⟨hlo, hhi⟩, Base64.isPadded_encode hne⟩, trivial, trivial⟩

/-- `decodePublicKey(value)`. -/
def decodePublicKey (value : Option JsValue) : Except JsString (Ed25519Key K) := do
  let bytes ← decodeBase64 40 256 value (js "Public key")
  let key ← K.importSpki bytes
  if h : K.isEd25519 key = true then .ok ⟨key, h⟩
  else .error (js "Public key must be Ed25519")

/-- `decodeSignature(value, label)`. -/
def decodeSignature (value : Option JsValue) (label : JsString) : Except JsString (List UInt8) := do
  let bytes ← decodeBase64 80 128 value label
  check (bytes.length = 64) (label ++ js " must be an Ed25519 signature")
  .ok bytes

/-- `exportPublicKey(key)`. -/
def exportPublicKey (key : Ed25519Key K) : JsString := Base64.encode (K.exportSpki key.val)

variable {K}

theorem decodePublicKey_exportPublicKey (hK : K.Lawful) (key : Ed25519Key K) :
    decodePublicKey K (some (.string (exportPublicKey K key))) = .ok key := by
  have hlen := hK.length_exportSpki key.val key.property
  have hne : K.exportSpki key.val ≠ [] := by
    intro hnil
    rw [hnil] at hlen
    cases hlen
  simp only [decodePublicKey, bind_eq_ok]
  refine ⟨_, decodeBase64_encode hne (by rw [hlen]; decide) (by rw [hlen]; decide), key.val,
    hK.importSpki_exportSpki key.val key.property, ?_⟩
  rw [dif_pos key.property]

theorem decodeSignature_encode {signature : List UInt8} (h : signature.length = 64)
    (label : JsString) :
    decodeSignature (some (.string (Base64.encode signature))) label = .ok signature := by
  have hne : signature ≠ [] := by
    intro hnil
    rw [hnil] at h
    cases h
  simp only [decodeSignature, bind_eq_ok, check_eq_ok, exists_const, decide_eq_true_eq]
  exact ⟨_, decodeBase64_encode hne (by rw [h]; decide) (by rw [h]; decide), h, rfl⟩

end Keys

/-! ## Envelopes -/

/-- `POM_RX_SOURCE_ENVELOPE_VERSION`. -/
def POM_RX_SOURCE_ENVELOPE_VERSION : JsString := js "pom-rx-source-envelope/0.1"

def ENVELOPE_KEYS : List JsString :=
  ["schema_version", "receipt", "receipt_hash", "source_public_key", "source_signature"].map js

/-- The result of `createPomRxSourceEnvelope`. -/
structure SourceEnvelope where
  receipt : Receipt
  receiptHash : HashText
  sourcePublicKey : JsString
  sourceSignature : JsString

def SourceEnvelope.toJs (e : SourceEnvelope) : JsValue :=
  .object [(js "schema_version", .string POM_RX_SOURCE_ENVELOPE_VERSION),
    (js "receipt", e.receipt.toJs), (js "receipt_hash", .string e.receiptHash.val),
    (js "source_public_key", .string e.sourcePublicKey),
    (js "source_signature", .string e.sourceSignature)]

/-- What `verifyPomRxSourceEnvelope` reports of an envelope that is `ok`. -/
structure SourceVerified where
  receipt : Receipt
  receiptHash : HashText
  sourceKeyId : JsString

/-- `sourceSignatureMessage(receiptHash)`. -/
def sourceSignatureMessage (receiptHash : HashText) : JsString :=
  js "swisstokint:pom-rx-source:v1:" ++ receiptHash.val

section Envelopes

variable (N : Normalization) (R : Runtime) {Key PublicKey : Type} (K : KeyProvider Key PublicKey)

/-- `createPomRxSourceEnvelope(receipt, sourcePrivateKey)`. -/
def createPomRxSourceEnvelope (receipt : JsValue) (sourcePrivateKey : Key) :
    Except JsString SourceEnvelope := do
  let committed ← (commitPomRxReceipt N R receipt).mapError ReceiptError.message
  let sourcePublicKey ← toEd25519PublicKey K sourcePrivateKey
  check (committed.receipt.sourceKeyId.val = pomRxKeyId K R.hash sourcePublicKey)
    (js "Receipt source_key_id does not match the source signing key")
  let signature ← K.sign (utf8Encode (sourceSignatureMessage committed.receiptHash)) sourcePrivateKey
  .ok ⟨committed.receipt, committed.receiptHash, exportPublicKey K sourcePublicKey,
    Base64.encode signature⟩

/-- `verifyPomRxSourceEnvelope(envelope)`: `.error` is `{ ok: false, error }`. A missing
    `receipt` is read as `null`; both are rejected as not being an object. -/
def verifyPomRxSourceEnvelope (envelope : JsValue) : Except JsString SourceVerified := do
  (assertExactKeys envelope ENVELOPE_KEYS (js "POM-RX source envelope")).mapError TypeError.message
  check (isText (envelope.get (js "schema_version")) POM_RX_SOURCE_ENVELOPE_VERSION)
    (js "Unsupported POM-RX source envelope version")
  let receiptHash ← (assertHash (envelope.get (js "receipt_hash")) (js "receipt_hash")).mapError
    TypeError.message
  let committed ← (commitPomRxReceipt N R ((envelope.get (js "receipt")).getD .null)).mapError
    ReceiptError.message
  check (committed.receiptHash = receiptHash) (js "Source envelope receipt hash does not match")
  let publicKey ← decodePublicKey K (envelope.get (js "source_public_key"))
  let sourceKeyId := pomRxKeyId K R.hash publicKey
  check (committed.receipt.sourceKeyId.val = sourceKeyId)
    (js "Source public key does not match receipt source_key_id")
  let signature ← decodeSignature (envelope.get (js "source_signature")) (js "Source signature")
  check (K.verify (utf8Encode (sourceSignatureMessage receiptHash)) publicKey.val signature)
    (js "Source signature is invalid")
  .ok ⟨committed.receipt, committed.receiptHash, sourceKeyId⟩

variable {N R K}

/-- What a created envelope consists of. -/
theorem createPomRxSourceEnvelope_eq_ok {receipt : JsValue} {key : Key} {envelope : SourceEnvelope}
    (h : createPomRxSourceEnvelope N R K receipt key = .ok envelope) :
    ∃ c k signature, commitPomRxReceipt N R receipt = .ok c ∧
      K.createPublicKey key = .ok (k : Ed25519Key K).val ∧
      c.receipt.sourceKeyId.val = pomRxKeyId K R.hash k ∧
      K.sign (utf8Encode (sourceSignatureMessage c.receiptHash)) key = .ok signature ∧
      envelope = ⟨c.receipt, c.receiptHash, exportPublicKey K k, Base64.encode signature⟩ := by
  simp only [createPomRxSourceEnvelope, bind_eq_ok, mapError_eq_ok, check_eq_ok, decide_eq_true_eq,
    exists_const, Except.ok.injEq] at h
  obtain ⟨c, hc, k, hk, hid, signature, hsign, rfl⟩ := h
  exact ⟨c, k, signature, hc, (toEd25519PublicKey_eq_ok K).mp hk, hid, hsign, rfl⟩

/-- The references of a receipt that validates have the format. -/
theorem isReference_of_commit_toJs {r : Receipt} {c : Committed}
    (h : commitPomRxReceipt N R r.toJs = .ok c) :
    isReference r.agentRef = true ∧ isReference r.subjectRef = true := by
  have hread := validatePomRxReceipt_eq_ok_iff.mp (commitPomRxReceipt_eq_ok.mp h).1
  obtain ⟨agent, hagent, hagentRef, -⟩ := hread.agentRef
  obtain ⟨subject, hsubject, hsubjectRef, -⟩ := hread.subjectRef
  cases hagent
  cases hsubject
  exact ⟨hagentRef, hsubjectRef⟩

/-- The verifier accepts a created envelope, with the same hash, exactly when the
    references of its receipt have the format. -/
theorem verifyPomRxSourceEnvelope_create [Std.TransCmp R.localeCompare] (hdate : R.date.ReadsIso)
    (hK : K.Lawful) {receipt : JsValue} {key : Key} {envelope : SourceEnvelope}
    (h : createPomRxSourceEnvelope N R K receipt key = .ok envelope) :
    (∃ verified, verifyPomRxSourceEnvelope N R K envelope.toJs = .ok verified ∧
        verified.receiptHash = envelope.receiptHash) ↔
      isReference envelope.receipt.agentRef = true ∧
        isReference envelope.receipt.subjectRef = true := by
  obtain ⟨c, k, signature, hc, hkey, hid, hsign, rfl⟩ := createPomRxSourceEnvelope_eq_ok h
  constructor
  · rintro ⟨verified, hverify, -⟩
    simp only [verifyPomRxSourceEnvelope, bind_eq_ok, mapError_eq_ok] at hverify
    obtain ⟨_, -, _, -, _, -, c', hc', -⟩ := hverify
    exact isReference_of_commit_toJs hc'
  · intro href
    have hagain := (commitPomRxReceipt_toJs hdate hc).mpr href
    refine ⟨⟨c.receipt, c.receiptHash, pomRxKeyId K R.hash k⟩, ?_, rfl⟩
    simp only [verifyPomRxSourceEnvelope, bind_eq_ok, mapError_eq_ok, check_eq_ok, exists_const,
      decide_eq_true_eq]
    exact ⟨(), assertExactKeys_eq_ok.mpr (exactKeys_object rfl), isText_eq_true.mpr rfl,
      c.receiptHash, assertHash_eq_ok.mpr rfl, c, hagain, rfl,
      k, decodePublicKey_exportPublicKey hK k, hid,
      signature, decodeSignature_encode (hK.length_sign key k.val _ signature hkey k.property hsign) _,
      hK.verify_sign key k.val _ signature hkey k.property hsign, rfl⟩

/-- Every reference of the receipt still has its format after normalization. -/
def ReferencesSurvive (N : Normalization) (receipt : JsValue) : Prop :=
  ∀ field ∈ [js "agent_ref", js "subject_ref"], ∀ s, receipt.get field = some (.string s) →
    isReference (N.normalizeNfc s) = true

theorem referencesSurvive_iff {receipt : JsValue} {c : Committed}
    (h : commitPomRxReceipt N R receipt = .ok c) :
    ReferencesSurvive N receipt ↔
      isReference c.receipt.agentRef = true ∧ isReference c.receipt.subjectRef = true := by
  have hread := validatePomRxReceipt_eq_ok_iff.mp (commitPomRxReceipt_eq_ok.mp h).1
  obtain ⟨agent, hagent, -, hagentNfc⟩ := hread.agentRef
  obtain ⟨subject, hsubject, -, hsubjectNfc⟩ := hread.subjectRef
  simp only [ReferencesSurvive, List.forall_mem_cons, hagent, hsubject, hagentNfc, hsubjectNfc,
    Option.some.injEq, JsValue.string.injEq, forall_eq', List.not_mem_nil, false_implies,
    implies_true, and_true]

/-- The verifier accepts a created envelope, with the same receipt hash, exactly when the
    check of `agent_ref` and `subject_ref` also accepts their normal forms. -/
theorem verifyPomRxSourceEnvelope_create_iff (N : Normalization) (R : Runtime)
    (K : KeyProvider Key PublicKey) [Std.TransCmp R.localeCompare] (hdate : R.date.ReadsIso)
    (hK : K.Lawful) (receipt : JsValue) (key : Key) (envelope : SourceEnvelope)
    (h : createPomRxSourceEnvelope N R K receipt key = .ok envelope) :
    (∃ verified, verifyPomRxSourceEnvelope N R K envelope.toJs = .ok verified ∧
        verified.receiptHash = envelope.receiptHash) ↔ ReferencesSurvive N receipt := by
  obtain ⟨c, k, signature, hc, -, -, -, rfl⟩ := createPomRxSourceEnvelope_eq_ok h
  rw [verifyPomRxSourceEnvelope_create hdate hK h, referencesSurvive_iff hc]

end Envelopes


/-! ## An envelope whose receipt is rejected after normalization -/

/-- The keys of the examples. -/
inductive SampleKey where
  | source
  | witness
  deriving DecidableEq

/-- `len` bytes, written as one number. -/
def bytesOf (len n : ℕ) : List UInt8 :=
  (List.range len).map fun i => (n / 256 ^ (len - 1 - i) % 256).toUInt8

/-- The Ed25519 public keys of the seeds `00 … 1f` and `20 … 3f`. -/
def SampleKey.spki : SampleKey → List UInt8
  | .source => bytesOf 44
      0x302a300506032b657003210003a107bff3ce10be1d70dd18e74bc09967e4d6309ba50d5f1ddc8664125531b8
  | .witness => bytesOf 44
      0x302a300506032b657003210029acbae141bccaf0b22e1a94d34d0bc7361e526d0bfe12c89794bc9322966dd7

def SampleKey.ofSpki (bytes : List UInt8) : Except JsString SampleKey :=
  if bytes = SampleKey.spki .source then .ok .source
  else if bytes = SampleKey.spki .witness then .ok .witness
  else .error (js "error:1E08010C:DECODER routines::unsupported")

/-- Ed25519 with these keys on the messages of a table of signatures. -/
def tableKeys (signatures : List (SampleKey × List UInt8 × List UInt8)) :
    KeyProvider SampleKey SampleKey where
  createPublicKey key := .ok key
  isEd25519 _ := true
  exportSpki := SampleKey.spki
  importSpki := SampleKey.ofSpki
  sign m key :=
    match signatures.find? fun e => e.1 = key ∧ e.2.1 = m with
    | some e => .ok e.2.2
    | none => .error (js "the message is not in the table")
  verify m key s := (key, m, s) ∈ signatures

theorem SampleKey.spki_ne : SampleKey.spki .witness ≠ SampleKey.spki .source := by decide

theorem tableKeys_lawful {signatures : List (SampleKey × List UInt8 × List UInt8)}
    (hlen : ∀ e ∈ signatures, e.2.2.length = 64) : (tableKeys signatures).Lawful where
  length_exportSpki k _ := by cases k <;> rfl
  importSpki_exportSpki k _ := by
    show SampleKey.ofSpki k.spki = .ok k
    cases k with
    | source => rw [SampleKey.ofSpki, if_pos rfl]
    | witness => rw [SampleKey.ofSpki, if_neg SampleKey.spki_ne, if_pos rfl]
  length_sign key k m s _ _ hs := by
    simp only [tableKeys] at hs
    split at hs
    · rename_i e he
      cases hs
      exact hlen e (List.mem_of_find?_eq_some he)
    · cases hs
  verify_sign key k m s hk _ hs := by
    cases hk
    simp only [tableKeys, decide_eq_true_eq] at hs ⊢
    split at hs
    · rename_i e he
      cases hs
      have hfits := List.find?_some he
      simp only [decide_eq_true_eq] at hfits
      obtain ⟨rfl, rfl⟩ := hfits
      exact List.mem_of_find?_eq_some he
    · cases hs

/-- SHA-256, the reader of ISO texts and the root collation. -/
def sampleRuntime : Runtime := ⟨strictSha256, Date.isoReader, rootCompare⟩

instance instTransCmpSample : Std.TransCmp sampleRuntime.localeCompare :=
  inferInstanceAs (Std.TransCmp rootCompare)

theorem sampleRuntime_readsIso : sampleRuntime.date.ReadsIso := Date.isoReader_readsIso

/-- A text of 64 equal digits. -/
def hashOf (u : UInt16) : JsValue := .string (List.replicate 64 u)

/-- An allow preflight receipt for an agent. -/
def samplePreflight (agentRef : JsString) (occurredAt : JsString) : JsValue :=
  .object [(js "schema_version", .string POM_RX_SCHEMA_VERSION),
    (js "receipt_id", .string (js "receipt-preflight-0001")),
    (js "run_id", .string (js "run-2026-06-01-0001")),
    (js "phase", .string (js "preflight")), (js "outcome", .string (js "allow")),
    (js "agent_ref", .string agentRef), (js "subject_ref", .string (js "subject")),
    (js "method_hash", hashOf 0x61), (js "policy_hash", hashOf 0x62),
    (js "input_commitment", hashOf 0x63), (js "action_commitment", hashOf 0x64),
    (js "assertions", .array [.object [(js "rule_id", .string (js "limits.daily")),
      (js "rule_hash", hashOf 0x65), (js "result", .string (js "pass")),
      (js "proof_mode", .string (js "commitment")), (js "evidence_hash", hashOf 0x66)]]),
    (js "previous_receipt_hash", .null), (js "occurred_at", .string occurredAt),
    (js "source_key_id", .string (js "ed25519-a050837d85070582ccf7394b0988847c"))]

/-- The source key's signatures of two receipts: of the agent `agent`, and of an agent
    whose reference is 129 letters U+0958. -/
def sampleSignatures : List (SampleKey × List UInt8 × List UInt8) :=
  [(.source, utf8Encode (js "swisstokint:pom-rx-source:v1:8af5543bbae8b894833e01951b7b6a12c3a809cfbc97d73b3f856aa800ada4ec"),
      bytesOf 64 0xf3c182e5e8db2d54aa954f1055bae357c7028738c3a4ff562321f0fbfbedc11df78082e043abffee19ac6b5f31e82ede600ddf127d075e579c810cb90f181706),
    (.source, utf8Encode (js "swisstokint:pom-rx-source:v1:fe4ec54fa4984f6c55239982629ea51f0d6a58a9812d0b136ae2ef4a08c3f413"),
      bytesOf 64 0x4b6886e88c5e6b1d272a50071edeef52e0e1d7a549146411397c9b8861da7179049ea32b5453d957fd0a8526211aad0d9b7bd86950180bd9acbf410a70f0c408)]

theorem sampleSignatures_length : ∀ e ∈ sampleSignatures, e.2.2.length = 64 := by decide

/-- The envelopes of both are created. They are evaluated together, since the receipts differ in
    one field only. -/
theorem createPomRxSourceEnvelope_samples :
    (createPomRxSourceEnvelope devanagari sampleRuntime (tableKeys sampleSignatures)
      (samplePreflight (js "agent") (js "2026-06-01T10:00:00.000Z")) .source).isOk = true ∧
    (createPomRxSourceEnvelope devanagari sampleRuntime (tableKeys sampleSignatures)
      (samplePreflight (List.replicate 129 0x0958) (js "2026-06-01T10:00:00.000Z")) .source).isOk =
        true := by
  decide +kernel

theorem verifyPomRxSourceEnvelope_create_agent :
    ∃ envelope, createPomRxSourceEnvelope devanagari sampleRuntime (tableKeys sampleSignatures)
        (samplePreflight (js "agent") (js "2026-06-01T10:00:00.000Z")) .source = .ok envelope ∧
      ∃ verified, verifyPomRxSourceEnvelope devanagari sampleRuntime (tableKeys sampleSignatures)
          envelope.toJs = .ok verified ∧ verified.receiptHash = envelope.receiptHash := by
  obtain ⟨envelope, h⟩ := isOk_iff.mp createPomRxSourceEnvelope_samples.1
  refine ⟨envelope, h, (verifyPomRxSourceEnvelope_create_iff _ _ _ sampleRuntime_readsIso
    (tableKeys_lawful sampleSignatures_length) _ _ _ h).mpr ?_⟩
  intro field hfield s hs
  simp only [List.mem_cons, List.not_mem_nil, or_false] at hfield
  rcases hfield with rfl | rfl
  · cases hs
    decide
  · cases hs
    decide

/-- 129 letters U+0958 are a reference; their normal form has 258 code units and is none. -/
theorem not_verifyPomRxSourceEnvelope_create_qa :
    ¬ ∀ envelope, createPomRxSourceEnvelope devanagari sampleRuntime (tableKeys sampleSignatures)
        (samplePreflight (List.replicate 129 0x0958) (js "2026-06-01T10:00:00.000Z")) .source =
          .ok envelope →
      ∃ verified, verifyPomRxSourceEnvelope devanagari sampleRuntime (tableKeys sampleSignatures)
          envelope.toJs = .ok verified ∧ verified.receiptHash = envelope.receiptHash := by
  intro hall
  obtain ⟨envelope, h⟩ := isOk_iff.mp createPomRxSourceEnvelope_samples.2
  have hformat := (verifyPomRxSourceEnvelope_create sampleRuntime_readsIso
    (tableKeys_lawful sampleSignatures_length) h).mp (hall envelope h)
  obtain ⟨c, k, signature, hc, -, -, -, rfl⟩ := createPomRxSourceEnvelope_eq_ok h
  have hsurvive := (referencesSurvive_iff hc).mpr hformat
  have hlong := hsurvive (js "agent_ref") (by simp) (List.replicate 129 0x0958) rfl
  exact absurd hlong (by decide +kernel)

end OpenRisk.PomRx
