import OpenRisk.Guard.Allowance
import OpenRisk.Guard.Calldata
import OpenRisk.Guard.CanonicalAgreement

/-!
# Evidence of decoded effects

Model of `wallet-guard/decoded-effect-evidence.mjs`. The evidence repeats the fields of a
normalized intent, checks which of them are `null` against the class of the request, and commits
to them with `canonicalizePayload`, which bounds every string.

Results:
* `actionReady_normalizeAction`: the nullable fields of a normalized intent fit its class.
* `decodedEffect_iff`: the evidence is derived exactly when the chain identifier and the value of
  the transaction are short enough for the canonicalizer.
-/

namespace OpenRisk.Guard

open Text Sdk

/-! ## Model -/

def WALLET_GUARD_DECODED_EFFECT_SCHEMA_VERSION : JsString := js "wallet_guard_decoded_effect/0.1"

def WALLET_GUARD_DECODED_EFFECT_COMMIT_DOMAIN : JsString :=
  js "swisstokint:pom-rx-wallet-guard-decoded-effect:v1:"

/-- What deriving the evidence throws: an error of this module, of the intent module or of
    `canonicalizePayload`. -/
inductive EffectFailure where
  | effect (code message : JsString)
  | intent (e : IntentFailure)
  | payload (e : PayloadError)

/-- The values of `KNOWN_CLASSES`, and what stands for a class that it does not have. -/
inductive SemanticClass where
  | nativeTransferRequest
  | erc20TransferRequest
  | erc20AllowanceRequest
  | operatorApprovalRequest
  | permitAuthorizationRequest
  | unknownRequestSemantics
  deriving DecidableEq

def SemanticClass.text : SemanticClass → JsString
  | .nativeTransferRequest => js "native_transfer_request"
  | .erc20TransferRequest => js "erc20_transfer_request"
  | .erc20AllowanceRequest => js "erc20_allowance_request"
  | .operatorApprovalRequest => js "operator_approval_request"
  | .permitAuthorizationRequest => js "permit_authorization_request"
  | .unknownRequestSemantics => js "unknown_request_semantics"

/-- `KNOWN_CLASSES.get(intent.request_class) ?? 'unknown_request_semantics'`. -/
def KNOWN_CLASSES : RequestClass → SemanticClass
  | .nativeTransfer => .nativeTransferRequest
  | .erc20Transfer => .erc20TransferRequest
  | .erc20Approve => .erc20AllowanceRequest
  | .setApprovalForAll => .operatorApprovalRequest
  | .permitEip2612 => .permitAuthorizationRequest
  | .permit2Single => .permitAuthorizationRequest
  | _ => .unknownRequestSemantics

def inconsistent (message : String) : Except EffectFailure Unit :=
  .error (.effect (js "POMRX_WG_EFFECT_E_INTENT_INCONSISTENT") (js message))

/-- `assertSemanticConsistency(intent, semanticClass)`. -/
def assertSemanticConsistency (intent : Intent) (semanticClass : SemanticClass) :
    Except EffectFailure Unit :=
  match intent.requestClass with
  | .nativeTransfer =>
    if intent.target = none ∨ intent.recipient ≠ intent.target ∨ intent.calldataSha256 = none ∨
        intent.typedDataSha256 ≠ none ∨ ¬ (intent.spender = none ∧
          intent.requestedAllowance = none ∧ intent.tokenAmount = none ∧
          intent.requestedOperatorApproval = none ∧ intent.typedDataOwner = none ∧
          intent.typedDataDomainChainId = none ∧ intent.typedDataVerifyingContract = none) then
      inconsistent "native transfer intent is internally inconsistent"
    else .ok ()
  | .erc20Transfer =>
    if intent.target = none ∨ intent.recipient = none ∨ intent.tokenAmount = none ∨
        intent.calldataSha256 = none ∨ intent.typedDataSha256 ≠ none ∨ ¬ (intent.spender = none ∧
          intent.requestedAllowance = none ∧ intent.requestedOperatorApproval = none ∧
          intent.typedDataOwner = none ∧ intent.typedDataDomainChainId = none ∧
          intent.typedDataVerifyingContract = none) then
      inconsistent "ERC-20 transfer intent is internally inconsistent"
    else .ok ()
  | .erc20Approve =>
    if intent.target = none ∨ intent.spender = none ∨ intent.requestedAllowance = none ∨
        intent.calldataSha256 = none ∨ intent.typedDataSha256 ≠ none ∨ ¬ (intent.recipient = none ∧
          intent.tokenAmount = none ∧ intent.requestedOperatorApproval = none ∧
          intent.typedDataOwner = none ∧ intent.typedDataDomainChainId = none ∧
          intent.typedDataVerifyingContract = none) then
      inconsistent "ERC-20 approval intent is internally inconsistent"
    else .ok ()
  | .setApprovalForAll =>
    if intent.target = none ∨ intent.spender = none ∨ intent.requestedOperatorApproval = none ∨
        intent.calldataSha256 = none ∨ intent.typedDataSha256 ≠ none ∨ ¬ (intent.recipient = none ∧
          intent.requestedAllowance = none ∧ intent.tokenAmount = none ∧
          intent.typedDataOwner = none ∧ intent.typedDataDomainChainId = none ∧
          intent.typedDataVerifyingContract = none) then
      inconsistent "operator approval intent is internally inconsistent"
    else .ok ()
  | .permitEip2612 =>
    if intent.target = none ∨ intent.spender = none ∨ intent.requestedAllowance = none ∨
        intent.typedDataOwner ≠ some intent.account ∨ intent.typedDataSha256 = none ∨
        intent.calldataSha256 ≠ none ∨ intent.typedDataDomainChainId = none ∨
        intent.typedDataVerifyingContract ≠ intent.target ∨ ¬ (intent.recipient = none ∧
          intent.tokenAmount = none ∧ intent.requestedOperatorApproval = none) then
      inconsistent "EIP-2612 Permit intent is internally inconsistent"
    else .ok ()
  | .permit2Single =>
    if intent.target = none ∨ intent.spender = none ∨ intent.requestedAllowance = none ∨
        intent.typedDataSha256 = none ∨ intent.calldataSha256 ≠ none ∨
        intent.typedDataDomainChainId = none ∨ intent.typedDataVerifyingContract = none ∨
        intent.typedDataOwner ≠ none ∨ ¬ (intent.recipient = none ∧ intent.tokenAmount = none ∧
          intent.requestedOperatorApproval = none) then
      inconsistent "Permit2 intent is internally inconsistent"
    else .ok ()
  | _ =>
    if semanticClass ≠ .unknownRequestSemantics then
      inconsistent "unknown intent class received known semantics"
    else .ok ()

/-- A text, or `null`. -/
def textOrNull (value : Option JsString) : JsValue :=
  match value with
  | some s => .string s
  | none => .null

/-- A boolean, or `null`. -/
def boolOrNull (value : Option Bool) : JsValue :=
  match value with
  | some b => .bool b
  | none => .null

/-- The fields of `payload`. -/
def effectFields (intent : Intent) (intentCommitment : HashText) : List (JsString × JsValue) :=
  let semanticClass := KNOWN_CLASSES intent.requestClass
  let known := semanticClass ≠ .unknownRequestSemantics
  [(js "schema_version", .string WALLET_GUARD_DECODED_EFFECT_SCHEMA_VERSION),
    (js "request_id", .string intent.requestId),
    (js "intent_commitment", .string intentCommitment.val),
    (js "origin", .string intent.origin), (js "chain_id", .string intent.chainId.val),
    (js "account", .string intent.account.val), (js "rpc_method", .string intent.rpcMethod),
    (js "request_class", .string intent.requestClass.text),
    (js "semantic_status", .string (if known then js "known" else js "unknown")),
    (js "semantic_class", .string semanticClass.text),
    (js "target", textOrNull (intent.target.map (·.val))),
    (js "spender", textOrNull (intent.spender.map (·.val))),
    (js "recipient", textOrNull (intent.recipient.map (·.val))),
    (js "native_value", .string intent.nativeValue.val),
    (js "requested_allowance", textOrNull (intent.requestedAllowance.map (·.val))),
    (js "token_amount", textOrNull (intent.tokenAmount.map (·.val))),
    (js "requested_operator_approval", boolOrNull intent.requestedOperatorApproval),
    (js "typed_data_owner", textOrNull (intent.typedDataOwner.map (·.val))),
    (js "typed_data_domain_chain_id", textOrNull (intent.typedDataDomainChainId.map (·.val))),
    (js "typed_data_verifying_contract",
      textOrNull (intent.typedDataVerifyingContract.map (·.val))),
    (js "calldata_sha256", textOrNull (intent.calldataSha256.map (·.val))),
    (js "typed_data_sha256", textOrNull (intent.typedDataSha256.map (·.val))),
    (js "simulation_required", .bool intent.simulationRequired),
    (js "recognized_effect_fields_proved", .bool known),
    (js "complete_semantic_projection_proved", .bool false),
    (js "target_code_semantics_proved", .bool false), (js "normalized_intent_bound", .bool true),
    (js "external_state_proved", .bool false), (js "external_effect_proved", .bool false),
    (js "reference_only", .bool true)]

/-- `deriveWalletGuardDecodedEffectEvidence(intent)`, where `isLocallyNormalized` says whether the
    intent is in `normalizedIntentBrand`. -/
def deriveWalletGuardDecodedEffectEvidence (U : UrlParser) (N : Normalization) (S : Hash)
    (isLocallyNormalized : Bool) (intent : Intent) : Except EffectFailure JsValue := do
  if !isLocallyNormalized then
    .error (.effect (js "POMRX_WG_EFFECT_E_LOCAL_INTENT_REQUIRED")
      (js "decoded effect evidence requires the exact locally normalized Wallet Guard intent object"))
  else
    let intentCommitment ← (commitWalletGuardIntent U S intent).mapError .intent
    assertSemanticConsistency intent (KNOWN_CLASSES intent.requestClass)
    let payload := effectFields intent intentCommitment
    let canonicalEffect ← (canonicalizePayload N (.object payload)).mapError .payload
    let effectCommitment :=
      sha256Hex S (WALLET_GUARD_DECODED_EFFECT_COMMIT_DOMAIN ++ canonicalEffect)
    .ok (.object (payload ++ [(js "canonical_effect", JsValue.string canonicalEffect),
      (js "effect_commitment", JsValue.string effectCommitment.val)]))

/-! ## Lengths of numerals -/

theorem length_radixText_le_iff {b k n : ℕ} (h1 : 1 < b) (hk : 0 < k) :
    (Json.radixText b n).length ≤ k ↔ n < b ^ k := by
  unfold Json.radixText
  split_ifs with hn
  · rw [hn]
    exact iff_of_true hk (Nat.pow_pos (by omega))
  · rw [List.length_map, List.length_reverse]
    exact Nat.digits_length_le_iff h1 n

theorem length_ofNat_le_iff {n k : ℕ} (hk : 0 < k) :
    (Decimal.ofNat n).val.length ≤ k ↔ n < 10 ^ k :=
  length_radixText_le_iff (by norm_num) hk

theorem length_chainId_le_iff {n k : ℕ} (hk : 0 < k) :
    (ChainId.ofNat n).val.length ≤ k + 2 ↔ n < 16 ^ k := by
  have hlength : (ChainId.ofNat n).val.length = (Json.radixText 16 n).length + 2 := rfl
  rw [hlength, ← length_radixText_le_iff (by norm_num) hk]
  omega

theorem length_uint256 {n : ℕ} (h : n < 2 ^ 256) : (Decimal.ofNat n).val.length ≤ 78 :=
  (length_ofNat_le_iff (by norm_num)).mpr (h.trans (by norm_num))

/-! ## What the decoders return -/

/-- The amounts of an action are 256-bit numbers, and so is the chain of its typed data. -/
structure AmountsWithin (a : IntentAction) : Prop where
  allowance : ∀ d, a.requestedAllowance = some d → d.val.length ≤ 78
  amount : ∀ d, a.tokenAmount = some d → d.val.length ≤ 78
  chain : ∀ c, a.typedDataDomainChainId = some c → c.val.length ≤ 66

section Decoders

variable {N : Normalization} {S : Hash}

theorem decodeTransactionCalldata_cases {raw : JsString} {d : DecodedCalldata}
    (h : decodeTransactionCalldata S raw = .ok d) :
    (∃ hash, d = ⟨.nativeTransfer, none, none, none, none, none, none, hash, false⟩) ∨
      (∃ (e : CalldataEffect) (hash : HashText), d = e.decoded hash) ∨
      ∃ selector hash, d = ⟨.unknownCalldata, some selector, none, none, none, none, none, hash, true⟩ := by
  by_cases hraw : HEX_DATA_PATTERN raw = true
  · rw [decodeTransactionCalldata_eq hraw] at h
    split_ifs at h with hempty hshort hknown hlength
    · exact .inl ⟨_, (Except.ok.inj h).symm⟩
    · cases h
    · cases h
    · obtain ⟨e, -, -, -, hd⟩ := (decodeTwoArguments_eq_ok (List.contains_iff_mem.mp hknown)).mp h
      exact .inr (.inl ⟨e, _, hd⟩)
    · exact .inr (.inr ⟨_, _, (Except.ok.inj h).symm⟩)
  · rw [decodeTransactionCalldata, normalizeHexData, if_neg hraw] at h
    cases h

/-- The value that a transaction asks for. -/
def transactionValue (params : List JsValue) : ℕ :=
  match params with
  | [.object es] =>
    match es.lookup (js "value") with
    | some (.string s) => hexNumber s
    | _ => 0
  | _ => 0

theorem normalizeQuantity_value {es : List (JsString × JsValue)} {d : Decimal}
    (h : normalizeQuantity (some (orElse (es.lookup (js "value")) (.string (js "0x0"))))
      (js "transaction value") = .ok d) :
    d = .ofNat (transactionValue [.object es]) := by
  have hzero : hexNumber (js "0x0") = 0 := by decide
  unfold transactionValue
  dsimp only
  cases hvalue : es.lookup (js "value") with
  | none =>
    rw [hvalue] at h
    cases h
    rw [hzero]
  | some v =>
    rw [hvalue] at h
    cases v with
    | null =>
      cases h
      rw [hzero]
    | string s =>
      simp only [orElse, normalizeQuantity] at h
      split_ifs at h
      cases h
      rfl
    | _ => cases h

theorem normalizeOptionalDomainChainId_bound {domain : JsValue} {o : Option ChainId}
    (h : normalizeOptionalDomainChainId domain = .ok o) : ∀ c, o = some c → c.val.length ≤ 66 := by
  unfold normalizeOptionalDomainChainId at h
  split at h
  · cases h
    intro c hc
    cases hc
  · obtain ⟨d, hd, h⟩ := bind_eq_ok.mp h
    cases h
    obtain ⟨n, hn, rfl⟩ := normalizeNumberish_lt hd
    intro c hc
    cases hc
    have hnumber : decimalNumber (Decimal.ofNat n).val = n := decimalNumber_decimal n
    rw [hnumber, length_chainId_le_iff (k := 64) (by norm_num)]
    exact hn.trans_eq (by norm_num)

/-- What decoding typed data returns: a permit, a Permit2 permit, or typed data that is not
    understood. -/
theorem decodeTypedData_cases {raw : JsValue} {d : DecodedTypedData}
    (h : decodeTypedData N S raw = .ok d) :
    (∀ c, d.typedDataDomainChainId = some c → c.val.length ≤ 66) ∧
    ((∃ contract spender n owner hash chain, n < 2 ^ 256 ∧ d = ⟨.permitEip2612, some contract,
        some spender, some (.ofNat n), some owner, hash, some chain, some contract, true⟩) ∨
      (∃ token spender n hash chain contract, n < 2 ^ 256 ∧ d = ⟨.permit2Single, some token,
        some spender, some (.ofNat n), none, hash, some chain, some contract, true⟩) ∨
      ∃ requestClass hash chain contract, KNOWN_CLASSES requestClass = .unknownRequestSemantics ∧
        d = ⟨requestClass, none, none, none, none, hash, chain, contract, true⟩) := by
  unfold decodeTypedData at h
  obtain ⟨typedData, -, h⟩ := bind_eq_ok.mp h
  obtain ⟨⟨primaryType, domain, message⟩, -, h⟩ := bind_eq_ok.mp h
  obtain ⟨canonical, -, h⟩ := bind_eq_ok.mp h
  obtain ⟨chain, hchain, h⟩ := bind_eq_ok.mp h
  obtain ⟨contract, -, h⟩ := bind_eq_ok.mp h
  have hbound := normalizeOptionalDomainChainId_bound (mapError_eq_ok.mp hchain)
  rw [mapError_eq_ok, classifyTypedData] at h
  split_ifs at h
  · unfold decodePermit at h
    split_ifs at h with hmissing
    · cases h
    · obtain ⟨-, -, h⟩ := bind_eq_ok.mp h
      obtain ⟨-, -, h⟩ := bind_eq_ok.mp h
      obtain ⟨spender, -, h⟩ := bind_eq_ok.mp h
      obtain ⟨allowance, hallowance, h⟩ := bind_eq_ok.mp h
      obtain ⟨owner, -, h⟩ := bind_eq_ok.mp h
      cases h
      obtain ⟨n, hn, rfl⟩ := normalizeNumberish_lt hallowance
      rw [not_or] at hmissing
      obtain ⟨c, rfl⟩ := Option.ne_none_iff_exists'.mp hmissing.1
      obtain ⟨a, rfl⟩ := Option.ne_none_iff_exists'.mp hmissing.2
      exact ⟨hbound, .inl ⟨a, spender, n, owner, _, c, hn, rfl⟩⟩
  · unfold decodePermit2 at h
    split_ifs at h with hmissing
    · cases h
    · obtain ⟨-, -, h⟩ := bind_eq_ok.mp h
      obtain ⟨-, -, h⟩ := bind_eq_ok.mp h
      obtain ⟨-, -, h⟩ := bind_eq_ok.mp h
      obtain ⟨token, -, h⟩ := bind_eq_ok.mp h
      obtain ⟨spender, -, h⟩ := bind_eq_ok.mp h
      obtain ⟨amount, hamount, h⟩ := bind_eq_ok.mp h
      cases h
      obtain ⟨n, hn, rfl⟩ := normalizeNumberish_lt hamount
      rw [not_or] at hmissing
      obtain ⟨c, rfl⟩ := Option.ne_none_iff_exists'.mp hmissing.1
      obtain ⟨a, rfl⟩ := Option.ne_none_iff_exists'.mp hmissing.2
      exact ⟨hbound, .inr (.inl ⟨token, spender, n, _, c, a, hn.trans (by norm_num), rfl⟩)⟩
  · cases h
    refine ⟨hbound, .inr (.inr ⟨_, _, chain, contract, ?_, rfl⟩)⟩
    split_ifs <;> rfl

/-- The nullable fields of an intent with this action and account fit its class, and its amounts
    are short. -/
structure ActionReady (account : Address) (a : IntentAction) : Prop where
  consistent : ∀ intent : Intent, intent.toIntentAction = a → intent.account = account →
    assertSemanticConsistency intent (KNOWN_CLASSES intent.requestClass) = .ok ()
  amounts : AmountsWithin a

theorem actionReady_sendTransaction {params : List JsValue} {account : Address}
    {action : IntentAction} (h : normalizeSendTransaction S params account = .ok action) :
    ActionReady account action ∧ action.nativeValue = .ofNat (transactionValue params) := by
  unfold normalizeSendTransaction at h
  split at h
  · obtain ⟨-, -, h⟩ := bind_eq_ok.mp h
    split_ifs at h
    · cases h
    · obtain ⟨sender, -, h⟩ := bind_eq_ok.mp h
      split_ifs at h
      · cases h
      · obtain ⟨target, -, h⟩ := bind_eq_ok.mp h
        obtain ⟨value, hvalue, h⟩ := bind_eq_ok.mp h
        obtain ⟨data, -, h⟩ := bind_eq_ok.mp h
        obtain ⟨decoded, hdecoded, h⟩ := bind_eq_ok.mp h
        have hnative := normalizeQuantity_value (mapError_eq_ok.mp hvalue)
        have hcases := decodeTransactionCalldata_cases (mapError_eq_ok.mp hdecoded)
        cases h
        refine ⟨?_, hnative⟩
        rcases hcases with ⟨hash, rfl⟩ | ⟨e, hash, rfl⟩ | ⟨selector, hash, rfl⟩
        · refine ⟨?_, ⟨by simp, by simp, by simp⟩⟩
          intro intent hintent _
          simp [assertSemanticConsistency, hintent]
        · cases e with
          | approve spender x =>
            refine ⟨?_, ⟨?_, by simp [CalldataEffect.decoded], by simp⟩⟩
            · intro intent hintent _
              simp [assertSemanticConsistency, hintent, CalldataEffect.decoded]
            · rintro d ⟨⟩
              exact length_uint256 x.isLt
          | transfer recipient x =>
            refine ⟨?_, ⟨by simp [CalldataEffect.decoded], ?_, by simp⟩⟩
            · intro intent hintent _
              simp [assertSemanticConsistency, hintent, CalldataEffect.decoded]
            · rintro d ⟨⟩
              exact length_uint256 x.isLt
          | approvalForAll operator approved =>
            refine ⟨?_, ⟨by simp [CalldataEffect.decoded], by simp [CalldataEffect.decoded], by simp⟩⟩
            intro intent hintent _
            simp [assertSemanticConsistency, hintent, CalldataEffect.decoded]
        · refine ⟨?_, ⟨by simp, by simp, by simp⟩⟩
          intro intent hintent _
          simp [assertSemanticConsistency, hintent, KNOWN_CLASSES]
  · cases h
  · cases h

theorem actionReady_typedData {params : List JsValue} {account : Address} {action : IntentAction}
    (h : normalizeTypedDataRequest N S params account = .ok action) :
    ActionReady account action ∧ action.nativeValue = .ofNat 0 := by
  unfold normalizeTypedDataRequest at h
  split at h
  · obtain ⟨requested, -, h⟩ := bind_eq_ok.mp h
    split_ifs at h
    · cases h
    · obtain ⟨decoded, hdecoded, h⟩ := bind_eq_ok.mp h
      split_ifs at h with howner
      · cases h
      · obtain ⟨hchain, hcases⟩ := decodeTypedData_cases (mapError_eq_ok.mp hdecoded)
        cases h
        refine ⟨?_, rfl⟩
        rcases hcases with ⟨contract, spender, n, owner, hash, chain, hn, rfl⟩ |
          ⟨token, spender, n, hash, chain, contract, hn, rfl⟩ |
          ⟨requestClass, hash, chain, contract, hclass, rfl⟩
        · have howner : owner = account := by simpa using howner
          refine ⟨?_, ⟨?_, by simp, hchain⟩⟩
          · intro intent hintent haccount
            simp [assertSemanticConsistency, hintent, haccount, howner]
          · rintro d ⟨⟩
            exact length_uint256 hn
        · refine ⟨?_, ⟨?_, by simp, hchain⟩⟩
          · intro intent hintent _
            simp [assertSemanticConsistency, hintent]
          · rintro d ⟨⟩
            exact length_uint256 hn
        · refine ⟨?_, ⟨by simp, by simp, hchain⟩⟩
          intro intent hintent _
          cases requestClass with
          | permit2BatchUnknown | unknownCalldata | unknownTypedData | genericSignature |
            unsupportedRpc => simp [assertSemanticConsistency, hintent, KNOWN_CLASSES]
          | _ => cases hclass
  · cases h

theorem actionReady_raw (account : Address) {requestClass : RequestClass}
    (hclass : requestClass = .genericSignature ∨ requestClass = .unsupportedRpc)
    (calldataSha256 typedDataSha256 : Option HashText) :
    ActionReady account (opaqueAction requestClass calldataSha256 typedDataSha256) := by
  refine ⟨?_, ⟨by simp [opaqueAction], by simp [opaqueAction], by simp [opaqueAction]⟩⟩
  intro intent hintent _
  rcases hclass with rfl | rfl
  · simp [assertSemanticConsistency, hintent, opaqueAction, KNOWN_CLASSES]
  · simp [assertSemanticConsistency, hintent, opaqueAction, KNOWN_CLASSES]

/-- The native value that a request asks for. -/
def requestedValue (method : JsString) (params : List JsValue) : ℕ :=
  if method = js "eth_sendTransaction" then transactionValue params else 0

/-- The nullable fields of a normalized action fit its class. -/
theorem actionReady_normalizeAction {method : JsString} {params : List JsValue} {account : Address}
    {action : IntentAction} (h : normalizeAction N S method params account = .ok action) :
    ActionReady account action ∧ action.nativeValue = .ofNat (requestedValue method params) := by
  unfold normalizeAction at h
  unfold requestedValue
  split_ifs at h ⊢ with hsend htyped hsign
  · exact actionReady_sendTransaction h
  · exact actionReady_typedData h
  · unfold normalizeGenericSignature at h
    split_ifs at h
    · cases h
    · split at h
      · cases h
        exact ⟨actionReady_raw account (.inl rfl) _ _, rfl⟩
      · cases h
  · unfold normalizeUnsupportedRpc at h
    split at h
    · cases h
      exact ⟨actionReady_raw account (.inr rfl) _ _, rfl⟩
    · cases h

end Decoders

/-! ## Sizes -/

theorem isPlainUnit_of_isHexUnit {u : UInt16} (h : isHexUnit u = true) : isPlainUnit u = true := by
  simp only [isPlainUnit, Bool.and_eq_true, decide_eq_true_eq]
  unfold isHexUnit Json.hexValue at h
  split_ifs at h
  · omega
  · omega
  · omega
  · cases h

theorem plain_of_hasHexMark {s : JsString} (hmark : hasHexMark s = true)
    (h : (s.drop 2).all isHexUnit = true) : ∀ u ∈ s, isPlainUnit u = true := by
  intro u hu
  rw [hasHexMark, decide_eq_true_eq] at hmark
  rw [← List.take_append_drop 2 s, hmark, List.mem_append] at hu
  rcases hu with hu | hu
  · rw [List.mem_cons, List.mem_singleton] at hu
    rcases hu with rfl | rfl <;> decide
  · exact isPlainUnit_of_isHexUnit (List.all_eq_true.mp h u hu)

theorem plainWithin_address (a : Address) : PlainWithin 42 a.val := by
  have hpattern := a.property.1
  rw [ADDRESS_PATTERN, Bool.and_eq_true, Bool.and_eq_true] at hpattern
  refine ⟨plain_of_hasHexMark hpattern.1.1 hpattern.2, ?_⟩
  have hlength := of_decide_eq_true hpattern.1.2
  rw [List.length_drop] at hlength
  omega

theorem plainWithin_chainId {c : ChainId} {n : ℕ} (h : c.val.length ≤ n) : PlainWithin n c.val := by
  obtain ⟨s, m, rfl⟩ := c
  exact ⟨plain_of_hasHexMark rfl (List.all_eq_true.mpr (isHexUnit_radixText m)), h⟩

theorem plainWithin_decimal {d : Decimal} {n : ℕ} (h : d.val.length ≤ n) : PlainWithin n d.val := by
  obtain ⟨s, m, rfl⟩ := d
  exact ⟨fun u hu => isPlainUnit_of_isDigit (Json.decimal_isDigit m u hu), h⟩

theorem plainWithin_requestId {s : JsString} (h : REQUEST_ID_PATTERN s = true) :
    PlainWithin 128 s := by
  cases s with
  | nil => cases h
  | cons u rest =>
    simp only [REQUEST_ID_PATTERN, Bool.and_eq_true, decide_eq_true_eq, List.all_eq_true] at h
    obtain ⟨⟨⟨hu, hrest⟩, -⟩, hlength⟩ := h
    refine .cons (isPlainUnit_of_isKeyUnit ?_) ⟨fun v hv => isPlainUnit_of_isKeyUnit (hrest v hv), hlength⟩
    simp [isKeyUnit, hu]

theorem plainWithin_rpcMethod {s : JsString} (h : RPC_METHOD_PATTERN s = true) :
    PlainWithin 64 s := by
  simp only [RPC_METHOD_PATTERN, Bool.and_eq_true, decide_eq_true_eq, List.all_eq_true,
    Bool.or_eq_true] at h
  refine ⟨fun u hu => isPlainUnit_of_isKeyUnit ?_, h.1.2⟩
  rcases h.2 u hu with hu | rfl
  · simp [isKeyUnit, hu]
  · decide

section Sizes

variable {N : Normalization}

/-- An ASCII text takes at most six bytes a unit. -/
theorem fits_ascii {s : JsString} {n : ℕ} (h : ∀ u ∈ s, u.toNat < 0x80) (hlength : s.length ≤ n)
    (hn : n ≤ 2048) : Fits N (6 * n + 2) (.string s) where
  clean := hlength.trans hn
  bytes := by
    have hsix : ∀ m ∈ (s.map unitPoint).map escapedBytes, m ≤ 6 := by
      intro m hm
      obtain ⟨c, -, rfl⟩ := List.mem_map.mp hm
      unfold escapedBytes
      split_ifs <;> omega
    have hsum := List.sum_le_card_nsmul _ 6 hsix
    rw [List.length_map, List.length_map, smul_eq_mul] at hsum
    rw [canonicalBytes, normalizeNfc_ascii h, byteLength_quote, codePoints_of_ascii h]
    omega
  nodes := rfl
  flat := rfl

theorem fits_textOrNull {o : Option JsString} {n : ℕ} (h : ∀ s, o = some s → PlainWithin n s)
    (h2 : 2 ≤ n) (hn : n ≤ 2048) : Fits N (n + 2) (textOrNull o) := by
  cases o with
  | none => exact .null (by omega)
  | some s => exact (h s rfl).fits hn

theorem fits_boolOrNull (o : Option Bool) : Fits N 5 (boolOrNull o) := by
  cases o with
  | none => exact .null (by norm_num)
  | some b => exact .bool b

theorem fits_addressOrNull (o : Option Address) : Fits N 44 (textOrNull (o.map (·.val))) := by
  refine fits_textOrNull (fun s hs => ?_) (by norm_num) (by norm_num)
  obtain ⟨a, -, rfl⟩ := Option.map_eq_some_iff.mp hs
  exact plainWithin_address a

theorem fits_hashOrNull (o : Option HashText) : Fits N 66 (textOrNull (o.map (·.val))) := by
  refine fits_textOrNull (fun s hs => ?_) (by norm_num) (by norm_num)
  obtain ⟨h, -, rfl⟩ := Option.map_eq_some_iff.mp hs
  exact plainWithin_hash h

theorem fits_amountOrNull {o : Option Decimal} (h : ∀ d, o = some d → d.val.length ≤ 78) :
    Fits N 80 (textOrNull (o.map (·.val))) := by
  refine fits_textOrNull (fun s hs => ?_) (by norm_num) (by norm_num)
  obtain ⟨d, hd, rfl⟩ := Option.map_eq_some_iff.mp hs
  exact plainWithin_decimal (h d hd)

theorem fits_chainOrNull {o : Option ChainId} (h : ∀ c, o = some c → c.val.length ≤ 66) :
    Fits N 68 (textOrNull (o.map (·.val))) := by
  refine fits_textOrNull (fun s hs => ?_) (by norm_num) (by norm_num)
  obtain ⟨c, hc, rfl⟩ := Option.map_eq_some_iff.mp hs
  exact plainWithin_chainId (h c hc)

theorem plainWithin_requestClass (c : RequestClass) : PlainWithin 32 c.text := by
  cases c <;> exact ⟨List.all_eq_true.mp (by decide), by decide⟩

theorem plainWithin_semanticClass (c : SemanticClass) : PlainWithin 32 c.text := by
  cases c <;> exact ⟨List.all_eq_true.mp (by decide), by decide⟩

/-- What the members of the payload take. -/
theorem fits_effectFields {U : UrlParser} (hU : AsciiOrigins U) {intent : Intent}
    (hvalid : ValidIntent U intent) (hamounts : AmountsWithin intent.toIntentAction)
    (hchain : intent.chainId.val.length ≤ 2048) (hvalue : intent.nativeValue.val.length ≤ 2048)
    (commitment : HashText) :
    List.Forall₂ (fun n e => Fits N n e.2)
      [34, 130, 66, 3074, 2050, 44, 66, 34, 34, 34, 44, 44, 44, 2050, 80, 80, 5, 44, 68, 44, 66, 66,
        5, 5, 5, 5, 5, 5, 5, 5]
      (effectFields intent commitment) := by
  have hversion : PlainWithin 32 WALLET_GUARD_DECODED_EFFECT_SCHEMA_VERSION :=
    ⟨List.all_eq_true.mp rfl, by decide⟩
  have hstatus : ∀ known : Prop, ∀ _ : Decidable known,
      PlainWithin 32 (if known then js "known" else js "unknown") := by
    intro known _
    split_ifs
    · exact ⟨List.all_eq_true.mp (by decide), by decide⟩
    · exact ⟨List.all_eq_true.mp (by decide), by decide⟩
  refine .cons (hversion.fits (by norm_num)) ?_
  refine .cons ((plainWithin_requestId hvalid.requestId).fits (by norm_num)) ?_
  refine .cons ((plainWithin_hash commitment).fits (by norm_num)) ?_
  refine .cons (fits_ascii (hU _ hvalid.origin) hvalid.length.2 (by norm_num)) ?_
  refine .cons ((plainWithin_chainId hchain).fits le_rfl) ?_
  refine .cons ((plainWithin_address intent.account).fits (by norm_num)) ?_
  refine .cons ((plainWithin_rpcMethod hvalid.rpcMethod).fits (by norm_num)) ?_
  refine .cons ((plainWithin_requestClass intent.requestClass).fits (by norm_num)) ?_
  refine .cons ((hstatus _ _).fits (by norm_num)) ?_
  refine .cons ((plainWithin_semanticClass _).fits (by norm_num)) ?_
  refine .cons (fits_addressOrNull _) (.cons (fits_addressOrNull _) (.cons (fits_addressOrNull _) ?_))
  refine .cons ((plainWithin_decimal hvalue).fits le_rfl) ?_
  refine .cons (fits_amountOrNull hamounts.allowance) (.cons (fits_amountOrNull hamounts.amount) ?_)
  refine .cons (fits_boolOrNull _) (.cons (fits_addressOrNull _) ?_)
  refine .cons (fits_chainOrNull hamounts.chain) (.cons (fits_addressOrNull _) ?_)
  refine .cons (fits_hashOrNull _) (.cons (fits_hashOrNull _) ?_)
  exact .cons (.bool _) (.cons (.bool _) (.cons (.bool _) (.cons (.bool _) (.cons (.bool _)
    (.cons (.bool _) (.cons (.bool _) (.cons (.bool _) .nil)))))))

/-- The names of the payload. -/
def EFFECT_KEYS : List JsString :=
  ["schema_version", "request_id", "intent_commitment", "origin", "chain_id", "account",
    "rpc_method", "request_class", "semantic_status", "semantic_class", "target", "spender",
    "recipient", "native_value", "requested_allowance", "token_amount",
    "requested_operator_approval", "typed_data_owner", "typed_data_domain_chain_id",
    "typed_data_verifying_contract", "calldata_sha256", "typed_data_sha256", "simulation_required",
    "recognized_effect_fields_proved", "complete_semantic_projection_proved",
    "target_code_semantics_proved", "normalized_intent_bound", "external_state_proved",
    "external_effect_proved", "reference_only"].map js

theorem effectFields_names (intent : Intent) (commitment : HashText) :
    (effectFields intent commitment).map Prod.fst = EFFECT_KEYS := rfl

theorem isPlainKey_EFFECT_KEYS : ∀ key ∈ EFFECT_KEYS, isPlainKey key = true :=
  List.all_eq_true.mp rfl

/-- The payload is canonicalized exactly when the chain identifier and the native value are within
    the bound of strings. -/
theorem canonicalizePayload_effectFields {U : UrlParser} (hU : AsciiOrigins U) {intent : Intent}
    (hvalid : ValidIntent U intent) (hamounts : AmountsWithin intent.toIntentAction)
    (commitment : HashText) :
    (∃ t, canonicalizePayload N (.object (effectFields intent commitment)) = .ok t) ↔
      intent.chainId.val.length ≤ 2048 ∧ intent.nativeValue.val.length ≤ 2048 := by
  constructor
  · rintro ⟨t, ht⟩
    obtain ⟨-, -, hclean, -⟩ := (canonicalizePayload_eq_ok_iff _ _).mp ht
    rw [Clean, cleanEntries_iff] at hclean
    have hchain := hclean (js "chain_id", .string intent.chainId.val) (by simp [effectFields])
    have hvalue := hclean (js "native_value", .string intent.nativeValue.val) (by simp [effectFields])
    exact ⟨hchain.2, hvalue.2⟩
  · rintro ⟨hchain, hvalue⟩
    have hnames : (EFFECT_KEYS.map fun key => key.length + 3).sum = 592 := by decide
    have hlength : (effectFields intent commitment).length = 30 := rfl
    refine canonicalizePayload_of_fits
      (by rw [effectFields_names]; exact isPlainKey_EFFECT_KEYS)
      (fits_effectFields hU hvalid hamounts hchain hvalue commitment)
      (by rw [hlength]; decide) ?_
    rw [effectFields_names, hnames, hlength]
    decide

end Sizes

/-! ## Normalized intents -/

section Normalized

variable {U : UrlParser} {N : Normalization} {S : Hash}

/-- The number of a chain identifier. -/
def chainNumber (chainId : Option JsValue) : ℕ :=
  match chainId with
  | some (.string s) => hexNumber s
  | _ => 0

/-- The native value of a request: the value of the transaction that `eth_sendTransaction` asks
    for, and nothing for the other methods. -/
def requestValue (request : JsValue) : ℕ :=
  match request.get (js "method"), request.get (js "params") with
  | some (.string method), some (.array params) => requestedValue method params
  | _, _ => 0

theorem chainId_eq_ofNat {value : Option JsValue} {c : ChainId} (h : normalizeChainId value = .ok c) :
    c = .ofNat (chainNumber value) := by
  unfold normalizeChainId at h
  split at h
  · split_ifs at h
    cases h
    rfl
  · cases h

variable {requestId trustedOrigin trustedChainId trustedAccount : Option JsValue}
  {request : JsValue} {intent : Intent}

theorem normalizeWalletGuardIntent_ready
    (h : normalizeWalletGuardIntent U N S requestId trustedOrigin trustedChainId trustedAccount
      request = .ok intent) :
    ActionReady intent.account intent.toIntentAction ∧
      intent.chainId = .ofNat (chainNumber trustedChainId) ∧
      intent.nativeValue = .ofNat (requestValue request) := by
  obtain ⟨-, hchain, -⟩ := normalizeWalletGuardIntent_context h
  obtain ⟨params, hrequest, haction, -⟩ := normalizeWalletGuardIntent_action h
  obtain ⟨hready, hnative⟩ := actionReady_normalizeAction haction
  obtain ⟨hmethod, hparams⟩ := normalizeRequest_eq_ok hrequest
  refine ⟨hready, chainId_eq_ofNat hchain, ?_⟩
  rw [hnative, requestValue, hmethod, hparams]

/-- The evidence of a valid intent whose fields fit its class depends on its canonical payload. -/
theorem derive_isOk_iff (hvalidated : validateWalletGuardIntent U intent = .ok ())
    (hconsistent : assertSemanticConsistency intent (KNOWN_CLASSES intent.requestClass) = .ok ()) :
    (∃ evidence, deriveWalletGuardDecodedEffectEvidence U N S true intent = .ok evidence) ↔
      ∃ t, canonicalizePayload N (.object (effectFields intent
        (sha256Hex S (INTENT_COMMIT_DOMAIN ++ canonicalizeValidatedIntent intent)))) = .ok t := by
  have hcommit : commitWalletGuardIntent U S intent =
      .ok (sha256Hex S (INTENT_COMMIT_DOMAIN ++ canonicalizeValidatedIntent intent)) := by
    rw [commitWalletGuardIntent, hvalidated]
    rfl
  rw [deriveWalletGuardDecodedEffectEvidence, hcommit, hconsistent]
  constructor
  · rintro ⟨evidence, hevidence⟩
    obtain ⟨_, hhash, hevidence⟩ := bind_eq_ok.mp hevidence
    cases hhash
    obtain ⟨_, -, hevidence⟩ := bind_eq_ok.mp hevidence
    obtain ⟨t, ht, -⟩ := bind_eq_ok.mp hevidence
    exact ⟨t, mapError_eq_ok.mp ht⟩
  · rintro ⟨t, ht⟩
    refine ⟨_, bind_eq_ok.mpr ⟨_, rfl, bind_eq_ok.mpr ⟨(), rfl, bind_eq_ok.mpr ⟨t, ?_, rfl⟩⟩⟩⟩
    exact mapError_eq_ok.mpr ht

theorem evidence_iff (hU : AsciiOrigins U)
    (h : normalizeWalletGuardIntent U N S requestId trustedOrigin trustedChainId trustedAccount
      request = .ok intent) :
    (∃ evidence, deriveWalletGuardDecodedEffectEvidence U N S true intent = .ok evidence) ↔
      chainNumber trustedChainId < 16 ^ 2046 ∧ requestValue request < 10 ^ 2048 := by
  obtain ⟨hready, hchain, hnative⟩ := normalizeWalletGuardIntent_ready h
  obtain ⟨-, -, -, hvalidated⟩ := normalizeWalletGuardIntent_action h
  rw [derive_isOk_iff hvalidated (hready.consistent intent rfl rfl),
    canonicalizePayload_effectFields hU (validIntent_of_ok hvalidated) hready.amounts, hchain, hnative]
  exact and_congr (length_chainId_le_iff (k := 2046) (by norm_num))
    (length_ofNat_le_iff (by norm_num))

/-- The evidence of a normalized intent: the check of its class never fails, and the evidence is
    derived exactly when the number of the trusted chain has at most 2046 hexadecimal digits and
    the value of the transaction at most 2048 decimal digits. -/
theorem decodedEffect_iff (hU : AsciiOrigins U)
    (h : normalizeWalletGuardIntent U N S requestId trustedOrigin trustedChainId trustedAccount
      request = .ok intent) :
    assertSemanticConsistency intent (KNOWN_CLASSES intent.requestClass) = .ok () ∧
    ((∃ evidence, deriveWalletGuardDecodedEffectEvidence U N S true intent = .ok evidence) ↔
      chainNumber trustedChainId < 16 ^ 2046 ∧ requestValue request < 10 ^ 2048) :=
  ⟨(normalizeWalletGuardIntent_ready h).1.consistent intent rfl rfl, evidence_iff hU h⟩

end Normalized

/-- A transfer of this value to the account itself. -/
def selfTransfer (value : JsString) : JsValue :=
  .object [(js "method", .string (js "eth_sendTransaction")),
    (js "params", .array [.object [(js "from", .string (js "0x" ++ List.replicate 40 0x61)),
      (js "to", .string (js "0x" ++ List.replicate 40 0x61)), (js "value", .string value)]])]

/-- The intent of a transfer on this chain. -/
def selfTransferIntent (chainId value : JsString) : Except IntentFailure Intent :=
  normalizeWalletGuardIntent exampleUrls devanagari sha256 (some (.string (js "request-0001")))
    (some (.string (js "https://app.example"))) (some (.string chainId))
    (some (.string (js "0x" ++ List.replicate 40 0x61))) (selfTransfer value)

theorem decodedEffect_iff_one : ∃ intent evidence, selfTransferIntent (js "0x1") (js "0x1") = .ok intent ∧
    deriveWalletGuardDecodedEffectEvidence exampleUrls devanagari sha256 true intent =
      .ok evidence := by
  have hok : (selfTransferIntent (js "0x1") (js "0x1")).isOk = true := by decide +kernel
  obtain ⟨intent, hintent⟩ := isOk_iff.mp hok
  have hchain : chainNumber (some (.string (js "0x1"))) = 1 := by decide
  have hvalue : requestValue (selfTransfer (js "0x1")) = 1 := by decide
  obtain ⟨evidence, hevidence⟩ := (decodedEffect_iff asciiOrigins_exampleUrls hintent).2.mpr
    (by rw [hchain, hvalue]; norm_num)
  exact ⟨intent, evidence, hintent, hevidence⟩

/-- The value `16 ^ 1701` in hexadecimal: 1704 characters, and 2049 decimal digits. -/
def longValue : JsString := js "0x1" ++ List.replicate 1701 0x30

theorem not_decodedEffect_longValue : ∃ intent,
    selfTransferIntent (js "0x1") longValue = .ok intent ∧
      ¬ ∃ evidence, deriveWalletGuardDecodedEffectEvidence exampleUrls devanagari sha256 true intent =
        .ok evidence := by
  have hok : (selfTransferIntent (js "0x1") longValue).isOk = true := by decide +kernel
  obtain ⟨intent, hintent⟩ := isOk_iff.mp hok
  refine ⟨intent, hintent, ?_⟩
  have hnumber : requestValue (selfTransfer longValue) = 16 ^ 1701 := by decide +kernel
  have hlarge : ¬ 16 ^ 1701 < 10 ^ 2048 := by decide +kernel
  rw [evidence_iff asciiOrigins_exampleUrls hintent, hnumber]
  exact fun hshort => hlarge hshort.2

end OpenRisk.Guard
