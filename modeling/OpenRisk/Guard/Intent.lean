import OpenRisk.Guard.Evm
import OpenRisk.Json.RoundTrip

/-!
# Wallet Guard intents

Model of `applications/blockchain-digital-assets/wallet-guard/intent.mjs`: an EIP-1193
request under a trusted origin, chain and account becomes a normalized intent. The
request is plain data, as the callers clone it first. The URL parser of the runtime is a
parameter.

The fields of an `Intent` have the types of normalized texts, so that
`validateWalletGuardIntent` keeps only the checks that these types do not carry.

Results:
* `normalizeSendTransaction_native`: what a transaction is that needs no simulation.
* `normalizeWalletGuardIntent_native`: what a request is whose intent needs none.
-/

namespace OpenRisk.Guard

open Text Sdk

/-! ## Origins -/

/-- What the code reads of a `URL`. -/
structure Url where
  protocol : JsString
  origin : JsString
  username : JsString
  password : JsString

/-- `new URL(text)`, `none` where it throws. -/
abbrev UrlParser := JsString → Option Url

/-- A text that is the HTTP(S) origin of the URL it denotes. -/
def checkOrigin {ε : Type} (U : UrlParser) (value : JsString) (unreadable notCanonical : ε) :
    Except ε JsString :=
  match U value with
  | none => .error unreadable
  | some url =>
    if (url.protocol ≠ js "https:" ∧ url.protocol ≠ js "http:") ∨ url.origin ≠ value ∨
        url.username ≠ [] ∨ url.password ≠ [] then .error notCanonical
    else .ok url.origin

/-- The condition of `checkOrigin`. -/
def CanonicalOrigin (U : UrlParser) (value : JsString) : Prop :=
  ∃ url, U value = some url ∧ (url.protocol = js "https:" ∨ url.protocol = js "http:") ∧
    url.origin = value ∧ url.username = [] ∧ url.password = []

theorem checkOrigin_eq_ok {ε : Type} {U : UrlParser} {value o : JsString} {e e' : ε} :
    checkOrigin U value e e' = .ok o ↔ o = value ∧ CanonicalOrigin U value := by
  unfold checkOrigin CanonicalOrigin
  cases hU : U value with
  | none => simp
  | some url =>
    simp only [Option.some.injEq]
    split_ifs with hbad
    · simp only [false_iff, not_and, not_exists]
      rintro - url rfl hprotocol horigin husername hpassword
      rcases hbad with ⟨h, h'⟩ | h | h | h
      · exact hprotocol.elim h h'
      · exact h horigin
      · exact h husername
      · exact h hpassword
    · simp only [not_or, not_and_or, not_not] at hbad
      simp only [Except.ok.injEq, exists_eq_left', hbad, and_true]
      exact eq_comm

/-! ## Errors -/

/-- `WalletGuardIntentError`. -/
structure IntentError where
  code : JsString
  message : JsString
  deriving DecidableEq

/-- What normalization throws. -/
inductive IntentFailure where
  | intent (e : IntentError)
  | decoder (e : DecoderError)
  | payload (e : PayloadError)

def intentFail {α : Type} (code message : String) : Except IntentFailure α :=
  .error (.intent ⟨js code, js message⟩)

def requestInvalid {α : Type} (message : JsString) : Except IntentFailure α :=
  .error (.intent ⟨js "POMRX_WG_E_REQUEST_INVALID", message⟩)

def liftDecoder {α : Type} (x : Except DecoderError α) : Except IntentFailure α := x.mapError .decoder

def liftDecode {α : Type} (x : Except DecodeFailure α) : Except IntentFailure α :=
  x.mapError fun
    | .decoder e => .decoder e
    | .payload e => .payload e

/-- The `catch` around the decoders: their errors become intent errors. -/
def rethrow : IntentFailure → IntentFailure
  | .decoder e => .intent ⟨e.code, e.message⟩
  | f => f

/-! ## Formats -/

/-- `REQUEST_ID_PATTERN`. -/
def REQUEST_ID_PATTERN (s : JsString) : Bool :=
  match s with
  | [] => false
  | u :: rest => isAlphaNumeric u && rest.all isKeyUnit && 7 ≤ rest.length && rest.length ≤ 127

/-- `RPC_METHOD_PATTERN`. -/
def RPC_METHOD_PATTERN (s : JsString) : Bool :=
  1 ≤ s.length && s.length ≤ 64 && s.all fun u => isAlphaNumeric u || u = 0x5F

/-- `normalizeTrustedOrigin(value)`. -/
def normalizeTrustedOrigin (U : UrlParser) (value : Option JsValue) : Except IntentFailure JsString :=
  match value with
  | some (.string s) =>
    if s.length < 8 ∨ 512 < s.length then
      intentFail "POMRX_WG_E_ORIGIN_INVALID" "trusted origin is invalid"
    else checkOrigin U s
      (.intent ⟨js "POMRX_WG_E_ORIGIN_INVALID", js "trusted origin must be an absolute URL origin"⟩)
      (.intent ⟨js "POMRX_WG_E_ORIGIN_INVALID",
        js "trusted origin must be a canonical HTTP(S) origin"⟩)
  | _ => intentFail "POMRX_WG_E_ORIGIN_INVALID" "trusted origin is invalid"

/-! ## Actions -/

/-- What a request asks for. -/
structure IntentAction where
  requestClass : RequestClass
  target : Option Address
  spender : Option Address
  recipient : Option Address
  nativeValue : Decimal
  calldataSha256 : Option HashText
  typedDataSha256 : Option HashText
  requestedAllowance : Option Decimal
  tokenAmount : Option Decimal
  requestedOperatorApproval : Option Bool
  typedDataOwner : Option Address
  typedDataDomainChainId : Option ChainId
  typedDataVerifyingContract : Option Address
  simulationRequired : Bool

/-- `value ?? fallback`. -/
def orElse (value : Option JsValue) (fallback : JsValue) : JsValue :=
  match value with
  | none => fallback
  | some .null => fallback
  | some v => v

def SEND_TX_KEYS : List JsString := ["from", "to", "value", "data"].map js

/-- The loop over `Object.keys(transaction)`. -/
def checkTransactionFields (transaction : List (JsString × JsValue)) : Except IntentFailure Unit :=
  match transaction.find? fun e => !SEND_TX_KEYS.contains e.1 with
  | some e => requestInvalid (js "unsupported transaction field: " ++ e.1)
  | none => .ok ()

section Normalize

variable (N : Normalization) (S : Hash)

/-- `normalizeSendTransaction(request, trustedAccount)`. -/
def normalizeSendTransaction (params : List JsValue) (trustedAccount : Address) :
    Except IntentFailure IntentAction :=
  match params with
  | [.object es] => do
    checkTransactionFields es
    if es.lookup (js "from") = none ∨ es.lookup (js "to") = none then
      requestInvalid (js "transaction from and to are required")
    else
      let requestedFrom ← liftDecoder (normalizeEvmAddress (es.lookup (js "from")) (js "transaction from"))
      if requestedFrom ≠ trustedAccount then
        intentFail "POMRX_WG_E_ACCOUNT_MISMATCH"
          "transaction from does not match trusted active account"
      else
        let target ← liftDecoder (normalizeEvmAddress (es.lookup (js "to")) (js "transaction to"))
        let nativeValue ← liftDecoder (normalizeQuantity
          (some (orElse (es.lookup (js "value")) (.string (js "0x0")))) (js "transaction value"))
        let data ← liftDecoder (normalizeHexData
          (some (orElse (es.lookup (js "data")) (.string (js "0x")))) (js "transaction data"))
        let decoded ← liftDecoder (decodeTransactionCalldata S data)
        .ok { requestClass := decoded.requestClass
              target := some target
              spender := decoded.spender
              recipient :=
                if decoded.requestClass = .nativeTransfer then some target else decoded.recipient
              nativeValue := nativeValue
              calldataSha256 := some decoded.calldataSha256
              typedDataSha256 := none
              requestedAllowance := decoded.requestedAllowance
              tokenAmount := decoded.tokenAmount
              requestedOperatorApproval := decoded.requestedOperatorApproval
              typedDataOwner := none
              typedDataDomainChainId := none
              typedDataVerifyingContract := none
              simulationRequired := decoded.simulationRequired }
  | [_] => requestInvalid (js "transaction must be an object")
  | _ => requestInvalid (js "eth_sendTransaction requires exactly one transaction object")

/-- `normalizeTypedDataRequest(request, trustedAccount)`. -/
def normalizeTypedDataRequest (params : List JsValue) (trustedAccount : Address) :
    Except IntentFailure IntentAction :=
  match params with
  | [account, typedData] => do
    let requestedAccount ← liftDecoder (normalizeEvmAddress (some account) (js "typed data account"))
    if requestedAccount ≠ trustedAccount then
      intentFail "POMRX_WG_E_ACCOUNT_MISMATCH"
        "typed data account does not match trusted active account"
    else
      let decoded ← liftDecode (decodeTypedData N S typedData)
      if decoded.requestClass = .permitEip2612 ∧ decoded.typedDataOwner ≠ some trustedAccount then
        intentFail "POMRX_WG_E_ACCOUNT_MISMATCH" "Permit owner does not match trusted active account"
      else
        .ok { requestClass := decoded.requestClass
              target := decoded.target
              spender := decoded.spender
              recipient := none
              nativeValue := .ofNat 0
              calldataSha256 := none
              typedDataSha256 := some decoded.typedDataSha256
              requestedAllowance := decoded.requestedAllowance
              tokenAmount := none
              requestedOperatorApproval := none
              typedDataOwner := decoded.typedDataOwner
              typedDataDomainChainId := decoded.typedDataDomainChainId
              typedDataVerifyingContract := decoded.typedDataVerifyingContract
              simulationRequired := decoded.simulationRequired }
  | _ => requestInvalid (js "eth_signTypedData_v4 requires account and typed data")

/-- The action of a request that is only hashed. -/
def opaqueAction (requestClass : RequestClass) (calldataSha256 typedDataSha256 : Option HashText) :
    IntentAction where
  requestClass := requestClass
  target := none
  spender := none
  recipient := none
  nativeValue := .ofNat 0
  calldataSha256 := calldataSha256
  typedDataSha256 := typedDataSha256
  requestedAllowance := none
  tokenAmount := none
  requestedOperatorApproval := none
  typedDataOwner := none
  typedDataDomainChainId := none
  typedDataVerifyingContract := none
  simulationRequired := true

/-- `normalizeGenericSignature(request)`. -/
def normalizeGenericSignature (method : JsString) (params : List JsValue) :
    Except IntentFailure IntentAction :=
  if params.length < 1 ∨ 2 < params.length then
    requestInvalid (method ++ js " has an unsupported parameter shape")
  else
    match canonicalizePayload N (.object [(js "params", .array params)]) with
    | .ok canonicalParams => .ok (opaqueAction .genericSignature none (some (sha256Hex S canonicalParams)))
    | .error _ => requestInvalid (js "generic signature payload is outside bounded canonical form")

/-- `normalizeUnsupportedRpc(request)`. -/
def normalizeUnsupportedRpc (method : JsString) (params : List JsValue) :
    Except IntentFailure IntentAction :=
  match canonicalizePayload N (.object [(js "method", .string method), (js "params", .array params)]) with
  | .ok canonicalRequest => .ok (opaqueAction .unsupportedRpc (some (sha256Hex S canonicalRequest)) none)
  | .error _ => requestInvalid (js "unsupported RPC payload is outside bounded canonical form")

/-- `normalizeRequest(request)`: the method and the parameters. -/
def normalizeRequest (request : JsValue) : Except IntentFailure (JsString × List JsValue) :=
  if request.isObject then
    if exactKeys (some request) [js "method", js "params"] then
      match request.get (js "method") with
      | some (.string method) =>
        if RPC_METHOD_PATTERN method then
          match request.get (js "params") with
          | some (.array params) => .ok (method, params)
          | _ => requestInvalid (js "RPC params must be an array")
        else requestInvalid (js "RPC method is invalid")
      | _ => requestInvalid (js "RPC method is invalid")
    else requestInvalid (js "EIP-1193 request has missing or unknown fields")
  else requestInvalid (js "EIP-1193 request must be an object")

/-- The choice of the normalizer by method. -/
def normalizeAction (method : JsString) (params : List JsValue) (account : Address) :
    Except IntentFailure IntentAction :=
  if method = js "eth_sendTransaction" then normalizeSendTransaction S params account
  else if method = js "eth_signTypedData_v4" then normalizeTypedDataRequest N S params account
  else if method = js "personal_sign" ∨ method = js "eth_sign" then
    normalizeGenericSignature N S method params
  else normalizeUnsupportedRpc N S method params

end Normalize

/-! ## Intents -/

def INTENT_SCHEMA_VERSION : JsString := js "wallet_guard_intent/0.1"

def INTENT_COMMIT_DOMAIN : JsString := js "swisstokint:pom-rx-wallet-guard-intent:v1:"

structure Intent extends IntentAction where
  requestId : JsString
  origin : JsString
  chainId : ChainId
  account : Address
  rpcMethod : JsString

/-- `validateWalletGuardIntent(intent)`. -/
def validateWalletGuardIntent (U : UrlParser) (intent : Intent) : Except IntentFailure Unit := do
  if REQUEST_ID_PATTERN intent.requestId then
    let origin ← normalizeTrustedOrigin U (some (.string intent.origin))
    if origin ≠ intent.origin then requestInvalid (js "intent origin is not canonical")
    else if RPC_METHOD_PATTERN intent.rpcMethod then
      if intent.requestClass = .permitEip2612 ∧ intent.typedDataOwner ≠ some intent.account then
        intentFail "POMRX_WG_E_ACCOUNT_MISMATCH" "Permit owner must equal intent account"
      else .ok ()
    else requestInvalid (js "intent RPC identity is invalid")
  else requestInvalid (js "intent request_id is invalid")

/-- `normalizeWalletGuardIntent({ requestId, trustedOrigin, trustedChainId, trustedAccount,
    request })`. -/
def normalizeWalletGuardIntent (U : UrlParser) (N : Normalization) (S : Hash)
    (requestId trustedOrigin trustedChainId trustedAccount : Option JsValue) (request : JsValue) :
    Except IntentFailure Intent := do
  match requestId with
  | some (.string id) =>
    if REQUEST_ID_PATTERN id then
      let origin ← normalizeTrustedOrigin U trustedOrigin
      let chainId ← liftDecoder (normalizeChainId trustedChainId)
      let account ← liftDecoder (normalizeEvmAddress trustedAccount (js "trusted active account"))
      let (method, params) ← normalizeRequest request
      let action ← (normalizeAction N S method params account).mapError rethrow
      let intent : Intent := { action with requestId := id, origin, chainId, account, rpcMethod := method }
      validateWalletGuardIntent U intent
      .ok intent
    else requestInvalid (js "requestId has an invalid format")
  | _ => requestInvalid (js "requestId has an invalid format")

/-! ## Commitments -/

/-- The text of an object whose member values are already written. -/
def canonicalRecord (fields : List (String × JsString)) : JsString :=
  0x7B :: (joinComma (fields.map fun f => 0x22 :: js f.1 ++ 0x22 :: 0x3A :: f.2) ++ [0x7D])

/-- `canonicalNullableString(value)`. -/
def canonicalNullableString (value : Option JsString) : JsString :=
  match value with
  | none => js "null"
  | some s => Json.quote s

/-- `canonicalNullableBoolean(value)`. -/
def canonicalNullableBoolean (value : Option Bool) : JsString :=
  match value with
  | none => js "null"
  | some true => js "true"
  | some false => js "false"

/-- `canonicalizeValidatedIntent(intent)`. -/
def canonicalizeValidatedIntent (intent : Intent) : JsString :=
  canonicalRecord [
    ("account", Json.quote intent.account.val),
    ("calldata_sha256", canonicalNullableString (intent.calldataSha256.map (·.val))),
    ("chain_id", Json.quote intent.chainId.val),
    ("native_value", Json.quote intent.nativeValue.val),
    ("origin", Json.quote intent.origin),
    ("recipient", canonicalNullableString (intent.recipient.map (·.val))),
    ("request_class", Json.quote intent.requestClass.text),
    ("request_id", Json.quote intent.requestId),
    ("requested_allowance", canonicalNullableString (intent.requestedAllowance.map (·.val))),
    ("requested_operator_approval", canonicalNullableBoolean intent.requestedOperatorApproval),
    ("rpc_method", Json.quote intent.rpcMethod),
    ("schema_version", Json.quote INTENT_SCHEMA_VERSION),
    ("simulation_required", if intent.simulationRequired then js "true" else js "false"),
    ("spender", canonicalNullableString (intent.spender.map (·.val))),
    ("target", canonicalNullableString (intent.target.map (·.val))),
    ("token_amount", canonicalNullableString (intent.tokenAmount.map (·.val))),
    ("typed_data_domain_chain_id",
      canonicalNullableString (intent.typedDataDomainChainId.map (·.val))),
    ("typed_data_owner", canonicalNullableString (intent.typedDataOwner.map (·.val))),
    ("typed_data_sha256", canonicalNullableString (intent.typedDataSha256.map (·.val))),
    ("typed_data_verifying_contract",
      canonicalNullableString (intent.typedDataVerifyingContract.map (·.val)))]

/-- `commitWalletGuardIntent(intent).intent_commitment`. -/
def commitWalletGuardIntent (U : UrlParser) (S : Hash) (intent : Intent) :
    Except IntentFailure HashText := do
  validateWalletGuardIntent U intent
  .ok (sha256Hex S (INTENT_COMMIT_DOMAIN ++ canonicalizeValidatedIntent intent))

/-! ## Requests that need no simulation -/

/-- The request asks `account` to send `value` to `recipient`, with no calldata and no
    other transaction field. -/
structure NativeTransfer (request : JsValue) (account recipient : Address) (value : Decimal)
    (transaction : List (JsString × JsValue)) : Prop where
  method : request.get (js "method") = some (.string (js "eth_sendTransaction"))
  params : request.get (js "params") = some (.array [.object transaction])
  fields : ∀ e ∈ transaction, e.1 ∈ SEND_TX_KEYS
  sender : normalizeEvmAddress (transaction.lookup (js "from")) (js "transaction from") = .ok account
  target : normalizeEvmAddress (transaction.lookup (js "to")) (js "transaction to") = .ok recipient
  amount : normalizeQuantity (some (orElse (transaction.lookup (js "value")) (.string (js "0x0"))))
    (js "transaction value") = .ok value
  data : transaction.lookup (js "data") ∈ [none, some .null, some (.string (js "0x"))]

section Native

variable {U : UrlParser} {N : Normalization} {S : Hash}

/-- Only the empty data is `0x` in lower case. -/
theorem orElse_data_empty {value : Option JsValue} {data : JsString}
    (h : normalizeHexData (some (orElse value (.string (js "0x")))) (js "transaction data") = .ok data)
    (hempty : toLowerAscii data = js "0x") :
    value ∈ [none, some .null, some (.string (js "0x"))] := by
  have key : ∀ s, normalizeHexData (some (.string s)) (js "transaction data") = .ok data →
      s = js "0x" := by
    intro s hs
    simp only [normalizeHexData] at hs
    split_ifs at hs with hp
    cases hs
    rw [toLowerAscii_idem] at hempty
    simp only [HEX_DATA_PATTERN, hasHexMark, Bool.and_eq_true, decide_eq_true_eq] at hp
    have hlen : s.length = 2 := by
      rw [← List.length_map (f := fun u => if isUpperAlpha u then u + 0x20 else u)]
      exact congrArg List.length hempty
    rw [← List.take_of_length_le hlen.le, hp.1.1]
    decide
  rcases value with _ | v
  · simp
  · cases v with
    | null => simp
    | string s => simp [key s h]
    | bool b => simp [orElse, normalizeHexData] at h
    | number x => simp [orElse, normalizeHexData] at h
    | array xs => simp [orElse, normalizeHexData] at h
    | object es => simp [orElse, normalizeHexData] at h

theorem checkTransactionFields_eq_ok {transaction : List (JsString × JsValue)} {u : Unit}
    (h : checkTransactionFields transaction = .ok u) : ∀ e ∈ transaction, e.1 ∈ SEND_TX_KEYS := by
  unfold checkTransactionFields at h
  split at h
  · cases h
  · rename_i hnone
    intro e he
    simpa using List.find?_eq_none.mp hnone e he

/-- A transaction that needs no simulation is a transfer from the account. -/
theorem normalizeSendTransaction_native {params : List JsValue} {account : Address}
    {action : IntentAction} (h : normalizeSendTransaction S params account = .ok action)
    (hsim : action.simulationRequired = false) :
    ∃ transaction recipient, params = [.object transaction] ∧
      action.requestClass = .nativeTransfer ∧ action.recipient = some recipient ∧
      ∀ request : JsValue, request.get (js "method") = some (.string (js "eth_sendTransaction")) →
        request.get (js "params") = some (.array params) →
        NativeTransfer request account recipient action.nativeValue transaction := by
  unfold normalizeSendTransaction at h
  split at h
  · rename_i tx
    obtain ⟨u, hfields, h⟩ := bind_eq_ok.mp h
    split_ifs at h with hmissing
    · cases h
    · obtain ⟨sender, hsender, h⟩ := bind_eq_ok.mp h
      split_ifs at h with haccount
      · cases h
      · obtain ⟨target, htarget, h⟩ := bind_eq_ok.mp h
        obtain ⟨value, hvalue, h⟩ := bind_eq_ok.mp h
        obtain ⟨data, hdata, h⟩ := bind_eq_ok.mp h
        obtain ⟨decoded, hdecoded, h⟩ := bind_eq_ok.mp h
        cases h
        obtain ⟨hclass, hempty⟩ :=
          decodeTransactionCalldata_simulation (mapError_eq_ok.mp hdecoded) hsim
        refine ⟨tx, target, rfl, hclass, if_pos hclass, ?_⟩
        intro request hmethod hparams
        refine ⟨hmethod, hparams, checkTransactionFields_eq_ok hfields, ?_,
          mapError_eq_ok.mp htarget, mapError_eq_ok.mp hvalue,
          orElse_data_empty (mapError_eq_ok.mp hdata) hempty⟩
        rw [← not_not.mp haccount]
        exact mapError_eq_ok.mp hsender
  · cases h
  · cases h

theorem normalizeTypedDataRequest_simulation {params : List JsValue} {account : Address}
    {action : IntentAction} (h : normalizeTypedDataRequest N S params account = .ok action) :
    action.simulationRequired = true := by
  unfold normalizeTypedDataRequest at h
  split at h
  · obtain ⟨requested, -, h⟩ := bind_eq_ok.mp h
    split_ifs at h
    · cases h
    · obtain ⟨decoded, hdecoded, h⟩ := bind_eq_ok.mp h
      split_ifs at h
      · cases h
      · cases h
        exact decodeTypedData_simulation (mapError_eq_ok.mp hdecoded)
  · cases h

/-- Only `eth_sendTransaction` gives an action that needs no simulation. -/
theorem normalizeAction_method {method : JsString} {params : List JsValue} {account : Address}
    {action : IntentAction} (h : normalizeAction N S method params account = .ok action)
    (hsim : action.simulationRequired = false) :
    method = js "eth_sendTransaction" ∧ normalizeSendTransaction S params account = .ok action := by
  unfold normalizeAction at h
  split_ifs at h with hsend htyped hsign
  · exact ⟨hsend, h⟩
  · rw [normalizeTypedDataRequest_simulation h] at hsim
    cases hsim
  · unfold normalizeGenericSignature at h
    split_ifs at h
    · cases h
    · split at h
      · cases h
        cases hsim
      · cases h
  · unfold normalizeUnsupportedRpc at h
    split at h
    · cases h
      cases hsim
    · cases h

theorem normalizeRequest_eq_ok {request : JsValue} {method : JsString} {params : List JsValue}
    (h : normalizeRequest request = .ok (method, params)) :
    request.get (js "method") = some (.string method) ∧
      request.get (js "params") = some (.array params) := by
  unfold normalizeRequest at h
  split_ifs at h with hobject hkeys
  · split at h
    · rename_i m hm
      split_ifs at h with hpattern
      · split at h
        · rename_i ps hps
          cases h
          exact ⟨hm, hps⟩
        · cases h
      · cases h
    · cases h
  · cases h
  · cases h

variable {requestId trustedOrigin trustedChainId trustedAccount : Option JsValue}
  {request : JsValue} {intent : Intent}

/-- The intent keeps the trusted context it was given. -/
theorem normalizeWalletGuardIntent_context
    (h : normalizeWalletGuardIntent U N S requestId trustedOrigin trustedChainId trustedAccount
      request = .ok intent) :
    normalizeTrustedOrigin U trustedOrigin = .ok intent.origin ∧
      normalizeChainId trustedChainId = .ok intent.chainId ∧
      normalizeEvmAddress trustedAccount (js "trusted active account") = .ok intent.account := by
  unfold normalizeWalletGuardIntent at h
  split at h
  · split_ifs at h
    · obtain ⟨origin, horigin, h⟩ := bind_eq_ok.mp h
      obtain ⟨chain, hchain, h⟩ := bind_eq_ok.mp h
      obtain ⟨account, haccount, h⟩ := bind_eq_ok.mp h
      obtain ⟨⟨method, params⟩, -, h⟩ := bind_eq_ok.mp h
      obtain ⟨action, -, h⟩ := bind_eq_ok.mp h
      obtain ⟨-, -, h⟩ := bind_eq_ok.mp h
      cases h
      exact ⟨horigin, mapError_eq_ok.mp hchain, mapError_eq_ok.mp haccount⟩
    · cases h
  · cases h

/-- What normalization does: it classifies the method and the parameters of the request, and
    the intent passes validation. -/
theorem normalizeWalletGuardIntent_action
    (h : normalizeWalletGuardIntent U N S requestId trustedOrigin trustedChainId trustedAccount
      request = .ok intent) :
    ∃ params, normalizeRequest request = .ok (intent.rpcMethod, params) ∧
      normalizeAction N S intent.rpcMethod params intent.account = .ok intent.toIntentAction ∧
      validateWalletGuardIntent U intent = .ok () := by
  unfold normalizeWalletGuardIntent at h
  split at h
  · split_ifs at h
    · obtain ⟨origin, -, h⟩ := bind_eq_ok.mp h
      obtain ⟨chain, -, h⟩ := bind_eq_ok.mp h
      obtain ⟨account, -, h⟩ := bind_eq_ok.mp h
      obtain ⟨⟨method, params⟩, hrequest, h⟩ := bind_eq_ok.mp h
      obtain ⟨action, haction, h⟩ := bind_eq_ok.mp h
      obtain ⟨_, hvalid, h⟩ := bind_eq_ok.mp h
      cases h
      exact ⟨params, hrequest, mapError_eq_ok.mp haction, hvalid⟩
    · cases h
  · cases h

/-- A request whose intent needs no simulation is a transfer from the trusted account. -/
theorem normalizeWalletGuardIntent_native
    (h : normalizeWalletGuardIntent U N S requestId trustedOrigin trustedChainId trustedAccount
      request = .ok intent)
    (hsim : intent.simulationRequired = false) :
    ∃ transaction recipient, intent.requestClass = .nativeTransfer ∧
      intent.recipient = some recipient ∧
      NativeTransfer request intent.account recipient intent.nativeValue transaction := by
  obtain ⟨params, hrequest, haction, -⟩ := normalizeWalletGuardIntent_action h
  obtain ⟨hmethod, hparams⟩ := normalizeRequest_eq_ok hrequest
  obtain ⟨hsend, haction⟩ := normalizeAction_method haction hsim
  obtain ⟨tx, recipient, -, hclass, hrecipient, hnative⟩ := normalizeSendTransaction_native haction hsim
  rw [hsend] at hmethod
  exact ⟨tx, recipient, hclass, hrecipient, hnative request hmethod hparams⟩

end Native

end OpenRisk.Guard
