import OpenRisk.Guard.Context
import OpenRisk.Sdk.Content

/-!
# What an intent commitment binds

An intent commitment hashes the normalized intent, which carries the hash of the calldata,
of the typed data or of the parameters of the request. A wallet receives the request
itself. This module compares what two requests with one commitment ask the wallet for.

Results:
* `canonicalIntent_injective`: the text of an intent determines the intent.
* `commitWalletGuardIntent_binding`: without a hash collision, two requests with one
  commitment ask for the same thing exactly when NFC tells different strings of their
  parameters apart.
* `commitWalletGuardIntent_nfc`: two requests to sign different messages that have one
  commitment.
-/

namespace OpenRisk.Guard.IntentBinding

open Text Sdk OpenRisk.Guard

/-! ## The text of an intent -/

def nullableString (value : Option JsString) : Json :=
  match value with
  | none => .null
  | some s => .string s

def nullableBoolean (value : Option Bool) : Json :=
  match value with
  | none => .null
  | some b => .bool b

/-- The members that `canonicalizeValidatedIntent` writes. -/
def intentFields (intent : Intent) : List (String × Json) := [
  ("account", .string intent.account.val),
  ("calldata_sha256", nullableString (intent.calldataSha256.map (·.val))),
  ("chain_id", .string intent.chainId.val),
  ("native_value", .string intent.nativeValue.val),
  ("origin", .string intent.origin),
  ("recipient", nullableString (intent.recipient.map (·.val))),
  ("request_class", .string intent.requestClass.text),
  ("request_id", .string intent.requestId),
  ("requested_allowance", nullableString (intent.requestedAllowance.map (·.val))),
  ("requested_operator_approval", nullableBoolean intent.requestedOperatorApproval),
  ("rpc_method", .string intent.rpcMethod),
  ("schema_version", .string INTENT_SCHEMA_VERSION),
  ("simulation_required", .bool intent.simulationRequired),
  ("spender", nullableString (intent.spender.map (·.val))),
  ("target", nullableString (intent.target.map (·.val))),
  ("token_amount", nullableString (intent.tokenAmount.map (·.val))),
  ("typed_data_domain_chain_id", nullableString (intent.typedDataDomainChainId.map (·.val))),
  ("typed_data_owner", nullableString (intent.typedDataOwner.map (·.val))),
  ("typed_data_sha256", nullableString (intent.typedDataSha256.map (·.val))),
  ("typed_data_verifying_contract",
    nullableString (intent.typedDataVerifyingContract.map (·.val)))]

/-- The value whose text `commitWalletGuardIntent` hashes. -/
def intentJson (intent : Intent) : Json :=
  .object ((intentFields intent).map fun f => (js f.1, f.2))

/-- The text that `commitWalletGuardIntent(intent)` hashes. -/
def intentText (intent : Intent) : JsString :=
  INTENT_COMMIT_DOMAIN ++ canonicalizeValidatedIntent intent

theorem print_nullableString (value : Option JsString) :
    Json.print (nullableString value) = canonicalNullableString value := by
  cases value <;> simp [nullableString, canonicalNullableString, Json.print]

theorem print_nullableBoolean (value : Option Bool) :
    Json.print (nullableBoolean value) = canonicalNullableBoolean value := by
  rcases value with _ | _ | _ <;> simp [nullableBoolean, canonicalNullableBoolean, Json.print]

theorem canonicalizeValidatedIntent_eq_print (intent : Intent) :
    canonicalizeValidatedIntent intent = Json.print (intentJson intent) := by
  have hnames : ∀ f ∈ intentFields intent, Json.quote (js f.1) = 0x22 :: (js f.1 ++ [0x22]) := by
    simp only [intentFields, List.forall_mem_cons, List.not_mem_nil, false_imp_iff, implies_true]
    decide
  have hstring : ∀ s, Json.print (.string s) = Json.quote s := by
    intro s
    rw [Json.print]
  have hsimulation : Json.print (.bool intent.simulationRequired) =
      if intent.simulationRequired then js "true" else js "false" := by
    cases intent.simulationRequired <;> simp [Json.print]
  rw [intentJson, ← canonicalRecord_eq_print _ hnames, canonicalizeValidatedIntent, intentFields]
  simp only [List.map_cons, List.map_nil, print_nullableString, print_nullableBoolean, hsimulation,
    hstring]

theorem nullableString_injective {a b : Option JsString} (h : nullableString a = nullableString b) :
    a = b := by
  cases a <;> cases b <;> simp_all [nullableString]

theorem nullableString_val_injective {p : JsString → Prop} {a b : Option { s : JsString // p s }}
    (h : nullableString (a.map (·.val)) = nullableString (b.map (·.val))) : a = b :=
  Option.map_injective Subtype.val_injective (nullableString_injective h)

theorem nullableBoolean_injective {a b : Option Bool} (h : nullableBoolean a = nullableBoolean b) :
    a = b := by
  cases a <;> cases b <;> simp_all [nullableBoolean]

theorem intentJson_injective {i j : Intent} (h : intentJson i = intentJson j) : i = j := by
  simp only [intentJson, intentFields, List.map_cons, List.map_nil, Json.object.injEq,
    List.cons.injEq, Prod.mk.injEq, Json.string.injEq, Json.bool.injEq, true_and, and_true] at h
  obtain ⟨haccount, hcalldata, hchain, hvalue, horigin, hrecipient, hclass, hid, hallowance,
    hoperator, hmethod, hsimulation, hspender, htarget, hamount, hdomain, howner, htyped,
    hcontract⟩ := h
  obtain ⟨⟨_, _, _, _, _, _, _, _, _, _, _, _, _, _⟩, _, _, _, _, _⟩ := i
  obtain ⟨⟨_, _, _, _, _, _, _, _, _, _, _, _, _, _⟩, _, _, _, _, _⟩ := j
  simp only [Intent.mk.injEq, IntentAction.mk.injEq]
  exact ⟨⟨RequestClass.text_injective hclass, nullableString_val_injective htarget,
    nullableString_val_injective hspender, nullableString_val_injective hrecipient,
    Subtype.ext hvalue, nullableString_val_injective hcalldata, nullableString_val_injective htyped,
    nullableString_val_injective hallowance, nullableString_val_injective hamount,
    nullableBoolean_injective hoperator, nullableString_val_injective howner,
    nullableString_val_injective hdomain, nullableString_val_injective hcontract, hsimulation⟩,
    hid, horigin, Subtype.ext hchain, Subtype.ext haccount, hmethod⟩

theorem intentJson_integral (intent : Intent) : (intentJson intent).Integral := by
  have hstring : ∀ value, (nullableString value).Integral := by
    intro value
    cases value <;> simp [nullableString, Json.Integral]
  have hboolean : ∀ value, (nullableBoolean value).Integral := by
    intro value
    cases value <;> simp [nullableBoolean, Json.Integral]
  simp [intentJson, intentFields, Json.Integral, Json.IntegralMembers, hstring, hboolean]

theorem INTENT_COMMIT_DOMAIN_ascii : ∀ u ∈ INTENT_COMMIT_DOMAIN, u.toNat < 0x80 := by
  exact ascii_of_all (by decide +kernel)

/-- The bytes of the text of an intent determine the intent. -/
theorem canonicalIntent_injective {i j : Intent}
    (h : utf8Encode (intentText i) = utf8Encode (intentText j)) : i = j := by
  have hscalar : ∀ i, Scalar (codePoints (intentText i)) := by
    intro i
    rw [intentText, canonicalizeValidatedIntent_eq_print,
      codePoints_append_ascii INTENT_COMMIT_DOMAIN_ascii, scalar_append]
    exact ⟨scalar_map_unitPoint INTENT_COMMIT_DOMAIN_ascii,
      Json.scalar_print _ (intentJson_integral i)⟩
  have htext := utf8Encode_injective (hscalar i) (hscalar j) h
  rw [intentText, intentText, List.append_right_inj, canonicalizeValidatedIntent_eq_print,
    canonicalizeValidatedIntent_eq_print] at htext
  exact intentJson_injective (Json.print_injective (intentJson_integral i) (intentJson_integral j) htext)

/-- Without a collision, intents with one commitment are equal. -/
theorem commitWalletGuardIntent_injective {U : UrlParser} {S : Hash} {i j : Intent} {c : HashText}
    (hi : commitWalletGuardIntent U S i = .ok c) (hj : commitWalletGuardIntent U S j = .ok c)
    (hS : ¬ S.Collides (utf8Encode (intentText i)) (utf8Encode (intentText j))) : i = j := by
  obtain ⟨_, -, hi⟩ := bind_eq_ok.mp hi
  obtain ⟨_, -, hj⟩ := bind_eq_ok.mp hj
  have heq := (Except.ok.inj hi).trans (Except.ok.inj hj).symm
  exact canonicalIntent_injective ((utf8Encode_eq_or_collides heq).resolve_right hS)

/-! ## What a request asks for -/

/-- The bytes that pairs of hexadecimal digits denote. -/
def hexBytes : JsString → List UInt8
  | u :: v :: s =>
    UInt8.ofNat (16 * (Json.hexValue u).getD 0 + (Json.hexValue v).getD 0) :: hexBytes s
  | _ => []

/-- The bytes of a hexadecimal text with its mark. -/
def dataBytes (s : JsString) : List UInt8 := hexBytes (s.drop 2)

/-- The text of a string value. -/
def textOf (value : Option JsValue) : JsString :=
  match value with
  | some (.string s) => s
  | _ => []

/-- What a wallet reads of a request. -/
inductive WalletAsk where
  | transaction (sender target : List UInt8) (value : ℕ) (calldata : List UInt8)
  | typedData (account : List UInt8) (content : JsValue)
  | parameters (params : List JsValue)

/-- Typed data, read with `JSON.parse` where it is a text. -/
def typedDataContent (typedData : JsValue) : JsValue :=
  match typedData with
  | .string s => (jsonParse s).getD .null
  | v => v

/-- The fields of a transaction. A missing value is `0x0` and missing data is `0x`. -/
def transactionAsk (es : List (JsString × JsValue)) : WalletAsk :=
  .transaction (dataBytes (textOf (es.lookup (js "from")))) (dataBytes (textOf (es.lookup (js "to"))))
    (hexNumber (textOf (some (orElse (es.lookup (js "value")) (.string (js "0x0"))))))
    (dataBytes (textOf (some (orElse (es.lookup (js "data")) (.string (js "0x"))))))

def walletAsk (method : JsString) (params : List JsValue) : WalletAsk :=
  if method = js "eth_sendTransaction" then
    match params with
    | [.object es] => transactionAsk es
    | _ => .parameters params
  else if method = js "eth_signTypedData_v4" then
    match params with
    | [account, typedData] => .typedData (dataBytes (textOf (some account))) (typedDataContent typedData)
    | _ => .parameters params
  else .parameters params

/-- The same bytes and numbers, and the same content up to the order of properties. -/
def WalletAsk.Same : WalletAsk → WalletAsk → Prop
  | .transaction f t v d, .transaction f' t' v' d' => f = f' ∧ t = t' ∧ v = v' ∧ d = d'
  | .typedData a v, .typedData a' v' => a = a' ∧ SameContent v v'
  | .parameters xs, .parameters ys => SameContent (.array xs) (.array ys)
  | _, _ => False

/-- NFC tells different strings apart where both contents have one. -/
def WalletAsk.NfcTellsApart (N : Normalization) : WalletAsk → WalletAsk → Prop
  | .typedData _ v, .typedData _ v' => Sdk.NfcTellsApart N v v'
  | .parameters xs, .parameters ys => Sdk.NfcTellsApart N (.array xs) (.array ys)
  | _, _ => True

/-- The method of a request and what it asks for. -/
def requestAsk (request : JsValue) : Option (JsString × WalletAsk) :=
  match request.get (js "method"), request.get (js "params") with
  | some (.string method), some (.array params) => some (method, walletAsk method params)
  | _, _ => none

/-- Two requests ask the wallet for the same thing. -/
def SameRequest (request request' : JsValue) : Prop :=
  ∃ method ask ask', requestAsk request = some (method, ask) ∧
    requestAsk request' = some (method, ask') ∧ ask.Same ask'

/-- Where the parameters of the two requests, or their parsed typed data, have strings at
    the same place, these are equal or have different NFC forms. -/
def NfcTellsRequestsApart (N : Normalization) (request request' : JsValue) : Prop :=
  ∀ method ask method' ask', requestAsk request = some (method, ask) →
    requestAsk request' = some (method', ask') → ask.NfcTellsApart N ask'

/-! ## What is hashed of a request -/

section Hashed

variable (N : Normalization)

/-- The text whose hash an intent carries. -/
def hashedParams (method : JsString) (params : List JsValue) : JsString :=
  if method = js "eth_sendTransaction" then
    match params with
    | [.object es] =>
      toLowerAscii (textOf (some (orElse (es.lookup (js "data")) (.string (js "0x")))))
    | _ => []
  else if method = js "eth_signTypedData_v4" then
    match params with
    | [_, typedData] => canonicalizeValue N (typedDataContent typedData)
    | _ => []
  else if method = js "personal_sign" ∨ method = js "eth_sign" then
    canonicalizeValue N (.object [(js "params", .array params)])
  else canonicalizeValue N (.object [(js "method", .string method), (js "params", .array params)])

/-- The text of a request whose hash an intent carries. -/
def hashedRequest (request : JsValue) : JsString :=
  match request.get (js "method"), request.get (js "params") with
  | some (.string method), some (.array params) => hashedParams N method params
  | _, _ => []

end Hashed

section Lower

theorem hexValue_lower (u : UInt16) :
    Json.hexValue (if isUpperAlpha u then u + 0x20 else u) = Json.hexValue u := by
  by_cases hup : isUpperAlpha u = true
  · simp only [isUpperAlpha, Bool.and_eq_true, decide_eq_true_eq] at hup
    have hadd : (u + 0x20).toNat = u.toNat + 0x20 := by
      rw [UInt16.toNat_add]
      have : (0x20 : UInt16).toNat = 0x20 := rfl
      omega
    have hif : isUpperAlpha u = true := by simp [isUpperAlpha, hup]
    rw [if_pos hif, Json.hexValue, Json.hexValue, hadd]
    by_cases hhex : u.toNat ≤ 0x46
    · rw [if_neg (by omega), if_pos (by omega), if_neg (by omega), if_neg (by omega),
        if_pos (by omega)]
      congr 1
    · rw [if_neg (by omega), if_neg (by omega), if_neg (by omega), if_neg (by omega),
        if_neg (by omega), if_neg (by omega)]
  · rw [if_neg hup]

/-- The case of the letters does not matter for the bytes. -/
theorem hexBytes_toLowerAscii (s : JsString) : hexBytes (toLowerAscii s) = hexBytes s := by
  fun_induction hexBytes s with
  | case1 u v s ih =>
    rw [toLowerAscii, List.map_cons, List.map_cons, hexBytes, hexValue_lower, hexValue_lower]
    exact congrArg _ ih
  | case2 s h =>
    rcases s with _ | ⟨u, _ | ⟨v, s⟩⟩
    · rfl
    · rfl
    · exact absurd rfl (h u v s)

theorem dataBytes_toLowerAscii (s : JsString) : dataBytes (toLowerAscii s) = dataBytes s := by
  rw [dataBytes, toLowerAscii, ← List.map_drop]
  exact hexBytes_toLowerAscii _

end Lower

section Normalized

variable {N : Normalization} {S : Hash}

theorem normalizeEvmAddress_bytes {value : Option JsValue} {field : JsString} {a : Address}
    (h : normalizeEvmAddress value field = .ok a) : dataBytes (textOf value) = dataBytes a.val := by
  unfold normalizeEvmAddress at h
  split at h
  · split_ifs at h
    cases h
    exact (dataBytes_toLowerAscii _).symm
  · cases h

theorem isHexUnit_lt {u : UInt16} (h : isHexUnit u = true) : u.toNat < 0x80 := by
  by_contra hge
  rw [isHexUnit, Json.hexValue, if_neg (by omega), if_neg (by omega), if_neg (by omega)] at h
  cases h

theorem HEX_DATA_PATTERN_ascii {s : JsString} (h : HEX_DATA_PATTERN s = true) :
    ∀ u ∈ toLowerAscii s, u.toNat < 0x80 := by
  simp only [HEX_DATA_PATTERN, hasHexMark, Bool.and_eq_true, decide_eq_true_eq,
    List.all_eq_true] at h
  obtain ⟨⟨hmark, -⟩, hhex⟩ := h
  intro u hu
  obtain ⟨v, hv, rfl⟩ := List.mem_map.mp hu
  rw [← List.take_append_drop 2 s, hmark] at hv
  rcases List.mem_append.mp hv with hv | hv
  · have : v = 0x30 ∨ v = 0x78 := by simpa using hv
    rcases this with rfl | rfl <;> decide
  · exact isHexUnit_lt (isHexUnit_toLower (hhex v hv))

theorem normalizeHexData_text {value : Option JsValue} {field data : JsString}
    (h : normalizeHexData value field = .ok data) :
    data = toLowerAscii (textOf value) ∧ ∀ u ∈ data, u.toNat < 0x80 := by
  unfold normalizeHexData at h
  split at h
  · split_ifs at h with hpattern
    cases h
    exact ⟨rfl, HEX_DATA_PATTERN_ascii hpattern⟩
  · cases h

/-- A quantity with a default is the number its text denotes. -/
theorem normalizeQuantity_number {value : Option JsValue} {s field : JsString} {d : Decimal}
    (h : normalizeQuantity (some (orElse value (.string s))) field = .ok d) :
    d = .ofNat (hexNumber (textOf (some (orElse value (.string s))))) := by
  have hne : orElse value (.string s) ≠ .null := by
    unfold orElse
    split
    · simp
    · simp
    · assumption
  generalize orElse value (.string s) = v at h hne
  cases v with
  | null => exact absurd rfl hne
  | string t =>
    rw [normalizeQuantity] at h
    split_ifs at h
    cases h
    rfl
  | _ => cases h

theorem decimal_ofNat_injective {m n : ℕ} (h : Decimal.ofNat m = Decimal.ofNat n) : m = n := by
  rw [← decimalNumber_decimal m, ← decimalNumber_decimal n]
  exact congrArg (fun d : Decimal => decimalNumber d.val) h

theorem decodeTwoArguments_sha256 {selector data : JsString} {hash : HashText} {d : DecodedCalldata}
    (h : decodeTwoArguments selector data hash = .ok d) : d.calldataSha256 = hash := by
  unfold decodeTwoArguments at h
  split_ifs at h
  all_goals
    obtain ⟨a, -, h⟩ := bind_eq_ok.mp h
    obtain ⟨x, -, h⟩ := bind_eq_ok.mp h
    cases h
    rfl

/-- The decoder hashes the calldata in lower case. -/
theorem decodeTransactionCalldata_sha256 {rawData : JsString} {d : DecodedCalldata}
    (h : decodeTransactionCalldata S rawData = .ok d) :
    d.calldataSha256 = sha256Hex S (toLowerAscii rawData) := by
  unfold decodeTransactionCalldata at h
  obtain ⟨data, hdata, h⟩ := bind_eq_ok.mp h
  obtain ⟨rfl, -⟩ := normalizeHexData_text hdata
  dsimp only at h
  split_ifs at h with hempty hshort hknown hlength
  · cases h
    rfl
  · cases h
  · cases h
  · exact decodeTwoArguments_sha256 h
  · cases h
    rfl

/-- What the action of a transaction says about the transaction. -/
theorem normalizeSendTransaction_ask {params : List JsValue} {account : Address}
    {action : IntentAction} (h : normalizeSendTransaction S params account = .ok action) :
    ∃ es target value data, params = [.object es] ∧
      transactionAsk es =
        .transaction (dataBytes account.val) (dataBytes target.val) value (dataBytes data) ∧
      data = hashedParams N (js "eth_sendTransaction") params ∧ (∀ u ∈ data, u.toNat < 0x80) ∧
      action.target = some target ∧ action.nativeValue = .ofNat value ∧
      action.calldataSha256 = some (sha256Hex S data) := by
  unfold normalizeSendTransaction at h
  split at h
  · rename_i es
    obtain ⟨_, -, h⟩ := bind_eq_ok.mp h
    split_ifs at h with hmissing
    · cases h
    · obtain ⟨sender, hsender, h⟩ := bind_eq_ok.mp h
      split_ifs at h with haccount
      · cases h
      · obtain ⟨target, htarget, h⟩ := bind_eq_ok.mp h
        obtain ⟨value, hvalue, h⟩ := bind_eq_ok.mp h
        obtain ⟨data, hdata, h⟩ := bind_eq_ok.mp h
        obtain ⟨decoded, hdecoded, h⟩ := bind_eq_ok.mp h
        cases h
        obtain ⟨hlower, hascii⟩ := normalizeHexData_text (mapError_eq_ok.mp hdata)
        have hhash := decodeTransactionCalldata_sha256 (mapError_eq_ok.mp hdecoded)
        rw [hlower, toLowerAscii_idem, ← hlower] at hhash
        have hbytes := normalizeEvmAddress_bytes (mapError_eq_ok.mp hsender)
        rw [not_not.mp haccount] at hbytes
        refine ⟨es, target, _, data, rfl, ?_, ?_, hascii, rfl,
          normalizeQuantity_number (mapError_eq_ok.mp hvalue), congrArg some hhash⟩
        · rw [transactionAsk, hbytes, normalizeEvmAddress_bytes (mapError_eq_ok.mp htarget), hlower,
            dataBytes_toLowerAscii]
        · rw [hashedParams, if_pos rfl]
          exact hlower
  · cases h
  · cases h

theorem parseTypedData_content {raw v : JsValue} (h : parseTypedData raw = .ok v) :
    v = typedDataContent raw := by
  unfold parseTypedData at h
  extract_lets finish at h
  have hfinish : ∀ parsed, finish parsed = .ok v → v = parsed := by
    intro parsed hparsed
    obtain ⟨_, -, hparsed⟩ := bind_eq_ok.mp hparsed
    cases hparsed
    rfl
  cases raw with
  | string text =>
    dsimp only at h
    split_ifs at h
    · cases h
    · rw [typedDataContent]
      cases hparse : jsonParse text with
      | none =>
        rw [hparse] at h
        cases h
      | some w =>
        rw [hparse] at h
        exact hfinish w h
  | _ => exact hfinish _ h

theorem classifyTypedData_sha256 {typedData message : JsValue} {primaryType : JsString}
    {hash : HashText} {c : Option ChainId} {v : Option Address} {d : DecodedTypedData}
    (h : classifyTypedData typedData primaryType message hash c v = .ok d) :
    d.typedDataSha256 = hash := by
  unfold classifyTypedData at h
  split_ifs at h
  · unfold decodePermit at h
    split_ifs at h
    · cases h
    · obtain ⟨_, -, h⟩ := bind_eq_ok.mp h
      obtain ⟨_, -, h⟩ := bind_eq_ok.mp h
      obtain ⟨spender, -, h⟩ := bind_eq_ok.mp h
      obtain ⟨allowance, -, h⟩ := bind_eq_ok.mp h
      obtain ⟨owner, -, h⟩ := bind_eq_ok.mp h
      cases h
      rfl
  · unfold decodePermit2 at h
    split_ifs at h
    · cases h
    · obtain ⟨_, -, h⟩ := bind_eq_ok.mp h
      obtain ⟨_, -, h⟩ := bind_eq_ok.mp h
      obtain ⟨_, -, h⟩ := bind_eq_ok.mp h
      obtain ⟨token, -, h⟩ := bind_eq_ok.mp h
      obtain ⟨spender, -, h⟩ := bind_eq_ok.mp h
      obtain ⟨amount, -, h⟩ := bind_eq_ok.mp h
      cases h
      rfl
  · cases h
    rfl

/-- The decoder hashes the canonical text of the typed data. -/
theorem decodeTypedData_sha256 {raw : JsValue} {d : DecodedTypedData}
    (h : decodeTypedData N S raw = .ok d) :
    ∃ text, canonicalizePayload N (typedDataContent raw) = .ok text ∧
      d.typedDataSha256 = sha256Hex S text := by
  unfold decodeTypedData at h
  obtain ⟨typedData, hparse, h⟩ := bind_eq_ok.mp h
  obtain ⟨⟨primaryType, domain, message⟩, -, h⟩ := bind_eq_ok.mp h
  obtain ⟨text, htext, h⟩ := bind_eq_ok.mp h
  obtain ⟨chain, -, h⟩ := bind_eq_ok.mp h
  obtain ⟨contract, -, h⟩ := bind_eq_ok.mp h
  rw [parseTypedData_content (mapError_eq_ok.mp hparse)] at htext
  exact ⟨text, mapError_eq_ok.mp htext, classifyTypedData_sha256 (mapError_eq_ok.mp h)⟩

theorem normalizeTypedDataRequest_ask {params : List JsValue} {account : Address}
    {action : IntentAction} (h : normalizeTypedDataRequest N S params account = .ok action) :
    ∃ signer typedData text, params = [signer, typedData] ∧
      dataBytes (textOf (some signer)) = dataBytes account.val ∧
      canonicalizePayload N (typedDataContent typedData) = .ok text ∧
      action.typedDataSha256 = some (sha256Hex S text) := by
  unfold normalizeTypedDataRequest at h
  split at h
  · rename_i signer typedData
    obtain ⟨requested, hrequested, h⟩ := bind_eq_ok.mp h
    split_ifs at h with haccount
    · cases h
    · obtain ⟨decoded, hdecoded, h⟩ := bind_eq_ok.mp h
      split_ifs at h
      · cases h
      · cases h
        obtain ⟨text, htext, hhash⟩ := decodeTypedData_sha256 (mapError_eq_ok.mp hdecoded)
        have hbytes := normalizeEvmAddress_bytes (mapError_eq_ok.mp hrequested)
        rw [not_not.mp haccount] at hbytes
        exact ⟨signer, typedData, text, rfl, hbytes, htext, congrArg some hhash⟩
  · cases h

/-- Requests that are only hashed carry the hash of their canonical parameters. -/
theorem normalizeGenericSignature_ask {method : JsString} {params : List JsValue}
    {action : IntentAction} (h : normalizeGenericSignature N S method params = .ok action) :
    ∃ text, canonicalizePayload N (.object [(js "params", .array params)]) = .ok text ∧
      action.typedDataSha256 = some (sha256Hex S text) := by
  unfold normalizeGenericSignature at h
  split_ifs at h
  · cases h
  · split at h
    · rename_i text htext
      cases h
      exact ⟨text, htext, rfl⟩
    · cases h

theorem normalizeUnsupportedRpc_ask {method : JsString} {params : List JsValue}
    {action : IntentAction} (h : normalizeUnsupportedRpc N S method params = .ok action) :
    ∃ text, canonicalizePayload N
        (.object [(js "method", .string method), (js "params", .array params)]) = .ok text ∧
      action.calldataSha256 = some (sha256Hex S text) := by
  unfold normalizeUnsupportedRpc at h
  split at h
  · rename_i text htext
    cases h
    exact ⟨text, htext, rfl⟩
  · cases h

/-- Without a collision, accepted payloads with one hash are equal up to the order of
    properties, NFC and the sign of zero. -/
theorem payloadEq_of_sha256 {a b : JsValue} (ha : a.UniqueKeys) {s t : JsString}
    (hs : canonicalizePayload N a = .ok s) (ht : canonicalizePayload N b = .ok t)
    (hhash : sha256Hex S s = sha256Hex S t)
    (hS : ¬ S.Collides (utf8Encode (canonicalizeValue N a)) (utf8Encode (canonicalizeValue N b))) :
    PayloadEq N a b := by
  obtain ⟨-, -, hca, -, -, rfl⟩ := (canonicalizePayload_eq_ok_iff _ _).mp hs
  obtain ⟨-, -, hcb, -, -, rfl⟩ := (canonicalizePayload_eq_ok_iff _ _).mp ht
  have hbytes := (utf8Encode_eq_or_collides hhash).resolve_right hS
  have hscalar : ∀ v, Scalar (codePoints (canonicalizeValue N v)) := by
    intro v
    rw [canonicalizeValue_eq_print]
    exact Json.scalar_print _ (integral_canonicalJson N v)
  have htext := utf8Encode_injective (hscalar a) (hscalar b) hbytes
  rwa [canonicalizeValue_eq_iff, canonicalJson_eq_iff hca hcb ha] at htext

end Normalized

/-! ## One action, two requests -/

section Binding

variable {N : Normalization} {S : Hash} {params params' : List JsValue} {account : Address}
  {action : IntentAction}

theorem sendTransaction_same (h : normalizeSendTransaction S params account = .ok action)
    (h' : normalizeSendTransaction S params' account = .ok action)
    (hS : ¬ S.Collides (utf8Encode (hashedParams N (js "eth_sendTransaction") params))
      (utf8Encode (hashedParams N (js "eth_sendTransaction") params'))) :
    (walletAsk (js "eth_sendTransaction") params).Same (walletAsk (js "eth_sendTransaction") params') := by
  obtain ⟨es, target, value, data, rfl, hask, hdata, hascii, htarget, hvalue, hhash⟩ :=
    normalizeSendTransaction_ask (N := N) h
  obtain ⟨es', target', value', data', rfl, hask', hdata', hascii', htarget', hvalue', hhash'⟩ :=
    normalizeSendTransaction_ask (N := N) h'
  rw [← hdata, ← hdata'] at hS
  rw [htarget] at htarget'
  rw [hvalue] at hvalue'
  rw [hhash] at hhash'
  have hbytes := (utf8Encode_eq_or_collides (Option.some.inj hhash')).resolve_right hS
  have heq := utf8Encode_injective (Json.scalar_ascii hascii) (Json.scalar_ascii hascii') hbytes
  rw [walletAsk, walletAsk, if_pos rfl, if_pos rfl, hask, hask', ← Option.some.inj htarget',
    ← decimal_ofNat_injective hvalue', ← heq]
  exact ⟨rfl, rfl, rfl, rfl⟩

theorem uniqueKeys_typedDataContent {v : JsValue} (h : v.UniqueKeys) :
    (typedDataContent v).UniqueKeys := by
  cases v with
  | string s =>
    rw [typedDataContent]
    cases hs : jsonParse s with
    | none => trivial
    | some w => exact jsonParse_uniqueKeys hs
  | _ => exact h

theorem typedData_same_iff (hu : (JsValue.array params).UniqueKeys)
    (hu' : (JsValue.array params').UniqueKeys)
    (h : normalizeTypedDataRequest N S params account = .ok action)
    (h' : normalizeTypedDataRequest N S params' account = .ok action)
    (hS : ¬ S.Collides (utf8Encode (hashedParams N (js "eth_signTypedData_v4") params))
      (utf8Encode (hashedParams N (js "eth_signTypedData_v4") params'))) :
    (walletAsk (js "eth_signTypedData_v4") params).Same
        (walletAsk (js "eth_signTypedData_v4") params') ↔
      (walletAsk (js "eth_signTypedData_v4") params).NfcTellsApart N
        (walletAsk (js "eth_signTypedData_v4") params') := by
  have hne : js "eth_signTypedData_v4" ≠ js "eth_sendTransaction" := by decide
  obtain ⟨signer, typedData, text, rfl, hsigner, htext, hhash⟩ := normalizeTypedDataRequest_ask h
  obtain ⟨signer', typedData', text', rfl, hsigner', htext', hhash'⟩ :=
    normalizeTypedDataRequest_ask h'
  unfold hashedParams at hS
  rw [if_neg hne, if_pos rfl, if_neg hne, if_pos rfl] at hS
  rw [JsValue.UniqueKeys, JsValue.uniqueElements_iff] at hu hu'
  have hcontent := uniqueKeys_typedDataContent (hu typedData (by simp))
  have hcontent' := uniqueKeys_typedDataContent (hu' typedData' (by simp))
  rw [hhash] at hhash'
  have heq := payloadEq_of_sha256 hcontent htext htext' (Option.some.inj hhash') hS
  have hask : ∀ signer typedData, walletAsk (js "eth_signTypedData_v4") [signer, typedData] =
      .typedData (dataBytes (textOf (some signer))) (typedDataContent typedData) := by
    intro signer typedData
    unfold walletAsk
    rw [if_neg hne, if_pos rfl]
  rw [hask, hask, WalletAsk.Same, WalletAsk.NfcTellsApart, hsigner, hsigner', and_iff_right rfl]
  exact sameContent_iff hcontent hcontent' heq

theorem uniqueKeys_get {v x : JsValue} {key : JsString} (hv : v.UniqueKeys)
    (h : v.get key = some x) : x.UniqueKeys := by
  cases v with
  | object es => exact @uniqueKeys_child (.object es) x (.key key) hv h
  | _ => cases h

/-- The parameters of requests that are only hashed, from one object that holds them. -/
theorem parameters_same_iff {es es' : List (JsString × JsValue)}
    (hu : (JsValue.object es).UniqueKeys) (hu' : (JsValue.object es').UniqueKeys)
    (hes : es.lookup (js "params") = some (.array params))
    (hes' : es'.lookup (js "params") = some (.array params'))
    (h : PayloadEq N (.object es) (.object es')) :
    (WalletAsk.parameters params).Same (.parameters params') ↔
      (WalletAsk.parameters params).NfcTellsApart N (.parameters params') := by
  have hparams : (JsValue.array params).UniqueKeys :=
    uniqueKeys_get hu hes
  have hparams' : (JsValue.array params').UniqueKeys :=
    uniqueKeys_get hu' hes'
  rw [JsValue.UniqueKeys] at hu'
  exact sameContent_iff hparams hparams' (payloadEq_lookup hu'.1 h hes hes')

/-- Requests that give one action ask for the same thing exactly when NFC tells them apart
    wherever they differ. -/
theorem walletAsk_same_iff {method : JsString} (hu : (JsValue.array params).UniqueKeys)
    (hu' : (JsValue.array params').UniqueKeys)
    (h : normalizeAction N S method params account = .ok action)
    (h' : normalizeAction N S method params' account = .ok action)
    (hS : ¬ S.Collides (utf8Encode (hashedParams N method params))
      (utf8Encode (hashedParams N method params'))) :
    (walletAsk method params).Same (walletAsk method params') ↔
      (walletAsk method params).NfcTellsApart N (walletAsk method params') := by
  unfold normalizeAction at h h'
  by_cases hsend : method = js "eth_sendTransaction"
  · rw [if_pos hsend] at h h'
    rw [hsend] at hS ⊢
    have hsame := sendTransaction_same h h' hS
    refine iff_of_true hsame ?_
    obtain ⟨es, target, value, data, rfl, hask, -⟩ := normalizeSendTransaction_ask (N := N) h
    unfold walletAsk
    rw [if_pos rfl]
    dsimp only
    rw [hask]
    trivial
  · rw [if_neg hsend] at h h'
    by_cases htyped : method = js "eth_signTypedData_v4"
    · rw [if_pos htyped] at h h'
      rw [htyped] at hS ⊢
      exact typedData_same_iff hu hu' h h' hS
    · rw [if_neg htyped] at h h'
      have hask : ∀ params, walletAsk method params = .parameters params := by
        intro params
        unfold walletAsk
        rw [if_neg hsend, if_neg htyped]
      have huniq : ∀ params, (JsValue.array params).UniqueKeys →
          (JsValue.object [(js "params", .array params)]).UniqueKeys := by
        intro params hparams
        exact ⟨List.nodup_singleton _, hparams, trivial⟩
      have huniq' : ∀ params, (JsValue.array params).UniqueKeys →
          (JsValue.object [(js "method", .string method), (js "params", .array params)]).UniqueKeys := by
        intro params hparams
        have hnames : [js "method", js "params"].Nodup := by decide
        exact ⟨hnames, trivial, hparams, trivial⟩
      rw [hask, hask]
      unfold hashedParams at hS
      rw [if_neg hsend, if_neg htyped, if_neg hsend, if_neg htyped] at hS
      by_cases hsign : method = js "personal_sign" ∨ method = js "eth_sign"
      · rw [if_pos hsign] at h h'
        rw [if_pos hsign, if_pos hsign] at hS
        obtain ⟨text, htext, hhash⟩ := normalizeGenericSignature_ask h
        obtain ⟨text', htext', hhash'⟩ := normalizeGenericSignature_ask h'
        rw [hhash] at hhash'
        have heq := payloadEq_of_sha256 (huniq _ hu) htext htext' (Option.some.inj hhash') hS
        exact parameters_same_iff (huniq _ hu) (huniq _ hu') rfl rfl heq
      · rw [if_neg hsign] at h h'
        rw [if_neg hsign, if_neg hsign] at hS
        obtain ⟨text, htext, hhash⟩ := normalizeUnsupportedRpc_ask h
        obtain ⟨text', htext', hhash'⟩ := normalizeUnsupportedRpc_ask h'
        rw [hhash] at hhash'
        have heq := payloadEq_of_sha256 (huniq' _ hu) htext htext' (Option.some.inj hhash') hS
        exact parameters_same_iff (huniq' _ hu) (huniq' _ hu') rfl rfl heq

end Binding

/-- Without a hash collision, two requests that have one commitment under one request id
    and trusted context ask the wallet for the same thing exactly when NFC tells different
    strings of their parameters apart. -/
theorem commitWalletGuardIntent_binding {U : UrlParser} {N : Normalization} {S : Hash}
    {requestId trustedOrigin trustedChainId trustedAccount : Option JsValue}
    {request request' : JsData} {intent intent' : Intent} {commitment : HashText}
    (h : normalizeWalletGuardIntent U N S requestId trustedOrigin trustedChainId trustedAccount
      request.value = .ok intent)
    (h' : normalizeWalletGuardIntent U N S requestId trustedOrigin trustedChainId trustedAccount
      request'.value = .ok intent')
    (hcommit : commitWalletGuardIntent U S intent = .ok commitment)
    (hcommit' : commitWalletGuardIntent U S intent' = .ok commitment)
    (hintent : ¬ S.Collides (utf8Encode (intentText intent)) (utf8Encode (intentText intent')))
    (hrequest : ¬ S.Collides (utf8Encode (hashedRequest N request.value))
      (utf8Encode (hashedRequest N request'.value))) :
    SameRequest request.value request'.value ↔
      NfcTellsRequestsApart N request.value request'.value := by
  have heq := commitWalletGuardIntent_injective hcommit hcommit' hintent
  obtain ⟨params, hread, haction, -⟩ := normalizeWalletGuardIntent_action h
  obtain ⟨params', hread', haction', -⟩ := normalizeWalletGuardIntent_action h'
  rw [← heq] at hread' haction'
  obtain ⟨hmethod, hparams⟩ := normalizeRequest_eq_ok hread
  obtain ⟨hmethod', hparams'⟩ := normalizeRequest_eq_ok hread'
  have hu : (JsValue.array params).UniqueKeys := uniqueKeys_get request.unique hparams
  have hu' : (JsValue.array params').UniqueKeys := uniqueKeys_get request'.unique hparams'
  rw [hashedRequest, hashedRequest, hmethod, hparams, hmethod', hparams'] at hrequest
  have hiff := walletAsk_same_iff hu hu' haction haction' hrequest
  simp only [SameRequest, NfcTellsRequestsApart, requestAsk, hmethod, hparams, hmethod', hparams',
    Option.some.injEq, Prod.mk.injEq]
  constructor
  · rintro ⟨method, ask, ask', ⟨rfl, rfl⟩, ⟨-, rfl⟩, hsame⟩ _ _ _ _ ⟨rfl, rfl⟩ ⟨rfl, rfl⟩
    exact hiff.mp hsame
  · intro hapart
    exact ⟨_, _, _, ⟨rfl, rfl⟩, ⟨rfl, rfl⟩, hiff.mpr (hapart _ _ _ _ ⟨rfl, rfl⟩ ⟨rfl, rfl⟩)⟩

/-! ## Two messages with one commitment -/

def signUrls : UrlParser := fun s => some ⟨js "https:", s, [], []⟩

def signAddress : JsString := js "0x" ++ List.replicate 40 0x61

/-- `{ method: 'personal_sign', params: [message, address] }`. -/
def signRequest (message : JsValue) : JsValue :=
  .object [(js "method", .string (js "personal_sign")),
    (js "params", .array [message, .string signAddress])]

/-- The request with its names known to be unique. -/
def signData (message : JsData) : JsData where
  value := signRequest message.value
  unique := by
    have hnames : [js "method", js "params"].Nodup := by decide
    exact ⟨hnames, trivial, ⟨message.unique, trivial, trivial⟩, trivial⟩

/-- The parameters as they are hashed. -/
def signPayload (message : JsValue) : JsValue :=
  .object [(js "params", .array [message, .string signAddress])]

/-- The intent of a request to sign under a fixed context. -/
def signIntent (S : Hash) (text : JsString) : Intent where
  toIntentAction := opaqueAction .genericSignature none (some (sha256Hex S text))
  requestId := js "request-0001"
  origin := js "https://app.example"
  chainId := .ofNat 1
  account := ⟨signAddress, by decide⟩
  rpcMethod := js "personal_sign"

/-- Normalization under that context. -/
def normalizeSignRequest (N : Normalization) (S : Hash) (message : JsValue) :
    Except IntentFailure Intent :=
  normalizeWalletGuardIntent signUrls N S (some (.string (js "request-0001")))
    (some (.string (js "https://app.example"))) (some (.string (js "0x1")))
    (some (.string signAddress)) (signRequest message)

theorem signOrigin : normalizeTrustedOrigin signUrls (some (.string (js "https://app.example"))) =
    .ok (js "https://app.example") := by
  have hlength : ¬ ((js "https://app.example").length < 8 ∨ 512 < (js "https://app.example").length) := by
    decide
  unfold normalizeTrustedOrigin
  dsimp only
  rw [if_neg hlength, checkOrigin_eq_ok]
  exact ⟨rfl, _, rfl, .inl rfl, rfl, rfl, rfl⟩

theorem validateWalletGuardIntent_signIntent (S : Hash) (text : JsString) :
    validateWalletGuardIntent signUrls (signIntent S text) = .ok () := by
  have hid : REQUEST_ID_PATTERN (js "request-0001") = true := by decide
  have hmethod : RPC_METHOD_PATTERN (js "personal_sign") = true := by decide
  simp [validateWalletGuardIntent, signIntent, opaqueAction, hid, hmethod, signOrigin, bind,
    Except.bind]

theorem normalizeRequest_signRequest (message : JsValue) : normalizeRequest (signRequest message) =
    .ok (js "personal_sign", [message, .string signAddress]) := by
  have hkeys : exactKeys (some (signRequest message)) [js "method", js "params"] = true := by
    simp [exactKeys, signRequest]
  have hmethod : RPC_METHOD_PATTERN (js "personal_sign") = true := by decide
  unfold normalizeRequest
  rw [if_pos (show (signRequest message).isObject = true from rfl), if_pos hkeys]
  simp only [show (signRequest message).get (js "method") = some (.string (js "personal_sign")) from rfl,
    show (signRequest message).get (js "params") = some (.array [message, .string signAddress]) from rfl,
    hmethod, if_true]

/-- The intent depends on the message only through its canonical text. -/
theorem normalizeSignRequest_eq {N : Normalization} {S : Hash} {message : JsValue}
    {text : JsString} (htext : canonicalizePayload N (signPayload message) = .ok text) :
    normalizeSignRequest N S message = .ok (signIntent S text) := by
  have hid : REQUEST_ID_PATTERN (js "request-0001") = true := by decide
  have hchain : normalizeChainId (some (.string (js "0x1"))) = .ok (.ofNat 1) := by
    rw [show js "0x1" = (ChainId.ofNat 1).val by decide, normalizeChainId_val]
  have haccount : normalizeEvmAddress (some (.string signAddress)) (js "trusted active account") =
      .ok (signIntent S text).account := normalizeEvmAddress_val (signIntent S text).account _
  have haction : normalizeAction N S (js "personal_sign") [message, .string signAddress]
      (signIntent S text).account = .ok (signIntent S text).toIntentAction := by
    unfold normalizeAction
    rw [if_neg (by decide), if_neg (by decide), if_pos (.inl rfl)]
    unfold normalizeGenericSignature
    rw [if_neg (by simp), show JsValue.object [(js "params", .array [message, .string signAddress])] =
      signPayload message from rfl, htext]
    rfl
  unfold normalizeSignRequest normalizeWalletGuardIntent
  simp only [hid, if_true, signOrigin, hchain, haccount, normalizeRequest_signRequest, haction,
    liftDecoder, Except.mapError, bind, Except.bind]
  exact congrArg (fun r => Except.bind r fun _ => Except.ok (signIntent S text))
    (validateWalletGuardIntent_signIntent S text)

theorem commitWalletGuardIntent_signIntent (S : Hash) (text : JsString) :
    commitWalletGuardIntent signUrls S (signIntent S text) =
      .ok (sha256Hex S (intentText (signIntent S text))) := by
  rw [commitWalletGuardIntent, validateWalletGuardIntent_signIntent]
  rfl

theorem requestAsk_signRequest (message : JsValue) : requestAsk (signRequest message) =
    some (js "personal_sign", .parameters [message, .string signAddress]) := by
  have hsend : js "personal_sign" ≠ js "eth_sendTransaction" := by decide
  have htyped : js "personal_sign" ≠ js "eth_signTypedData_v4" := by decide
  have hask : walletAsk (js "personal_sign") [message, .string signAddress] =
      .parameters [message, .string signAddress] := by
    unfold walletAsk
    rw [if_neg hsend, if_neg htyped]
  exact congrArg (fun ask => some (js "personal_sign", ask)) hask

theorem hashedRequest_signRequest {N : Normalization} {message : JsValue} :
    hashedRequest N (signRequest message) = canonicalizeValue N (signPayload message) := by
  have hparams : hashedParams N (js "personal_sign") [message, .string signAddress] =
      canonicalizeValue N (signPayload message) := by
    unfold hashedParams
    rw [if_neg (by decide), if_neg (by decide), if_pos (.inl rfl)]
    rfl
  exact hparams

/-- The message `{ a: 1, b: 2 }`. -/
def sortedMessage : JsData where
  value := .object [(js "a", .number (.finite 1)), (js "b", .number (.finite 2))]
  unique := ⟨by decide, trivial, trivial, trivial⟩

/-- The message `{ b: 2, a: 1 }`. -/
def reversedMessage : JsData where
  value := .object [(js "b", .number (.finite 2)), (js "a", .number (.finite 1))]
  unique := ⟨by decide, trivial, trivial, trivial⟩

/-- Two requests that differ in the order of properties only. -/
theorem commitWalletGuardIntent_binding_order :
    SameRequest (signData sortedMessage).value (signData reversedMessage).value ↔
      NfcTellsRequestsApart devanagari (signData sortedMessage).value
        (signData reversedMessage).value := by
  have htext : ∃ text, canonicalizePayload devanagari (signPayload sortedMessage.value) = .ok text ∧
      canonicalizePayload devanagari (signPayload reversedMessage.value) = .ok text := by
    refine ⟨canonicalizeValue devanagari (signPayload sortedMessage.value), ?_, ?_⟩
    · decide +kernel
    · decide +kernel
  obtain ⟨text, hsorted, hreversed⟩ := htext
  have hvalue := ((canonicalizePayload_eq_ok_iff _ _).mp hsorted).2.2.2.2.2
  have hvalue' := ((canonicalizePayload_eq_ok_iff _ _).mp hreversed).2.2.2.2.2
  refine commitWalletGuardIntent_binding (S := sha256) (normalizeSignRequest_eq hsorted)
    (normalizeSignRequest_eq hreversed) (commitWalletGuardIntent_signIntent _ _)
    (commitWalletGuardIntent_signIntent _ _) (fun h => h.1 rfl) ?_
  rw [signData, signData, hashedRequest_signRequest, hashedRequest_signRequest, ← hvalue, ← hvalue']
  exact fun h => h.1 rfl

/-- The message `\u0958`. -/
def composedMessage : JsData := ⟨.string [0x0958], trivial⟩

/-- The message `\u0915\u093C`, with the same NFC form. -/
def decomposedMessage : JsData := ⟨.string [0x0915, 0x093C], trivial⟩

/-- Two requests to sign different messages get one commitment, from one hashed text. -/
theorem commitWalletGuardIntent_nfc : ∃ intent commitment,
    normalizeSignRequest devanagari sha256 composedMessage.value = .ok intent ∧
      normalizeSignRequest devanagari sha256 decomposedMessage.value = .ok intent ∧
      commitWalletGuardIntent signUrls sha256 intent = .ok commitment ∧
      hashedRequest devanagari (signRequest composedMessage.value) =
        hashedRequest devanagari (signRequest decomposedMessage.value) ∧
      ¬ SameRequest (signRequest composedMessage.value) (signRequest decomposedMessage.value) := by
  have htext : ∃ text, canonicalizePayload devanagari (signPayload composedMessage.value) = .ok text ∧
      canonicalizePayload devanagari (signPayload decomposedMessage.value) = .ok text := by
    refine ⟨canonicalizeValue devanagari (signPayload composedMessage.value), ?_, ?_⟩
    · decide +kernel
    · decide +kernel
  obtain ⟨text, hcomposed, hdecomposed⟩ := htext
  have hvalue := ((canonicalizePayload_eq_ok_iff _ _).mp hcomposed).2.2.2.2.2
  have hvalue' := ((canonicalizePayload_eq_ok_iff _ _).mp hdecomposed).2.2.2.2.2
  refine ⟨_, _, normalizeSignRequest_eq hcomposed, normalizeSignRequest_eq hdecomposed,
    commitWalletGuardIntent_signIntent _ _, ?_, ?_⟩
  · rw [hashedRequest_signRequest, hashedRequest_signRequest, ← hvalue, ← hvalue']
  · rintro ⟨method, ask, ask', hask, hask', hsame⟩
    rw [requestAsk_signRequest] at hask hask'
    cases hask
    cases hask'
    have hfirst : SameContent composedMessage.value decomposedMessage.value := hsame.1
    rw [SameContent, composedMessage, decomposedMessage, PayloadEq, verbatim_normalizeNfc,
      verbatim_normalizeNfc] at hfirst
    exact absurd hfirst (by decide)

end OpenRisk.Guard.IntentBinding
