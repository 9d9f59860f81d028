import OpenRisk.Sdk.Checks

/-!
# EVM addresses, quantities and calldata

Model of `applications/blockchain-digital-assets/wallet-guard/evm-decoders.mjs`. The
values it decodes are plain data: requests are cloned before, and typed data in a string
is read with `JSON.parse`. Normalized texts are subtypes that carry their form.

Results:
* `normalizeEvmAddress_val`, `normalizeChainId_val`: normalized texts are fixed points.
* `decodeTransactionCalldata_simulation`: only empty calldata needs no simulation.
* `decodeTypedData_simulation`: typed data always needs a simulation.
-/

namespace OpenRisk.Guard

open Text Sdk

/-- `WalletGuardDecoderError`. -/
structure DecoderError where
  code : JsString
  message : JsString
  deriving DecidableEq

/-! ## Formats -/

/-- `[a-fA-F0-9]`. -/
def isHexUnit (u : UInt16) : Bool := (Json.hexValue u).isSome

/-- The text starts with `0x`. -/
def hasHexMark (s : JsString) : Bool := s.take 2 = [0x30, 0x78]

/-- `0`, or digits of the class that do not start with `0`. -/
def isCanonicalNumeral (digit : UInt16 → Bool) (s : JsString) : Bool :=
  match s with
  | [] => false
  | u :: us => (u = 0x30 && us = []) || (u ≠ 0x30 && digit u && us.all digit)

/-- `ADDRESS_PATTERN`. -/
def ADDRESS_PATTERN (s : JsString) : Bool :=
  hasHexMark s && (s.drop 2).length = 40 && (s.drop 2).all isHexUnit

/-- `HEX_DATA_PATTERN`. -/
def HEX_DATA_PATTERN (s : JsString) : Bool :=
  hasHexMark s && (s.drop 2).length % 2 = 0 && (s.drop 2).all isHexUnit

/-- `HEX_QUANTITY_PATTERN`. -/
def HEX_QUANTITY_PATTERN (s : JsString) : Bool :=
  hasHexMark s && isCanonicalNumeral isHexUnit (s.drop 2)

/-- `DECIMAL_INTEGER_PATTERN`. -/
def DECIMAL_INTEGER_PATTERN (s : JsString) : Bool := isCanonicalNumeral Json.isDigit s

/-- `BigInt(text)` of a hexadecimal text with its mark. -/
def hexNumber (s : JsString) : ℕ := Json.radixValue 16 (s.drop 2)

/-- `BigInt(text)` of a decimal text. -/
def decimalNumber (s : JsString) : ℕ := Json.radixValue 10 s

/-- The text of a number with `0x`. -/
def hexQuantity (n : ℕ) : JsString := 0x30 :: 0x78 :: Json.radixText 16 n

/-- A 20-byte address in lower case. -/
abbrev Address := { s : JsString // ADDRESS_PATTERN s = true ∧ toLowerAscii s = s }

/-- A chain id without leading zeros, in lower case. -/
abbrev ChainId := { s : JsString // ∃ n, s = hexQuantity n }

/-- A decimal number without leading zeros. -/
abbrev Decimal := { s : JsString // ∃ n, s = Json.decimal n }

def Decimal.ofNat (n : ℕ) : Decimal := ⟨Json.decimal n, n, rfl⟩

def ChainId.ofNat (n : ℕ) : ChainId := ⟨hexQuantity n, n, rfl⟩

theorem isHexUnit_toLower {u : UInt16} (h : isHexUnit u = true) :
    isHexUnit (if isUpperAlpha u then u + 0x20 else u) = true := by
  split_ifs with hup
  · have hb : 0x41 ≤ u.toNat ∧ u.toNat ≤ 0x46 := by
      simp only [isUpperAlpha, Bool.and_eq_true, decide_eq_true_eq] at hup
      simp only [isHexUnit, Json.hexValue] at h
      by_contra hnot
      rw [if_neg (by omega), if_neg (by omega), if_neg hnot] at h
      cases h
    have hadd : (u + 0x20).toNat = u.toNat + 0x20 := by
      rw [UInt16.toNat_add]
      have : (0x20 : UInt16).toNat = 0x20 := rfl
      omega
    rw [isHexUnit, Json.hexValue, hadd, if_neg (by omega), if_pos (by omega)]
    rfl
  · exact h

theorem toLowerAscii_idem (s : JsString) : toLowerAscii (toLowerAscii s) = toLowerAscii s := by
  rw [toLowerAscii, toLowerAscii, List.map_map]
  apply List.map_congr_left
  intro u _
  simp only [Function.comp_apply]
  by_cases hup : isUpperAlpha u = true
  · have hlow : isUpperAlpha (u + 0x20) = false := by
      simp only [isUpperAlpha, Bool.and_eq_true, decide_eq_true_eq] at hup
      have hadd : (u + 0x20).toNat = u.toNat + 0x20 := by
        rw [UInt16.toNat_add]
        have : (0x20 : UInt16).toNat = 0x20 := rfl
        omega
      simp only [isUpperAlpha, hadd, Bool.and_eq_false_iff, decide_eq_false_iff_not]
      omega
    simp [hup, hlow]
  · simp [hup]

theorem ADDRESS_PATTERN_toLowerAscii {s : JsString} (h : ADDRESS_PATTERN s = true) :
    ADDRESS_PATTERN (toLowerAscii s) = true := by
  simp only [ADDRESS_PATTERN, hasHexMark, Bool.and_eq_true, decide_eq_true_eq,
    List.all_eq_true] at h ⊢
  obtain ⟨⟨hmark, hlen⟩, hhex⟩ := h
  refine ⟨⟨?_, ?_⟩, ?_⟩
  · rw [toLowerAscii, ← List.map_take, hmark]
    decide
  · rw [toLowerAscii, ← List.map_drop, List.length_map, hlen]
  · intro u hu
    rw [toLowerAscii, ← List.map_drop] at hu
    obtain ⟨v, hv, rfl⟩ := List.mem_map.mp hu
    exact isHexUnit_toLower (hhex v hv)

/-! ## Normalization -/

/-- `normalizeEvmAddress(value, field)`. -/
def normalizeEvmAddress (value : Option JsValue) (field : JsString) : Except DecoderError Address :=
  match value with
  | some (.string s) =>
    if h : ADDRESS_PATTERN s = true then
      .ok ⟨toLowerAscii s, ADDRESS_PATTERN_toLowerAscii h, toLowerAscii_idem s⟩
    else .error ⟨js "POMRX_WG_E_ADDRESS_INVALID", field ++ js " must be a 20-byte EVM address"⟩
  | _ => .error ⟨js "POMRX_WG_E_ADDRESS_INVALID", field ++ js " must be a 20-byte EVM address"⟩

/-- `normalizeHexData(value, field)`. -/
def normalizeHexData (value : Option JsValue) (field : JsString) : Except DecoderError JsString :=
  match value with
  | some (.string s) =>
    if HEX_DATA_PATTERN s then .ok (toLowerAscii s)
    else .error ⟨js "POMRX_WG_E_HEX_INVALID", field ++ js " must be canonical byte-aligned hex data"⟩
  | _ => .error ⟨js "POMRX_WG_E_HEX_INVALID", field ++ js " must be canonical byte-aligned hex data"⟩

/-- `normalizeChainId(value)`. -/
def normalizeChainId (value : Option JsValue) : Except DecoderError ChainId :=
  match value with
  | some (.string s) =>
    if HEX_QUANTITY_PATTERN s then .ok (.ofNat (hexNumber s))
    else .error ⟨js "POMRX_WG_E_CHAIN_INVALID",
      js "chain_id must be a canonical EIP-1193 hex quantity"⟩
  | _ => .error ⟨js "POMRX_WG_E_CHAIN_INVALID",
      js "chain_id must be a canonical EIP-1193 hex quantity"⟩

/-- `normalizeQuantity(value, field)`. -/
def normalizeQuantity (value : Option JsValue) (field : JsString) : Except DecoderError Decimal :=
  match value with
  | none => .ok (.ofNat 0)
  | some .null => .ok (.ofNat 0)
  | some (.string s) =>
    if HEX_QUANTITY_PATTERN s then .ok (.ofNat (hexNumber s))
    else .error ⟨js "POMRX_WG_E_QUANTITY_INVALID", field ++ js " must be a canonical EVM hex quantity"⟩
  | _ => .error ⟨js "POMRX_WG_E_QUANTITY_INVALID", field ++ js " must be a canonical EVM hex quantity"⟩

def typedDataInvalid {α : Type} (message : JsString) : Except DecoderError α :=
  .error ⟨js "POMRX_WG_E_TYPED_DATA_INVALID", message⟩

/-- `normalizeNumberish(value, field, bits)`. -/
def normalizeNumberish (value : Option JsValue) (field : JsString) (bits : ℕ) :
    Except DecoderError Decimal := do
  let parsed ← match value with
    | some (.number x) =>
      if x.isSafeInteger && 0 ≤ x.toInt then .ok x.toInt.toNat
      else typedDataInvalid (field ++ js " must be a non-negative integer")
    | some (.string s) =>
      if DECIMAL_INTEGER_PATTERN s then .ok (decimalNumber s)
      else if HEX_QUANTITY_PATTERN s then .ok (hexNumber s)
      else typedDataInvalid (field ++ js " must be a canonical integer")
    | _ => typedDataInvalid (field ++ js " must be a canonical integer")
  if parsed ≥ 2 ^ bits then typedDataInvalid (field ++ js " exceeds uint" ++ Json.decimal bits)
  else .ok (.ofNat parsed)

theorem normalizeEvmAddress_val (a : Address) (field : JsString) :
    normalizeEvmAddress (some (.string a.val)) field = .ok a := by
  rw [normalizeEvmAddress, dif_pos a.property.1]
  exact congrArg Except.ok (Subtype.ext a.property.2)

theorem isHexUnit_hexDigit : ∀ d, d < 16 → isHexUnit (Json.hexDigit d) = true := by decide

theorem isHexUnit_radixText (n : ℕ) : ∀ u ∈ Json.radixText 16 n, isHexUnit u = true := by
  intro u hu
  unfold Json.radixText at hu
  split_ifs at hu with hn
  · rw [List.mem_singleton.mp hu]
    decide
  · obtain ⟨d, hd, rfl⟩ := List.mem_map.mp hu
    exact isHexUnit_hexDigit d (Nat.digits_lt_base (by norm_num) (List.mem_reverse.mp hd))

theorem isCanonicalNumeral_radixText {b : ℕ} (h1 : 1 < b) (hb : b ≤ 16) {digit : UInt16 → Bool}
    (n : ℕ) (hdigit : ∀ u ∈ Json.radixText b n, digit u = true) :
    isCanonicalNumeral digit (Json.radixText b n) = true := by
  obtain ⟨u, us, hcons, hzero⟩ := Json.radixText_cons h1 hb n
  rw [hcons] at hdigit ⊢
  have hu := hdigit u List.mem_cons_self
  have hus : us.all digit = true :=
    List.all_eq_true.mpr fun v hv => hdigit v (List.mem_cons_of_mem _ hv)
  by_cases h : u = 0x30
  · have : us = [] := by
      by_contra hne
      exact hzero ⟨h, hne⟩
    simp [isCanonicalNumeral, h, this]
  · simp [isCanonicalNumeral, h, hu, hus]

theorem HEX_QUANTITY_PATTERN_hexQuantity (n : ℕ) : HEX_QUANTITY_PATTERN (hexQuantity n) = true := by
  have := isCanonicalNumeral_radixText (by norm_num) (by norm_num) n (isHexUnit_radixText n)
  simpa [HEX_QUANTITY_PATTERN, hasHexMark, hexQuantity] using this

theorem DECIMAL_INTEGER_PATTERN_decimal (n : ℕ) : DECIMAL_INTEGER_PATTERN (Json.decimal n) = true :=
  isCanonicalNumeral_radixText (by norm_num) (by norm_num) n (Json.decimal_isDigit n)

theorem decimalNumber_decimal (n : ℕ) : decimalNumber (Json.decimal n) = n :=
  Json.radixValue_radixText (by norm_num) (by norm_num) n

theorem hexNumber_hexQuantity (n : ℕ) : hexNumber (hexQuantity n) = n :=
  Json.radixValue_radixText (by norm_num) (by norm_num) n

theorem normalizeChainId_val (c : ChainId) : normalizeChainId (some (.string c.val)) = .ok c := by
  obtain ⟨s, n, rfl⟩ := c
  rw [normalizeChainId, if_pos (HEX_QUANTITY_PATTERN_hexQuantity n), hexNumber_hexQuantity]
  rfl

/-! ## Request classes -/

/-- `KNOWN_REQUEST_CLASSES` of the policy module. -/
inductive RequestClass where
  | nativeTransfer
  | erc20Approve
  | erc20Transfer
  | setApprovalForAll
  | permitEip2612
  | permit2Single
  | permit2BatchUnknown
  | unknownCalldata
  | unknownTypedData
  | genericSignature
  | unsupportedRpc
  deriving DecidableEq

namespace RequestClass

def text : RequestClass → JsString
  | .nativeTransfer => js "native_transfer"
  | .erc20Approve => js "erc20_approve"
  | .erc20Transfer => js "erc20_transfer"
  | .setApprovalForAll => js "set_approval_for_all"
  | .permitEip2612 => js "permit_eip2612"
  | .permit2Single => js "permit2_single"
  | .permit2BatchUnknown => js "permit2_batch_unknown"
  | .unknownCalldata => js "unknown_calldata"
  | .unknownTypedData => js "unknown_typed_data"
  | .genericSignature => js "generic_signature"
  | .unsupportedRpc => js "unsupported_rpc"

end RequestClass

/-! ## Calldata -/

def ERC20_APPROVE_SELECTOR : JsString := js "0x095ea7b3"

def ERC20_TRANSFER_SELECTOR : JsString := js "0xa9059cbb"

def SET_APPROVAL_FOR_ALL_SELECTOR : JsString := js "0xa22cb465"

def calldataMalformed {α : Type} (message : JsString) : Except DecoderError α :=
  .error ⟨js "POMRX_WG_E_CALLDATA_MALFORMED", message⟩

/-- `parseAddressWord(word, field)`. -/
def parseAddressWord (word field : JsString) : Except DecoderError Address :=
  if HASH_PATTERN word && word.take 24 = List.replicate 24 0x30 then
    normalizeEvmAddress (some (.string (0x30 :: 0x78 :: word.drop 24))) field
  else calldataMalformed (field ++ js " is not a canonical ABI address word")

/-- `parseUint256Word(word, field)`. -/
def parseUint256Word (word field : JsString) : Except DecoderError Decimal :=
  if HASH_PATTERN word then .ok (.ofNat (Json.radixValue 16 word))
  else calldataMalformed (field ++ js " is not a canonical uint256 word")

/-- `parseBoolWord(word, field)`. -/
def parseBoolWord (word field : JsString) : Except DecoderError Bool :=
  if HASH_PATTERN word then
    let value := Json.radixValue 16 word
    if value ≠ 0 ∧ value ≠ 1 then calldataMalformed (field ++ js " must be ABI bool 0 or 1")
    else .ok (value = 1)
  else calldataMalformed (field ++ js " is not a canonical bool word")

/-- The result of `decodeTransactionCalldata`. -/
structure DecodedCalldata where
  requestClass : RequestClass
  selector : Option JsString
  spender : Option Address
  recipient : Option Address
  requestedAllowance : Option Decimal
  tokenAmount : Option Decimal
  requestedOperatorApproval : Option Bool
  calldataSha256 : HashText
  simulationRequired : Bool

/-- The branches of the three selectors with two arguments. -/
def decodeTwoArguments (selector data : JsString) (calldataSha256 : HashText) :
    Except DecoderError DecodedCalldata := do
  let firstWord := (data.drop 10).take 64
  let secondWord := (data.drop 74).take 64
  if selector = ERC20_APPROVE_SELECTOR then
    let spender ← parseAddressWord firstWord (js "spender")
    let allowance ← parseUint256Word secondWord (js "allowance")
    .ok ⟨.erc20Approve, some selector, some spender, none, some allowance, none, none,
      calldataSha256, true⟩
  else if selector = ERC20_TRANSFER_SELECTOR then
    let recipient ← parseAddressWord firstWord (js "recipient")
    let amount ← parseUint256Word secondWord (js "token amount")
    .ok ⟨.erc20Transfer, some selector, none, some recipient, none, some amount, none,
      calldataSha256, true⟩
  else
    let operator ← parseAddressWord firstWord (js "operator")
    let approved ← parseBoolWord secondWord (js "approved")
    .ok ⟨.setApprovalForAll, some selector, some operator, none, none, none, some approved,
      calldataSha256, true⟩

/-- `decodeTransactionCalldata(rawData)`. -/
def decodeTransactionCalldata (S : Hash) (rawData : JsString) :
    Except DecoderError DecodedCalldata := do
  let data ← normalizeHexData (some (.string rawData)) (js "transaction data")
  let calldataSha256 := sha256Hex S data
  if data = js "0x" then
    .ok ⟨.nativeTransfer, none, none, none, none, none, none, calldataSha256, false⟩
  else if data.length < 10 then
    calldataMalformed (js "transaction data is too short for a selector")
  else
    let selector := data.take 10
    if [ERC20_APPROVE_SELECTOR, ERC20_TRANSFER_SELECTOR,
        SET_APPROVAL_FOR_ALL_SELECTOR].contains selector then
      if data.length ≠ 138 then
        calldataMalformed (js "recognized two-argument calldata has an invalid length")
      else decodeTwoArguments selector data calldataSha256
    else .ok ⟨.unknownCalldata, some selector, none, none, none, none, none, calldataSha256, true⟩

/-! ## Typed data -/

/-- What decoding throws: an error of this module, or one of `canonicalizePayload`. -/
inductive DecodeFailure where
  | decoder (e : DecoderError)
  | payload (e : PayloadError)

def MAX_JSON_DEPTH : ℕ := 8

def MAX_JSON_NODES : ℕ := 1000

def MAX_JSON_STRING : ℕ := 16384

/-- The test of a key in `clonePlainJson`. -/
def isTypedDataKey (key : JsString) : Bool :=
  PAYLOAD_KEY_PATTERN key &&
    !(["__proto__", "constructor", "prototype"].map js).contains key

mutual

/-- `clonePlainJson(value, depth, budget)` of plain data, which is copied as it is; returns
    `budget.remaining`. -/
def clonePlainJson (depth budget : ℕ) : JsValue → Except DecoderError ℕ
  | .null => enterJson depth budget
  | .bool _ => enterJson depth budget
  | .string s => do
    let budget ← enterJson depth budget
    if MAX_JSON_STRING < s.length then typedDataInvalid (js "typed data string is too long")
    else .ok budget
  | .number x => do
    let budget ← enterJson depth budget
    if x.isSafeInteger then .ok budget
    else typedDataInvalid (js "typed data numbers must be safe integers")
  | .array xs => do
    let budget ← enterJson depth budget
    cloneJsonItems (depth + 1) budget xs
  | .object es => do
    let budget ← enterJson depth budget
    cloneJsonEntries (depth + 1) budget es

/-- The bounds on entry. -/
def enterJson (depth budget : ℕ) : Except DecoderError ℕ :=
  if MAX_JSON_DEPTH < depth ∨ budget = 0 then
    typedDataInvalid (js "typed data exceeds reference bounds")
  else .ok (budget - 1)

def cloneJsonItems (depth budget : ℕ) : List JsValue → Except DecoderError ℕ
  | [] => .ok budget
  | x :: xs => do
    let budget ← clonePlainJson depth budget x
    cloneJsonItems depth budget xs

def cloneJsonEntries (depth budget : ℕ) : List (JsString × JsValue) → Except DecoderError ℕ
  | [] => .ok budget
  | (key, x) :: es => do
    if isTypedDataKey key then
      let budget ← clonePlainJson depth budget x
      cloneJsonEntries depth budget es
    else typedDataInvalid (js "typed data contains an unsafe key")

end

/-- `parseTypedData(rawTypedData)`. -/
def parseTypedData (rawTypedData : JsValue) : Except DecoderError JsValue := do
  let parsed ← match rawTypedData with
    | .string s =>
      if 16 * 1024 < s.length then typedDataInvalid (js "typed data JSON is too large")
      else
        match jsonParse s with
        | some v => .ok v
        | none => typedDataInvalid (js "typed data JSON is invalid")
    | v => .ok v
  let _ ← clonePlainJson 0 MAX_JSON_NODES parsed
  .ok parsed

/-- `exactKeys(value, expected)`. -/
def exactKeys (value : Option JsValue) (expected : List JsString) : Bool :=
  match value with
  | some (.object es) => sortNames (es.map Prod.fst) = sortNames expected
  | _ => false

/-- The fields of a struct type: names and types. -/
abbrev TypeFields := List (JsString × JsString)

def typeFields (fields : List (String × String)) : TypeFields := fields.map fun f => (js f.1, js f.2)

def EIP2612_DOMAIN_FIELDS : TypeFields :=
  typeFields [("name", "string"), ("version", "string"), ("chainId", "uint256"),
    ("verifyingContract", "address")]

def EIP2612_PERMIT_FIELDS : TypeFields :=
  typeFields [("owner", "address"), ("spender", "address"), ("value", "uint256"),
    ("nonce", "uint256"), ("deadline", "uint256")]

def PERMIT2_DOMAIN_FIELDS : TypeFields :=
  typeFields [("name", "string"), ("chainId", "uint256"), ("verifyingContract", "address")]

def PERMIT2_DETAILS_FIELDS : TypeFields :=
  typeFields [("token", "address"), ("amount", "uint160"), ("expiration", "uint48"),
    ("nonce", "uint48")]

def PERMIT2_SINGLE_FIELDS : TypeFields :=
  typeFields [("details", "PermitDetails"), ("spender", "address"), ("sigDeadline", "uint256")]

/-- The value is this string. -/
def isString (value : Option JsValue) (s : JsString) : Bool :=
  match value with
  | some (.string t) => t = s
  | _ => false

/-- `exactTypeDefinition(types, typeName, expectedFields)`. -/
def exactTypeDefinition (types : JsValue) (typeName : JsString) (expectedFields : TypeFields) : Bool :=
  match types.get typeName with
  | some (.array definition) =>
    definition.length = expectedFields.length &&
      (definition.zip expectedFields).all fun (field, expected) =>
        exactKeys (some field) [js "name", js "type"] && isString (field.get (js "name")) expected.1 &&
          isString (field.get (js "type")) expected.2
  | _ => false

/-- `exactTypeSet(types, expectedDefinitions)`. -/
def exactTypeSet (types : Option JsValue) (expectedDefinitions : List (JsString × TypeFields)) :
    Bool :=
  match types with
  | some t => exactKeys (some t) (expectedDefinitions.map Prod.fst) &&
      expectedDefinitions.all fun d => exactTypeDefinition t d.1 d.2
  | none => false

/-- `value?.[key]`. -/
def member (value : Option JsValue) (key : JsString) : Option JsValue := value.bind (·.get key)

def TYPED_DATA_KEYS : List JsString := ["types", "primaryType", "domain", "message"].map js

/-- `isExactEip2612Permit(typedData)`. -/
def isExactEip2612Permit (typedData : JsValue) : Bool :=
  exactKeys (some typedData) TYPED_DATA_KEYS &&
    exactTypeSet (typedData.get (js "types"))
      [(js "EIP712Domain", EIP2612_DOMAIN_FIELDS), (js "Permit", EIP2612_PERMIT_FIELDS)] &&
    exactKeys (typedData.get (js "domain")) (["name", "version", "chainId", "verifyingContract"].map js) &&
    exactKeys (typedData.get (js "message")) (["owner", "spender", "value", "nonce", "deadline"].map js)

/-- `isExactPermit2Single(typedData)`. -/
def isExactPermit2Single (typedData : JsValue) : Bool :=
  exactKeys (some typedData) TYPED_DATA_KEYS &&
    exactTypeSet (typedData.get (js "types"))
      [(js "EIP712Domain", PERMIT2_DOMAIN_FIELDS), (js "PermitDetails", PERMIT2_DETAILS_FIELDS),
        (js "PermitSingle", PERMIT2_SINGLE_FIELDS)] &&
    exactKeys (typedData.get (js "domain")) (["name", "chainId", "verifyingContract"].map js) &&
    exactKeys (typedData.get (js "message")) (["details", "spender", "sigDeadline"].map js) &&
    exactKeys (member (typedData.get (js "message")) (js "details"))
      (["token", "amount", "expiration", "nonce"].map js)

/-- The result of `decodeTypedData`. -/
structure DecodedTypedData where
  requestClass : RequestClass
  target : Option Address
  spender : Option Address
  requestedAllowance : Option Decimal
  typedDataOwner : Option Address
  typedDataSha256 : HashText
  typedDataDomainChainId : Option ChainId
  typedDataVerifyingContract : Option Address
  simulationRequired : Bool

/-- `normalizeOptionalDomainChainId(domain)`. -/
def normalizeOptionalDomainChainId (domain : JsValue) : Except DecoderError (Option ChainId) :=
  match domain.get (js "chainId") with
  | none => .ok none
  | some value => do
    let decimal ← normalizeNumberish (some value) (js "typed data domain chainId") 256
    .ok (some (.ofNat (decimalNumber decimal.val)))

/-- The `verifyingContract` of a domain, if it has one. -/
def normalizeOptionalContract (domain : JsValue) : Except DecoderError (Option Address) :=
  match domain.get (js "verifyingContract") with
  | none => .ok none
  | some value => (normalizeEvmAddress (some value) (js "typed data verifyingContract")).map some

/-- `unknownTypedDataResult(...)`. -/
def unknownTypedDataResult (primaryType : JsString) (typedDataSha256 : HashText)
    (domainChainId : Option ChainId) (domainVerifyingContract : Option Address) : DecodedTypedData :=
  ⟨if primaryType = js "PermitBatch" then .permit2BatchUnknown else .unknownTypedData, none, none,
    none, none, typedDataSha256, domainChainId, domainVerifyingContract, true⟩

/-- The branch of an exact EIP-2612 permit. -/
def decodePermit (message : JsValue) (typedDataSha256 : HashText) (domainChainId : Option ChainId)
    (domainVerifyingContract : Option Address) : Except DecoderError DecodedTypedData := do
  if domainChainId = none ∨ domainVerifyingContract = none then
    typedDataInvalid (js "EIP-2612 Permit requires chainId and verifyingContract")
  else
    let _ ← normalizeNumberish (message.get (js "nonce")) (js "Permit nonce") 256
    let _ ← normalizeNumberish (message.get (js "deadline")) (js "Permit deadline") 256
    let spender ← normalizeEvmAddress (message.get (js "spender")) (js "Permit spender")
    let allowance ← normalizeNumberish (message.get (js "value")) (js "Permit value") 256
    let owner ← normalizeEvmAddress (message.get (js "owner")) (js "Permit owner")
    .ok ⟨.permitEip2612, domainVerifyingContract, some spender, some allowance, some owner,
      typedDataSha256, domainChainId, domainVerifyingContract, true⟩

/-- The branch of an exact Permit2 single permit. -/
def decodePermit2 (message : JsValue) (typedDataSha256 : HashText) (domainChainId : Option ChainId)
    (domainVerifyingContract : Option Address) : Except DecoderError DecodedTypedData := do
  if domainChainId = none ∨ domainVerifyingContract = none then
    typedDataInvalid (js "Permit2 requires chainId and verifyingContract")
  else
    let details := message.get (js "details")
    let _ ← normalizeNumberish (member details (js "expiration")) (js "Permit2 expiration") 48
    let _ ← normalizeNumberish (member details (js "nonce")) (js "Permit2 nonce") 48
    let _ ← normalizeNumberish (message.get (js "sigDeadline")) (js "Permit2 sigDeadline") 256
    let token ← normalizeEvmAddress (member details (js "token")) (js "Permit2 token")
    let spender ← normalizeEvmAddress (message.get (js "spender")) (js "Permit2 spender")
    let amount ← normalizeNumberish (member details (js "amount")) (js "Permit2 amount") 160
    .ok ⟨.permit2Single, some token, some spender, some amount, none, typedDataSha256,
      domainChainId, domainVerifyingContract, true⟩

/-- The choice between the kinds of typed data. -/
def classifyTypedData (typedData : JsValue) (primaryType : JsString) (message : JsValue)
    (typedDataSha256 : HashText) (domainChainId : Option ChainId)
    (domainVerifyingContract : Option Address) : Except DecoderError DecodedTypedData :=
  if primaryType = js "Permit" ∧ isExactEip2612Permit typedData then
    decodePermit message typedDataSha256 domainChainId domainVerifyingContract
  else if primaryType = js "PermitSingle" ∧ isExactPermit2Single typedData then
    decodePermit2 message typedDataSha256 domainChainId domainVerifyingContract
  else .ok (unknownTypedDataResult primaryType typedDataSha256 domainChainId domainVerifyingContract)

/-- The shape that typed data must have: a primary type, a domain and a message. -/
def typedDataParts (typedData : JsValue) : Except DecoderError (JsString × JsValue × JsValue) :=
  if typedData.isObject then
    match typedData.get (js "primaryType") with
    | some (.string primaryType) =>
      if primaryType.length < 1 then typedDataInvalid (js "typed data primaryType is required")
      else
        match typedData.get (js "domain"), typedData.get (js "message") with
        | some (.object domain), some (.object message) =>
          .ok (primaryType, .object domain, .object message)
        | _, _ => typedDataInvalid (js "typed data domain and message are required")
    | _ => typedDataInvalid (js "typed data primaryType is required")
  else typedDataInvalid (js "typed data must be an object")

/-- `decodeTypedData(rawTypedData)`. -/
def decodeTypedData (N : Normalization) (S : Hash) (rawTypedData : JsValue) :
    Except DecodeFailure DecodedTypedData := do
  let typedData ← (parseTypedData rawTypedData).mapError .decoder
  let (primaryType, domain, message) ← (typedDataParts typedData).mapError .decoder
  let canonicalTypedData ← (canonicalizePayload N typedData).mapError .payload
  let typedDataSha256 := sha256Hex S canonicalTypedData
  let domainChainId ← (normalizeOptionalDomainChainId domain).mapError .decoder
  let domainVerifyingContract ← (normalizeOptionalContract domain).mapError .decoder
  (classifyTypedData typedData primaryType message typedDataSha256 domainChainId
    domainVerifyingContract).mapError .decoder

/-! ## What needs a simulation -/

theorem decodeTwoArguments_simulation {selector data : JsString} {h : HashText}
    {d : DecodedCalldata} (hd : decodeTwoArguments selector data h = .ok d) :
    d.simulationRequired = true := by
  unfold decodeTwoArguments at hd
  split_ifs at hd
  all_goals
    obtain ⟨a, -, hd⟩ := bind_eq_ok.mp hd
    obtain ⟨x, -, hd⟩ := bind_eq_ok.mp hd
    cases hd
    rfl

/-- Only a transaction without calldata needs no simulation. -/
theorem decodeTransactionCalldata_simulation {S : Hash} {rawData : JsString} {d : DecodedCalldata}
    (hd : decodeTransactionCalldata S rawData = .ok d) (hsim : d.simulationRequired = false) :
    d.requestClass = .nativeTransfer ∧ toLowerAscii rawData = js "0x" := by
  unfold decodeTransactionCalldata at hd
  obtain ⟨data, hdata, hd⟩ := bind_eq_ok.mp hd
  have hlower : toLowerAscii rawData = data := by
    unfold normalizeHexData at hdata
    dsimp only at hdata
    split_ifs at hdata
    exact Except.ok.inj hdata
  dsimp only at hd
  split_ifs at hd with hempty hshort hknown hlength
  · cases hd
    exact ⟨rfl, hlower.trans hempty⟩
  · cases hd
  · cases hd
  · rw [decodeTwoArguments_simulation hd] at hsim
    cases hsim
  · cases hd
    cases hsim

theorem decodePermit_simulation {message : JsValue} {h : HashText} {c : Option ChainId}
    {v : Option Address} {d : DecodedTypedData} (hd : decodePermit message h c v = .ok d) :
    d.simulationRequired = true := by
  unfold decodePermit at hd
  split_ifs at hd
  · cases hd
  · obtain ⟨-, -, hd⟩ := bind_eq_ok.mp hd
    obtain ⟨-, -, hd⟩ := bind_eq_ok.mp hd
    obtain ⟨spender, -, hd⟩ := bind_eq_ok.mp hd
    obtain ⟨allowance, -, hd⟩ := bind_eq_ok.mp hd
    obtain ⟨owner, -, hd⟩ := bind_eq_ok.mp hd
    cases hd
    rfl

theorem decodePermit2_simulation {message : JsValue} {h : HashText} {c : Option ChainId}
    {v : Option Address} {d : DecodedTypedData} (hd : decodePermit2 message h c v = .ok d) :
    d.simulationRequired = true := by
  unfold decodePermit2 at hd
  split_ifs at hd
  · cases hd
  · obtain ⟨-, -, hd⟩ := bind_eq_ok.mp hd
    obtain ⟨-, -, hd⟩ := bind_eq_ok.mp hd
    obtain ⟨-, -, hd⟩ := bind_eq_ok.mp hd
    obtain ⟨token, -, hd⟩ := bind_eq_ok.mp hd
    obtain ⟨spender, -, hd⟩ := bind_eq_ok.mp hd
    obtain ⟨amount, -, hd⟩ := bind_eq_ok.mp hd
    cases hd
    rfl

/-- Typed data always needs a simulation. -/
theorem decodeTypedData_simulation {N : Normalization} {S : Hash} {raw : JsValue}
    {d : DecodedTypedData} (hd : decodeTypedData N S raw = .ok d) : d.simulationRequired = true := by
  unfold decodeTypedData at hd
  obtain ⟨typedData, -, hd⟩ := bind_eq_ok.mp hd
  obtain ⟨⟨primaryType, domain, message⟩, -, hd⟩ := bind_eq_ok.mp hd
  obtain ⟨canonical, -, hd⟩ := bind_eq_ok.mp hd
  obtain ⟨chain, -, hd⟩ := bind_eq_ok.mp hd
  obtain ⟨contract, -, hd⟩ := bind_eq_ok.mp hd
  rw [mapError_eq_ok, classifyTypedData] at hd
  split_ifs at hd
  · exact decodePermit_simulation hd
  · exact decodePermit2_simulation hd
  · cases hd
    rfl

end OpenRisk.Guard
