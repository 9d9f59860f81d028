import OpenRisk.Guard.Intent
import OpenRisk.Js.Host
import OpenRisk.Sorting.Comparator

/-!
# Wallet Guard policies

Model of `applications/blockchain-digital-assets/wallet-guard/policy.mjs`. A `Policy` is
what `normalizePolicy` accepts: its lists have no duplicates and are sorted, its texts are
normalized and its canonical text is within the bounds.

`evaluateWalletGuardPolicy` normalizes the policy it is given again, as the source does.
The list of intents that `intent.mjs` keeps (a `WeakSet`) is the argument
`locallyNormalized`.

Results:
* `normalizePolicy_toHost`: a normalized policy is normalized to itself.
* `evaluateWalletGuardPolicy_toHost`: evaluation under a normalized policy.
* `allow_without_simulation`: what an intent satisfies that is allowed without simulation.
-/

namespace OpenRisk.Guard

open Text Sdk Sorting

/-- `WalletGuardPolicyError`. -/
structure PolicyError where
  code : JsString
  message : JsString
  deriving DecidableEq

def policyError (message : JsString) : PolicyError := ⟨js "POMRX_WG_POLICY_E_INVALID", message⟩

def policyInvalid {α : Type} (message : JsString) : Except PolicyError α := .error (policyError message)

/-! ## Capture of records and arrays -/

/-- `snapshotExactDataRecord(value, expected, label)`. -/
def snapshotExactDataRecord (value : HostValue) (expected : List JsString) (label : JsString) :
    Except PolicyError (List (JsString × HostValue)) :=
  snapshotRecord
    { notObject := policyError (label ++ js " must be an exact plain data object")
      array := policyError (label ++ js " must be an exact plain data object")
      prototype := policyError (label ++ js " must use Object.prototype or a null prototype")
      symbols := policyError (label ++ js " cannot contain symbol keys")
      fields := policyError (label ++ js " has missing, hidden or unknown fields")
      property := fun _ => policyError (label ++ js " fields must be enumerable data properties") }
    (fun names => sortNames names = sortNames expected) expected value

/-- The values of the properties of a dense array. -/
def readItems (field : JsString) : List (JsString × Property HostValue) →
    Except PolicyError (List HostValue)
  | [] => .ok []
  | (_, property) :: rest =>
    match property.enumerableData with
    | some value => do
      let values ← readItems field rest
      .ok (value :: values)
    | none => policyInvalid (field ++ js " entries must be enumerable data properties")

/-- `snapshotDenseArray(values, field)`. -/
def snapshotDenseArray (values : HostValue) (field : JsString) : Except PolicyError (List HostValue) :=
  match values with
  | .object ⟨.array length, _, hasSymbols, properties⟩ =>
    if hasSymbols then policyInvalid (field ++ js " cannot contain symbol keys")
    else if 256 < length then policyInvalid (field ++ js " must be a bounded array")
    else if properties.map Prod.fst ≠ (List.range length).map Json.decimal then
      policyInvalid (field ++ js " must be dense and cannot contain extra or hidden properties")
    else readItems field properties
  | _ => policyInvalid (field ++ js " must be a bounded plain array")

/-! ## Lists without duplicates -/

/-- A sorted list without duplicates, of at most 256 entries. -/
structure UniqueList {α : Type} (text : α → JsString) where
  entries : List α
  increasing : Increasing text entries
  length_le : entries.length ≤ 256

section Unique

variable {α : Type} [DecidableEq α]

/-- The loop of `normalizeUniqueList`; `normalized` are the items so far. -/
def normalizeItems (field : JsString) (normalizeItem : HostValue → Except PolicyError α) :
    List HostValue → List α → Except PolicyError (List α)
  | [], normalized => .ok normalized
  | value :: rest, normalized => do
    let item ← normalizeItem value
    if item ∈ normalized then policyInvalid (field ++ js " cannot contain duplicates")
    else normalizeItems field normalizeItem rest (normalized ++ [item])

theorem readItems_length {field : JsString} {properties : List (JsString × Property HostValue)}
    {values : List HostValue} (h : readItems field properties = .ok values) :
    values.length = properties.length := by
  induction properties generalizing values with
  | nil =>
    cases h
    rfl
  | cons p rest ih =>
    unfold readItems at h
    split at h
    · obtain ⟨vs, hvs, h⟩ := bind_eq_ok.mp h
      cases h
      rw [List.length_cons, List.length_cons, ih hvs]
    · cases h

theorem snapshotDenseArray_length {values : HostValue} {field : JsString} {items : List HostValue}
    (h : snapshotDenseArray values field = .ok items) : items.length ≤ 256 := by
  unfold snapshotDenseArray at h
  split at h
  · split_ifs at h with hsymbols hlength hdense
    · cases h
    · cases h
    · cases h
    · have hnames := congrArg List.length (not_not.mp hdense)
      rw [List.length_map, List.length_map, List.length_range] at hnames
      rw [readItems_length h, hnames]
      omega
  · cases h

theorem normalizeItems_spec {field : JsString} {normalizeItem : HostValue → Except PolicyError α}
    {items : List HostValue} {normalized result : List α}
    (h : normalizeItems field normalizeItem items normalized = .ok result)
    (hnodup : normalized.Nodup) :
    result.Nodup ∧ result.length = normalized.length + items.length := by
  induction items generalizing normalized with
  | nil =>
    cases h
    exact ⟨hnodup, rfl⟩
  | cons value rest ih =>
    unfold normalizeItems at h
    obtain ⟨item, hitem, h⟩ := bind_eq_ok.mp h
    split_ifs at h with hmem
    · cases h
    · obtain ⟨hresult, hlength⟩ := ih h (hnodup.append (List.nodup_singleton item) (by simpa using hmem))
      refine ⟨hresult, ?_⟩
      rw [hlength, List.length_append, List.length_singleton, List.length_cons]
      omega

/-- The list that `normalizeUniqueList` returns. -/
def UniqueList.ofItems {text : α → JsString} (htext : Function.Injective text) (normalized : List α)
    (hnodup : normalized.Nodup) (hlength : normalized.length ≤ 256) : UniqueList text :=
  ⟨sortBy text normalized, sortBy_pairwise htext hnodup, (sortBy_perm text normalized).length_eq ▸ hlength⟩

/-- `normalizeUniqueList(values, field, normalizeItem)`, where items are compared and sorted
    by their texts. -/
def normalizeUniqueList {text : α → JsString} (htext : Function.Injective text) (values : HostValue)
    (field : JsString) (normalizeItem : HostValue → Except PolicyError α) :
    Except PolicyError (UniqueList text) :=
  match hitems : snapshotDenseArray values field with
  | .error e => .error e
  | .ok items =>
    match hresult : normalizeItems field normalizeItem items [] with
    | .error e => .error e
    | .ok normalized =>
      .ok (.ofItems htext normalized (normalizeItems_spec hresult List.nodup_nil).1 (by
        rw [(normalizeItems_spec hresult List.nodup_nil).2, List.length_nil, Nat.zero_add]
        exact snapshotDenseArray_length hitems))

end Unique

/-! ## Items -/

/-- `POLICY_ID_PATTERN`: a letter or digit and 7 to 127 letters, digits or `.`, `_`, `/`, `-`. -/
def POLICY_ID_PATTERN (s : JsString) : Bool :=
  match s with
  | [] => false
  | u :: rest =>
    isAlphaNumeric u && rest.all (fun v => isKeyUnit v || v = 0x2F) && 7 ≤ rest.length &&
      rest.length ≤ 127

abbrev PolicyId := { s : JsString // POLICY_ID_PATTERN s = true }

/-- An HTTP(S) origin. -/
abbrev Origin (U : UrlParser) := { s : JsString // CanonicalOrigin U s }

/-- `normalizeOrigin(value)`. -/
def normalizeOrigin (U : UrlParser) (value : HostValue) : Except PolicyError (Origin U) :=
  match value with
  | .string s =>
    match h : checkOrigin U s (policyError (js "origin must be an absolute URL origin"))
        (policyError (js "origin must be canonical HTTP(S) origin")) with
    | .ok origin => .ok ⟨origin, by rw [(checkOrigin_eq_ok.mp h).1]; exact (checkOrigin_eq_ok.mp h).2⟩
    | .error e => .error e
  | _ => policyInvalid (js "origin must be a string")

/-- `normalizeCanonicalDecimal(value, field)`. -/
def normalizeCanonicalDecimal (value : HostValue) (field : JsString) : Except PolicyError Decimal :=
  match value with
  | .string s =>
    if DECIMAL_INTEGER_PATTERN s then .ok (.ofNat (decimalNumber s))
    else policyInvalid (field ++ js " must be a canonical decimal integer string")
  | _ => policyInvalid (field ++ js " must be a canonical decimal integer string")

/-- A value for the decoders, which accept strings only. -/
def asString : HostValue → Option JsValue
  | .string s => some (.string s)
  | _ => none

/-- `normalizePolicyChainId(value)`. -/
def normalizePolicyChainId (value : HostValue) : Except PolicyError ChainId :=
  (normalizeChainId (asString value)).mapError fun e =>
    policyError (js "expected_chain_id is invalid: " ++ e.code)

/-- `normalizePolicyAddress(value, field)`. -/
def normalizePolicyAddress (field : JsString) (value : HostValue) : Except PolicyError Address :=
  (normalizeEvmAddress (asString value) field).mapError fun e =>
    policyError (field ++ js " is invalid: " ++ e.code)

/-- `KNOWN_REQUEST_CLASSES`. -/
def KNOWN_REQUEST_CLASSES : List RequestClass :=
  [.nativeTransfer, .erc20Approve, .erc20Transfer, .setApprovalForAll, .permitEip2612, .permit2Single,
    .permit2BatchUnknown, .unknownCalldata, .unknownTypedData, .genericSignature, .unsupportedRpc]

/-- The check of an item of `require_simulation_for`. -/
def normalizeRequestClass (value : HostValue) : Except PolicyError RequestClass :=
  match value with
  | .string s =>
    match KNOWN_REQUEST_CLASSES.find? fun c => c.text = s with
    | some c => .ok c
    | none => policyInvalid (js "require_simulation_for contains an unknown request class")
  | _ => policyInvalid (js "require_simulation_for contains an unknown request class")

theorem RequestClass.text_injective : Function.Injective RequestClass.text := by
  have hnodup : (KNOWN_REQUEST_CLASSES.map RequestClass.text).Nodup := by decide +kernel
  have hmem : ∀ c, c ∈ KNOWN_REQUEST_CLASSES := fun c => by cases c <;> decide
  exact fun c c' h => List.inj_on_of_nodup_map hnodup (hmem c) (hmem c') h

/-! ## Policies -/

def WALLET_GUARD_POLICY_SCHEMA_VERSION : JsString := js "wallet-guard-policy/0.1"

def WALLET_GUARD_POLICY_COMMIT_DOMAIN : JsString := js "swisstokint:pom-rx-wallet-guard-policy:v1:"

def POLICY_CANONICAL_MAX_NODES : ℕ := 1000

def POLICY_CANONICAL_MAX_BYTES : ℕ := 16 * 1024

def POLICY_KEYS : List JsString :=
  ["schema_version", "policy_id", "enabled", "kill_switch", "expected_chain_id", "allowed_origins",
    "allowed_targets", "allowed_recipients", "allowed_spenders",
    "allowed_typed_data_verifying_contracts", "max_native_value", "max_token_amount",
    "deny_unlimited_allowance", "deny_operator_approval", "require_simulation_for"].map js

abbrev AddressList := UniqueList (Subtype.val : Address → JsString)

/-- The fields of a normalized policy. -/
structure PolicyFields (U : UrlParser) where
  policyId : PolicyId
  enabled : Bool
  killSwitch : Bool
  expectedChainId : ChainId
  allowedOrigins : UniqueList (Subtype.val : Origin U → JsString)
  allowedTargets : AddressList
  allowedRecipients : AddressList
  allowedSpenders : AddressList
  allowedTypedDataVerifyingContracts : AddressList
  maxNativeValue : Decimal
  maxTokenAmount : Decimal
  denyUnlimitedAllowance : Bool
  denyOperatorApproval : Bool
  requireSimulationFor : UniqueList RequestClass.text

section Fields

variable {U : UrlParser}

/-- The texts of a list. -/
def UniqueList.texts {α : Type} {text : α → JsString} (l : UniqueList text) : List JsString :=
  l.entries.map text

/-- `canonicalStringArray(values)`. -/
def canonicalStringArray (values : List JsString) : JsString :=
  0x5B :: (joinComma (values.map Json.quote) ++ [0x5D])

/-- `canonicalBoolean(value)`. -/
def canonicalBoolean (value : Bool) : JsString := if value then js "true" else js "false"

/-- `canonicalizeNormalizedPolicy(policy)`. -/
def canonicalizeNormalizedPolicy (p : PolicyFields U) : JsString :=
  canonicalRecord [
    ("allowed_origins", canonicalStringArray p.allowedOrigins.texts),
    ("allowed_recipients", canonicalStringArray p.allowedRecipients.texts),
    ("allowed_spenders", canonicalStringArray p.allowedSpenders.texts),
    ("allowed_targets", canonicalStringArray p.allowedTargets.texts),
    ("allowed_typed_data_verifying_contracts",
      canonicalStringArray p.allowedTypedDataVerifyingContracts.texts),
    ("deny_operator_approval", canonicalBoolean p.denyOperatorApproval),
    ("deny_unlimited_allowance", canonicalBoolean p.denyUnlimitedAllowance),
    ("enabled", canonicalBoolean p.enabled),
    ("expected_chain_id", Json.quote p.expectedChainId.val),
    ("kill_switch", canonicalBoolean p.killSwitch),
    ("max_native_value", Json.quote p.maxNativeValue.val),
    ("max_token_amount", Json.quote p.maxTokenAmount.val),
    ("policy_id", Json.quote p.policyId.val),
    ("require_simulation_for", canonicalStringArray p.requireSimulationFor.texts),
    ("schema_version", Json.quote WALLET_GUARD_POLICY_SCHEMA_VERSION)]

/-- `normalizedPolicyNodeCount(policy)`. -/
def normalizedPolicyNodeCount (p : PolicyFields U) : ℕ :=
  16 + p.allowedOrigins.entries.length + p.allowedTargets.entries.length +
    p.allowedRecipients.entries.length + p.allowedSpenders.entries.length +
    p.allowedTypedDataVerifyingContracts.entries.length + p.requireSimulationFor.entries.length

end Fields

/-- A policy that `normalizePolicy` accepts, normalized. -/
structure Policy (U : UrlParser) extends PolicyFields U where
  nodes_le : normalizedPolicyNodeCount toPolicyFields ≤ POLICY_CANONICAL_MAX_NODES
  text_le : (canonicalizeNormalizedPolicy toPolicyFields).length ≤ POLICY_CANONICAL_MAX_BYTES

section Normalize

variable (U : UrlParser)

/-- `snapshot[key]`. -/
def fieldOf (snapshot : List (JsString × HostValue)) (key : String) : HostValue :=
  (snapshot.lookup (js key)).getD .undefined

/-- The check of `schema_version`. -/
def checkPolicyVersion (value : HostValue) : Except PolicyError Unit :=
  match value with
  | .string s =>
    if s = WALLET_GUARD_POLICY_SCHEMA_VERSION then .ok ()
    else policyInvalid (js "unsupported Wallet Guard policy version")
  | _ => policyInvalid (js "unsupported Wallet Guard policy version")

/-- The check of `policy_id`. -/
def checkPolicyId (value : HostValue) : Except PolicyError PolicyId :=
  match value with
  | .string s =>
    if h : POLICY_ID_PATTERN s = true then .ok ⟨s, h⟩
    else policyInvalid (js "policy_id has an invalid format")
  | _ => policyInvalid (js "policy_id has an invalid format")

/-- The check of a boolean field. -/
def checkBoolean (value : HostValue) (field : JsString) : Except PolicyError Bool :=
  match value with
  | .bool b => .ok b
  | _ => policyInvalid (field ++ js " must be boolean")

/-- A list of addresses. -/
def normalizeAddressList (values : HostValue) (field item : String) : Except PolicyError AddressList :=
  normalizeUniqueList Subtype.val_injective values (js field) (normalizePolicyAddress (js item))

/-- The part of `normalizePolicy` before the bounds. -/
def normalizePolicyFields (snapshot : List (JsString × HostValue)) :
    Except PolicyError (PolicyFields U) := do
  checkPolicyVersion (fieldOf snapshot "schema_version")
  let policyId ← checkPolicyId (fieldOf snapshot "policy_id")
  let enabled ← checkBoolean (fieldOf snapshot "enabled") (js "enabled")
  let killSwitch ← checkBoolean (fieldOf snapshot "kill_switch") (js "kill_switch")
  let denyUnlimitedAllowance ← checkBoolean (fieldOf snapshot "deny_unlimited_allowance")
    (js "deny_unlimited_allowance")
  let denyOperatorApproval ← checkBoolean (fieldOf snapshot "deny_operator_approval")
    (js "deny_operator_approval")
  let requireSimulationFor ← normalizeUniqueList RequestClass.text_injective
    (fieldOf snapshot "require_simulation_for") (js "require_simulation_for") normalizeRequestClass
  let expectedChainId ← normalizePolicyChainId (fieldOf snapshot "expected_chain_id")
  let allowedOrigins ← normalizeUniqueList Subtype.val_injective (fieldOf snapshot "allowed_origins")
    (js "allowed_origins") (normalizeOrigin U)
  let allowedTargets ← normalizeAddressList (fieldOf snapshot "allowed_targets")
    "allowed_targets" "allowed target"
  let allowedRecipients ← normalizeAddressList (fieldOf snapshot "allowed_recipients")
    "allowed_recipients" "allowed recipient"
  let allowedSpenders ← normalizeAddressList (fieldOf snapshot "allowed_spenders")
    "allowed_spenders" "allowed spender"
  let allowedTypedDataVerifyingContracts ← normalizeAddressList
    (fieldOf snapshot "allowed_typed_data_verifying_contracts")
    "allowed_typed_data_verifying_contracts" "allowed typed-data verifying contract"
  let maxNativeValue ← normalizeCanonicalDecimal (fieldOf snapshot "max_native_value")
    (js "max_native_value")
  let maxTokenAmount ← normalizeCanonicalDecimal (fieldOf snapshot "max_token_amount")
    (js "max_token_amount")
  .ok { policyId, enabled, killSwitch, expectedChainId, allowedOrigins, allowedTargets,
        allowedRecipients, allowedSpenders, allowedTypedDataVerifyingContracts, maxNativeValue,
        maxTokenAmount, denyUnlimitedAllowance, denyOperatorApproval, requireSimulationFor }

variable {U}

/-- `assertNormalizedPolicyBounds(policy)`. -/
def assertNormalizedPolicyBounds (p : PolicyFields U) : Except PolicyError (Policy U) :=
  if nodes_le : normalizedPolicyNodeCount p ≤ POLICY_CANONICAL_MAX_NODES then
    if text_le : (canonicalizeNormalizedPolicy p).length ≤ POLICY_CANONICAL_MAX_BYTES then
      .ok { p with nodes_le, text_le }
    else policyInvalid (js "Wallet Guard policy exceeds the 16 KiB canonical bound")
  else policyInvalid (js "Wallet Guard policy exceeds the canonical node bound")

variable (U)

/-- `normalizePolicy(policy)`. -/
def normalizePolicy (policy : HostValue) : Except PolicyError (Policy U) := do
  let snapshot ← snapshotExactDataRecord policy POLICY_KEYS (js "Wallet Guard policy")
  let fields ← normalizePolicyFields U snapshot
  assertNormalizedPolicyBounds fields

end Normalize

/-! ## Evaluation -/

inductive SimulationStatus where
  | notRun
  | pass
  | fail
  | unavailable
  | mismatch
  deriving DecidableEq

/-- `SIMULATION_STATUSES`. -/
def SIMULATION_STATUSES : List (JsString × SimulationStatus) :=
  [(js "not_run", .notRun), (js "pass", .pass), (js "fail", .fail), (js "unavailable", .unavailable),
    (js "mismatch", .mismatch)]

/-- The check of `status`. -/
def checkSimulationStatus (value : HostValue) : Except PolicyError SimulationStatus :=
  match value with
  | .string s =>
    match SIMULATION_STATUSES.lookup s with
    | some status => .ok status
    | none => policyInvalid (js "simulation status is invalid")
  | _ => policyInvalid (js "simulation status is invalid")

/-- `normalizeSimulation(simulation)`. -/
def normalizeSimulation (simulation : HostValue) : Except PolicyError SimulationStatus :=
  match simulation with
  | .undefined => .ok .notRun
  | .null => .ok .notRun
  | value => do
    let snapshot ← snapshotExactDataRecord value [js "status"] (js "simulation evidence")
    checkSimulationStatus (fieldOf snapshot "status")

inductive Decision where
  | deny
  | indeterminate
  | allow
  deriving DecidableEq

inductive Reason where
  | denyDisabled
  | denyKillSwitch
  | denyOrigin
  | denyChain
  | denyNativeValue
  | denyRecipient
  | denyTarget
  | denyTokenAmount
  | denySpender
  | denyUnlimitedAllowance
  | denyAllowanceLimit
  | denyOperator
  | denyOperatorApproval
  | denyTypedDataChain
  | denyTypedDataDomain
  | denyTypedDataOwner
  | denySimulation
  | indeterminateUnsupportedEffect
  | indeterminateSimulation
  | allowExact
  deriving DecidableEq

def Reason.text : Reason → JsString
  | .denyDisabled => js "WG_POLICY_DENY_DISABLED"
  | .denyKillSwitch => js "WG_POLICY_DENY_KILL_SWITCH"
  | .denyOrigin => js "WG_POLICY_DENY_ORIGIN"
  | .denyChain => js "WG_POLICY_DENY_CHAIN"
  | .denyNativeValue => js "WG_POLICY_DENY_NATIVE_VALUE"
  | .denyRecipient => js "WG_POLICY_DENY_RECIPIENT"
  | .denyTarget => js "WG_POLICY_DENY_TARGET"
  | .denyTokenAmount => js "WG_POLICY_DENY_TOKEN_AMOUNT"
  | .denySpender => js "WG_POLICY_DENY_SPENDER"
  | .denyUnlimitedAllowance => js "WG_POLICY_DENY_UNLIMITED_ALLOWANCE"
  | .denyAllowanceLimit => js "WG_POLICY_DENY_ALLOWANCE_LIMIT"
  | .denyOperator => js "WG_POLICY_DENY_OPERATOR"
  | .denyOperatorApproval => js "WG_POLICY_DENY_OPERATOR_APPROVAL"
  | .denyTypedDataChain => js "WG_POLICY_DENY_TYPED_DATA_CHAIN"
  | .denyTypedDataDomain => js "WG_POLICY_DENY_TYPED_DATA_DOMAIN"
  | .denyTypedDataOwner => js "WG_POLICY_DENY_TYPED_DATA_OWNER"
  | .denySimulation => js "WG_POLICY_DENY_SIMULATION"
  | .indeterminateUnsupportedEffect => js "WG_POLICY_INDETERMINATE_UNSUPPORTED_EFFECT"
  | .indeterminateSimulation => js "WG_POLICY_INDETERMINATE_SIMULATION"
  | .allowExact => js "WG_POLICY_ALLOW_EXACT"

structure PolicyResult where
  decision : Decision
  reasons : List Reason
  policyId : PolicyId
  policyHash : HashText

/-- `CRITICAL_UNKNOWN_CLASSES`. -/
def CRITICAL_UNKNOWN_CLASSES : List RequestClass :=
  [.permit2BatchUnknown, .unknownCalldata, .unknownTypedData, .genericSignature, .unsupportedRpc]

/-- `MAX_UINT256_DECIMAL`. -/
def MAX_UINT256_DECIMAL : Decimal := .ofNat (2 ^ 256 - 1)

/-- `includes(list, value)`. -/
def includes (list : List JsString) (value : Option JsString) : Bool :=
  match value with
  | none => false
  | some v => list.contains v

/-- `greaterThan(value, limit)`. -/
def greaterThan (value : Option Decimal) (limit : Decimal) : Bool :=
  match value with
  | none => true
  | some v => decimalNumber limit.val < decimalNumber v.val

/-- `if (condition) appendArrayValue(reasons, reason)`. -/
def reasonIf (condition : Bool) (reason : Reason) : List Reason := if condition then [reason] else []

section Evaluate

variable {U : UrlParser} (p : PolicyFields U) (intent : Intent)

/-- The reasons to deny that do not depend on the request class. -/
def generalReasons : List Reason :=
  reasonIf (!p.enabled) .denyDisabled ++ reasonIf p.killSwitch .denyKillSwitch ++
    reasonIf (!includes p.allowedOrigins.texts (some intent.origin)) .denyOrigin ++
    reasonIf (intent.chainId ≠ p.expectedChainId) .denyChain ++
    reasonIf (greaterThan (some intent.nativeValue) p.maxNativeValue) .denyNativeValue

def targetReasons : List Reason :=
  reasonIf (!includes p.allowedTargets.texts (intent.target.map (·.val))) .denyTarget

def recipientReasons : List Reason :=
  reasonIf (!includes p.allowedRecipients.texts (intent.recipient.map (·.val))) .denyRecipient

/-- The two reasons about an allowance. -/
def allowanceReasons : List Reason :=
  reasonIf (p.denyUnlimitedAllowance && intent.requestedAllowance = some MAX_UINT256_DECIMAL)
      .denyUnlimitedAllowance ++
    reasonIf (greaterThan intent.requestedAllowance p.maxTokenAmount) .denyAllowanceLimit

/-- The reasons for a permit. -/
def permitReasons : List Reason :=
  targetReasons p intent ++
    reasonIf (!includes p.allowedSpenders.texts (intent.spender.map (·.val))) .denySpender ++
    reasonIf (intent.typedDataDomainChainId ≠ some intent.chainId) .denyTypedDataChain ++
    reasonIf (!includes p.allowedTypedDataVerifyingContracts.texts
      (intent.typedDataVerifyingContract.map (·.val))) .denyTypedDataDomain ++
    reasonIf (intent.requestClass = .permitEip2612 && intent.typedDataOwner ≠ some intent.account)
      .denyTypedDataOwner ++
    allowanceReasons p intent

/-- The reasons to deny for the class of the request. -/
def classReasons : List Reason :=
  match intent.requestClass with
  | .nativeTransfer => recipientReasons p intent
  | .erc20Transfer => targetReasons p intent ++ recipientReasons p intent ++
      reasonIf (greaterThan intent.tokenAmount p.maxTokenAmount) .denyTokenAmount
  | .erc20Approve => targetReasons p intent ++
      reasonIf (!includes p.allowedSpenders.texts (intent.spender.map (·.val))) .denySpender ++
      allowanceReasons p intent
  | .setApprovalForAll => targetReasons p intent ++
      reasonIf (!includes p.allowedSpenders.texts (intent.spender.map (·.val))) .denyOperator ++
      reasonIf (p.denyOperatorApproval && intent.requestedOperatorApproval = some true)
        .denyOperatorApproval
  | .permitEip2612 => permitReasons p intent
  | .permit2Single => permitReasons p intent
  | _ => []

/-- `simulationRequired`. -/
def simulationRequired : Bool :=
  intent.simulationRequired || includes p.requireSimulationFor.texts (some intent.requestClass.text)

def denyReasons (status : SimulationStatus) : List Reason :=
  generalReasons p intent ++ classReasons p intent ++
    reasonIf (simulationRequired p intent && (status = .fail || status = .mismatch)) .denySimulation

def indeterminateReasons (status : SimulationStatus) : List Reason :=
  reasonIf (CRITICAL_UNKNOWN_CLASSES.contains intent.requestClass) .indeterminateUnsupportedEffect ++
    reasonIf (simulationRequired p intent && !(status = .fail || status = .mismatch || status = .pass))
      .indeterminateSimulation

/-- The hash of a normalized policy. -/
def policyHash (S : Hash) : HashText :=
  sha256Hex S (WALLET_GUARD_POLICY_COMMIT_DOMAIN ++ canonicalizeNormalizedPolicy p)

/-- `makeResult(decision, reasons, normalizedPolicy)`. -/
def makeResult (S : Hash) (decision : Decision) (reasons : List Reason) : PolicyResult where
  decision := decision
  reasons := reasons.foldl (fun unique r => if r ∈ unique then unique else unique ++ [r]) []
  policyId := p.policyId
  policyHash := policyHash p S

/-- The decision from the two lists of reasons. -/
def decideOn (S : Hash) (status : SimulationStatus) : PolicyResult :=
  if denyReasons p intent status ≠ [] then makeResult p S .deny (denyReasons p intent status)
  else if indeterminateReasons p intent status ≠ [] then
    makeResult p S .indeterminate (indeterminateReasons p intent status)
  else makeResult p S .allow [.allowExact]

end Evaluate

/-- `validateIntent(intent)`. -/
def validateIntent (U : UrlParser) (intent : Intent) (locallyNormalized : Bool) :
    Except PolicyError Unit :=
  match validateWalletGuardIntent U intent with
  | .error (.intent e) =>
    policyInvalid (js "Wallet Guard intent failed canonical validation: " ++ e.code)
  | .error _ => policyInvalid (js "Wallet Guard intent failed canonical validation: invalid-intent")
  | .ok () =>
    if locallyNormalized then .ok ()
    else policyInvalid (js "Wallet Guard policy requires a locally normalized intent")

/-- `evaluateWalletGuardPolicy(intent, policy, simulation)`. -/
def evaluateWalletGuardPolicy (U : UrlParser) (S : Hash) (intent : Intent) (locallyNormalized : Bool)
    (policy simulation : HostValue) : Except PolicyError PolicyResult := do
  validateIntent U intent locallyNormalized
  let normalizedPolicy ← normalizePolicy U policy
  let simulationStatus ← normalizeSimulation simulation
  .ok (decideOn normalizedPolicy.toPolicyFields intent S simulationStatus)

/-! ## Normalized policies -/

section Unique

variable {α : Type} [DecidableEq α] {text : α → JsString}

theorem readItems_ofItems (field : JsString) (i : ℕ) (xs : List JsValue) :
    readItems field (HostValue.ofItems i xs) = .ok (xs.map HostValue.ofData) := by
  induction xs generalizing i with
  | nil => rfl
  | cons x xs ih =>
    rw [HostValue.ofItems, readItems]
    simp only [Property.enumerableData]
    rw [ih]
    rfl

theorem snapshotDenseArray_ofData {field : JsString} {xs : List JsValue} (h : xs.length ≤ 256) :
    snapshotDenseArray (.ofData (.array xs)) field = .ok (xs.map HostValue.ofData) := by
  rw [HostValue.ofData, snapshotDenseArray]
  simp only [Bool.false_eq_true, if_false]
  rw [if_neg (by omega), HostValue.map_fst_ofItems, ← List.range_eq_range', if_neg (by simp),
    readItems_ofItems]

/-- Items that are normalized and distinct are kept. -/
theorem normalizeItems_fixed {field : JsString} {normalizeItem : HostValue → Except PolicyError α}
    (hitem : ∀ a, normalizeItem (.string (text a)) = .ok a) {l normalized : List α}
    (hnodup : (normalized ++ l).Nodup) :
    normalizeItems field normalizeItem (l.map fun a => .string (text a)) normalized =
      .ok (normalized ++ l) := by
  induction l generalizing normalized with
  | nil => rw [List.map_nil, normalizeItems, List.append_nil]
  | cons a l ih =>
    have hmem : a ∉ normalized := by
      intro hmem
      have hdisjoint := (List.nodup_append.mp hnodup).2.2
      exact hdisjoint a hmem a List.mem_cons_self rfl
    rw [List.map_cons, normalizeItems, hitem]
    show (if a ∈ normalized then _ else _) = _
    rw [if_neg hmem, ih (by simpa using hnodup), List.append_assoc, List.singleton_append]

/-- The array of the texts of a list. -/
def UniqueList.toJs (l : UniqueList text) : JsValue := .array (l.texts.map .string)

theorem normalizeUniqueList_toJs (htext : Function.Injective text) (l : UniqueList text)
    (field : JsString) {normalizeItem : HostValue → Except PolicyError α}
    (hitem : ∀ a, normalizeItem (.string (text a)) = .ok a) :
    normalizeUniqueList htext (.ofData l.toJs) field normalizeItem = .ok l := by
  have hitems : snapshotDenseArray (.ofData l.toJs) field =
      .ok (l.entries.map fun a => .string (text a)) := by
    rw [UniqueList.toJs, snapshotDenseArray_ofData (by simpa [UniqueList.texts] using l.length_le),
      UniqueList.texts, List.map_map, List.map_map]
    rfl
  have hresult : normalizeItems field normalizeItem (l.entries.map fun a => .string (text a)) [] =
      .ok ([] ++ l.entries) := normalizeItems_fixed hitem (by simpa using l.increasing.nodup)
  unfold normalizeUniqueList
  split
  · simp_all
  · rename_i items hitems'
    rw [hitems] at hitems'
    cases hitems'
    split
    · simp_all
    · rename_i normalized hnormalized
      rw [hresult] at hnormalized
      cases hnormalized
      obtain ⟨entries, increasing, length_le⟩ := l
      simp only [UniqueList.ofItems, List.nil_append, sortBy_eq_self increasing]

end Unique

section Idempotent

variable {U : UrlParser}

theorem normalizeOrigin_val (o : Origin U) : normalizeOrigin U (.string o.val) = .ok o := by
  unfold normalizeOrigin
  split
  · rename_i s hs
    cases hs
    split
    · rename_i origin horigin
      congr
      exact (checkOrigin_eq_ok.mp horigin).1
    · rename_i e he
      rw [checkOrigin_eq_ok.mpr ⟨rfl, o.property⟩] at he
      cases he
  · rename_i hnot
    exact absurd rfl (hnot o.val)

theorem normalizePolicyAddress_val (field : JsString) (a : Address) :
    normalizePolicyAddress field (.string a.val) = .ok a := by
  rw [normalizePolicyAddress, asString, normalizeEvmAddress_val]
  rfl

theorem normalizePolicyChainId_val (c : ChainId) : normalizePolicyChainId (.string c.val) = .ok c := by
  rw [normalizePolicyChainId, asString, normalizeChainId_val]
  rfl

theorem normalizeCanonicalDecimal_val (d : Decimal) (field : JsString) :
    normalizeCanonicalDecimal (.string d.val) field = .ok d := by
  obtain ⟨s, n, rfl⟩ := d
  rw [normalizeCanonicalDecimal, if_pos (DECIMAL_INTEGER_PATTERN_decimal n), decimalNumber_decimal]
  rfl

theorem normalizeRequestClass_text (c : RequestClass) :
    normalizeRequestClass (.string c.text) = .ok c := by
  cases c <;> decide +kernel

theorem normalizeAddressList_toJs (l : AddressList) (field item : String) :
    normalizeAddressList (.ofData l.toJs) field item = .ok l :=
  normalizeUniqueList_toJs Subtype.val_injective l (js field) (normalizePolicyAddress_val (js item))

/-- The record of a normalized policy. -/
def PolicyFields.toEntries (p : PolicyFields U) : List (JsString × JsValue) :=
  [(js "schema_version", .string WALLET_GUARD_POLICY_SCHEMA_VERSION),
    (js "policy_id", .string p.policyId.val), (js "enabled", .bool p.enabled),
    (js "kill_switch", .bool p.killSwitch), (js "expected_chain_id", .string p.expectedChainId.val),
    (js "allowed_origins", p.allowedOrigins.toJs), (js "allowed_targets", p.allowedTargets.toJs),
    (js "allowed_recipients", p.allowedRecipients.toJs),
    (js "allowed_spenders", p.allowedSpenders.toJs),
    (js "allowed_typed_data_verifying_contracts", p.allowedTypedDataVerifyingContracts.toJs),
    (js "max_native_value", .string p.maxNativeValue.val),
    (js "max_token_amount", .string p.maxTokenAmount.val),
    (js "deny_unlimited_allowance", .bool p.denyUnlimitedAllowance),
    (js "deny_operator_approval", .bool p.denyOperatorApproval),
    (js "require_simulation_for", p.requireSimulationFor.toJs)]

/-- The frozen object that `normalizePolicy` returns. -/
def Policy.toHost (p : Policy U) : HostValue := .ofData (.object p.toEntries)

theorem snapshotExactDataRecord_toHost (p : Policy U) (label : JsString) :
    snapshotExactDataRecord p.toHost POLICY_KEYS label =
      .ok (p.toEntries.map fun e => (e.1, .ofData e.2)) := by
  rw [snapshotExactDataRecord]
  exact snapshotRecord_ofData _ rfl (by simp) (by decide +kernel)

theorem normalizePolicyFields_toEntries (p : PolicyFields U) :
    normalizePolicyFields U (p.toEntries.map fun e => (e.1, .ofData e.2)) = .ok p := by
  have hfield : ∀ key v, p.toEntries.lookup (js key) = some v →
      fieldOf (p.toEntries.map fun e => (e.1, .ofData e.2)) key = .ofData v := by
    intro key v h
    rw [fieldOf, lookup_map_snd, h]
    rfl
  rw [normalizePolicyFields, hfield "schema_version" _ rfl, hfield "policy_id" _ rfl,
    hfield "enabled" _ rfl, hfield "kill_switch" _ rfl, hfield "deny_unlimited_allowance" _ rfl,
    hfield "deny_operator_approval" _ rfl, hfield "require_simulation_for" _ rfl,
    hfield "expected_chain_id" _ rfl, hfield "allowed_origins" _ rfl, hfield "allowed_targets" _ rfl,
    hfield "allowed_recipients" _ rfl, hfield "allowed_spenders" _ rfl,
    hfield "allowed_typed_data_verifying_contracts" _ rfl, hfield "max_native_value" _ rfl,
    hfield "max_token_amount" _ rfl]
  have horigins := normalizeUniqueList_toJs Subtype.val_injective p.allowedOrigins
    (js "allowed_origins") normalizeOrigin_val
  have hclasses := normalizeUniqueList_toJs RequestClass.text_injective p.requireSimulationFor
    (js "require_simulation_for") normalizeRequestClass_text
  have hid : checkPolicyId (.string p.policyId.val) = .ok p.policyId := dif_pos p.policyId.property
  have hversion : checkPolicyVersion (.string WALLET_GUARD_POLICY_SCHEMA_VERSION) = .ok () := by
    rw [checkPolicyVersion, if_pos rfl]
  simp only [HostValue.ofData, hversion, hid, checkBoolean, hclasses, horigins,
    normalizePolicyChainId_val, normalizeAddressList_toJs, normalizeCanonicalDecimal_val, bind,
    Except.bind]

/-- A normalized policy is normalized to itself. -/
theorem normalizePolicy_toHost (p : Policy U) : normalizePolicy U p.toHost = .ok p := by
  rw [normalizePolicy, snapshotExactDataRecord_toHost]
  show (normalizePolicyFields U (p.toEntries.map fun e => (e.1, .ofData e.2)) >>= _) = _
  rw [normalizePolicyFields_toEntries]
  show assertNormalizedPolicyBounds p.toPolicyFields = .ok p
  rw [assertNormalizedPolicyBounds, dif_pos p.nodes_le, dif_pos p.text_le]

end Idempotent

/-! ## Intents that are allowed without simulation -/

/-- `{ status: 'not_run' }`. -/
def simulationNotRun : HostValue := .ofData (.object [(js "status", .string (js "not_run"))])

theorem normalizeSimulation_notRun : normalizeSimulation simulationNotRun = .ok .notRun := by
  decide +kernel

section Allow

variable {U : UrlParser} {S : Hash}

/-- Evaluation under a normalized policy, without simulation evidence. -/
theorem evaluateWalletGuardPolicy_toHost {p : Policy U} {intent : Intent} {result : PolicyResult} :
    evaluateWalletGuardPolicy U S intent true p.toHost simulationNotRun = .ok result ↔
      validateWalletGuardIntent U intent = .ok () ∧
        result = decideOn p.toPolicyFields intent S .notRun := by
  rw [evaluateWalletGuardPolicy, normalizePolicy_toHost, normalizeSimulation_notRun, validateIntent]
  cases hvalid : validateWalletGuardIntent U intent with
  | ok u => simp [bind, Except.bind, eq_comm]
  | error f => cases f <;> simp [bind, Except.bind, policyInvalid]

theorem reasonIf_eq_nil {condition : Bool} {reason : Reason} :
    reasonIf condition reason = [] ↔ condition = false := by
  cases condition <;> simp [reasonIf]

theorem decision_decideOn {p : PolicyFields U} {intent : Intent} {status : SimulationStatus} :
    (decideOn p intent S status).decision = .allow ↔
      denyReasons p intent status = [] ∧ indeterminateReasons p intent status = [] := by
  unfold decideOn
  split_ifs with hdeny hindeterminate
  · simp [makeResult, hdeny]
  · simp [makeResult, hindeterminate]
  · simp only [makeResult, true_iff]
    exact ⟨not_not.mp hdeny, not_not.mp hindeterminate⟩

/-- What holds of every intent that a policy allows. -/
structure GenerallyAllowed (p : PolicyFields U) (intent : Intent) : Prop where
  enabled : p.enabled = true
  killSwitch : p.killSwitch = false
  origin : intent.origin ∈ p.allowedOrigins.texts
  chain : intent.chainId = p.expectedChainId
  nativeValue : decimalNumber intent.nativeValue.val ≤ decimalNumber p.maxNativeValue.val

theorem generalReasons_eq_nil {p : PolicyFields U} {intent : Intent} :
    generalReasons p intent = [] ↔ GenerallyAllowed p intent := by
  simp only [generalReasons, List.append_eq_nil_iff, reasonIf_eq_nil, includes, greaterThan,
    Bool.not_eq_false', decide_eq_false_iff_not, not_not, not_lt, List.contains_iff_mem]
  constructor
  · rintro ⟨⟨⟨⟨h₁, h₂⟩, h₃⟩, h₄⟩, h₅⟩
    exact ⟨h₁, h₂, h₃, h₄, h₅⟩
  · rintro ⟨h₁, h₂, h₃, h₄, h₅⟩
    exact ⟨⟨⟨⟨h₁, h₂⟩, h₃⟩, h₄⟩, h₅⟩

/-- An allowed intent that was not simulated needs no simulation, and a transfer goes to a
    recipient of the policy. -/
theorem allow_without_simulation {p : PolicyFields U} {intent : Intent}
    (h : (decideOn p intent S .notRun).decision = .allow) :
    GenerallyAllowed p intent ∧ intent.simulationRequired = false ∧
      ∀ recipient, intent.requestClass = .nativeTransfer → intent.recipient = some recipient →
        recipient ∈ p.allowedRecipients.entries := by
  obtain ⟨hdeny, hindeterminate⟩ := decision_decideOn.mp h
  simp only [denyReasons, List.append_eq_nil_iff] at hdeny
  simp only [indeterminateReasons, List.append_eq_nil_iff, reasonIf_eq_nil] at hindeterminate
  refine ⟨generalReasons_eq_nil.mp hdeny.1.1, ?_, ?_⟩
  · have hsim := hindeterminate.2
    simp only [simulationRequired, Bool.and_eq_false_iff, Bool.or_eq_false_iff] at hsim
    exact (hsim.resolve_right (by decide)).1
  · intro recipient hclass hrecipient
    have hreasons := hdeny.1.2
    rw [classReasons, hclass] at hreasons
    rw [recipientReasons, reasonIf_eq_nil, hrecipient] at hreasons
    simp only [includes, UniqueList.texts, Option.map_some, Bool.not_eq_false',
      List.contains_iff_mem] at hreasons
    exact (List.mem_map_of_injective Subtype.val_injective).mp hreasons

end Allow

end OpenRisk.Guard
