import OpenRisk.Crypto.Sha256Eval
import OpenRisk.Guard.Policy

/-!
# Unlimited allowances

Three classes of requests grant an allowance. They reach the comparison of
`evaluateWalletGuardPolicy` with `MAX_UINT256_DECIMAL` through decoders of different
widths: ERC-20 `approve` and EIP-2612 `Permit` declare a `uint256`, Permit2 a `uint160`.

Results:
* `normalizeWalletGuardIntent_allowance`: the allowance of an intent is a value of the type
  its request declares.
* `unlimitedAllowance_denied_iff`: when the greatest allowance of that type is not allowed.
-/

namespace OpenRisk.Guard

open Text Sdk

/-! ## The type of an allowance -/

/-- The width of the unsigned integer that a request declares for its allowance. -/
def allowanceBits : RequestClass → Option ℕ
  | .erc20Approve => some 256
  | .permitEip2612 => some 256
  | .permit2Single => some 160
  | _ => none

example : EIP2612_PERMIT_FIELDS.lookup (js "value") = some (js "uint256") ∧
    PERMIT2_DETAILS_FIELDS.lookup (js "amount") = some (js "uint160") := by decide +kernel

/-- The intent grants the greatest allowance of its type. -/
def GreatestAllowance (intent : Intent) : Prop :=
  ∃ bits, allowanceBits intent.requestClass = some bits ∧
    intent.requestedAllowance = some (.ofNat (2 ^ bits - 1))

/-- The allowance is a value of the type of its class. -/
def AllowanceFits (requestClass : RequestClass) (allowance : Option Decimal) : Prop :=
  ∀ bits, allowanceBits requestClass = some bits → ∃ n < 2 ^ bits, allowance = some (.ofNat n)

theorem hexValue_lt {u : UInt16} {d : ℕ} (h : Json.hexValue u = some d) : d < 16 := by
  unfold Json.hexValue at h
  split_ifs at h
  all_goals
    have := Option.some.inj h
    omega

theorem radixValue_lt (s : JsString) : Json.radixValue 16 s < 16 ^ s.length := by
  induction s using List.reverseRecOn with
  | nil => simp [Json.radixValue]
  | append_singleton s u ih =>
    have hdigit : (Json.hexValue u).getD 0 < 16 := by
      rcases hu : Json.hexValue u with _ | d
      · simp
      · exact hexValue_lt hu
    rw [Json.radixValue_append, List.length_append, List.length_singleton, Nat.pow_succ]
    omega

theorem parseUint256Word_lt {word field : JsString} {d : Decimal}
    (h : parseUint256Word word field = .ok d) : ∃ n < 2 ^ 256, d = .ofNat n := by
  unfold parseUint256Word at h
  split_ifs at h with hword
  · cases h
    refine ⟨_, ?_, rfl⟩
    have hlength : word.length = 64 := by
      simp only [HASH_PATTERN, Bool.and_eq_true, decide_eq_true_eq] at hword
      exact hword.1
    have hlt := radixValue_lt word
    rw [hlength] at hlt
    exact hlt.trans_eq (by norm_num)
  · cases h

theorem normalizeNumberish_lt {value : Option JsValue} {field : JsString} {bits : ℕ} {d : Decimal}
    (h : normalizeNumberish value field bits = .ok d) : ∃ n < 2 ^ bits, d = .ofNat n := by
  have hfinish : ∀ n, (if n ≥ 2 ^ bits then
      typedDataInvalid (field ++ js " exceeds uint" ++ Json.decimal bits)
      else Except.ok (Decimal.ofNat n)) = .ok d → ∃ n < 2 ^ bits, d = .ofNat n := by
    intro n h
    split_ifs at h with hn
    · cases h
    · cases h
      exact ⟨n, not_le.mp hn, rfl⟩
  unfold normalizeNumberish at h
  dsimp only at h
  split at h
  · split_ifs at h
    · exact hfinish _ h
    · cases h
  · split_ifs at h
    · exact hfinish _ h
    · exact hfinish _ h
    · cases h
  · cases h

/-! ## Decoded allowances -/

theorem decodeTwoArguments_allowance {selector data : JsString} {hash : HashText}
    {d : DecodedCalldata} (h : decodeTwoArguments selector data hash = .ok d) :
    AllowanceFits d.requestClass d.requestedAllowance := by
  unfold decodeTwoArguments at h
  split_ifs at h
  · obtain ⟨spender, -, h⟩ := bind_eq_ok.mp h
    obtain ⟨allowance, hallowance, h⟩ := bind_eq_ok.mp h
    cases h
    intro bits hbits
    cases hbits
    obtain ⟨n, hn, rfl⟩ := parseUint256Word_lt hallowance
    exact ⟨n, hn, rfl⟩
  · obtain ⟨recipient, -, h⟩ := bind_eq_ok.mp h
    obtain ⟨amount, -, h⟩ := bind_eq_ok.mp h
    cases h
    exact fun bits hbits => nomatch hbits
  · obtain ⟨operator, -, h⟩ := bind_eq_ok.mp h
    obtain ⟨approved, -, h⟩ := bind_eq_ok.mp h
    cases h
    exact fun bits hbits => nomatch hbits

theorem decodeTransactionCalldata_allowance {S : Hash} {rawData : JsString} {d : DecodedCalldata}
    (h : decodeTransactionCalldata S rawData = .ok d) :
    AllowanceFits d.requestClass d.requestedAllowance := by
  unfold decodeTransactionCalldata at h
  obtain ⟨data, -, h⟩ := bind_eq_ok.mp h
  dsimp only at h
  split_ifs at h
  · cases h
    exact fun bits hbits => nomatch hbits
  · cases h
  · cases h
  · exact decodeTwoArguments_allowance h
  · cases h
    exact fun bits hbits => nomatch hbits

theorem decodePermit_allowance {message : JsValue} {hash : HashText} {chain : Option ChainId}
    {contract : Option Address} {d : DecodedTypedData}
    (h : decodePermit message hash chain contract = .ok d) :
    AllowanceFits d.requestClass d.requestedAllowance := by
  unfold decodePermit at h
  split_ifs at h
  · cases h
  · obtain ⟨-, -, h⟩ := bind_eq_ok.mp h
    obtain ⟨-, -, h⟩ := bind_eq_ok.mp h
    obtain ⟨spender, -, h⟩ := bind_eq_ok.mp h
    obtain ⟨allowance, hallowance, h⟩ := bind_eq_ok.mp h
    obtain ⟨owner, -, h⟩ := bind_eq_ok.mp h
    cases h
    intro bits hbits
    cases hbits
    obtain ⟨n, hn, rfl⟩ := normalizeNumberish_lt hallowance
    exact ⟨n, hn, rfl⟩

theorem decodePermit2_allowance {message : JsValue} {hash : HashText} {chain : Option ChainId}
    {contract : Option Address} {d : DecodedTypedData}
    (h : decodePermit2 message hash chain contract = .ok d) :
    AllowanceFits d.requestClass d.requestedAllowance := by
  unfold decodePermit2 at h
  split_ifs at h
  · cases h
  · obtain ⟨-, -, h⟩ := bind_eq_ok.mp h
    obtain ⟨-, -, h⟩ := bind_eq_ok.mp h
    obtain ⟨-, -, h⟩ := bind_eq_ok.mp h
    obtain ⟨token, -, h⟩ := bind_eq_ok.mp h
    obtain ⟨spender, -, h⟩ := bind_eq_ok.mp h
    obtain ⟨amount, hamount, h⟩ := bind_eq_ok.mp h
    cases h
    intro bits hbits
    cases hbits
    obtain ⟨n, hn, rfl⟩ := normalizeNumberish_lt hamount
    exact ⟨n, hn, rfl⟩

theorem decodeTypedData_allowance {N : Normalization} {S : Hash} {raw : JsValue}
    {d : DecodedTypedData} (h : decodeTypedData N S raw = .ok d) :
    AllowanceFits d.requestClass d.requestedAllowance := by
  unfold decodeTypedData at h
  obtain ⟨typedData, -, h⟩ := bind_eq_ok.mp h
  obtain ⟨⟨primaryType, domain, message⟩, -, h⟩ := bind_eq_ok.mp h
  obtain ⟨canonical, -, h⟩ := bind_eq_ok.mp h
  obtain ⟨chain, -, h⟩ := bind_eq_ok.mp h
  obtain ⟨contract, -, h⟩ := bind_eq_ok.mp h
  rw [mapError_eq_ok, classifyTypedData] at h
  split_ifs at h
  · exact decodePermit_allowance h
  · exact decodePermit2_allowance h
  · cases h
    intro bits hbits
    unfold unknownTypedDataResult at hbits
    dsimp only at hbits
    split_ifs at hbits
    · cases hbits
    · cases hbits

section Intents

variable {U : UrlParser} {N : Normalization} {S : Hash}

theorem normalizeSendTransaction_allowance {params : List JsValue} {account : Address}
    {action : IntentAction} (h : normalizeSendTransaction S params account = .ok action) :
    AllowanceFits action.requestClass action.requestedAllowance := by
  unfold normalizeSendTransaction at h
  split at h
  · obtain ⟨-, -, h⟩ := bind_eq_ok.mp h
    split_ifs at h
    · cases h
    · obtain ⟨sender, -, h⟩ := bind_eq_ok.mp h
      split_ifs at h
      · cases h
      · obtain ⟨target, -, h⟩ := bind_eq_ok.mp h
        obtain ⟨value, -, h⟩ := bind_eq_ok.mp h
        obtain ⟨data, -, h⟩ := bind_eq_ok.mp h
        obtain ⟨decoded, hdecoded, h⟩ := bind_eq_ok.mp h
        cases h
        exact decodeTransactionCalldata_allowance (mapError_eq_ok.mp hdecoded)
  · cases h
  · cases h

theorem normalizeTypedDataRequest_allowance {params : List JsValue} {account : Address}
    {action : IntentAction} (h : normalizeTypedDataRequest N S params account = .ok action) :
    AllowanceFits action.requestClass action.requestedAllowance := by
  unfold normalizeTypedDataRequest at h
  split at h
  · obtain ⟨requested, -, h⟩ := bind_eq_ok.mp h
    split_ifs at h
    · cases h
    · obtain ⟨decoded, hdecoded, h⟩ := bind_eq_ok.mp h
      split_ifs at h
      · cases h
      · cases h
        exact decodeTypedData_allowance (mapError_eq_ok.mp hdecoded)
  · cases h

theorem normalizeAction_allowance {method : JsString} {params : List JsValue} {account : Address}
    {action : IntentAction} (h : normalizeAction N S method params account = .ok action) :
    AllowanceFits action.requestClass action.requestedAllowance := by
  unfold normalizeAction at h
  split_ifs at h
  · exact normalizeSendTransaction_allowance h
  · exact normalizeTypedDataRequest_allowance h
  · unfold normalizeGenericSignature at h
    split_ifs at h
    · cases h
    · split at h
      · cases h
        exact fun bits hbits => nomatch hbits
      · cases h
  · unfold normalizeUnsupportedRpc at h
    split at h
    · cases h
      exact fun bits hbits => nomatch hbits
    · cases h

variable {requestId trustedOrigin trustedChainId trustedAccount : Option JsValue}
  {request : JsValue} {intent : Intent}

/-- The allowance that an intent grants is a value of the type that its request declares. -/
theorem normalizeWalletGuardIntent_allowance
    (h : normalizeWalletGuardIntent U N S requestId trustedOrigin trustedChainId trustedAccount
      request = .ok intent) :
    AllowanceFits intent.requestClass intent.requestedAllowance := by
  obtain ⟨params, -, haction, -⟩ := normalizeWalletGuardIntent_action h
  exact normalizeAction_allowance haction

end Intents

/-! ## The comparison with the greatest uint256 -/

/-- What a request must meet besides the comparison: a Permit2 permit under a policy that
    allows everything else about it and has a limit that its greatest amount does not pass. -/
structure Permit2Unlimited {U : UrlParser} (p : PolicyFields U) (intent : Intent)
    (status : SimulationStatus) : Prop where
  requestClass : intent.requestClass = .permit2Single
  general : GenerallyAllowed p intent
  target : includes p.allowedTargets.texts (intent.target.map (·.val)) = true
  spender : includes p.allowedSpenders.texts (intent.spender.map (·.val)) = true
  chain : intent.typedDataDomainChainId = some intent.chainId
  contract : includes p.allowedTypedDataVerifyingContracts.texts
    (intent.typedDataVerifyingContract.map (·.val)) = true
  limit : 2 ^ 160 - 1 ≤ decimalNumber p.maxTokenAmount.val
  simulation : simulationRequired p intent = true → status = .pass

section Denied

variable {U : UrlParser} {S : Hash} {p : PolicyFields U} {intent : Intent}
  {status : SimulationStatus}

theorem allowanceReasons_uint256 (hflag : p.denyUnlimitedAllowance = true)
    (hmax : intent.requestedAllowance = some MAX_UINT256_DECIMAL) :
    allowanceReasons p intent ≠ [] := by
  rw [allowanceReasons, hflag, hmax]
  simp [reasonIf]

theorem ofNat_ne_MAX_UINT256 : Decimal.ofNat (2 ^ 160 - 1) ≠ MAX_UINT256_DECIMAL := by
  intro h
  have hvalue := congrArg (fun d : Decimal => decimalNumber d.val) h
  simp only [Decimal.ofNat, MAX_UINT256_DECIMAL, decimalNumber_decimal] at hvalue
  omega

/-- The greatest uint160 is not taken for an unlimited allowance. -/
theorem allowanceReasons_uint160 (hmax : intent.requestedAllowance = some (.ofNat (2 ^ 160 - 1))) :
    allowanceReasons p intent = [] ↔ 2 ^ 160 - 1 ≤ decimalNumber p.maxTokenAmount.val := by
  have hequal : decide (intent.requestedAllowance = some MAX_UINT256_DECIMAL) = false := by
    rw [hmax, decide_eq_false_iff_not, Option.some.injEq]
    exact ofNat_ne_MAX_UINT256
  rw [allowanceReasons, hequal, hmax, Bool.and_false, List.append_eq_nil_iff, reasonIf_eq_nil,
    reasonIf_eq_nil, greaterThan, Decimal.ofNat, decimalNumber_decimal]
  simp

theorem indeterminateReasons_permit2 (hclass : intent.requestClass = .permit2Single) :
    denyReasons p intent status = [] ∧ indeterminateReasons p intent status = [] ↔
      generalReasons p intent = [] ∧ permitReasons p intent = [] ∧
        (simulationRequired p intent = true → status = .pass) := by
  have hcritical : CRITICAL_UNKNOWN_CLASSES.contains intent.requestClass = false := by
    rw [hclass]
    decide
  have hsimulation : (simulationRequired p intent && (status = .fail || status = .mismatch)) = false ∧
      (simulationRequired p intent &&
        !(status = .fail || status = .mismatch || status = .pass)) = false ↔
      (simulationRequired p intent = true → status = .pass) := by
    cases simulationRequired p intent <;> cases status <;> simp
  rw [denyReasons, indeterminateReasons, hcritical, classReasons, hclass]
  simp only [List.append_eq_nil_iff, reasonIf_eq_nil, true_and, and_assoc, hsimulation]

theorem permitReasons_permit2 (hclass : intent.requestClass = .permit2Single) :
    permitReasons p intent = [] ↔
      includes p.allowedTargets.texts (intent.target.map (·.val)) = true ∧
      includes p.allowedSpenders.texts (intent.spender.map (·.val)) = true ∧
      intent.typedDataDomainChainId = some intent.chainId ∧
      includes p.allowedTypedDataVerifyingContracts.texts
        (intent.typedDataVerifyingContract.map (·.val)) = true ∧
      allowanceReasons p intent = [] := by
  simp [permitReasons, targetReasons, List.append_eq_nil_iff, reasonIf_eq_nil, hclass]

/-- A greatest allowance is allowed for a Permit2 permit only. -/
theorem decision_greatestAllowance (hflag : p.denyUnlimitedAllowance = true)
    (hmax : GreatestAllowance intent) :
    (decideOn p intent S status).decision = .allow ↔ Permit2Unlimited p intent status := by
  rw [decision_decideOn]
  obtain ⟨bits, hbits, hmax⟩ := hmax
  by_cases hclass : intent.requestClass = .permit2Single
  · rw [hclass] at hbits
    obtain rfl : 160 = bits := Option.some.inj hbits
    rw [indeterminateReasons_permit2 hclass, permitReasons_permit2 hclass, generalReasons_eq_nil,
      allowanceReasons_uint160 hmax]
    constructor
    · rintro ⟨hgeneral, ⟨htarget, hspender, hchain, hcontract, hlimit⟩, hsim⟩
      exact ⟨hclass, hgeneral, htarget, hspender, hchain, hcontract, hlimit, hsim⟩
    · rintro ⟨-, hgeneral, htarget, hspender, hchain, hcontract, hlimit, hsim⟩
      exact ⟨hgeneral, ⟨htarget, hspender, hchain, hcontract, hlimit⟩, hsim⟩
  · have hreasons : classReasons p intent ≠ [] := by
      unfold classReasons
      cases hc : intent.requestClass
      all_goals
        rw [hc] at hbits hclass
        simp only [allowanceBits, reduceCtorEq, Option.some.injEq] at hbits
      · subst hbits
        exact fun h => allowanceReasons_uint256 hflag hmax (List.append_eq_nil_iff.mp h).2
      · subst hbits
        exact fun h => allowanceReasons_uint256 hflag hmax (List.append_eq_nil_iff.mp h).2
      · exact absurd rfl hclass
    constructor
    · rintro ⟨hdeny, -⟩
      simp only [denyReasons, List.append_eq_nil_iff] at hdeny
      exact absurd hdeny.1.2 hreasons
    · intro h
      exact absurd h.requestClass hclass

end Denied

/-- A locally normalized intent with the greatest allowance of its type is not allowed under
    a policy that denies unlimited allowances, unless it is a Permit2 permit that passes
    everything else. -/
theorem unlimitedAllowance_denied_iff {U : UrlParser} {N : Normalization} {S : Hash}
    {requestId trustedOrigin trustedChainId trustedAccount : Option JsValue} {request : JsValue}
    {intent : Intent} {policy simulation : HostValue}
    (hintent : normalizeWalletGuardIntent U N S requestId trustedOrigin trustedChainId
      trustedAccount request = .ok intent)
    (hmax : GreatestAllowance intent)
    (hflag : ∀ p, normalizePolicy U policy = .ok p → p.denyUnlimitedAllowance = true) :
    (∀ result, evaluateWalletGuardPolicy U S intent true policy simulation = .ok result →
        result.decision ≠ .allow) ↔
      ∀ p status, normalizePolicy U policy = .ok p → normalizeSimulation simulation = .ok status →
        ¬ Permit2Unlimited p.toPolicyFields intent status := by
  obtain ⟨-, -, -, hvalid⟩ := normalizeWalletGuardIntent_action hintent
  have hlocal : validateIntent U intent true = .ok () := by
    rw [validateIntent, hvalid]
    rfl
  constructor
  · intro h p status hp hstatus hpermit
    refine h (decideOn p.toPolicyFields intent S status) ?_
      ((decision_greatestAllowance (hflag p hp) hmax).mpr hpermit)
    rw [evaluateWalletGuardPolicy, hlocal, hp, hstatus]
    rfl
  · intro h result hresult hallow
    rw [evaluateWalletGuardPolicy, hlocal] at hresult
    obtain ⟨_, -, hresult⟩ := bind_eq_ok.mp hresult
    obtain ⟨p, hp, hresult⟩ := bind_eq_ok.mp hresult
    obtain ⟨status, hstatus, hresult⟩ := bind_eq_ok.mp hresult
    cases hresult
    exact h p status hp hstatus ((decision_greatestAllowance (hflag p hp) hmax).mp hallow)

/-! Two requests for the greatest allowance under one policy. -/

def grantUrls : UrlParser := fun s =>
  if s = js "https://app.example" then some ⟨js "https:", s, [], []⟩ else none

/-- The address whose digits are all `u`. -/
def grantAddress (u : UInt16) : JsValue := .string (js "0x" ++ List.replicate 40 u)

/-- `{ name, type }` for each field. -/
def typeDefinition (fields : TypeFields) : JsValue :=
  .array (fields.map fun f => .object [(js "name", .string f.1), (js "type", .string f.2)])

/-- Permit2 for the greatest uint160. -/
def permit2Request : JsValue :=
  .object [(js "method", .string (js "eth_signTypedData_v4")),
    (js "params", .array [grantAddress 0x61, .object [
      (js "types", .object [(js "EIP712Domain", typeDefinition PERMIT2_DOMAIN_FIELDS),
        (js "PermitDetails", typeDefinition PERMIT2_DETAILS_FIELDS),
        (js "PermitSingle", typeDefinition PERMIT2_SINGLE_FIELDS)]),
      (js "primaryType", .string (js "PermitSingle")),
      (js "domain", .object [(js "name", .string (js "Permit2")), (js "chainId", .string (js "0x1")),
        (js "verifyingContract", grantAddress 0x62)]),
      (js "message", .object [(js "details", .object [(js "token", grantAddress 0x63),
          (js "amount", .string (js "0x" ++ List.replicate 40 0x66)),
          (js "expiration", .string (js "0")), (js "nonce", .string (js "0"))]),
        (js "spender", grantAddress 0x64), (js "sigDeadline", .string (js "0"))])]])]

/-- `approve` for the greatest uint256. -/
def approveRequest : JsValue :=
  .object [(js "method", .string (js "eth_sendTransaction")),
    (js "params", .array [.object [(js "from", grantAddress 0x61), (js "to", grantAddress 0x63),
      (js "data", .string (ERC20_APPROVE_SELECTOR ++ List.replicate 24 0x30 ++
        List.replicate 40 0x64 ++ List.replicate 64 0x66))]])]

/-- A policy that denies unlimited allowances and has no other limit below 2^256 - 1. -/
def grantPolicy : JsValue :=
  .object [(js "schema_version", .string WALLET_GUARD_POLICY_SCHEMA_VERSION),
    (js "policy_id", .string (js "policy-0001")), (js "enabled", .bool true),
    (js "kill_switch", .bool false), (js "expected_chain_id", .string (js "0x1")),
    (js "allowed_origins", .array [.string (js "https://app.example")]),
    (js "allowed_targets", .array [grantAddress 0x63]), (js "allowed_recipients", .array []),
    (js "allowed_spenders", .array [grantAddress 0x64]),
    (js "allowed_typed_data_verifying_contracts", .array [grantAddress 0x62]),
    (js "max_native_value", .string (js "0")),
    (js "max_token_amount", .string MAX_UINT256_DECIMAL.val),
    (js "deny_unlimited_allowance", .bool true), (js "deny_operator_approval", .bool true),
    (js "require_simulation_for", .array [])]

def simulationPassed : JsValue := .object [(js "status", .string (js "pass"))]

/-- The intent of a request of the sample account. -/
def grantIntent (request : JsValue) : Except IntentFailure Intent :=
  normalizeWalletGuardIntent grantUrls devanagari sha256 (some (.string (js "request-1")))
    (some (.string (js "https://app.example"))) (some (.string (js "0x1")))
    (some (grantAddress 0x61)) request

/-- What the policy, the two intents and the decision on the first come to. They are evaluated
    together, since the decision normalizes the policy and the intent again. -/
theorem grant_summary :
    (normalizePolicy grantUrls (.ofData grantPolicy)).toOption.map
      (fun p => p.denyUnlimitedAllowance) = some true ∧
    [permit2Request, approveRequest].map (fun request =>
      (grantIntent request).toOption.map fun i => (i.requestClass, i.requestedAllowance)) =
        [some (.permit2Single, some (.ofNat (2 ^ 160 - 1))),
          some (.erc20Approve, some (.ofNat (2 ^ 256 - 1)))] ∧
    ((grantIntent permit2Request).toOption.bind fun i =>
      (evaluateWalletGuardPolicy grantUrls sha256 i true (.ofData grantPolicy)
        (.ofData simulationPassed)).toOption.map fun r => r.decision) = some .allow := by
  decide +kernel

theorem unlimitedAllowance_denied_approve :
    ∃ intent, grantIntent approveRequest = .ok intent ∧ GreatestAllowance intent ∧
      ∀ result, evaluateWalletGuardPolicy grantUrls sha256 intent true (.ofData grantPolicy)
        (.ofData simulationPassed) = .ok result → result.decision ≠ .allow := by
  obtain ⟨-, hsummary⟩ := List.cons_eq_cons.mp grant_summary.2.1
  obtain ⟨intent, hintent, hclass⟩ := Option.map_eq_some_iff.mp (List.cons_eq_cons.mp hsummary).1
  obtain ⟨p, hp, hflag⟩ := Option.map_eq_some_iff.mp grant_summary.1
  rw [Prod.mk.injEq] at hclass
  have hmax : GreatestAllowance intent := by
    refine ⟨256, ?_, hclass.2⟩
    rw [hclass.1]
    rfl
  refine ⟨intent, toOption_eq_some.mp hintent, hmax, ?_⟩
  refine (unlimitedAllowance_denied_iff (toOption_eq_some.mp hintent) hmax ?_).mpr ?_
  · intro p' hp'
    rw [toOption_eq_some.mp hp] at hp'
    cases hp'
    exact hflag
  · intro p' status _ _ hpermit
    have := hpermit.requestClass
    rw [hclass.1] at this
    cases this

theorem normalizeWalletGuardIntent_allowance_permit2 :
    ∃ intent, grantIntent permit2Request = .ok intent ∧
      AllowanceFits intent.requestClass intent.requestedAllowance := by
  obtain ⟨intent, hintent, -⟩ :=
    Option.map_eq_some_iff.mp (List.cons_eq_cons.mp grant_summary.2.1).1
  exact ⟨intent, toOption_eq_some.mp hintent,
    normalizeWalletGuardIntent_allowance (toOption_eq_some.mp hintent)⟩

/-- The greatest amount of a Permit2 permit is allowed, although the policy denies unlimited
    allowances. -/
theorem not_unlimitedAllowance_denied_permit2 :
    ∃ intent p result, grantIntent permit2Request = .ok intent ∧ GreatestAllowance intent ∧
      normalizePolicy grantUrls (.ofData grantPolicy) = .ok p ∧ p.denyUnlimitedAllowance = true ∧
      evaluateWalletGuardPolicy grantUrls sha256 intent true (.ofData grantPolicy)
        (.ofData simulationPassed) = .ok result ∧ result.decision = .allow := by
  obtain ⟨intent, hintent, hclass⟩ :=
    Option.map_eq_some_iff.mp (List.cons_eq_cons.mp grant_summary.2.1).1
  obtain ⟨p, hp, hflag⟩ := Option.map_eq_some_iff.mp grant_summary.1
  have hevaluated := grant_summary.2.2
  rw [hintent] at hevaluated
  obtain ⟨result, hresult, hallow⟩ := Option.map_eq_some_iff.mp hevaluated
  rw [Prod.mk.injEq] at hclass
  refine ⟨intent, p, result, toOption_eq_some.mp hintent, ⟨160, ?_, hclass.2⟩,
    toOption_eq_some.mp hp, hflag, toOption_eq_some.mp hresult, hallow⟩
  rw [hclass.1]
  rfl

end OpenRisk.Guard
