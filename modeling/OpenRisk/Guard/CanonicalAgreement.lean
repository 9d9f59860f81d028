import OpenRisk.Guard.IntentRecord
import OpenRisk.Guard.PolicyController

/-!
# The fixed-order canonicalizers

`canonicalizeNormalizedPolicy` and `canonicalizeValidatedIntent` write the members of a policy
and of an intent one after another. `canonicalizePayload` sorts the members of any object and
normalizes its strings. This module compares the texts.

The host of an HTTP(S) URL is written in ASCII by the URL parser: `AsciiOrigins`.

Results:
* `canonicalJson_object`: members in canonical order are written as they are.
* `canonicalizeNormalizedPolicy_eq`: the two texts of a policy are equal.
* `canonicalizeIntentRecord_eq_iff`: the two texts of an intent are equal when its request class
  is in NFC.
* `canonicalizers_agree_iff`: both, and what follows for the controller.
-/

namespace OpenRisk.Guard

open Text Sdk Machine

/-! ## Members in canonical order -/

section Object

variable {N : Normalization}

/-- Members that are in the order of their names are written in that order. -/
theorem canonicalJson_object {es : List (JsString × JsValue)} {fields : List (String × JsValue)}
    (hperm : es.Perm (fields.map fun f => (js f.1, f.2)))
    (hsorted : (fields.map fun f => js f.1).Pairwise fun a b => compare a b = .lt) :
    canonicalJson N (.object es) =
      .object (fields.map fun f => (js f.1, canonicalJson N f.2)) := by
  have hmembers : (canonicalMembers N es).Perm (fields.map fun f => (js f.1, canonicalJson N f.2)) := by
    rw [canonicalMembers_eq]
    have hmap := hperm.map fun e => (e.1, canonicalJson N e.2)
    rw [List.map_map] at hmap
    exact hmap
  have hnodup : ((canonicalMembers N es).map Prod.fst).Nodup := by
    rw [(hmembers.map Prod.fst).nodup_iff, List.map_map]
    refine hsorted.imp ?_
    rintro a b hlt rfl
    have hself : compare a a = .eq := Std.ReflCmp.compare_self
    rw [hself] at hlt
    cases hlt
  have horder : (fields.map fun f => (js f.1, canonicalJson N f.2)).Pairwise keyLE := by
    rw [List.pairwise_map] at hsorted ⊢
    refine hsorted.imp ?_
    intro f g hlt hgt
    dsimp only at hgt
    rw [hlt] at hgt
    cases hgt
  rw [canonicalJson, insertionSort_keyLE_eq hmembers hnodup, horder.insertionSort_eq]

/-- A string that NFC keeps. -/
theorem canonicalJson_string {s : JsString} (h : ∀ u ∈ s, u.toNat < 0x80) :
    canonicalJson N (.string s) = .string s := by
  rw [canonicalJson, normalizeNfc_ascii h]

theorem canonicalJson_strings {texts : List JsString} (h : ∀ t ∈ texts, ∀ u ∈ t, u.toNat < 0x80) :
    canonicalJson N (.array (texts.map .string)) = .array (texts.map .string) := by
  rw [canonicalJson, canonicalElements_eq, List.map_map]
  congr 1
  exact List.map_congr_left fun t ht => canonicalJson_string (h t ht)

end Object

/-! ## ASCII texts -/

/-- The origins of HTTP(S) URLs are ASCII texts. -/
def AsciiOrigins (U : UrlParser) : Prop := ∀ s, CanonicalOrigin U s → ∀ u ∈ s, u.toNat < 0x80

theorem ascii_of_isHexUnit {u : UInt16} (h : isHexUnit u = true) : u.toNat < 0x80 := by
  unfold isHexUnit Json.hexValue at h
  split_ifs at h
  · omega
  · omega
  · omega
  · cases h

theorem ascii_of_hasHexMark {s : JsString} (hmark : hasHexMark s = true)
    (h : (s.drop 2).all isHexUnit = true) : ∀ u ∈ s, u.toNat < 0x80 := by
  intro u hu
  rw [hasHexMark, decide_eq_true_eq] at hmark
  rw [← List.take_append_drop 2 s, hmark, List.mem_append] at hu
  rcases hu with hu | hu
  · rw [List.mem_cons, List.mem_singleton] at hu
    rcases hu with rfl | rfl <;> decide
  · exact ascii_of_isHexUnit (List.all_eq_true.mp h u hu)

theorem ascii_of_address (a : Address) : ∀ u ∈ a.val, u.toNat < 0x80 := by
  have hpattern := a.property.1
  rw [ADDRESS_PATTERN, Bool.and_eq_true, Bool.and_eq_true] at hpattern
  exact ascii_of_hasHexMark hpattern.1.1 hpattern.2

theorem ascii_of_chainId (c : ChainId) : ∀ u ∈ c.val, u.toNat < 0x80 := by
  obtain ⟨s, n, rfl⟩ := c
  exact ascii_of_hasHexMark rfl (List.all_eq_true.mpr (isHexUnit_radixText n))

theorem ascii_of_isDigit {s : JsString} (h : ∀ u ∈ s, Json.isDigit u = true) :
    ∀ u ∈ s, u.toNat < 0x80 :=
  ascii_of_plain fun u hu => isPlainUnit_of_isDigit (h u hu)

theorem ascii_of_decimal (d : Decimal) : ∀ u ∈ d.val, u.toNat < 0x80 := by
  obtain ⟨s, n, rfl⟩ := d
  exact Json.decimal_ascii n

theorem ascii_of_decimalText (d : DecimalText) : ∀ u ∈ d.val, u.toNat < 0x80 := by
  obtain ⟨s, hs⟩ := d
  refine ascii_of_isDigit (s := s) ?_
  cases s with
  | nil => cases hs
  | cons u us =>
    rw [DECIMAL_INTEGER_PATTERN, isCanonicalNumeral, Bool.or_eq_true] at hs
    rcases hs with hs | hs
    · simp only [Bool.and_eq_true, decide_eq_true_eq] at hs
      rw [hs.1, hs.2]
      simp [Json.isDigit]
    · simp only [Bool.and_eq_true, decide_eq_true_eq, List.all_eq_true] at hs
      intro v hv
      rcases List.mem_cons.mp hv with rfl | hv
      · exact hs.1.2
      · exact hs.2 v hv

theorem ascii_of_hashText (h : HashText) : ∀ u ∈ h.val, u.toNat < 0x80 :=
  ascii_of_plain (plain_of_hashText h).1

theorem ascii_of_policyId (id : PolicyId) : ∀ u ∈ id.val, u.toNat < 0x80 :=
  ascii_of_plain (plain_of_policyId id).1

theorem ascii_of_requestId (id : { s : JsString // REQUEST_ID_PATTERN s = true }) :
    ∀ u ∈ id.val, u.toNat < 0x80 := by
  obtain ⟨s, hs⟩ := id
  cases s with
  | nil => cases hs
  | cons u us =>
    simp only [REQUEST_ID_PATTERN, Bool.and_eq_true, List.all_eq_true] at hs
    refine ascii_of_plain fun v hv => ?_
    rcases List.mem_cons.mp hv with rfl | hv
    · exact isPlainUnit_of_isKeyUnit (by simp [isKeyUnit, hs.1.1.1])
    · exact isPlainUnit_of_isKeyUnit (hs.1.1.2 v hv)

theorem ascii_of_rpcMethod (m : { s : JsString // RPC_METHOD_PATTERN s = true }) :
    ∀ u ∈ m.val, u.toNat < 0x80 := by
  obtain ⟨s, hs⟩ := m
  simp only [RPC_METHOD_PATTERN, Bool.and_eq_true, List.all_eq_true, Bool.or_eq_true,
    decide_eq_true_eq] at hs
  refine ascii_of_plain fun u hu => ?_
  rcases hs.2 u hu with h | rfl
  · exact isPlainUnit_of_isKeyUnit (by simp [isKeyUnit, h])
  · decide

theorem ascii_of_requestClass (c : RequestClass) : ∀ u ∈ c.text, u.toNat < 0x80 := by
  have htext : c.text.all (fun u => u.toNat < 0x80) = true := by cases c <;> decide
  intro u hu
  exact of_decide_eq_true (List.all_eq_true.mp htext u hu)

/-! ## Policies -/

section Policies

variable {U : UrlParser} {N : Normalization} {S : Hash}

/-- The members of a policy in the order of their names. -/
def PolicyFields.sortedFields (p : PolicyFields U) : List (String × JsValue) := [
  ("allowed_origins", p.allowedOrigins.toJs), ("allowed_recipients", p.allowedRecipients.toJs),
  ("allowed_spenders", p.allowedSpenders.toJs), ("allowed_targets", p.allowedTargets.toJs),
  ("allowed_typed_data_verifying_contracts", p.allowedTypedDataVerifyingContracts.toJs),
  ("deny_operator_approval", .bool p.denyOperatorApproval),
  ("deny_unlimited_allowance", .bool p.denyUnlimitedAllowance), ("enabled", .bool p.enabled),
  ("expected_chain_id", .string p.expectedChainId.val), ("kill_switch", .bool p.killSwitch),
  ("max_native_value", .string p.maxNativeValue.val),
  ("max_token_amount", .string p.maxTokenAmount.val), ("policy_id", .string p.policyId.val),
  ("require_simulation_for", p.requireSimulationFor.toJs),
  ("schema_version", .string WALLET_GUARD_POLICY_SCHEMA_VERSION)]

theorem PolicyFields.toEntries_perm (p : PolicyFields U) :
    p.toEntries.Perm (p.sortedFields.map fun f => (js f.1, f.2)) := by
  have hkeys : (["schema_version", "policy_id", "enabled", "kill_switch", "expected_chain_id",
      "allowed_origins", "allowed_targets", "allowed_recipients", "allowed_spenders",
      "allowed_typed_data_verifying_contracts", "max_native_value", "max_token_amount",
      "deny_unlimited_allowance", "deny_operator_approval", "require_simulation_for"].map js).Nodup := by
    decide
  have hnodup : p.toEntries.Nodup := List.Nodup.of_map Prod.fst hkeys
  refine (List.subperm_of_subset hnodup ?_).perm_of_length_le (le_refl _)
  simp only [PolicyFields.toEntries, PolicyFields.sortedFields, List.map_cons, List.map_nil,
    List.cons_subset, List.mem_cons, true_or, or_true, List.nil_subset, and_self]

theorem sorted_policyNames (p : PolicyFields U) :
    (p.sortedFields.map fun f => js f.1).Pairwise fun a b => compare a b = .lt := by
  have hsorted : (["allowed_origins", "allowed_recipients", "allowed_spenders", "allowed_targets",
      "allowed_typed_data_verifying_contracts", "deny_operator_approval",
      "deny_unlimited_allowance", "enabled", "expected_chain_id", "kill_switch",
      "max_native_value", "max_token_amount", "policy_id", "require_simulation_for",
      "schema_version"].map js).Pairwise fun a b => compare a b = .lt := by
    decide +kernel
  exact hsorted

theorem print_bool (b : Bool) : Json.print (.bool b) = canonicalBoolean b := by
  cases b <;> simp [Json.print, canonicalBoolean]

theorem print_strings (texts : List JsString) :
    Json.print (.array (texts.map .string)) = canonicalStringArray texts := by
  rw [Json.print, canonicalStringArray, ← joinComma_print, List.map_map]
  rfl

theorem ascii_of_addresses (l : AddressList) : ∀ t ∈ l.texts, ∀ u ∈ t, u.toNat < 0x80 := by
  intro t ht
  obtain ⟨a, -, rfl⟩ := List.mem_map.mp ht
  exact ascii_of_address a

theorem ascii_of_origins (hU : AsciiOrigins U) (l : UniqueList (Subtype.val : Origin U → JsString)) :
    ∀ t ∈ l.texts, ∀ u ∈ t, u.toNat < 0x80 := by
  intro t ht
  obtain ⟨o, -, rfl⟩ := List.mem_map.mp ht
  exact hU o.val o.property

theorem ascii_of_classes (l : UniqueList RequestClass.text) : ∀ t ∈ l.texts, ∀ u ∈ t, u.toNat < 0x80 := by
  intro t ht
  obtain ⟨c, -, rfl⟩ := List.mem_map.mp ht
  exact ascii_of_requestClass c

/-- The text of a list of ASCII strings in a payload. -/
theorem print_canonicalJson_list {α : Type} {text : α → JsString} {l : UniqueList text}
    (h : ∀ t ∈ l.texts, ∀ u ∈ t, u.toNat < 0x80) :
    Json.print (canonicalJson N l.toJs) = canonicalStringArray l.texts := by
  rw [UniqueList.toJs, canonicalJson_strings h, print_strings]

/-- The text of an ASCII string in a payload. -/
theorem print_canonicalJson_string {s : JsString} (h : ∀ u ∈ s, u.toNat < 0x80) :
    Json.print (canonicalJson N (.string s)) = Json.quote s := by
  rw [canonicalJson_string h, Json.print]

theorem print_canonicalJson_bool (b : Bool) :
    Json.print (canonicalJson N (.bool b)) = canonicalBoolean b := by
  rw [canonicalJson, print_bool]

/-- The two texts of a policy are equal. -/
theorem canonicalizeNormalizedPolicy_eq (hU : AsciiOrigins U) (p : PolicyFields U) :
    canonicalizeNormalizedPolicy p = canonicalizeValue N (.object p.toEntries) := by
  have hnames : ∀ f ∈ p.sortedFields.map fun f => (f.1, canonicalJson N f.2),
      Json.quote (js f.1) = 0x22 :: (js f.1 ++ [0x22]) := by
    simp only [PolicyFields.sortedFields, List.map_cons, List.map_nil, List.forall_mem_cons,
      List.not_mem_nil, false_imp_iff, implies_true]
    decide
  have hversion : ∀ u ∈ WALLET_GUARD_POLICY_SCHEMA_VERSION, u.toNat < 0x80 :=
    ascii_of_all (by decide +kernel)
  have hprint := canonicalRecord_eq_print _ hnames
  rw [List.map_map, List.map_map] at hprint
  rw [canonicalizeValue_eq_print, canonicalJson_object p.toEntries_perm (sorted_policyNames p)]
  refine Eq.trans ?_ hprint
  simp only [canonicalizeNormalizedPolicy, PolicyFields.sortedFields, List.map_cons, List.map_nil,
    Function.comp_apply, print_canonicalJson_bool, print_canonicalJson_list (ascii_of_addresses _),
    print_canonicalJson_list (ascii_of_origins hU _), print_canonicalJson_list (ascii_of_classes _),
    print_canonicalJson_string (ascii_of_chainId _), print_canonicalJson_string (ascii_of_decimal _),
    print_canonicalJson_string (ascii_of_policyId _), print_canonicalJson_string hversion]

/-- The hash that the controller keeps is the one that an evaluation returns. -/
theorem commitPolicy_eq_ok (hU : AsciiOrigins U) {p : Policy U} {h : HashText}
    (hp : commitPolicy N S p = .ok h) : h = policyHash p.toPolicyFields S := by
  obtain ⟨t, ht, hh⟩ := bind_eq_ok.mp hp
  obtain ⟨-, -, -, -, -, rfl⟩ := (canonicalizePayload_eq_ok_iff _ _).mp (mapError_eq_ok.mp ht)
  rw [policyHash, canonicalizeNormalizedPolicy_eq (N := N) hU]
  exact (Except.ok.inj hh).symm

/-- The error of `evaluate` for a result that differs from the snapshot. -/
def divergenceError : ControllerError :=
  .state (js "POMRX_WG_POLICY_STATE_E_INTERNAL")
    (js "policy evaluation diverged from the captured controller snapshot")

/-- The result of an evaluation carries the id and the hash of the policy. -/
theorem evaluateWalletGuardPolicy_hash {p : Policy U} {intent : Intent} {locallyNormalized : Bool}
    {simulation : HostValue} {result : PolicyResult}
    (h : evaluateWalletGuardPolicy U S intent locallyNormalized p.toHost simulation = .ok result) :
    result.policyId = p.policyId ∧ result.policyHash = policyHash p.toPolicyFields S := by
  rw [evaluateWalletGuardPolicy, normalizePolicy_toHost] at h
  obtain ⟨_, -, h⟩ := bind_eq_ok.mp h
  obtain ⟨p', hp, h⟩ := bind_eq_ok.mp h
  obtain ⟨status, -, h⟩ := bind_eq_ok.mp h
  cases hp
  cases h
  unfold decideOn
  split_ifs <;> exact ⟨rfl, rfl⟩

/-- On a controller whose policy is committed the test of `evaluate` always passes. -/
theorem evaluate_eq (hU : AsciiOrigins U) {policyId : PolicyId} {c : Controller U}
    (hc : ControllerInvariant N S policyId c) (intent : Intent) (locallyNormalized : Bool)
    (simulation : HostValue) :
    evaluate S c intent locallyNormalized simulation =
      ((evaluateWalletGuardPolicy U S intent locallyNormalized c.current.policy.toHost
        simulation).mapError fun _ => .state (js "POMRX_WG_POLICY_STATE_E_EVALUATION")
          (js "Wallet Guard policy evaluation failed")).map fun result =>
        ⟨result, c.current.revision, c.current.stateCommitment⟩ := by
  unfold evaluate
  cases heval : evaluateWalletGuardPolicy U S intent locallyNormalized c.current.policy.toHost
      simulation with
  | error e => rfl
  | ok result =>
    obtain ⟨hid, hhash⟩ := evaluateWalletGuardPolicy_hash heval
    rw [← commitPolicy_eq_ok hU hc.committed] at hhash
    have hsame : ¬ (result.policyId ≠ c.current.policy.policyId ∨
        result.policyHash ≠ c.current.policyHash) := by
      rw [hid, hhash]
      simp
    exact if_neg hsame

/-- No evaluation diverges from the snapshot of the controller. -/
theorem evaluate_agrees (hU : AsciiOrigins U) {policyId : PolicyId} {c : Controller U}
    (hc : ControllerInvariant N S policyId c) (intent : Intent) (locallyNormalized : Bool)
    (simulation : HostValue) :
    evaluate S c intent locallyNormalized simulation ≠ .error divergenceError ∧
      ∀ e, evaluate S c intent locallyNormalized simulation = .ok e →
        e.result.policyHash = c.current.policyHash := by
  rw [evaluate_eq hU hc]
  cases heval : evaluateWalletGuardPolicy U S intent locallyNormalized c.current.policy.toHost
      simulation with
  | error e =>
    refine ⟨?_, fun e h => (nomatch h)⟩
    intro h
    have hcode := (ControllerError.state.inj (Except.error.inj h)).1
    exact absurd hcode (by decide)
  | ok result =>
    refine ⟨fun h => (nomatch h), fun e h => ?_⟩
    cases h
    rw [(evaluateWalletGuardPolicy_hash heval).2, commitPolicy_eq_ok hU hc.committed]

end Policies

/-! ## Intents -/

section Intents

variable {U : UrlParser} {N : Normalization}

/-- The members of a record in the order of their names. -/
def IntentRecord.sortedFields (r : IntentRecord U) : List (String × JsValue) := [
  ("account", .string r.account.val),
  ("calldata_sha256", nullableValue (fun h => .string h.val) r.calldataSha256),
  ("chain_id", .string r.chainId.val), ("native_value", .string r.nativeValue.val),
  ("origin", .string r.origin.val),
  ("recipient", nullableValue (fun a => .string a.val) r.recipient),
  ("request_class", .string r.requestClass.val), ("request_id", .string r.requestId.val),
  ("requested_allowance", nullableValue (fun d => .string d.val) r.requestedAllowance),
  ("requested_operator_approval", nullableValue .bool r.requestedOperatorApproval),
  ("rpc_method", .string r.rpcMethod.val), ("schema_version", .string INTENT_SCHEMA_VERSION),
  ("simulation_required", .bool r.simulationRequired),
  ("spender", nullableValue (fun a => .string a.val) r.spender),
  ("target", nullableValue (fun a => .string a.val) r.target),
  ("token_amount", nullableValue (fun d => .string d.val) r.tokenAmount),
  ("typed_data_domain_chain_id", nullableValue (fun c => .string c.val) r.typedDataDomainChainId),
  ("typed_data_owner", nullableValue (fun a => .string a.val) r.typedDataOwner),
  ("typed_data_sha256", nullableValue (fun h => .string h.val) r.typedDataSha256),
  ("typed_data_verifying_contract",
    nullableValue (fun a => .string a.val) r.typedDataVerifyingContract)]

theorem IntentRecord.toEntries_perm (r : IntentRecord U) :
    r.toEntries.Perm (r.sortedFields.map fun f => (js f.1, f.2)) := by
  have hnodup : r.toEntries.Nodup := List.Nodup.of_map Prod.fst nodup_WALLET_GUARD_INTENT_KEYS
  refine (List.subperm_of_subset hnodup ?_).perm_of_length_le (le_refl _)
  simp only [IntentRecord.toEntries, IntentRecord.sortedFields, List.map_cons, List.map_nil,
    List.cons_subset, List.mem_cons, true_or, or_true, List.nil_subset, and_self]

theorem sorted_intentNames (r : IntentRecord U) :
    (r.sortedFields.map fun f => js f.1).Pairwise fun a b => compare a b = .lt := by
  have hsorted : (["account", "calldata_sha256", "chain_id", "native_value", "origin", "recipient",
      "request_class", "request_id", "requested_allowance", "requested_operator_approval",
      "rpc_method", "schema_version", "simulation_required", "spender", "target", "token_amount",
      "typed_data_domain_chain_id", "typed_data_owner", "typed_data_sha256",
      "typed_data_verifying_contract"].map js).Pairwise fun a b => compare a b = .lt := by
    decide +kernel
  exact hsorted

theorem canonicalJson_nullable {p : JsString → Prop} {value : Option { s : JsString // p s }}
    (h : ∀ a, value = some a → ∀ u ∈ a.val, u.toNat < 0x80) :
    canonicalJson N (nullableValue (fun a => .string a.val) value) =
      IntentBinding.nullableString (value.map (·.val)) := by
  cases value with
  | none => rw [nullableValue, canonicalJson, Option.map_none, IntentBinding.nullableString]
  | some a => exact canonicalJson_string (h a rfl)

theorem canonicalJson_nullableBool (value : Option Bool) :
    canonicalJson N (nullableValue .bool value) = IntentBinding.nullableBoolean value := by
  cases value <;> simp [nullableValue, canonicalJson, IntentBinding.nullableBoolean]

/-- The canonical form of an accepted object: only the request class may change. -/
theorem canonicalJson_record (hU : AsciiOrigins U) {es : List (JsString × JsValue)}
    {r : IntentRecord U} (h : validateIntentRecord U (.object es) = .ok r) :
    canonicalJson N (.object es) = recordJson r (N.normalizeNfc r.requestClass.val) := by
  have hversion : ∀ u ∈ INTENT_SCHEMA_VERSION, u.toNat < 0x80 :=
    ascii_of_all (by decide +kernel)
  have horigin := hU r.origin.val r.origin.property.2
  have hclass : canonicalJson N (.string r.requestClass.val) =
      .string (N.normalizeNfc r.requestClass.val) := by
    rw [canonicalJson]
  have hbool : canonicalJson N (.bool r.simulationRequired) = .bool r.simulationRequired := by
    rw [canonicalJson]
  have hhash : ∀ value : Option HashText,
      canonicalJson N (nullableValue (fun h => .string h.val) value) =
        IntentBinding.nullableString (value.map (·.val)) := fun value =>
    @canonicalJson_nullable N (fun s => HASH_PATTERN s = true) value fun h _ => ascii_of_hashText h
  rw [canonicalJson_object ((validateIntentRecord_perm.mp h).trans r.toEntries_perm)
    (sorted_intentNames r)]
  simp only [IntentRecord.sortedFields, recordJson, recordFields, List.map_cons, List.map_nil,
    canonicalJson_string (ascii_of_address _), canonicalJson_string (ascii_of_chainId _),
    canonicalJson_string (ascii_of_decimalText _), canonicalJson_string horigin, hclass, hbool,
    canonicalJson_string (ascii_of_requestId _), canonicalJson_string (ascii_of_rpcMethod _),
    canonicalJson_string hversion, canonicalJson_nullableBool,
    canonicalJson_nullable (fun a _ => ascii_of_address a),
    canonicalJson_nullable (fun c _ => ascii_of_chainId c), hhash,
    canonicalJson_nullable (fun d _ => ascii_of_decimalText d)]

/-- The two texts of an accepted object are equal when its request class is in NFC. -/
theorem canonicalizeIntentRecord_eq_iff (hU : AsciiOrigins U) {es : List (JsString × JsValue)}
    {r : IntentRecord U} (h : validateIntentRecord U (.object es) = .ok r) :
    canonicalizeIntentRecord r = canonicalizeValue N (.object es) ↔
      N.normalizeNfc r.requestClass.val = r.requestClass.val := by
  rw [canonicalizeIntentRecord_eq_print, canonicalizeValue_eq_print, canonicalJson_record hU h]
  constructor
  · intro heq
    have hjson := Json.print_injective (recordJson_integral _ _) (recordJson_integral _ _) heq
    exact (recordJson_injective hjson).1.symm
  · intro heq
    rw [heq]

end Intents

/-- Where the host of an origin is written in ASCII:
    the text of a policy is the one of `canonicalizePayload`;
    in every run of a controller no evaluation diverges from the snapshot;
    the text of an accepted intent determines its members;
    and it is the one of `canonicalizePayload` exactly when the request class is in NFC. -/
theorem canonicalizers_agree_iff {U : UrlParser} {N : Normalization} {S : Hash}
    (hU : AsciiOrigins U) :
    (∀ (p : Policy U) (t : JsString), canonicalizePayload N (.object p.toEntries) = .ok t →
      canonicalizeNormalizedPolicy p.toPolicyFields = t) ∧
    (∀ rawOptions actions (c c' : Controller U),
      createWalletGuardReferencePolicyController U N S rawOptions = .ok c →
      run (controllerStep N S) c actions = some c' → ∀ intent locallyNormalized simulation,
      evaluate S c' intent locallyNormalized simulation ≠ .error divergenceError ∧
        ∀ e, evaluate S c' intent locallyNormalized simulation = .ok e →
          e.result.policyHash = c'.current.policyHash) ∧
    (∀ es es' (r r' : IntentRecord U), validateIntentRecord U (.object es) = .ok r →
      validateIntentRecord U (.object es') = .ok r' →
      canonicalizeIntentRecord r = canonicalizeIntentRecord r' → es.Perm es') ∧
    ∀ es (r : IntentRecord U) (t : JsString), validateIntentRecord U (.object es) = .ok r →
      canonicalizePayload N (.object es) = .ok t →
      (canonicalizeIntentRecord r = t ↔ N.normalizeNfc r.requestClass.val = r.requestClass.val) := by
  refine ⟨?_, ?_, ?_, ?_⟩
  · intro p t ht
    obtain ⟨-, -, -, -, -, rfl⟩ := (canonicalizePayload_eq_ok_iff _ _).mp ht
    exact canonicalizeNormalizedPolicy_eq hU p.toPolicyFields
  · intro rawOptions actions c c' hc hrun
    obtain ⟨hinvariant, -, -⟩ := controllerInvariant_create hc
    exact evaluate_agrees hU (run_invariant (fun _ _ _ hs hstep => hs.step hstep) hrun hinvariant)
  · intro es es' r r' hr hr' htext
    rw [canonicalizeIntentRecord_injective htext] at hr
    exact (validateIntentRecord_perm.mp hr).trans (validateIntentRecord_perm.mp hr').symm
  · intro es r t hr ht
    obtain ⟨-, -, -, -, -, rfl⟩ := (canonicalizePayload_eq_ok_iff _ _).mp ht
    exact canonicalizeIntentRecord_eq_iff hU hr

/-! Two intents that differ in their request class. -/

/-- A URL parser that knows one origin. -/
def exampleUrls : UrlParser := fun s =>
  if s = js "https://app.example" then some ⟨js "https:", s, [], []⟩ else none

theorem asciiOrigins_exampleUrls : AsciiOrigins exampleUrls := by
  rintro s ⟨url, hurl, -⟩
  unfold exampleUrls at hurl
  split_ifs at hurl with hs
  rw [hs]
  exact ascii_of_all (by decide +kernel)

/-- An intent to sign a message, with any request class. -/
def exampleRecord (requestClass : { s : JsString // s ≠ [] })
    (hclass : requestClass.val ≠ js "permit_eip2612") : IntentRecord exampleUrls where
  requestId := ⟨js "request-0001", by decide⟩
  origin := ⟨js "https://app.example", by decide, ⟨_, rfl, .inl rfl, rfl, rfl, rfl⟩⟩
  chainId := .ofNat 1
  account := ⟨js "0x" ++ List.replicate 40 0x61, by decide⟩
  rpcMethod := ⟨js "personal_sign", by decide⟩
  requestClass := requestClass
  target := none
  spender := none
  recipient := none
  nativeValue := ⟨js "0", by decide⟩
  calldataSha256 := none
  typedDataSha256 := none
  requestedAllowance := none
  tokenAmount := none
  requestedOperatorApproval := none
  typedDataOwner := none
  typedDataDomainChainId := none
  typedDataVerifyingContract := none
  simulationRequired := true
  permitOwner := fun h => absurd h hclass

def signatureRecord : IntentRecord exampleUrls :=
  exampleRecord ⟨js "generic_signature", by decide⟩ (by decide)

/-- The request class is the letter U+0958, which NFC writes with two letters. -/
def letterRecord : IntentRecord exampleUrls := exampleRecord ⟨[0x0958], by decide⟩ (by decide)

theorem canonicalizePayload_exampleRecords : [signatureRecord, letterRecord].map (fun r =>
    (canonicalizePayload devanagari (.object r.toEntries)).isOk) = [true, true] := by
  decide +kernel

theorem canonicalizers_agree_signature :
    ∃ t, canonicalizePayload devanagari (.object signatureRecord.toEntries) = .ok t ∧
      canonicalizeIntentRecord signatureRecord = t := by
  obtain ⟨t, ht⟩ := isOk_iff.mp (List.cons_eq_cons.mp canonicalizePayload_exampleRecords).1
  obtain ⟨-, -, -, hagree⟩ :=
    @canonicalizers_agree_iff exampleUrls devanagari strictSha256 asciiOrigins_exampleUrls
  have hvalid := validateIntentRecord_perm.mpr (List.Perm.refl signatureRecord.toEntries)
  refine ⟨t, ht, (hagree _ _ t hvalid ht).mpr ?_⟩
  exact normalizeNfc_ascii (ascii_of_requestClass .genericSignature)

/-- An accepted intent that `canonicalizePayload` accepts, with two texts. -/
theorem canonicalizers_differ_letter :
    ∃ r t, validateIntentRecord exampleUrls (.object letterRecord.toEntries) = .ok r ∧
      canonicalizePayload devanagari (.object letterRecord.toEntries) = .ok t ∧
      canonicalizeIntentRecord r ≠ t := by
  have hpayloads := (List.cons_eq_cons.mp canonicalizePayload_exampleRecords).2
  obtain ⟨t, ht⟩ := isOk_iff.mp (List.cons_eq_cons.mp hpayloads).1
  have hvalid := validateIntentRecord_perm.mpr (List.Perm.refl letterRecord.toEntries)
  refine ⟨letterRecord, t, hvalid, ht, fun heq => ?_⟩
  obtain ⟨-, -, -, -, -, rfl⟩ := (canonicalizePayload_eq_ok_iff _ _).mp ht
  have hclass := (canonicalizeIntentRecord_eq_iff asciiOrigins_exampleUrls hvalid).mp heq
  exact absurd hclass (by decide +kernel)

end OpenRisk.Guard
