import OpenRisk.Guard.Calldata
import OpenRisk.Guard.CanonicalAgreement

/-!
# The identity of a policy

Two accepted policies have one hash exactly when they differ at most in the order of the entries
of their lists and in the letter case of their addresses and chain ids.

Results:
* `radixText_radixValue`: a numeral without leading zeros is the text of its number.
* `normalizePolicy_reads`: what normalization reads from the fields of an accepted policy.
* `canonicalizeNormalizedPolicy_injective`: the canonical text determines the policy.
* `policy_identity`: normalization is idempotent, and when two policies have one hash.
-/

namespace OpenRisk.Guard

open Text Sdk Sorting

/-! ## Numerals -/

/-- A numeral without leading zeros is the text of its number. -/
theorem radixText_radixValue {b : ℕ} (h1 : 1 < b) (hb : b ≤ 16) {s : JsString}
    {digit : UInt16 → Bool} (hcanonical : isCanonicalNumeral digit s = true)
    (hdigits : ∀ u ∈ s, ∃ d, d < b ∧ Json.hexValue u = some d ∧ Json.hexDigit d = u) :
    Json.radixText b (Json.radixValue b s) = s := by
  -- the digits, the least significant first
  let values := s.reverse.map fun u => (Json.hexValue u).getD 0
  have hlt : ∀ d ∈ values, d < b := by
    intro d hd
    obtain ⟨u, hu, rfl⟩ := List.mem_map.mp hd
    obtain ⟨d, hdb, hvalue, -⟩ := hdigits u (List.mem_reverse.mp hu)
    rw [hvalue]
    exact hdb
  have hs : values.reverse.map Json.hexDigit = s := by
    rw [← List.map_reverse, List.reverse_reverse, List.map_map]
    refine (List.map_congr_left fun u hu => ?_).trans (List.map_id s)
    obtain ⟨d, -, hvalue, hdigit⟩ := hdigits u hu
    rw [Function.comp_apply, hvalue]
    exact hdigit
  have hvalue : Json.radixValue b s = Nat.ofDigits b values := by
    rw [← Json.radixValue_map_hexDigit hb values hlt, hs]
  cases s with
  | nil => cases hcanonical
  | cons u us =>
    by_cases hzero : u = 0x30
    · have hus : us = [] := by
        simpa [isCanonicalNumeral, hzero] using hcanonical
      have hvalue0 : Json.radixValue b [0x30] = 0 := by simp [Json.radixValue, Json.hexValue]
      rw [hzero, hus, hvalue0, Json.radixText, if_pos rfl]
    · obtain ⟨d, -, hd, hdigit⟩ := hdigits u List.mem_cons_self
      have hd0 : d ≠ 0 := by
        rintro rfl
        exact hzero hdigit.symm
      have hlast : ∀ hne : values ≠ [], values.getLast hne ≠ 0 := by
        intro hne
        have hsplit : values = (us.reverse.map fun u => (Json.hexValue u).getD 0) ++ [d] := by
          show (List.map _ (u :: us).reverse) = _
          rw [List.reverse_cons, List.map_append, List.map_singleton, hd, Option.getD_some]
        simp only [hsplit, List.getLast_append_singleton]
        exact hd0
      have hdigits' := Nat.digits_ofDigits b h1 values hlt hlast
      have hne : Nat.ofDigits b values ≠ 0 := by
        intro h0
        rw [h0, Nat.digits_zero] at hdigits'
        rw [← hdigits'] at hs
        cases hs
      rw [hvalue, Json.radixText, if_neg hne, hdigits']
      exact hs

theorem forall_of_isCanonicalNumeral {digit : UInt16 → Bool} (hzero : digit 0x30 = true)
    {s : JsString} (h : isCanonicalNumeral digit s = true) : ∀ u ∈ s, digit u = true := by
  cases s with
  | nil => cases h
  | cons u us =>
    simp only [isCanonicalNumeral, Bool.or_eq_true, Bool.and_eq_true, decide_eq_true_eq,
      List.all_eq_true] at h
    rcases h with ⟨rfl, rfl⟩ | ⟨⟨-, hu⟩, hus⟩
    · exact List.forall_mem_singleton.mpr hzero
    · exact List.forall_mem_cons.mpr ⟨hu, hus⟩

theorem decimal_decimalNumber {s : JsString} (h : DECIMAL_INTEGER_PATTERN s = true) :
    Json.decimal (decimalNumber s) = s := by
  have hcanonical : isCanonicalNumeral Json.isDigit s = true := h
  refine radixText_radixValue (by norm_num) (by norm_num) hcanonical fun u hu => ?_
  have hu := forall_of_isCanonicalNumeral rfl hcanonical u hu
  obtain ⟨d, -, hvalue, hdigit⟩ := hexDigit_hexValue (u := u) (by rw [isHashUnit, hu]; rfl)
  refine ⟨d, ?_, hvalue, hdigit⟩
  simp only [Json.isDigit, Bool.and_eq_true, decide_eq_true_eq] at hu
  rw [Json.hexValue, if_pos (by omega), Option.some.injEq] at hvalue
  omega

theorem radixValue_toLowerAscii (b : ℕ) (s : JsString) :
    Json.radixValue b (toLowerAscii s) = Json.radixValue b s := by
  rw [Json.radixValue, toLowerAscii, List.foldl_map]
  simp only [IntentBinding.hexValue_lower]
  rfl

theorem isCanonicalNumeral_toLowerAscii {s : JsString} (h : isCanonicalNumeral isHexUnit s = true) :
    isCanonicalNumeral isHexUnit (toLowerAscii s) = true := by
  cases s with
  | nil => cases h
  | cons u us =>
    simp only [isCanonicalNumeral, Bool.or_eq_true, Bool.and_eq_true, decide_eq_true_eq,
      List.all_eq_true] at h
    rcases h with ⟨rfl, rfl⟩ | ⟨⟨hne, hu⟩, hus⟩
    · rfl
    · have hlower : (if isUpperAlpha u then u + 0x20 else u) ≠ 0x30 := by
        intro heq
        have hvalue := IntentBinding.hexValue_lower u
        rw [heq] at hvalue
        -- only the digit 0 has the value 0
        have hzero : Json.hexValue u = some 0 := hvalue.symm
        unfold Json.hexValue at hzero
        split_ifs at hzero with hd hl hup
        · rw [Option.some.injEq] at hzero
          exact hne (UInt16.toNat.inj (show u.toNat = 0x30 by omega))
        · rw [Option.some.injEq] at hzero
          omega
        · rw [Option.some.injEq] at hzero
          omega
      have hrest : ∀ v ∈ toLowerAscii us, isHexUnit v = true := by
        intro v hv
        obtain ⟨w, hw, rfl⟩ := List.mem_map.mp hv
        exact isHexUnit_toLower (hus w hw)
      rw [toLowerAscii, List.map_cons]
      simp only [isCanonicalNumeral, Bool.or_eq_true, Bool.and_eq_true, decide_eq_true_eq,
        List.all_eq_true]
      exact .inr ⟨⟨hlower, isHexUnit_toLower hu⟩, hrest⟩

/-- The text of a chain id is its numeral in lower case. -/
theorem hexQuantity_hexNumber {s : JsString} (h : HEX_QUANTITY_PATTERN s = true) :
    hexQuantity (hexNumber s) = toLowerAscii s := by
  simp only [HEX_QUANTITY_PATTERN, hasHexMark, Bool.and_eq_true, decide_eq_true_eq] at h
  obtain ⟨hmark, hnumeral⟩ := h
  have hsplit : s = 0x30 :: 0x78 :: s.drop 2 := by
    have hs := List.take_append_drop 2 s
    rw [hmark] at hs
    exact hs.symm
  have hlower := isCanonicalNumeral_toLowerAscii hnumeral
  rw [hexQuantity, hexNumber, ← radixValue_toLowerAscii,
    radixText_radixValue (by norm_num) (by norm_num) hlower]
  · conv_rhs => rw [hsplit]
    rfl
  · intro u hu
    have hhex := forall_of_isCanonicalNumeral rfl hlower u hu
    exact hexDigit_hexValue (isHashUnit_of_isHexUnit hhex
      (toLowerAscii_eq_self_iff.mp (toLowerAscii_idem _) u hu))

/-! ## Reading -/

/-- The value of an own property. -/
def ownValue (value : HostValue) (key : String) : HostValue :=
  match value with
  | .object r => ((r.properties.lookup (js key)).bind Property.enumerableData).getD .undefined
  | _ => .undefined

/-- The string that a value is. -/
def asText : HostValue → Option JsString
  | .string s => some s
  | _ => none

/-- The strings among the elements of an array. -/
def itemTexts (values : HostValue) : List JsString :=
  match values with
  | .object r => r.properties.filterMap fun p => p.2.enumerableData.bind asText
  | _ => []

theorem readFields_lookup {ε : Type} {property : JsString → ε}
    {properties : List (JsString × Property HostValue)} {keys : List JsString}
    {fields : List (JsString × HostValue)} (h : readFields property properties keys = .ok fields)
    {key : JsString} (hkey : key ∈ keys) :
    fields.lookup key = (properties.lookup key).bind Property.enumerableData := by
  induction keys generalizing fields with
  | nil => cases hkey
  | cons k keys ih =>
    unfold readFields at h
    split at h
    · rename_i value hvalue
      obtain ⟨rest, hrest, h⟩ := bind_eq_ok.mp h
      obtain rfl := Except.ok.inj h
      rw [List.lookup_cons]
      by_cases hk : key = k
      · rw [hk, beq_self_eq_true, hvalue]
      · rw [beq_eq_false_iff_ne.mpr hk]
        exact ih hrest ((List.mem_cons.mp hkey).resolve_left hk)
    · cases h

theorem fieldOf_snapshot {value : HostValue} {label : JsString}
    {snapshot : List (JsString × HostValue)}
    (h : snapshotExactDataRecord value POLICY_KEYS label = .ok snapshot) {key : String}
    (hkey : js key ∈ POLICY_KEYS) : fieldOf snapshot key = ownValue value key := by
  unfold snapshotExactDataRecord snapshotRecord at h
  split at h
  · dsimp only at h
    split_ifs at h
    rw [fieldOf, ownValue, readFields_lookup h hkey]
  · cases h

theorem readItems_texts {field : JsString} {properties : List (JsString × Property HostValue)}
    {items : List HostValue} (h : readItems field properties = .ok items) :
    (properties.filterMap fun p => p.2.enumerableData.bind asText) = items.filterMap asText := by
  induction properties generalizing items with
  | nil =>
    cases h
    rfl
  | cons p rest ih =>
    obtain ⟨name, property⟩ := p
    unfold readItems at h
    split at h
    · rename_i value hvalue
      obtain ⟨values, hvalues, h⟩ := bind_eq_ok.mp h
      obtain rfl := Except.ok.inj h
      rw [List.filterMap_cons, List.filterMap_cons, hvalue, Option.bind_some, ih hvalues]
    · cases h

theorem snapshotDenseArray_texts {values : HostValue} {field : JsString} {items : List HostValue}
    (h : snapshotDenseArray values field = .ok items) :
    itemTexts values = items.filterMap asText := by
  unfold snapshotDenseArray at h
  split at h
  · split_ifs at h
    · cases h
    · cases h
    · cases h
    · exact readItems_texts h
  · cases h

section Lists

variable {α : Type} [DecidableEq α] {text : α → JsString} {field : JsString}
  {normalizeItem : HostValue → Except PolicyError α} {norm : JsString → JsString}

theorem normalizeItems_texts
    (hitem : ∀ v a, normalizeItem v = .ok a → ∃ s, v = .string s ∧ norm s = text a)
    {items : List HostValue} {normalized result : List α}
    (h : normalizeItems field normalizeItem items normalized = .ok result) :
    result.map text = normalized.map text ++ (items.filterMap asText).map norm := by
  induction items generalizing normalized with
  | nil =>
    obtain rfl := Except.ok.inj h
    rw [List.filterMap_nil, List.map_nil, List.append_nil]
  | cons v rest ih =>
    unfold normalizeItems at h
    obtain ⟨a, ha, hrest⟩ := bind_eq_ok.mp h
    split_ifs at hrest
    · cases hrest
    obtain ⟨s, rfl, hs⟩ := hitem v a ha
    rw [ih hrest, List.filterMap_cons, List.map_append, List.append_assoc]
    simp only [asText, List.map_cons, List.map_nil, hs, List.singleton_append]

/-- The texts of a normalized list are the normalized elements in some order. -/
theorem normalizeUniqueList_texts {htext : Function.Injective text}
    (hitem : ∀ v a, normalizeItem v = .ok a → ∃ s, v = .string s ∧ norm s = text a)
    {values : HostValue} {l : UniqueList text}
    (h : normalizeUniqueList htext values field normalizeItem = .ok l) :
    ((itemTexts values).map norm).Perm l.texts := by
  unfold normalizeUniqueList at h
  split at h
  · cases h
  · rename_i items hitems
    split at h
    · cases h
    · rename_i normalized hnormalized
      obtain rfl := Except.ok.inj h
      rw [snapshotDenseArray_texts hitems, ← List.nil_append (List.map norm _),
        ← List.map_nil (f := text), ← normalizeItems_texts hitem hnormalized]
      exact ((sortBy_perm text normalized).map text).symm

omit [DecidableEq α] in
/-- A normalized list is determined by its texts in any order. -/
theorem UniqueList.eq_of_perm (htext : Function.Injective text) {l m : UniqueList text}
    (h : l.texts.Perm m.texts) : l = m := by
  have hsorted : ∀ l : UniqueList text, l.texts.Pairwise fun a b => compare a b = .lt := fun l =>
    List.pairwise_map.mpr l.increasing
  have htexts : l.texts = m.texts := by
    refine List.Perm.eq_of_pairwise (fun a b _ _ hab hba => ?_) (hsorted l) (hsorted m) h
    have hswap : compare a b = (compare b a).swap := Std.OrientedCmp.eq_swap
    rw [hswap, hba] at hab
    cases hab
  obtain ⟨entries, _, _⟩ := l
  obtain ⟨entries', _, _⟩ := m
  obtain rfl : entries = entries' := List.map_injective_iff.mpr htext htexts
  rfl

end Lists

theorem normalizePolicyAddress_text {field : JsString} {v : HostValue} {a : Address}
    (h : normalizePolicyAddress field v = .ok a) : ∃ s, v = .string s ∧ toLowerAscii s = a.val := by
  cases v with
  | string s =>
    have h := mapError_eq_ok.mp h
    rw [asString, normalizeEvmAddress] at h
    split_ifs at h
    exact ⟨s, rfl, congrArg Subtype.val (Except.ok.inj h)⟩
  | _ => cases h

theorem normalizePolicyChainId_text {v : HostValue} {c : ChainId}
    (h : normalizePolicyChainId v = .ok c) : ∃ s, v = .string s ∧ toLowerAscii s = c.val := by
  cases v with
  | string s =>
    have h := mapError_eq_ok.mp h
    rw [asString, normalizeChainId] at h
    split_ifs at h with hs
    refine ⟨s, rfl, ?_⟩
    rw [← Except.ok.inj h, ← hexQuantity_hexNumber hs]
    rfl
  | _ => cases h

theorem normalizeOrigin_text {U : UrlParser} {v : HostValue} {o : Origin U}
    (h : normalizeOrigin U v = .ok o) : ∃ s, v = .string s ∧ id s = o.val := by
  unfold normalizeOrigin at h
  split at h
  · rename_i s
    split at h
    · rename_i origin horigin
      obtain rfl := Except.ok.inj h
      exact ⟨s, rfl, (checkOrigin_eq_ok.mp horigin).1.symm⟩
    · cases h
  · cases h

theorem normalizeRequestClass_eq_ok {v : HostValue} {c : RequestClass}
    (h : normalizeRequestClass v = .ok c) : ∃ s, v = .string s ∧ id s = c.text := by
  unfold normalizeRequestClass at h
  split at h
  · rename_i s
    split at h
    · rename_i c' hfind
      obtain rfl := Except.ok.inj h
      have htext := @List.find?_some _ (fun c : RequestClass => decide (c.text = s)) _ _ hfind
      exact ⟨s, rfl, (of_decide_eq_true htext).symm⟩
    · cases h
  · cases h

theorem normalizeCanonicalDecimal_text {v : HostValue} {field : JsString} {d : Decimal}
    (h : normalizeCanonicalDecimal v field = .ok d) : v = .string d.val := by
  unfold normalizeCanonicalDecimal at h
  split at h
  · rename_i s
    split_ifs at h with hs
    · rw [← Except.ok.inj h]
      exact congrArg HostValue.string (decimal_decimalNumber hs).symm
    · cases h
  · cases h

theorem checkPolicyId_text {v : HostValue} {i : PolicyId} (h : checkPolicyId v = .ok i) :
    v = .string i.val := by
  unfold checkPolicyId at h
  split at h
  · split_ifs at h
    · rw [← Except.ok.inj h]
    · cases h
  · cases h

theorem checkBoolean_value {v : HostValue} {field : JsString} {b : Bool}
    (h : checkBoolean v field = .ok b) : v = .bool b := by
  unfold checkBoolean at h
  split at h
  · rw [Except.ok.inj h]
  · cases h

/-- What a policy reads from the fields of a value. -/
structure Reads {U : UrlParser} (value : HostValue) (p : PolicyFields U) : Prop where
  policyId : ownValue value "policy_id" = .string p.policyId.val
  enabled : ownValue value "enabled" = .bool p.enabled
  killSwitch : ownValue value "kill_switch" = .bool p.killSwitch
  expectedChainId :
    ∃ s, ownValue value "expected_chain_id" = .string s ∧ toLowerAscii s = p.expectedChainId.val
  allowedOrigins : (itemTexts (ownValue value "allowed_origins")).Perm p.allowedOrigins.texts
  allowedTargets : ((itemTexts (ownValue value "allowed_targets")).map toLowerAscii).Perm
    p.allowedTargets.texts
  allowedRecipients : ((itemTexts (ownValue value "allowed_recipients")).map toLowerAscii).Perm
    p.allowedRecipients.texts
  allowedSpenders : ((itemTexts (ownValue value "allowed_spenders")).map toLowerAscii).Perm
    p.allowedSpenders.texts
  allowedTypedDataVerifyingContracts :
    ((itemTexts (ownValue value "allowed_typed_data_verifying_contracts")).map toLowerAscii).Perm
      p.allowedTypedDataVerifyingContracts.texts
  maxNativeValue : ownValue value "max_native_value" = .string p.maxNativeValue.val
  maxTokenAmount : ownValue value "max_token_amount" = .string p.maxTokenAmount.val
  denyUnlimitedAllowance : ownValue value "deny_unlimited_allowance" = .bool p.denyUnlimitedAllowance
  denyOperatorApproval : ownValue value "deny_operator_approval" = .bool p.denyOperatorApproval
  requireSimulationFor :
    (itemTexts (ownValue value "require_simulation_for")).Perm p.requireSimulationFor.texts

/-- What normalization reads from the fields of an accepted policy. -/
theorem normalizePolicy_reads {U : UrlParser} {value : HostValue} {p : Policy U}
    (h : normalizePolicy U value = .ok p) : Reads value p.toPolicyFields := by
  obtain ⟨snapshot, hsnapshot, h⟩ := bind_eq_ok.mp h
  obtain ⟨fields, hfields, h⟩ := bind_eq_ok.mp h
  have hp : p.toPolicyFields = fields := by
    unfold assertNormalizedPolicyBounds at h
    split_ifs at h
    · rw [← Except.ok.inj h]
    · cases h
    · cases h
  have hfield : ∀ key, js key ∈ POLICY_KEYS → fieldOf snapshot key = ownValue value key :=
    fun key hkey => fieldOf_snapshot hsnapshot hkey
  have hid : ∀ l : List JsString, l.map id = l := List.map_id
  simp only [normalizePolicyFields, bind_eq_ok] at hfields
  obtain ⟨_, -, policyId, hpolicyId, enabled, henabled, killSwitch, hkillSwitch,
    denyUnlimitedAllowance, hunlimited, denyOperatorApproval, hoperator, requireSimulationFor,
    hclasses, expectedChainId, hchain, allowedOrigins, horigins, allowedTargets, htargets,
    allowedRecipients, hrecipients, allowedSpenders, hspenders, contracts, hcontracts,
    maxNativeValue, hnative, maxTokenAmount, htoken, hfields⟩ := hfields
  rw [hp, ← Except.ok.inj hfields]
  have haddresses : ∀ {key field item l}, js key ∈ POLICY_KEYS →
      normalizeAddressList (fieldOf snapshot key) field item = .ok l →
        ((itemTexts (ownValue value key)).map toLowerAscii).Perm l.texts := by
    intro key field item l hkey hl
    rw [← hfield key hkey]
    exact normalizeUniqueList_texts (fun _ _ => normalizePolicyAddress_text) hl
  constructor
  · rw [← hfield _ (by decide)]; exact checkPolicyId_text hpolicyId
  · rw [← hfield _ (by decide)]; exact checkBoolean_value henabled
  · rw [← hfield _ (by decide)]; exact checkBoolean_value hkillSwitch
  · rw [← hfield _ (by decide)]; exact normalizePolicyChainId_text hchain
  · rw [← hfield _ (by decide), ← hid (itemTexts _)]
    exact normalizeUniqueList_texts (fun _ _ => normalizeOrigin_text) horigins
  · exact haddresses (by decide) htargets
  · exact haddresses (by decide) hrecipients
  · exact haddresses (by decide) hspenders
  · exact haddresses (by decide) hcontracts
  · rw [← hfield _ (by decide)]; exact normalizeCanonicalDecimal_text hnative
  · rw [← hfield _ (by decide)]; exact normalizeCanonicalDecimal_text htoken
  · rw [← hfield _ (by decide)]; exact checkBoolean_value hunlimited
  · rw [← hfield _ (by decide)]; exact checkBoolean_value hoperator
  · rw [← hfield _ (by decide), ← hid (itemTexts _)]
    exact normalizeUniqueList_texts (fun _ _ => normalizeRequestClass_eq_ok) hclasses

/-- The values differ at most in the order of list entries and in the letter case of addresses
    and chain ids. -/
structure SamePolicy (v w : HostValue) : Prop where
  scalars : ∀ key ∈ ["policy_id", "enabled", "kill_switch", "max_native_value", "max_token_amount",
    "deny_unlimited_allowance", "deny_operator_approval"], ownValue v key = ownValue w key
  chainId : ∃ s t, ownValue v "expected_chain_id" = .string s ∧
    ownValue w "expected_chain_id" = .string t ∧ toLowerAscii s = toLowerAscii t
  lists : ∀ key ∈ ["allowed_origins", "require_simulation_for"],
    (itemTexts (ownValue v key)).Perm (itemTexts (ownValue w key))
  addresses : ∀ key ∈ ["allowed_targets", "allowed_recipients", "allowed_spenders",
      "allowed_typed_data_verifying_contracts"],
    ((itemTexts (ownValue v key)).map toLowerAscii).Perm
      ((itemTexts (ownValue w key)).map toLowerAscii)

/-- Accepted values are the same policy exactly when they are normalized to the same fields. -/
theorem samePolicy_iff {U : UrlParser} {v w : HostValue} {p q : PolicyFields U} (hp : Reads v p)
    (hq : Reads w q) : SamePolicy v w ↔ p = q := by
  constructor
  · intro h
    have hlist : ∀ {α : Type} {text : α → JsString} (_ : Function.Injective text)
        {l m : UniqueList text} {x y : List JsString}, x.Perm l.texts → y.Perm m.texts → x.Perm y →
          l = m := fun htext _ _ _ _ hl hm hxy =>
          UniqueList.eq_of_perm htext (hl.symm.trans (hxy.trans hm))
    have htext : ∀ {key s t}, ownValue v key = .string s → ownValue w key = .string t →
        ownValue v key = ownValue w key → s = t := fun hs ht heq => by
      rw [hs, ht] at heq
      exact HostValue.string.inj heq
    have hbool : ∀ {key b c}, ownValue v key = .bool b → ownValue w key = .bool c →
        ownValue v key = ownValue w key → b = c := fun hb hc heq => by
      rw [hb, hc] at heq
      exact HostValue.bool.inj heq
    obtain ⟨s, t, hs, ht, hst⟩ := h.chainId
    obtain ⟨s', hs', hchain⟩ := hp.expectedChainId
    obtain ⟨t', ht', hchain'⟩ := hq.expectedChainId
    obtain rfl : s = s' := HostValue.string.inj (hs.symm.trans hs')
    obtain rfl : t = t' := HostValue.string.inj (ht.symm.trans ht')
    have hcase : p.expectedChainId = q.expectedChainId :=
      Subtype.ext (hchain.symm.trans (hst.trans hchain'))
    have hid := htext hp.policyId hq.policyId (h.scalars _ (by decide))
    have hnative := htext hp.maxNativeValue hq.maxNativeValue (h.scalars _ (by decide))
    have htoken := htext hp.maxTokenAmount hq.maxTokenAmount (h.scalars _ (by decide))
    have henabled := hbool hp.enabled hq.enabled (h.scalars _ (by decide))
    have hkill := hbool hp.killSwitch hq.killSwitch (h.scalars _ (by decide))
    have hunlimited := hbool hp.denyUnlimitedAllowance hq.denyUnlimitedAllowance
      (h.scalars _ (by decide))
    have hoperator := hbool hp.denyOperatorApproval hq.denyOperatorApproval (h.scalars _ (by decide))
    have horigins := hlist Subtype.val_injective hp.allowedOrigins hq.allowedOrigins
      (h.lists _ (by decide))
    have hclasses := hlist RequestClass.text_injective hp.requireSimulationFor
      hq.requireSimulationFor (h.lists _ (by decide))
    have htargets := hlist Subtype.val_injective hp.allowedTargets hq.allowedTargets
      (h.addresses _ (by decide))
    have hrecipients := hlist Subtype.val_injective hp.allowedRecipients hq.allowedRecipients
      (h.addresses _ (by decide))
    have hspenders := hlist Subtype.val_injective hp.allowedSpenders hq.allowedSpenders
      (h.addresses _ (by decide))
    have hcontracts := hlist Subtype.val_injective hp.allowedTypedDataVerifyingContracts
      hq.allowedTypedDataVerifyingContracts (h.addresses _ (by decide))
    cases p
    cases q
    simp only [PolicyFields.mk.injEq]
    exact ⟨Subtype.ext hid, henabled, hkill, hcase, horigins, htargets, hrecipients, hspenders,
      hcontracts, Subtype.ext hnative, Subtype.ext htoken, hunlimited, hoperator, hclasses⟩
  · rintro rfl
    constructor
    · simp only [List.forall_mem_cons, List.not_mem_nil, false_imp_iff, implies_true, and_true]
      exact ⟨hp.policyId.trans hq.policyId.symm, hp.enabled.trans hq.enabled.symm,
        hp.killSwitch.trans hq.killSwitch.symm, hp.maxNativeValue.trans hq.maxNativeValue.symm,
        hp.maxTokenAmount.trans hq.maxTokenAmount.symm,
        hp.denyUnlimitedAllowance.trans hq.denyUnlimitedAllowance.symm,
        hp.denyOperatorApproval.trans hq.denyOperatorApproval.symm⟩
    · obtain ⟨s, hs, hchain⟩ := hp.expectedChainId
      obtain ⟨t, ht, hchain'⟩ := hq.expectedChainId
      exact ⟨s, t, hs, ht, hchain.trans hchain'.symm⟩
    · simp only [List.forall_mem_cons, List.not_mem_nil, false_imp_iff, implies_true, and_true]
      exact ⟨hp.allowedOrigins.trans hq.allowedOrigins.symm,
        hp.requireSimulationFor.trans hq.requireSimulationFor.symm⟩
    · simp only [List.forall_mem_cons, List.not_mem_nil, false_imp_iff, implies_true, and_true]
      exact ⟨hp.allowedTargets.trans hq.allowedTargets.symm,
        hp.allowedRecipients.trans hq.allowedRecipients.symm,
        hp.allowedSpenders.trans hq.allowedSpenders.symm,
        hp.allowedTypedDataVerifyingContracts.trans hq.allowedTypedDataVerifyingContracts.symm⟩

/-! ## The canonical text -/

section Text

variable {U : UrlParser}

/-- The members that `canonicalizeNormalizedPolicy` writes. -/
def PolicyFields.members (p : PolicyFields U) : List (String × Json) := [
  ("allowed_origins", .array (p.allowedOrigins.texts.map .string)),
  ("allowed_recipients", .array (p.allowedRecipients.texts.map .string)),
  ("allowed_spenders", .array (p.allowedSpenders.texts.map .string)),
  ("allowed_targets", .array (p.allowedTargets.texts.map .string)),
  ("allowed_typed_data_verifying_contracts",
    .array (p.allowedTypedDataVerifyingContracts.texts.map .string)),
  ("deny_operator_approval", .bool p.denyOperatorApproval),
  ("deny_unlimited_allowance", .bool p.denyUnlimitedAllowance),
  ("enabled", .bool p.enabled),
  ("expected_chain_id", .string p.expectedChainId.val),
  ("kill_switch", .bool p.killSwitch),
  ("max_native_value", .string p.maxNativeValue.val),
  ("max_token_amount", .string p.maxTokenAmount.val),
  ("policy_id", .string p.policyId.val),
  ("require_simulation_for", .array (p.requireSimulationFor.texts.map .string)),
  ("schema_version", .string WALLET_GUARD_POLICY_SCHEMA_VERSION)]

/-- The value whose text is hashed. -/
def PolicyFields.json (p : PolicyFields U) : Json := .object (p.members.map fun f => (js f.1, f.2))

theorem canonicalizeNormalizedPolicy_eq_print (p : PolicyFields U) :
    canonicalizeNormalizedPolicy p = Json.print p.json := by
  have hnames : ∀ f ∈ p.members, Json.quote (js f.1) = 0x22 :: (js f.1 ++ [0x22]) := by
    simp only [PolicyFields.members, List.forall_mem_cons, List.not_mem_nil, false_imp_iff,
      implies_true]
    decide
  have hstring : ∀ s, Json.print (.string s) = Json.quote s := by
    intro s
    rw [Json.print]
  rw [PolicyFields.json, ← canonicalRecord_eq_print _ hnames, canonicalizeNormalizedPolicy,
    PolicyFields.members]
  simp only [List.map_cons, List.map_nil, print_strings, print_bool, hstring]

theorem integral_json (p : PolicyFields U) : p.json.Integral := by
  have hstrings : ∀ texts : List JsString, Json.IntegralElements (texts.map .string) := by
    intro texts
    induction texts with
    | nil => simp [Json.IntegralElements]
    | cons t texts ih => simpa [Json.Integral, Json.IntegralElements] using ih
  simp [PolicyFields.json, PolicyFields.members, Json.Integral, Json.IntegralMembers, hstrings]

theorem json_injective {p q : PolicyFields U} (h : p.json = q.json) : p = q := by
  have hstrings : ∀ a b : List JsString, a.map Json.string = b.map Json.string ↔ a = b :=
    fun a b => List.map_inj_right fun _ _ => Json.string.inj
  have hlist : ∀ {α : Type} {text : α → JsString} (_ : Function.Injective text)
      {l m : UniqueList text}, l.texts = m.texts → l = m := fun htext _ _ heq =>
    UniqueList.eq_of_perm htext (List.Perm.of_eq heq)
  simp only [PolicyFields.json, PolicyFields.members, List.map_cons, List.map_nil,
    Json.object.injEq, List.cons.injEq, Prod.mk.injEq, Json.string.injEq, Json.bool.injEq,
    Json.array.injEq, hstrings, true_and, and_true] at h
  obtain ⟨horigins, hrecipients, hspenders, htargets, hcontracts, hoperator, hunlimited, henabled,
    hchain, hkill, hnative, htoken, hid, hclasses⟩ := h
  have horigins := hlist Subtype.val_injective horigins
  have hrecipients := hlist Subtype.val_injective hrecipients
  have hspenders := hlist Subtype.val_injective hspenders
  have htargets := hlist Subtype.val_injective htargets
  have hcontracts := hlist Subtype.val_injective hcontracts
  have hclasses := hlist RequestClass.text_injective hclasses
  cases p
  cases q
  simp only [PolicyFields.mk.injEq]
  exact ⟨Subtype.ext hid, henabled, hkill, Subtype.ext hchain, horigins, htargets, hrecipients,
    hspenders, hcontracts, Subtype.ext hnative, Subtype.ext htoken, hunlimited, hoperator, hclasses⟩

/-- The text whose hash is the hash of a policy. -/
def PolicyFields.text (p : PolicyFields U) : JsString :=
  WALLET_GUARD_POLICY_COMMIT_DOMAIN ++ canonicalizeNormalizedPolicy p

/-- The bytes of the canonical text determine the policy. -/
theorem canonicalizeNormalizedPolicy_injective {p q : PolicyFields U}
    (h : utf8Encode p.text = utf8Encode q.text) : p = q := by
  have hdomain : ∀ u ∈ WALLET_GUARD_POLICY_COMMIT_DOMAIN, u.toNat < 0x80 :=
    ascii_of_all (by decide +kernel)
  have hscalar : ∀ p : PolicyFields U, Scalar (codePoints p.text) := by
    intro p
    rw [PolicyFields.text, canonicalizeNormalizedPolicy_eq_print, codePoints_append_ascii hdomain,
      scalar_append]
    exact ⟨scalar_map_unitPoint hdomain, Json.scalar_print _ (integral_json p)⟩
  have htext := utf8Encode_injective (hscalar p) (hscalar q) h
  rw [PolicyFields.text, PolicyFields.text, List.append_right_inj,
    canonicalizeNormalizedPolicy_eq_print, canonicalizeNormalizedPolicy_eq_print] at htext
  exact json_injective (Json.print_injective (integral_json p) (integral_json q) htext)

end Text

/-! ## Identity -/

section Identity

variable {U : UrlParser} {S : Hash}

theorem policyHash_evaluate {value simulation : HostValue} {p : Policy U} {intent : Intent}
    {locallyNormalized : Bool} {result : PolicyResult} (hp : normalizePolicy U value = .ok p)
    (h : evaluateWalletGuardPolicy U S intent locallyNormalized value simulation = .ok result) :
    result.policyHash = policyHash p.toPolicyFields S := by
  rw [evaluateWalletGuardPolicy] at h
  obtain ⟨_, -, h⟩ := bind_eq_ok.mp h
  obtain ⟨p', hp', h⟩ := bind_eq_ok.mp h
  obtain ⟨status, -, h⟩ := bind_eq_ok.mp h
  obtain rfl := Except.ok.inj (hp.symm.trans hp')
  rw [← Except.ok.inj h]
  unfold decideOn
  split_ifs <;> rfl

/-- Normalization is idempotent, and two accepted policies have one hash exactly when they differ
    at most in the order of list entries and in the letter case of addresses and chain ids. -/
theorem policy_identity {v w : HostValue} {p q : Policy U} (hv : normalizePolicy U v = .ok p)
    (hw : normalizePolicy U w = .ok q) :
    normalizePolicy U p.toHost = .ok p ∧
      ∀ (i j : Intent) (iLocal jLocal : Bool) (simulation simulation' : HostValue)
        (r r' : PolicyResult),
        evaluateWalletGuardPolicy U S i iLocal v simulation = .ok r →
        evaluateWalletGuardPolicy U S j jLocal w simulation' = .ok r' →
          (SamePolicy v w → r.policyHash = r'.policyHash) ∧
          (r.policyHash = r'.policyHash →
            SamePolicy v w ∨ S.Collides (utf8Encode p.text) (utf8Encode q.text)) := by
  refine ⟨normalizePolicy_toHost p, ?_⟩
  intro i j iLocal jLocal simulation simulation' r r' hr hr'
  have hsame := samePolicy_iff (normalizePolicy_reads hv) (normalizePolicy_reads hw)
  rw [policyHash_evaluate hv hr, policyHash_evaluate hw hr', hsame]
  constructor
  · rintro heq
    rw [heq]
  · intro heq
    exact (utf8Encode_eq_or_collides heq).imp_left canonicalizeNormalizedPolicy_injective

end Identity

/-! Two spellings of one policy. -/

/-- A policy that names a chain and two spenders. -/
def spelledPolicy (chainId : String) (spenders : List String) : HostValue :=
  .ofData (.object [
    (js "schema_version", .string WALLET_GUARD_POLICY_SCHEMA_VERSION),
    (js "policy_id", .string (js "policy-0001")), (js "enabled", .bool true),
    (js "kill_switch", .bool false), (js "expected_chain_id", .string (js chainId)),
    (js "allowed_origins", .array [.string (js "https://app.example")]),
    (js "allowed_targets", .array []), (js "allowed_recipients", .array []),
    (js "allowed_spenders", .array (spenders.map fun s => .string (js s))),
    (js "allowed_typed_data_verifying_contracts", .array []),
    (js "max_native_value", .string (js "0")), (js "max_token_amount", .string (js "1000")),
    (js "deny_unlimited_allowance", .bool true), (js "deny_operator_approval", .bool true),
    (js "require_simulation_for", .array [.string (js "erc20_approve")])])

def upperSpelling : HostValue :=
  spelledPolicy "0xA" ["0xABABABABABABABABABABABABABABABABABABABAB",
    "0xcdcdcdcdcdcdcdcdcdcdcdcdcdcdcdcdcdcdcdcd"]

def lowerSpelling : HostValue :=
  spelledPolicy "0xa" ["0xCdCdCdCdCdCdCdCdCdCdCdCdCdCdCdCdCdCdCdCd",
    "0xabababababababababababababababababababab"]

theorem policy_identity_spellings : ∃ p q : Policy exampleUrls,
    normalizePolicy exampleUrls upperSpelling = .ok p ∧
    normalizePolicy exampleUrls lowerSpelling = .ok q ∧ normalizePolicy exampleUrls p.toHost = .ok p ∧
    SamePolicy upperSpelling lowerSpelling ∧
    ∀ (intent : Intent) (r r' : PolicyResult),
      evaluateWalletGuardPolicy exampleUrls sha256 intent true upperSpelling .undefined = .ok r →
      evaluateWalletGuardPolicy exampleUrls sha256 intent true lowerSpelling .undefined = .ok r' →
        r.policyHash = r'.policyHash := by
  have htexts : ((normalizePolicy exampleUrls upperSpelling).isOk = true ∧
      (normalizePolicy exampleUrls lowerSpelling).isOk = true) ∧
      (normalizePolicy exampleUrls upperSpelling).toOption.map (fun p => p.text) =
        (normalizePolicy exampleUrls lowerSpelling).toOption.map fun p => p.text := by
    decide +kernel
  obtain ⟨⟨hp, hq⟩, htext⟩ := htexts
  obtain ⟨p, hp⟩ := isOk_iff.mp hp
  obtain ⟨q, hq⟩ := isOk_iff.mp hq
  rw [hp, hq] at htext
  have hpq : p.toPolicyFields = q.toPolicyFields :=
    canonicalizeNormalizedPolicy_injective (congrArg utf8Encode (Option.some.inj htext))
  have hsame : SamePolicy upperSpelling lowerSpelling :=
    (samePolicy_iff (normalizePolicy_reads hp) (normalizePolicy_reads hq)).mpr hpq
  refine ⟨p, q, hp, hq, (@policy_identity _ sha256 _ _ _ _ hp hq).1, hsame, ?_⟩
  intro intent r r' hr hr'
  exact ((policy_identity hp hq).2 intent intent true true _ _ r r' hr hr').1 hsame

end OpenRisk.Guard
