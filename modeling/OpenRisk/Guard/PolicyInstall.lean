import OpenRisk.Guard.CanonicalAgreement

/-!
# Policies that a controller installs

`assertNormalizedPolicyBounds` bounds the number of values of a policy and the length of its
text. `canonicalizePayload`, with which the controller commits a policy, bounds in addition the
length of each string.

Results:
* `canonicalizePayload_policy_iff`: what `canonicalizePayload` accepts of a policy.
* `policyInstall_iff`: an accepted policy can be installed exactly when its strings are short.
-/

namespace OpenRisk.Guard

open Text Sdk

/-! ## ASCII texts -/

theorem ascii_escape {u : UInt16} (hu : u.toNat < 0x80) :
    ∀ v ∈ Json.escape (unitPoint u), v.toNat < 0x80 := by
  have hsingle : codePoints [u] = [unitPoint u] := by
    rw [codePoints_of_ascii (by simpa using hu), List.map_singleton]
  rcases Json.escape_cases (unitPoint u) with h | ⟨h, -⟩
  · exact h
  · have hunits := flatMap_utf16_codePoints [u]
    rw [hsingle, List.flatMap_singleton] at hunits
    rw [h, hunits]
    simpa using hu

theorem ascii_quote {s : JsString} (hs : ∀ u ∈ s, u.toNat < 0x80) :
    ∀ u ∈ Json.quote s, u.toNat < 0x80 := by
  rw [Json.quote, codePoints_of_ascii hs]
  intro v hv
  rw [List.mem_cons, List.mem_append, List.mem_singleton, List.mem_flatMap] at hv
  rcases hv with rfl | ⟨c, hc, hv⟩ | rfl
  · decide
  · obtain ⟨u, hu, rfl⟩ := List.mem_map.mp hc
    exact ascii_escape (hs u hu) v hv
  · decide

theorem ascii_joinComma {ts : List JsString} (h : ∀ t ∈ ts, ∀ u ∈ t, u.toNat < 0x80) :
    ∀ u ∈ joinComma ts, u.toNat < 0x80 := by
  induction ts with
  | nil => simp [joinComma]
  | cons t ts ih =>
    rw [List.forall_mem_cons] at h
    cases ts with
    | nil => exact h.1
    | cons t' ts =>
      rw [joinComma, List.forall_mem_append, List.forall_mem_cons]
      exact ⟨h.1, by decide, ih h.2⟩

theorem ascii_canonicalStringArray {texts : List JsString} (h : ∀ t ∈ texts, ∀ u ∈ t, u.toNat < 0x80) :
    ∀ u ∈ canonicalStringArray texts, u.toNat < 0x80 := by
  rw [canonicalStringArray, List.forall_mem_cons, List.forall_mem_append, List.forall_mem_singleton]
  refine ⟨by decide, ascii_joinComma ?_, by decide⟩
  rw [List.forall_mem_map]
  exact fun t ht => ascii_quote (h t ht)

theorem ascii_canonicalBoolean (b : Bool) : ∀ u ∈ canonicalBoolean b, u.toNat < 0x80 := by
  cases b <;> exact ascii_of_all (by decide +kernel)

theorem ascii_canonicalRecord {fields : List (String × JsString)}
    (hnames : ∀ f ∈ fields, ∀ u ∈ js f.1, u.toNat < 0x80)
    (hvalues : ∀ f ∈ fields, ∀ u ∈ f.2, u.toNat < 0x80) :
    ∀ u ∈ canonicalRecord fields, u.toNat < 0x80 := by
  rw [canonicalRecord, List.forall_mem_cons, List.forall_mem_append, List.forall_mem_singleton]
  refine ⟨by decide, ascii_joinComma ?_, by decide⟩
  rw [List.forall_mem_map]
  intro f hf
  have hname := hnames f hf
  have hvalue := hvalues f hf
  simp only [List.cons_append, List.forall_mem_cons, List.forall_mem_append]
  exact ⟨by decide, hname, by decide, by decide, hvalue⟩

section Policies

variable {U : UrlParser} {N : Normalization} {S : Hash}

theorem ascii_canonicalizeNormalizedPolicy (hU : AsciiOrigins U) (p : PolicyFields U) :
    ∀ u ∈ canonicalizeNormalizedPolicy p, u.toNat < 0x80 := by
  refine ascii_canonicalRecord ?_ ?_
  · simp only [List.forall_mem_cons, List.not_mem_nil, false_imp_iff, implies_true, and_true]
    and_intros
    all_goals exact ascii_of_all (by decide +kernel)
  · have hversion : ∀ u ∈ WALLET_GUARD_POLICY_SCHEMA_VERSION, u.toNat < 0x80 :=
      ascii_of_all (by decide +kernel)
    simp only [List.forall_mem_cons, List.not_mem_nil, false_imp_iff, implies_true, and_true]
    exact ⟨ascii_canonicalStringArray (ascii_of_origins hU _),
      ascii_canonicalStringArray (ascii_of_addresses _),
      ascii_canonicalStringArray (ascii_of_addresses _),
      ascii_canonicalStringArray (ascii_of_addresses _),
      ascii_canonicalStringArray (ascii_of_addresses _), ascii_canonicalBoolean _,
      ascii_canonicalBoolean _, ascii_canonicalBoolean _, ascii_quote (ascii_of_chainId _),
      ascii_canonicalBoolean _, ascii_quote (ascii_of_decimal _), ascii_quote (ascii_of_decimal _),
      ascii_quote (ascii_of_policyId _), ascii_canonicalStringArray (ascii_of_classes _),
      ascii_quote hversion⟩

/-- The canonical text of a policy has one byte for each unit. -/
theorem byteLength_policy (hU : AsciiOrigins U) (p : PolicyFields U) :
    byteLength (canonicalizeValue N (.object p.toEntries)) =
      (canonicalizeNormalizedPolicy p).length := by
  rw [← canonicalizeNormalizedPolicy_eq hU,
    byteLength_ascii (ascii_canonicalizeNormalizedPolicy hU p)]

/-! ## The bounds of `canonicalizePayload` -/

/-- The strings of a policy whose length its format does not bound. -/
structure ShortTexts (p : PolicyFields U) : Prop where
  chainId : p.expectedChainId.val.length ≤ MAX_STRING_LENGTH
  origins : ∀ t ∈ p.allowedOrigins.texts, t.length ≤ MAX_STRING_LENGTH
  nativeValue : p.maxNativeValue.val.length ≤ MAX_STRING_LENGTH
  tokenAmount : p.maxTokenAmount.val.length ≤ MAX_STRING_LENGTH

theorem heightItems_strings (texts : List JsString) : heightItems (texts.map .string) ≤ 1 := by
  induction texts with
  | nil => exact Nat.zero_le _
  | cons t ts ih =>
    have hflat : height (.string t) = 0 := rfl
    rw [List.map_cons, heightItems, hflat]
    exact max_le (le_refl _) ih

theorem nodeCountItems_strings (texts : List JsString) :
    nodeCountItems (texts.map .string) = texts.length := by
  induction texts with
  | nil => rfl
  | cons t ts ih =>
    have hone : nodeCount (.string t) = 1 := rfl
    rw [List.map_cons, nodeCountItems, hone, ih, List.length_cons, Nat.add_comm]

theorem clean_list {α : Type} {text : α → JsString} {l : UniqueList text} :
    Clean N l.toJs ↔ ∀ t ∈ l.texts, t.length ≤ MAX_STRING_LENGTH := by
  rw [UniqueList.toJs, Clean, cleanItems_iff, List.forall_mem_map]
  rfl

theorem height_list {α : Type} {text : α → JsString} (l : UniqueList text) : height l.toJs ≤ 1 := by
  rw [UniqueList.toJs, height]
  exact heightItems_strings _

theorem nodeCount_list {α : Type} {text : α → JsString} (l : UniqueList text) :
    nodeCount l.toJs = l.entries.length + 1 := by
  rw [UniqueList.toJs, nodeCount, nodeCountItems_strings, UniqueList.texts, List.length_map]

theorem length_address (a : Address) : a.val.length = 42 := by
  have hpattern := a.property.1
  simp only [ADDRESS_PATTERN, hasHexMark, Bool.and_eq_true, decide_eq_true_eq] at hpattern
  obtain ⟨⟨hmark, hlength⟩, -⟩ := hpattern
  have htake := congrArg List.length hmark
  rw [List.length_take, List.length_cons, List.length_singleton] at htake
  rw [List.length_drop] at hlength
  omega

theorem short_addresses (l : AddressList) : ∀ t ∈ l.texts, t.length ≤ MAX_STRING_LENGTH := by
  intro t ht
  obtain ⟨a, -, rfl⟩ := List.mem_map.mp ht
  rw [length_address]
  decide

theorem short_classes (l : UniqueList RequestClass.text) :
    ∀ t ∈ l.texts, t.length ≤ MAX_STRING_LENGTH := by
  intro t ht
  obtain ⟨c, -, rfl⟩ := List.mem_map.mp ht
  cases c <;> decide

theorem height_policy (p : PolicyFields U) : height (.object p.toEntries) ≤ MAX_DEPTH := by
  have h₁ := height_list p.allowedOrigins
  have h₂ := height_list p.allowedTargets
  have h₃ := height_list p.allowedRecipients
  have h₄ := height_list p.allowedSpenders
  have h₅ := height_list p.allowedTypedDataVerifyingContracts
  have h₆ := height_list p.requireSimulationFor
  have hmax : MAX_DEPTH = 8 := rfl
  simp only [height, PolicyFields.toEntries, heightEntries]
  omega

theorem nodeCount_policy (p : PolicyFields U) :
    nodeCount (.object p.toEntries) = normalizedPolicyNodeCount p := by
  simp only [nodeCount, PolicyFields.toEntries, nodeCountEntries, nodeCount_list,
    normalizedPolicyNodeCount]
  omega

theorem clean_policy {p : PolicyFields U} : Clean N (.object p.toEntries) ↔ ShortTexts p := by
  have hkeys : ∀ key ∈ ["schema_version", "policy_id", "enabled", "kill_switch", "expected_chain_id",
      "allowed_origins", "allowed_targets", "allowed_recipients", "allowed_spenders",
      "allowed_typed_data_verifying_contracts", "max_native_value", "max_token_amount",
      "deny_unlimited_allowance", "deny_operator_approval", "require_simulation_for"],
      SafeKey N (js key) := by
    intro key hkey
    refine safeKey_of_isPlainKey ?_
    revert key
    decide
  simp only [List.forall_mem_cons, List.not_mem_nil, false_imp_iff, implies_true, and_true] at hkeys
  have hversion : WALLET_GUARD_POLICY_SCHEMA_VERSION.length ≤ MAX_STRING_LENGTH := by decide
  have hid : p.policyId.val.length ≤ MAX_STRING_LENGTH :=
    (plain_of_policyId p.policyId).2.trans (by decide)
  simp only [Clean, PolicyFields.toEntries, CleanEntries, hkeys, hversion, hid, clean_list,
    iff_true_intro (short_addresses _), iff_true_intro (short_classes _), true_and, and_true]
  constructor
  · rintro ⟨h₁, h₂, h₃, h₄⟩
    exact ⟨h₁, h₂, h₃, h₄⟩
  · rintro ⟨h₁, h₂, h₃, h₄⟩
    exact ⟨h₁, h₂, h₃, h₄⟩

/-- What `canonicalizePayload` accepts of a policy. -/
theorem canonicalizePayload_policy_iff (hU : AsciiOrigins U) {p : PolicyFields U} :
    (∃ t, canonicalizePayload N (.object p.toEntries) = .ok t) ↔
      ShortTexts p ∧ normalizedPolicyNodeCount p ≤ POLICY_CANONICAL_MAX_NODES ∧
        (canonicalizeNormalizedPolicy p).length ≤ POLICY_CANONICAL_MAX_BYTES := by
  simp only [canonicalizePayload_eq_ok_iff, clean_policy, nodeCount_policy, byteLength_policy hU]
  constructor
  · rintro ⟨t, -, -, hshort, hnodes, hbytes, -⟩
    exact ⟨hshort, hnodes, hbytes⟩
  · rintro ⟨hshort, hnodes, hbytes⟩
    exact ⟨_, ⟨_, rfl⟩, height_policy p, hshort, hnodes, hbytes, rfl⟩

/-! ## Installation -/

/-- `{ policy }`. -/
def bootstrapOptions (policy : HostValue) : HostValue :=
  .object ⟨.record, .plain, false, [(js "policy", .data true policy)]⟩

/-- `{ expected_revision, policy }`. -/
def policyReplacement (expectedRevision : ℕ) (policy : HostValue) : HostValue :=
  .object ⟨.record, .plain, false,
    [(js "expected_revision", .data true (.number (.ofInt expectedRevision))),
      (js "policy", .data true policy)]⟩

theorem captureExactDataRecord_bootstrap (policy : HostValue) (label : JsString) :
    captureExactDataRecord (bootstrapOptions policy) BOOTSTRAP_KEYS label =
      .ok [(js "policy", policy)] := by
  rw [captureExactDataRecord, bootstrapOptions, snapshotRecord]
  rfl

theorem captureExactDataRecord_replacement (expectedRevision : ℕ) (policy : HostValue)
    (label : JsString) :
    captureExactDataRecord (policyReplacement expectedRevision policy) REPLACE_KEYS label =
      .ok [(js "expected_revision", .number (.ofInt expectedRevision)), (js "policy", policy)] := by
  rw [captureExactDataRecord, policyReplacement, snapshotRecord]
  rfl

/-- A policy has a snapshot under a revision exactly when `canonicalizePayload` accepts it. -/
theorem makeSnapshot_ok_iff {p : Policy U} {revision : ℕ}
    (hrevision : revision ≤ JsNumber.maxSafeInteger) :
    (∃ next, makeSnapshot N S p revision = .ok next) ↔
      ∃ t, canonicalizePayload N (.object p.toEntries) = .ok t := by
  constructor
  · rintro ⟨next, hnext⟩
    obtain ⟨t, ht, -⟩ := bind_eq_ok.mp (makeSnapshot_eq_ok hnext).2.2
    exact ⟨t, mapError_eq_ok.mp ht⟩
  · rintro ⟨t, ht⟩
    have hcommit : commitPolicy N S p =
        .ok (sha256Hex S (WALLET_GUARD_POLICY_COMMIT_DOMAIN ++ t)) := by
      rw [commitPolicy, ht]
      rfl
    exact makeSnapshot_ok hcommit hrevision

/-- The policy can be put under control: a controller is created with it, and every controller
    of its policy id takes it at the current revision. -/
structure Installable (U : UrlParser) (N : Normalization) (S : Hash) (policy : HostValue)
    (policyId : PolicyId) : Prop where
  creates : ∃ c, createWalletGuardReferencePolicyController U N S (bootstrapOptions policy) = .ok c
  replaces : ∀ c : Controller U, c.fixedPolicyId = policyId →
    c.current.revision < JsNumber.maxSafeInteger →
    ∃ next, replacePolicy N S c (policyReplacement c.current.revision policy) = .ok next

theorem create_eq {policy : HostValue} {p : Policy U} (hp : normalizePolicy U policy = .ok p) :
    createWalletGuardReferencePolicyController U N S (bootstrapOptions policy) =
      (makeSnapshot N S p 0).map fun current => ⟨p.policyId, current, none⟩ := by
  have hcandidate : normalizePolicyCandidate U policy = .ok p := mapError_eq_ok.mpr hp
  rw [createWalletGuardReferencePolicyController, captureExactDataRecord_bootstrap]
  show (normalizePolicyCandidate U policy >>= _) = _
  rw [hcandidate]
  show (makeSnapshot N S p 0 >>= _) = _
  cases makeSnapshot N S p 0 <;> rfl

theorem replacePolicy_eq {policy : HostValue} {p : Policy U} (hp : normalizePolicy U policy = .ok p)
    {c : Controller U} (hid : c.fixedPolicyId = p.policyId)
    (hrevision : c.current.revision < JsNumber.maxSafeInteger) :
    replacePolicy N S c (policyReplacement c.current.revision policy) =
      makeSnapshot N S p (c.current.revision + 1) := by
  have hcandidate : normalizePolicyCandidate U policy = .ok p := mapError_eq_ok.mpr hp
  have hexpected : assertRevision (.number (.ofInt c.current.revision)) (js "expected_revision") =
      .ok c.current.revision := assertRevision_ofInt.mpr ⟨hrevision.le, rfl⟩
  have hnext : nextRevision c.current.revision = .ok (c.current.revision + 1) := by
    rw [nextRevision, if_neg (not_le.mpr hrevision)]
  rw [replacePolicy, captureExactDataRecord_replacement]
  show (assertRevision (.number (.ofInt c.current.revision)) (js "expected_revision") >>= _) = _
  rw [hexpected]
  show (if c.current.revision ≠ c.current.revision then _ else
    normalizePolicyCandidate U policy >>= _) = _
  rw [if_neg (not_not.mpr rfl), hcandidate]
  show (if p.policyId ≠ c.fixedPolicyId then _ else nextRevision c.current.revision >>= _) = _
  rw [if_neg (not_not.mpr hid.symm), hnext]
  rfl

/-- Whatever `canonicalizePayload` accepts is within the bounds of the policy module, and an
    accepted policy can be installed exactly when none of its strings is longer than
    `canonicalizePayload` allows. -/
theorem policyInstall_iff (hU : AsciiOrigins U) :
    (∀ fields : PolicyFields U, (∃ t, canonicalizePayload N (.object fields.toEntries) = .ok t) →
      ∃ p, assertNormalizedPolicyBounds fields = .ok p) ∧
    ∀ (policy : HostValue) (p : Policy U), normalizePolicy U policy = .ok p →
      (Installable U N S policy p.policyId ↔ ShortTexts p.toPolicyFields) := by
  refine ⟨?_, ?_⟩
  · intro fields haccepts
    obtain ⟨-, hnodes, htext⟩ := (canonicalizePayload_policy_iff hU).mp haccepts
    rw [assertNormalizedPolicyBounds, dif_pos hnodes, dif_pos htext]
    exact ⟨_, rfl⟩
  · intro policy p hp
    have haccepts : (∃ t, canonicalizePayload N (.object p.toEntries) = .ok t) ↔
        ShortTexts p.toPolicyFields := by
      rw [canonicalizePayload_policy_iff hU]
      exact and_iff_left ⟨p.nodes_le, p.text_le⟩
    constructor
    · intro h
      obtain ⟨c, hc⟩ := h.creates
      rw [create_eq hp] at hc
      obtain ⟨current, hcurrent, -⟩ := map_eq_ok.mp hc
      exact haccepts.mp ((makeSnapshot_ok_iff (Nat.zero_le _)).mp ⟨current, hcurrent⟩)
    · intro hshort
      refine ⟨?_, ?_⟩
      · obtain ⟨current, hcurrent⟩ :=
          (makeSnapshot_ok_iff (N := N) (S := S) (Nat.zero_le _)).mpr (haccepts.mpr hshort)
        rw [create_eq hp, hcurrent]
        exact ⟨_, rfl⟩
      · intro c hid hrevision
        rw [replacePolicy_eq hp hid hrevision]
        exact (makeSnapshot_ok_iff (Nat.succ_le_of_lt hrevision)).mpr (haccepts.mpr hshort)

end Policies

/-! Two policies that differ in the greatest native value. -/

/-- A policy without lists. -/
def plainFields (maxNativeValue : Decimal) : PolicyFields exampleUrls where
  policyId := ⟨js "policy-0001", by decide⟩
  enabled := true
  killSwitch := false
  expectedChainId := .ofNat 1
  allowedOrigins := ⟨[], List.Pairwise.nil, Nat.zero_le _⟩
  allowedTargets := ⟨[], List.Pairwise.nil, Nat.zero_le _⟩
  allowedRecipients := ⟨[], List.Pairwise.nil, Nat.zero_le _⟩
  allowedSpenders := ⟨[], List.Pairwise.nil, Nat.zero_le _⟩
  allowedTypedDataVerifyingContracts := ⟨[], List.Pairwise.nil, Nat.zero_le _⟩
  maxNativeValue := maxNativeValue
  maxTokenAmount := .ofNat 0
  denyUnlimitedAllowance := true
  denyOperatorApproval := true
  requireSimulationFor := ⟨[], List.Pairwise.nil, Nat.zero_le _⟩

theorem length_quote_decimal (d : Decimal) : (Json.quote d.val).length = d.val.length + 2 := by
  have hplain : ∀ u ∈ d.val, isPlainUnit u = true := by
    obtain ⟨s, n, rfl⟩ := d
    exact fun u hu => isPlainUnit_of_isDigit (Json.decimal_isDigit n u hu)
  rw [← byteLength_ascii (ascii_quote (ascii_of_decimal d)), byteLength_quote_plain hplain]

/-- The text of a policy without lists, in terms of the digits of its greatest native value. -/
theorem length_plainFields (d : Decimal) :
    (canonicalizeNormalizedPolicy (plainFields d)).length + 1 =
      (canonicalizeNormalizedPolicy (plainFields (.ofNat 0))).length + d.val.length := by
  have hzero : (Decimal.ofNat 0).val.length = 1 := rfl
  simp only [canonicalizeNormalizedPolicy, plainFields, canonicalRecord, List.map_cons, List.map_nil,
    joinComma, List.length_cons, List.length_append, List.length_nil, length_quote_decimal, hzero]
  omega

theorem text_plainFields {d : Decimal} (h : d.val.length ≤ 2049) :
    (canonicalizeNormalizedPolicy (plainFields d)).length ≤ POLICY_CANONICAL_MAX_BYTES := by
  have hlength := length_plainFields d
  have hbase : (canonicalizeNormalizedPolicy (plainFields (.ofNat 0))).length ≤ 1000 := by
    decide +kernel
  have hmax : POLICY_CANONICAL_MAX_BYTES = 16384 := rfl
  omega

theorem length_ofNat_pow (k : ℕ) : (Decimal.ofNat (10 ^ k)).val.length = k + 1 :=
  length_decimal_pow k

theorem text_plainFields_pow {k : ℕ} (h : k ≤ 2048) :
    (canonicalizeNormalizedPolicy (plainFields (.ofNat (10 ^ k)))).length ≤
      POLICY_CANONICAL_MAX_BYTES :=
  text_plainFields ((length_ofNat_pow k).trans_le (Nat.succ_le_succ h))

/-- The greatest native value is a number of 2048 digits. -/
def shortPolicy : Policy exampleUrls where
  toPolicyFields := plainFields (.ofNat (10 ^ 2047))
  nodes_le := by decide
  text_le := text_plainFields_pow (by norm_num)

/-- The greatest native value is a number of 2049 digits. -/
def longPolicy : Policy exampleUrls where
  toPolicyFields := plainFields (.ofNat (10 ^ 2048))
  nodes_le := by decide
  text_le := text_plainFields_pow le_rfl

theorem shortTexts_plainFields {d : Decimal} :
    ShortTexts (plainFields d) ↔ d.val.length ≤ MAX_STRING_LENGTH := by
  have hone : (ChainId.ofNat 1).val.length ≤ MAX_STRING_LENGTH := by decide +kernel
  have hzero : (Decimal.ofNat 0).val.length ≤ MAX_STRING_LENGTH := by decide +kernel
  exact ⟨fun h => h.nativeValue, fun h => ⟨hone, List.forall_mem_nil _, h, hzero⟩⟩

theorem shortTexts_shortPolicy : ShortTexts shortPolicy.toPolicyFields :=
  shortTexts_plainFields.mpr (length_ofNat_pow 2047).le

theorem not_shortTexts_longPolicy : ¬ ShortTexts longPolicy.toPolicyFields := by
  intro h
  have hlength := shortTexts_plainFields.mp h
  rw [length_ofNat_pow] at hlength
  exact absurd hlength (by decide)

theorem policyInstall_short :
    Installable exampleUrls devanagari strictSha256 shortPolicy.toHost shortPolicy.policyId :=
  ((policyInstall_iff asciiOrigins_exampleUrls).2 shortPolicy.toHost shortPolicy
    (normalizePolicy_toHost shortPolicy)).mpr shortTexts_shortPolicy

/-- A policy that `normalizePolicy` accepts and with which no controller is created. -/
theorem policyInstall_long : ∃ p : Policy exampleUrls,
    normalizePolicy exampleUrls longPolicy.toHost = .ok p ∧
      ∀ c, createWalletGuardReferencePolicyController exampleUrls devanagari strictSha256
        (bootstrapOptions longPolicy.toHost) ≠ .ok c := by
  refine ⟨longPolicy, normalizePolicy_toHost longPolicy, fun c hc => ?_⟩
  rw [create_eq (normalizePolicy_toHost longPolicy)] at hc
  obtain ⟨current, hcurrent, -⟩ := map_eq_ok.mp hc
  have haccepts := (makeSnapshot_ok_iff (Nat.zero_le _)).mp ⟨current, hcurrent⟩
  exact not_shortTexts_longPolicy ((canonicalizePayload_policy_iff asciiOrigins_exampleUrls).mp
    haccepts).1

end OpenRisk.Guard
