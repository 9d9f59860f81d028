import OpenRisk.Guard.Allowance

/-!
# Stricter policies

A decision is the least of three, `DENY < INDETERMINATE < ALLOW`. A policy that is at least as
strict as another one never has the greater decision, whatever the intent and the simulation
evidence are.

Results:
* `decision_allow_iff`: the conditions under which a policy allows an intent.
* `decision_decideOn_le`: the decision under a stricter policy.
* `evaluateWalletGuardPolicy_monotone`: both for `evaluateWalletGuardPolicy`.
-/

namespace OpenRisk.Guard

open Text Sdk

/-! ## Decisions -/

/-- The place of a decision in `DENY < INDETERMINATE < ALLOW`. -/
def Decision.rank : Decision → ℕ
  | .deny => 0
  | .indeterminate => 1
  | .allow => 2

/-- `a ≤ b`: `a` is not more permissive than `b`. -/
instance instLEDecision : LE Decision := ⟨fun a b => a.rank ≤ b.rank⟩

theorem Decision.le_def {a b : Decision} : a ≤ b ↔ a.rank ≤ b.rank := Iff.rfl

/-- The decision from the reasons found: any reason to deny, any reason to leave it open. -/
def decisionOf (denied undecided : Prop) [Decidable denied] [Decidable undecided] : Decision :=
  if denied then .deny else if undecided then .indeterminate else .allow

/-- More reasons never give a more permissive decision. -/
theorem decisionOf_le {denied undecided denied' undecided' : Prop} [Decidable denied]
    [Decidable undecided] [Decidable denied'] [Decidable undecided'] (hdenied : denied → denied')
    (hundecided : undecided → denied' ∨ undecided') :
    decisionOf denied' undecided' ≤ decisionOf denied undecided := by
  unfold decisionOf
  rw [Decision.le_def]
  by_cases h' : denied'
  · rw [if_pos h']
    exact Nat.zero_le _
  · have h : ¬ denied := fun h => h' (hdenied h)
    rw [if_neg h', if_neg h]
    by_cases hu' : undecided'
    · rw [if_pos hu']
      split_ifs <;> decide
    · have hu : ¬ undecided := fun hu => (hundecided hu).elim h' hu'
      rw [if_neg hu', if_neg hu]

section Policies

variable {U : UrlParser} {p q : PolicyFields U} {intent : Intent} {status : SimulationStatus}

theorem decideOn_decision {S : Hash} : (decideOn p intent S status).decision =
    decisionOf (denyReasons p intent status ≠ []) (indeterminateReasons p intent status ≠ []) := by
  unfold decideOn decisionOf
  split_ifs <;> rfl

/-! ## The conditions of each request class -/

/-- The value is in the list. -/
def Listed (list : AddressList) (value : Option Address) : Prop := ∃ a, value = some a ∧ a ∈ list.entries

/-- The amount is known and within the limit. -/
def Within (value : Option Decimal) (limit : Decimal) : Prop :=
  ∃ d, value = some d ∧ decimalNumber d.val ≤ decimalNumber limit.val

theorem includes_address {list : AddressList} {value : Option Address} :
    includes list.texts (value.map (·.val)) = true ↔ Listed list value := by
  cases value with
  | none => simp [includes, Listed]
  | some a =>
    rw [Option.map_some, includes, List.contains_iff_mem, UniqueList.texts,
      List.mem_map_of_injective Subtype.val_injective, Listed]
    simp

theorem greaterThan_eq_false {value : Option Decimal} {limit : Decimal} :
    greaterThan value limit = false ↔ Within value limit := by
  cases value with
  | none => simp [greaterThan, Within]
  | some d => simp [greaterThan, Within]

/-- An allowance that the policy admits. -/
structure AllowanceAllowed (p : PolicyFields U) (intent : Intent) : Prop where
  limited : p.denyUnlimitedAllowance = true → intent.requestedAllowance ≠ some MAX_UINT256_DECIMAL
  within : Within intent.requestedAllowance p.maxTokenAmount

/-- A permit that the policy admits. -/
structure PermitAllowed (p : PolicyFields U) (intent : Intent) : Prop where
  target : Listed p.allowedTargets intent.target
  spender : Listed p.allowedSpenders intent.spender
  chain : intent.typedDataDomainChainId = some intent.chainId
  verifyingContract : Listed p.allowedTypedDataVerifyingContracts intent.typedDataVerifyingContract
  owner : intent.requestClass = .permitEip2612 → intent.typedDataOwner = some intent.account
  allowance : AllowanceAllowed p intent

/-- The conditions on an intent of each class, without those on all intents. -/
def ClassAllowed (p : PolicyFields U) (intent : Intent) : Prop :=
  match intent.requestClass with
  | .nativeTransfer => Listed p.allowedRecipients intent.recipient
  | .erc20Transfer =>
    Listed p.allowedTargets intent.target ∧ Listed p.allowedRecipients intent.recipient ∧
      Within intent.tokenAmount p.maxTokenAmount
  | .erc20Approve =>
    Listed p.allowedTargets intent.target ∧ Listed p.allowedSpenders intent.spender ∧
      AllowanceAllowed p intent
  | .setApprovalForAll =>
    Listed p.allowedTargets intent.target ∧ Listed p.allowedSpenders intent.spender ∧
      (p.denyOperatorApproval = true → intent.requestedOperatorApproval ≠ some true)
  | .permitEip2612 => PermitAllowed p intent
  | .permit2Single => PermitAllowed p intent
  | _ => True

theorem allowanceReasons_eq_nil : allowanceReasons p intent = [] ↔ AllowanceAllowed p intent := by
  rw [allowanceReasons, List.append_eq_nil_iff, reasonIf_eq_nil, reasonIf_eq_nil,
    greaterThan_eq_false, Bool.and_eq_false_imp, decide_eq_false_iff_not]
  exact ⟨fun h => ⟨h.1, h.2⟩, fun h => ⟨h.limited, h.within⟩⟩

theorem targetReasons_eq_nil : targetReasons p intent = [] ↔ Listed p.allowedTargets intent.target := by
  rw [targetReasons, reasonIf_eq_nil, Bool.not_eq_false', includes_address]

theorem recipientReasons_eq_nil :
    recipientReasons p intent = [] ↔ Listed p.allowedRecipients intent.recipient := by
  rw [recipientReasons, reasonIf_eq_nil, Bool.not_eq_false', includes_address]

theorem permitReasons_eq_nil : permitReasons p intent = [] ↔ PermitAllowed p intent := by
  simp only [permitReasons, List.append_eq_nil_iff, targetReasons_eq_nil, allowanceReasons_eq_nil,
    reasonIf_eq_nil, Bool.not_eq_false', includes_address, decide_eq_false_iff_not, not_not, ne_eq,
    Bool.and_eq_false_imp, decide_eq_true_eq]
  constructor
  · rintro ⟨⟨⟨⟨⟨h₁, h₂⟩, h₃⟩, h₄⟩, h₅⟩, h₆⟩
    exact ⟨h₁, h₂, h₃, h₄, h₅, h₆⟩
  · rintro ⟨h₁, h₂, h₃, h₄, h₅, h₆⟩
    exact ⟨⟨⟨⟨⟨h₁, h₂⟩, h₃⟩, h₄⟩, h₅⟩, h₆⟩

theorem classReasons_eq_nil : classReasons p intent = [] ↔ ClassAllowed p intent := by
  unfold classReasons ClassAllowed
  cases intent.requestClass with
  | nativeTransfer => exact recipientReasons_eq_nil
  | erc20Transfer =>
    dsimp only
    rw [List.append_eq_nil_iff, List.append_eq_nil_iff, targetReasons_eq_nil,
      recipientReasons_eq_nil, reasonIf_eq_nil, greaterThan_eq_false, and_assoc]
  | erc20Approve =>
    dsimp only
    rw [List.append_eq_nil_iff, List.append_eq_nil_iff, targetReasons_eq_nil,
      allowanceReasons_eq_nil, reasonIf_eq_nil, Bool.not_eq_false', includes_address, and_assoc]
  | setApprovalForAll =>
    dsimp only
    rw [List.append_eq_nil_iff, List.append_eq_nil_iff, targetReasons_eq_nil, reasonIf_eq_nil,
      reasonIf_eq_nil, Bool.not_eq_false', includes_address, and_assoc, Bool.and_eq_false_imp,
      decide_eq_false_iff_not]
  | permitEip2612 => exact permitReasons_eq_nil
  | permit2Single => exact permitReasons_eq_nil
  | permit2BatchUnknown | unknownCalldata | unknownTypedData | genericSignature | unsupportedRpc =>
    exact iff_of_true rfl trivial

/-! ## Simulation -/

theorem simulationRequired_iff : simulationRequired p intent = true ↔
    intent.simulationRequired = true ∨ intent.requestClass ∈ p.requireSimulationFor.entries := by
  rw [simulationRequired, Bool.or_eq_true, includes, List.contains_iff_mem, UniqueList.texts,
    List.mem_map_of_injective RequestClass.text_injective]

/-- What a policy asks of an intent that it allows. -/
structure AllowConditions (p : PolicyFields U) (intent : Intent) (status : SimulationStatus) : Prop where
  general : GenerallyAllowed p intent
  specific : ClassAllowed p intent
  known : intent.requestClass ∉ CRITICAL_UNKNOWN_CLASSES
  simulated : simulationRequired p intent = true → status = .pass

theorem denyReasons_eq_nil : denyReasons p intent status = [] ↔
    GenerallyAllowed p intent ∧ ClassAllowed p intent ∧
      (simulationRequired p intent = true → status ≠ .fail ∧ status ≠ .mismatch) := by
  rw [denyReasons, List.append_eq_nil_iff, List.append_eq_nil_iff, generalReasons_eq_nil,
    classReasons_eq_nil, reasonIf_eq_nil, Bool.and_eq_false_imp, Bool.or_eq_false_iff,
    decide_eq_false_iff_not, decide_eq_false_iff_not, and_assoc]

theorem indeterminateReasons_eq_nil : indeterminateReasons p intent status = [] ↔
    intent.requestClass ∉ CRITICAL_UNKNOWN_CLASSES ∧
      (simulationRequired p intent = true →
        status = .fail ∨ status = .mismatch ∨ status = .pass) := by
  rw [indeterminateReasons, List.append_eq_nil_iff, reasonIf_eq_nil, reasonIf_eq_nil,
    Bool.and_eq_false_imp, Bool.not_eq_false', Bool.or_eq_true, Bool.or_eq_true, decide_eq_true_eq,
    decide_eq_true_eq, decide_eq_true_eq, or_assoc, ← Bool.not_eq_true, List.contains_iff_mem]

/-- The conditions under which a policy allows an intent. -/
theorem decision_allow_iff {S : Hash} :
    (decideOn p intent S status).decision = .allow ↔ AllowConditions p intent status := by
  rw [decision_decideOn, denyReasons_eq_nil, indeterminateReasons_eq_nil]
  constructor
  · rintro ⟨⟨hgeneral, hspecific, hdeny⟩, hknown, hopen⟩
    refine ⟨hgeneral, hspecific, hknown, fun hrequired => ?_⟩
    rcases hopen hrequired with h | h | h
    · exact absurd h (hdeny hrequired).1
    · exact absurd h (hdeny hrequired).2
    · exact h
  · rintro ⟨hgeneral, hspecific, hknown, hsimulated⟩
    refine ⟨⟨hgeneral, hspecific, fun hrequired => ?_⟩, hknown, fun hrequired => ?_⟩
    · rw [hsimulated hrequired]
      decide
    · exact .inr (.inr (hsimulated hrequired))

/-! ## Stricter policies -/

/-- `q` is at least as strict as `p`, for the same chain. -/
structure AtLeastAsStrict (q p : PolicyFields U) : Prop where
  enabled : q.enabled = true → p.enabled = true
  killSwitch : p.killSwitch = true → q.killSwitch = true
  chain : q.expectedChainId = p.expectedChainId
  origins : q.allowedOrigins.entries ⊆ p.allowedOrigins.entries
  targets : q.allowedTargets.entries ⊆ p.allowedTargets.entries
  recipients : q.allowedRecipients.entries ⊆ p.allowedRecipients.entries
  spenders : q.allowedSpenders.entries ⊆ p.allowedSpenders.entries
  verifyingContracts : q.allowedTypedDataVerifyingContracts.entries ⊆
    p.allowedTypedDataVerifyingContracts.entries
  nativeValue : decimalNumber q.maxNativeValue.val ≤ decimalNumber p.maxNativeValue.val
  tokenAmount : decimalNumber q.maxTokenAmount.val ≤ decimalNumber p.maxTokenAmount.val
  unlimitedAllowance : p.denyUnlimitedAllowance = true → q.denyUnlimitedAllowance = true
  operatorApproval : p.denyOperatorApproval = true → q.denyOperatorApproval = true
  simulation : p.requireSimulationFor.entries ⊆ q.requireSimulationFor.entries

theorem Listed.mono {l l' : AddressList} {value : Option Address} (h : l.entries ⊆ l'.entries)
    (hl : Listed l value) : Listed l' value := by
  obtain ⟨a, ha, hmem⟩ := hl
  exact ⟨a, ha, h hmem⟩

theorem Within.mono {value : Option Decimal} {limit limit' : Decimal}
    (h : decimalNumber limit.val ≤ decimalNumber limit'.val) (hv : Within value limit) :
    Within value limit' := by
  obtain ⟨d, hd, hle⟩ := hv
  exact ⟨d, hd, hle.trans h⟩

instance instDecidableAtLeastAsStrict : Decidable (AtLeastAsStrict q p) :=
  decidable_of_iff ((q.enabled = true → p.enabled = true) ∧
      (p.killSwitch = true → q.killSwitch = true) ∧ q.expectedChainId = p.expectedChainId ∧
      q.allowedOrigins.entries ⊆ p.allowedOrigins.entries ∧
      q.allowedTargets.entries ⊆ p.allowedTargets.entries ∧
      q.allowedRecipients.entries ⊆ p.allowedRecipients.entries ∧
      q.allowedSpenders.entries ⊆ p.allowedSpenders.entries ∧
      q.allowedTypedDataVerifyingContracts.entries ⊆
        p.allowedTypedDataVerifyingContracts.entries ∧
      decimalNumber q.maxNativeValue.val ≤ decimalNumber p.maxNativeValue.val ∧
      decimalNumber q.maxTokenAmount.val ≤ decimalNumber p.maxTokenAmount.val ∧
      (p.denyUnlimitedAllowance = true → q.denyUnlimitedAllowance = true) ∧
      (p.denyOperatorApproval = true → q.denyOperatorApproval = true) ∧
      p.requireSimulationFor.entries ⊆ q.requireSimulationFor.entries)
    ⟨fun ⟨h₁, h₂, h₃, h₄, h₅, h₆, h₇, h₈, h₉, h₁₀, h₁₁, h₁₂, h₁₃⟩ =>
      ⟨h₁, h₂, h₃, h₄, h₅, h₆, h₇, h₈, h₉, h₁₀, h₁₁, h₁₂, h₁₃⟩,
    fun ⟨h₁, h₂, h₃, h₄, h₅, h₆, h₇, h₈, h₉, h₁₀, h₁₁, h₁₂, h₁₃⟩ =>
      ⟨h₁, h₂, h₃, h₄, h₅, h₆, h₇, h₈, h₉, h₁₀, h₁₁, h₁₂, h₁₃⟩⟩

namespace AtLeastAsStrict

theorem generallyAllowed (h : AtLeastAsStrict q p) (hq : GenerallyAllowed q intent) :
    GenerallyAllowed p intent where
  enabled := h.enabled hq.enabled
  killSwitch := by
    have hswitch := h.killSwitch
    rw [hq.killSwitch] at hswitch
    simpa using hswitch
  origin := List.map_subset _ h.origins hq.origin
  chain := hq.chain.trans h.chain
  nativeValue := hq.nativeValue.trans h.nativeValue

theorem allowanceAllowed (h : AtLeastAsStrict q p) (hq : AllowanceAllowed q intent) :
    AllowanceAllowed p intent where
  limited := fun hflag => hq.limited (h.unlimitedAllowance hflag)
  within := hq.within.mono h.tokenAmount

theorem permitAllowed (h : AtLeastAsStrict q p) (hq : PermitAllowed q intent) :
    PermitAllowed p intent where
  target := hq.target.mono h.targets
  spender := hq.spender.mono h.spenders
  chain := hq.chain
  verifyingContract := hq.verifyingContract.mono h.verifyingContracts
  owner := hq.owner
  allowance := h.allowanceAllowed hq.allowance

theorem classAllowed (h : AtLeastAsStrict q p) (hq : ClassAllowed q intent) : ClassAllowed p intent := by
  unfold ClassAllowed at hq ⊢
  cases hclass : intent.requestClass with
  | nativeTransfer =>
    rw [hclass] at hq
    exact Listed.mono h.recipients hq
  | erc20Transfer =>
    rw [hclass] at hq
    obtain ⟨htarget, hrecipient, hamount⟩ := hq
    exact ⟨htarget.mono h.targets, hrecipient.mono h.recipients, hamount.mono h.tokenAmount⟩
  | erc20Approve =>
    rw [hclass] at hq
    obtain ⟨htarget, hspender, hallowance⟩ := hq
    exact ⟨htarget.mono h.targets, hspender.mono h.spenders, h.allowanceAllowed hallowance⟩
  | setApprovalForAll =>
    rw [hclass] at hq
    obtain ⟨htarget, hspender, happroval⟩ := hq
    exact ⟨htarget.mono h.targets, hspender.mono h.spenders, fun hflag =>
      happroval (h.operatorApproval hflag)⟩
  | permitEip2612 =>
    rw [hclass] at hq
    exact h.permitAllowed hq
  | permit2Single =>
    rw [hclass] at hq
    exact h.permitAllowed hq
  | permit2BatchUnknown | unknownCalldata | unknownTypedData | genericSignature | unsupportedRpc =>
    trivial

theorem simulationRequired (h : AtLeastAsStrict q p) (hp : simulationRequired p intent = true) :
    OpenRisk.Guard.simulationRequired q intent = true := by
  rw [simulationRequired_iff] at hp ⊢
  exact hp.imp_right fun hmem => h.simulation hmem

end AtLeastAsStrict

/-- A stricter policy never has the more permissive decision. -/
theorem decision_decideOn_le {S : Hash} (h : AtLeastAsStrict q p) :
    (decideOn q intent S status).decision ≤ (decideOn p intent S status).decision := by
  rw [decideOn_decision, decideOn_decision]
  refine decisionOf_le (mt ?_) fun hopen => ?_
  · rw [denyReasons_eq_nil, denyReasons_eq_nil]
    rintro ⟨hgeneral, hspecific, hsimulated⟩
    exact ⟨h.generallyAllowed hgeneral, h.classAllowed hspecific, fun hrequired =>
      hsimulated (h.simulationRequired hrequired)⟩
  · by_contra hnone
    rw [not_or, not_not, not_not, indeterminateReasons_eq_nil] at hnone
    refine hopen (indeterminateReasons_eq_nil.mpr ⟨hnone.2.1, fun hrequired => ?_⟩)
    exact hnone.2.2 (h.simulationRequired hrequired)

end Policies

/-- Whatever a policy allows meets every condition of the policy on the class of the request,
    and tightening the policy never makes the decision more permissive. -/
theorem evaluateWalletGuardPolicy_monotone {U : UrlParser} {N : Normalization} {S : Hash}
    {requestId trustedOrigin trustedChainId trustedAccount : Option JsValue} {request : JsValue}
    {intent : Intent} {policy simulation : HostValue} {p : Policy U} {status : SimulationStatus}
    (hintent : normalizeWalletGuardIntent U N S requestId trustedOrigin trustedChainId
      trustedAccount request = .ok intent)
    (hp : normalizePolicy U policy = .ok p) (hstatus : normalizeSimulation simulation = .ok status) :
    ∃ rp, evaluateWalletGuardPolicy U S intent true policy simulation = .ok rp ∧
      (rp.decision = .allow → AllowConditions p.toPolicyFields intent status) ∧
      ∀ (stricter : HostValue) (q : Policy U), normalizePolicy U stricter = .ok q →
        AtLeastAsStrict q.toPolicyFields p.toPolicyFields →
        ∃ rq, evaluateWalletGuardPolicy U S intent true stricter simulation = .ok rq ∧
          rq.decision ≤ rp.decision := by
  obtain ⟨-, -, -, hvalid⟩ := normalizeWalletGuardIntent_action hintent
  have hevaluate : ∀ (value : HostValue) (r : Policy U), normalizePolicy U value = .ok r →
      evaluateWalletGuardPolicy U S intent true value simulation =
        .ok (decideOn r.toPolicyFields intent S status) := by
    intro value r hr
    rw [evaluateWalletGuardPolicy, validateIntent, hvalid, hr, hstatus]
    rfl
  refine ⟨_, hevaluate policy p hp, decision_allow_iff.mp, fun stricter q hq hstrict => ?_⟩
  exact ⟨_, hevaluate stricter q hq, decision_decideOn_le hstrict⟩

/-- The sample policy with the kill switch on. -/
def stoppedPolicy : JsValue :=
  match grantPolicy with
  | .object es => .object (es.map fun e => if e.1 = js "kill_switch" then (e.1, .bool true) else e)
  | v => v

theorem stoppedPolicy_stricter : ((normalizePolicy grantUrls (.ofData grantPolicy)).toOption.bind
    fun p => (normalizePolicy grantUrls (.ofData stoppedPolicy)).toOption.map fun q =>
      decide (AtLeastAsStrict q.toPolicyFields p.toPolicyFields)) = some true := by
  decide +kernel

theorem evaluateWalletGuardPolicy_monotone_stopped :
    ∃ intent p q rp rq, grantIntent approveRequest = .ok intent ∧
      normalizePolicy grantUrls (.ofData grantPolicy) = .ok p ∧
      normalizePolicy grantUrls (.ofData stoppedPolicy) = .ok q ∧
      evaluateWalletGuardPolicy grantUrls sha256 intent true (.ofData grantPolicy)
        (.ofData simulationPassed) = .ok rp ∧
      evaluateWalletGuardPolicy grantUrls sha256 intent true (.ofData stoppedPolicy)
        (.ofData simulationPassed) = .ok rq ∧ rq.decision ≤ rp.decision := by
  obtain ⟨-, hsummary⟩ := List.cons_eq_cons.mp grant_summary.2.1
  obtain ⟨intent, hintent, -⟩ := Option.map_eq_some_iff.mp (List.cons_eq_cons.mp hsummary).1
  obtain ⟨p, hp, hstricter⟩ := Option.bind_eq_some_iff.mp stoppedPolicy_stricter
  obtain ⟨q, hq, hstrict⟩ := Option.map_eq_some_iff.mp hstricter
  have hstatus : normalizeSimulation (.ofData simulationPassed) = .ok .pass := by decide +kernel
  obtain ⟨rp, hrp, -, htighten⟩ := evaluateWalletGuardPolicy_monotone (toOption_eq_some.mp hintent)
    (toOption_eq_some.mp hp) hstatus
  obtain ⟨rq, hrq, hle⟩ := htighten _ q (toOption_eq_some.mp hq) (of_decide_eq_true hstrict)
  exact ⟨intent, p, q, rp, rq, toOption_eq_some.mp hintent, toOption_eq_some.mp hp,
    toOption_eq_some.mp hq, hrp, hrq, hle⟩

end OpenRisk.Guard
