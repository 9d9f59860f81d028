import OpenRisk.Core.GateSteps
import OpenRisk.Crypto.Sha256Eval
import OpenRisk.Guard.Gateway

/-!
# What the gateway forwards

The invariant of the gateway machine follows one request through its four context
samples. The Gate compares commitments, so that the context at the request and the
context at the observation are equal or show a SHA-256 collision; the later contexts are
compared field by field.

`Update` says what a step may change (one request, its own call of the Gate and the end
of the trace), and `Invariant.update` is the frame argument for all other requests.

Results:
* `gatewayRun_invariant`: the invariant holds after every run.
* `gatewayRun_gate`: what the Gate goes through in a run of the gateway is a run of the Gate.
* `gateway_forwards_safely`: what is forwarded is an allowed transfer under one context.
-/

namespace OpenRisk.Guard

open Text Sdk
open OpenRisk.Core

/-! ## What the checks establish -/

section Checks

variable {U : UrlParser} {N : Normalization} {S : Hash} {p : Policy U}

theorem normalizeTrustedOrigin_eq_ok {s o : JsString}
    (h : normalizeTrustedOrigin U (some (.string s)) = .ok o) : o = s := by
  simp only [normalizeTrustedOrigin] at h
  split_ifs at h
  · cases h
  · exact (checkOrigin_eq_ok.mp h).1

/-- An intent keeps the context it was normalized under. -/
theorem normalizeUnder_context {requestId : Option JsValue} {c : TrustedContext} {request : JsValue}
    {intent : Intent} (h : normalizeUnder U N S requestId c request = .ok intent) :
    intent.origin = c.origin ∧ intent.chainId = c.chainId ∧ intent.account = c.account := by
  obtain ⟨horigin, hchain, haccount⟩ := normalizeWalletGuardIntent_context (mapError_eq_ok.mp h)
  rw [normalizeChainId_val] at hchain
  rw [normalizeEvmAddress_val] at haccount
  exact ⟨normalizeTrustedOrigin_eq_ok horigin, (Except.ok.inj hchain).symm,
    (Except.ok.inj haccount).symm⟩

theorem evaluateNotRun_eq_ok {intent : Intent} {r : PolicyResult}
    (h : evaluateNotRun U S p intent = .ok r) : r = decideOn p.toPolicyFields intent S .notRun :=
  (evaluateWalletGuardPolicy_toHost.mp (mapError_eq_ok.mp h)).2

theorem policyHash_decideOn (f : PolicyFields U) (intent : Intent) (status : SimulationStatus) :
    (decideOn f intent S status).policyHash = policyHash f S := by
  unfold decideOn
  split_ifs <;> rfl

/-- The policy allows the request under the context, without simulation. -/
def Allowed (U : UrlParser) (N : Normalization) (S : Hash) (p : Policy U) (c : TrustedContext)
    (request : JsValue) (intent : Intent) : Prop :=
  (∃ requestId, normalizeUnder U N S requestId c request = .ok intent) ∧
    (decideOn p.toPolicyFields intent S .notRun).decision = .allow

theorem evaluateRequest_eq_ok {requestId : JsString} {request : JsValue} {c : TrustedContext}
    {e : Evaluation} (h : evaluateRequest U N S p requestId request c = .ok e) :
    e.context = c ∧ e.policyResult.policyHash = policyHash p.toPolicyFields S := by
  unfold evaluateRequest at h
  obtain ⟨intent, -, h⟩ := bind_eq_ok.mp h
  obtain ⟨r, hr, h⟩ := bind_eq_ok.mp h
  obtain ⟨commitment, -, h⟩ := bind_eq_ok.mp h
  cases h
  exact ⟨rfl, by rw [evaluateNotRun_eq_ok hr, policyHash_decideOn]⟩

/-- The observer answers with commitments to the context it sampled. -/
theorem observeBinding_eq_ok {attempt : Attempt} {c : TrustedContext} {v : JsValue}
    (h : observeBinding U N S p attempt c = .ok v) :
    ∃ action request, v = observedRecord S c action (policyHash p.toPolicyFields S)
      (preparedExecution attempt.requestId c action (policyHash p.toPolicyFields S) request) := by
  unfold observeBinding at h
  obtain ⟨request, -, h⟩ := bind_eq_ok.mp h
  obtain ⟨intent, -, h⟩ := bind_eq_ok.mp h
  obtain ⟨r, hr, h⟩ := bind_eq_ok.mp h
  split_ifs at h
  obtain ⟨commitment, -, h⟩ := bind_eq_ok.mp h
  cases h
  rw [evaluateNotRun_eq_ok hr, policyHash_decideOn]
  exact ⟨commitment, request, rfl⟩

theorem observedString_eq_ok {value : Option HostValue} {pattern : JsString → Bool} {message : String}
    {x : { s : JsString // pattern s = true }} (h : observedString value pattern message = .ok x) :
    value = some (.string x.val) := by
  unfold observedString at h
  split at h
  · split_ifs at h
    cases h
    rfl
  · cases h

/-- What the Gate reads from the record of the observer. -/
theorem validateObservedBinding_observedRecord {c : TrustedContext} {action hash : HashText}
    {prepared : JsValue} {o : Observed}
    (h : validateObservedBinding (.ofData (observedRecord S c action hash prepared)) = .ok o) :
    o.contextCommitment = commitContext S c hash ∧ o.preparedExecution = prepared := by
  have hsnapshot : snapshotObservedRecord (.ofData (observedRecord S c action hash prepared)) =
      .ok [(js "binding_profile", .string WALLET_GUARD_BINDING_PROFILE),
        (js "action_commitment", .string action.val),
        (js "context_commitment", .string (commitContext S c hash).val),
        (js "prepared_execution", .ofData prepared)] := by
    rw [snapshotObservedRecord]
    exact snapshotRecord_ofData _ rfl (by decide +kernel) (by decide +kernel)
  unfold validateObservedBinding at h
  rw [hsnapshot] at h
  obtain ⟨snapshot, hs, h⟩ := bind_eq_ok.mp h
  cases hs
  obtain ⟨profile, -, h⟩ := bind_eq_ok.mp h
  obtain ⟨a, -, h⟩ := bind_eq_ok.mp h
  obtain ⟨commitment, hcommitment, h⟩ := bind_eq_ok.mp h
  split at h
  · rename_i captured hcaptured
    cases h
    refine ⟨?_, captureReferencePlainData_ofData hcaptured⟩
    have := observedString_eq_ok hcommitment
    exact Subtype.ext (HostValue.string.inj (Option.some.inj this)).symm
  · cases h

/-- The prepared execution names the context. -/
structure PreparedFor (prepared : Prepared) (c : TrustedContext) : Prop where
  origin : prepared.origin = some (.string c.origin)
  chainId : prepared.chainId = some (.string c.chainId.val)
  account : prepared.account = some (.string c.account.val)

theorem validatePreparedExecution_preparedExecution {requestId : JsString} {c : TrustedContext}
    {action hash : HashText} {request : JsValue} {prepared : Prepared}
    (h : validatePreparedExecution (preparedExecution requestId c action hash request) =
      .ok prepared) : PreparedFor prepared c := by
  unfold validatePreparedExecution at h
  split_ifs at h
  · dsimp only at h
    obtain ⟨i, -, h⟩ := bind_eq_ok.mp h
    obtain ⟨j, -, h⟩ := bind_eq_ok.mp h
    cases h
    exact ⟨rfl, rfl, rfl⟩

theorem isString_eq_true {value : Option JsValue} {s : JsString} (h : isString value s = true) :
    value = some (.string s) := by
  unfold isString at h
  split at h
  · rw [of_decide_eq_true h]
  · cases h

/-- Two contexts that match a prepared execution are the same. -/
theorem PreparedFor.eq_of_matches {prepared : Prepared} {c c' : TrustedContext}
    (hp : PreparedFor prepared c) (h : exactContextMatches prepared c' = true) : c' = c := by
  simp only [exactContextMatches, Bool.and_eq_true] at h
  obtain ⟨⟨horigin, hchain⟩, haccount⟩ := h
  have h₁ := (isString_eq_true horigin).symm.trans hp.origin
  have h₂ := (isString_eq_true hchain).symm.trans hp.chainId
  have h₃ := (isString_eq_true haccount).symm.trans hp.account
  simp only [Option.some.injEq, JsValue.string.injEq] at h₁ h₂ h₃
  obtain ⟨o, ch, a⟩ := c
  obtain ⟨o', ch', a'⟩ := c'
  rw [TrustedContext.mk.injEq]
  exact ⟨h₁, Subtype.ext h₂, Subtype.ext h₃⟩

theorem checkPrepared_eq_ok {prepared : Prepared} {c : TrustedContext} {request : JsValue}
    (h : checkPrepared U N S p prepared c = .ok request) :
    exactContextMatches prepared c = true ∧ ∃ intent, Allowed U N S p c request intent := by
  unfold checkPrepared at h
  split_ifs at h with hmatch
  · obtain ⟨cloned, -, h⟩ := bind_eq_ok.mp h
    obtain ⟨intent, hintent, h⟩ := bind_eq_ok.mp h
    obtain ⟨commitment, -, h⟩ := bind_eq_ok.mp h
    split_ifs at h
    obtain ⟨r, hr, h⟩ := bind_eq_ok.mp h
    split_ifs at h with hdecision
    cases h
    rw [evaluateNotRun_eq_ok hr] at hdecision
    exact ⟨hmatch, intent, ⟨_, hintent⟩, not_not.mp fun hne => hdecision (.inl hne)⟩

end Checks

/-! ## The samples of a request -/

/-- The request that an event is about. -/
def GatewayEvent.about : GatewayEvent → ℕ
  | .sampled k _ => k
  | .asked k _ => k
  | .reserved k _ => k
  | .forwarded k _ => k

/-- The samples of the trusted context that were taken for a request, in order. -/
def contextSamples (k : ℕ) (trace : List GatewayEvent) : List Sample :=
  trace.filterMap fun
    | .sampled j sample => if j = k then some sample else none
    | _ => none

theorem contextSamples_append {k : ℕ} {trace events : List GatewayEvent} :
    contextSamples k (trace ++ events) = contextSamples k trace ++ contextSamples k events :=
  List.filterMap_append

theorem contextSamples_sampled (k : ℕ) (new : List Sample) :
    contextSamples k (new.map (GatewayEvent.sampled k)) = new := by
  rw [contextSamples, List.filterMap_map]
  simp

/-- Events about other requests hold no sample of a request. -/
theorem contextSamples_eq_nil {k : ℕ} {events : List GatewayEvent} (h : ∀ e ∈ events, e.about ≠ k) :
    contextSamples k events = [] := by
  rw [contextSamples, List.filterMap_eq_nil_iff]
  intro e he
  cases e with
  | sampled j sample => exact if_neg (h _ he)
  | asked j summary => rfl
  | reserved j identities => rfl
  | forwarded j value => rfl

/-! ## The invariant -/

section Invariant

variable {U : UrlParser} (N : Normalization) (S : Hash) {P : DateParser} (p : Policy U)

/-- Two contexts are the same, or their commitments show a SHA-256 collision. -/
def SameContext (c c' : TrustedContext) : Prop :=
  c = c' ∨ S.Collides (utf8Encode (contextText c (policyHash p.toPolicyFields S)))
    (utf8Encode (contextText c' (policyHash p.toPolicyFields S)))

/-- The authorization of a request is bound to the context it was evaluated under. -/
def BoundTo (e : Evaluation) (binding : ExactBinding P) : Prop :=
  binding.contextCommitment = commitContext S e.context (policyHash p.toPolicyFields S)

/-- The observer answers for the context. -/
def AnswersFor (c : TrustedContext) (prepared : JsValue) : Prop :=
  ∃ requestId action request, prepared =
    preparedExecution requestId c action (policyHash p.toPolicyFields S) request

/-- Where a context sample stands: `before` are the samples of the earlier readings. -/
def SiteOk (gate : GateState P Attempt) (before : List Sample) : Site → Prop
  | .atRequest => before = []
  | .atObservation e call => before = e.context.samples ∧
      ∃ binding, gate.phaseAt call = some (.observing binding) ∧ BoundTo S p e binding
  | .beforeCheck e _ prepared => ∃ c, SameContext S p e.context c ∧ PreparedFor prepared c ∧
      before = e.context.samples ++ c.samples
  | .beforeForward e _ prepared request => ∃ c, SameContext S p e.context c ∧ PreparedFor prepared c ∧
      (∃ intent, Allowed U N S p c request intent) ∧
      before = e.context.samples ++ c.samples ++ c.samples

/-- What holds of a request in a phase, of which `taken` are the samples so far. -/
def PhaseOk (gate : GateState P Attempt) (taken : List Sample) : RequestPhase P → Prop
  | .sampling site sampling => ∃ before, SiteOk N S p gate before site ∧ taken = before ++ sampling.samples
  | .clock e | .supplier e _ _ =>
      taken = e.context.samples ∧ e.policyResult.policyHash = policyHash p.toPolicyFields S
  | .gateClock e call =>
      (∃ binding, gate.phaseAt call = some (.firstClock binding) ∧ BoundTo S p e binding ∧
        taken = e.context.samples) ∨
      ∃ binding observed c, gate.phaseAt call = some (.secondClock binding observed) ∧
        SameContext S p e.context c ∧ AnswersFor S p c observed.preparedExecution ∧
        taken = e.context.samples ++ c.samples
  | .observed e call answer =>
      ∃ binding, gate.phaseAt call = some (.observing binding) ∧ BoundTo S p e binding ∧
        ∀ v, answer = .resolved v → ∃ c action prepared,
          v = .ofData (observedRecord S c action (policyHash p.toPolicyFields S) prepared) ∧
          AnswersFor S p c prepared ∧ taken = e.context.samples ++ c.samples
  | .forwarded _ _ | .refused _ _ | .settled _ => True

/-- A forwarded request is a transfer that the policy allows, under one context for all
    samples of the request. -/
def SafeForward (taken : List Sample) (request : JsValue) : Prop :=
  ∃ evaluated c intent, SameContext S p evaluated c ∧ Allowed U N S p c request intent ∧
    taken = evaluated.samples ++ c.samples ++ c.samples ++ c.samples

end Invariant

section Calls

variable {P : DateParser}

/-- The call of the Gate that a request goes on with. -/
def RequestPhase.callOf : RequestPhase P → Option ℕ
  | .sampling .atRequest _ => none
  | .sampling (.atObservation _ call) _ => some call
  | .sampling (.beforeCheck _ call _) _ => some call
  | .sampling (.beforeForward _ call _ _) _ => some call
  | .gateClock _ call => some call
  | .observed _ call _ => some call
  | .forwarded _ call => some call
  | .refused _ call => some call
  | .clock _ | .supplier _ _ _ | .settled _ => none

/-- The request takes no more samples and forwards nothing more. -/
def RequestPhase.Late : RequestPhase P → Prop
  | .forwarded _ _ | .settled _ => True
  | _ => False

end Calls

section Frame

variable {U : UrlParser} (N : Normalization) (S : Hash) {P : DateParser} (p : Policy U)

/-- What holds in every state that a run reaches. -/
structure Invariant (s : GatewayState P) : Prop where
  phases : ∀ (k : ℕ) (r : Request P), s.requests[k]? = some r → PhaseOk N S p s.gate (contextSamples k s.trace) r.phase
  known : ∀ e ∈ s.trace, e.about < s.requests.length
  bounded : ∀ (k : ℕ) (r : Request P) call, s.requests[k]? = some r → r.phase.callOf = some call →
    call < s.gate.calls.length
  exclusive : ∀ (i j : ℕ) (r r' : Request P) call, s.requests[i]? = some r → s.requests[j]? = some r' →
    r.phase.callOf = some call → r'.phase.callOf = some call → i = j
  forwards : ∀ k request, .forwarded k request ∈ s.trace →
    (∀ r : Request P, s.requests[k]? = some r → r.phase.Late) ∧
      SafeForward N S p (contextSamples k s.trace) request

/-- A step that takes the request `k` from a phase to the next. -/
structure Update (s s' : GatewayState P) (k : ℕ) (old new : RequestPhase P) : Prop where
  requests : s'.requests = s.requests.modify k fun r => { r with phase := new }
  events : ∃ events, s'.trace = s.trace ++ events ∧ ∀ e ∈ events, e.about = k
  length : s.gate.calls.length ≤ s'.gate.calls.length
  frame : ∀ call < s.gate.calls.length, old.callOf ≠ some call →
    s'.gate.phaseAt call = s.gate.phaseAt call
  call : ∀ call, new.callOf = some call →
    call < s'.gate.calls.length ∧ (old.callOf = some call ∨ s.gate.calls.length ≤ call)
  phase : PhaseOk N S p s'.gate (contextSamples k s'.trace) new
  forwards : ∀ request, .forwarded k request ∈ s'.trace →
    new.Late ∧ SafeForward N S p (contextSamples k s'.trace) request

variable {N S p}

theorem initial_invariant : Invariant N S p (GatewayState.initial : GatewayState P) where
  phases := by simp [GatewayState.initial]
  known := by simp [GatewayState.initial]
  bounded := by simp [GatewayState.initial]
  exclusive := by simp [GatewayState.initial]
  forwards := by simp [GatewayState.initial]

/-- What holds of a request depends only on the phase of its own call. -/
theorem PhaseOk.congr {gate gate' : GateState P Attempt} {taken : List Sample}
    {phase : RequestPhase P} (h : PhaseOk N S p gate taken phase)
    (hcall : ∀ call, phase.callOf = some call → gate'.phaseAt call = gate.phaseAt call) :
    PhaseOk N S p gate' taken phase := by
  cases phase with
  | sampling site sampling =>
    cases site with
    | atObservation e call =>
      obtain ⟨before, ⟨hbefore, binding, hphase, hbound⟩, htaken⟩ := h
      exact ⟨before, ⟨hbefore, binding, (hcall call rfl).trans hphase, hbound⟩, htaken⟩
    | _ => exact h
  | gateClock e call =>
    rcases h with ⟨binding, hphase, h⟩ | ⟨binding, observed, c, hphase, h⟩
    · exact .inl ⟨binding, (hcall call rfl).trans hphase, h⟩
    · exact .inr ⟨binding, observed, c, (hcall call rfl).trans hphase, h⟩
  | observed e call answer =>
    obtain ⟨binding, hphase, h⟩ := h
    exact ⟨binding, (hcall call rfl).trans hphase, h⟩
  | _ => exact h

/-- Requests other than the updated one keep their samples. -/
theorem Update.contextSamples_of_ne {s s' : GatewayState P} {k j : ℕ} {old new : RequestPhase P}
    (hu : Update N S p s s' k old new) (hj : j ≠ k) :
    contextSamples j s'.trace = contextSamples j s.trace := by
  obtain ⟨events, htrace, habout⟩ := hu.events
  have hnil : contextSamples j events = [] :=
    contextSamples_eq_nil fun e he => by rw [habout e he]; exact hj.symm
  rw [htrace, contextSamples_append, hnil, List.append_nil]

theorem Update.getElem?_of_ne {s s' : GatewayState P} {k j : ℕ} {old new : RequestPhase P}
    (hu : Update N S p s s' k old new) (hj : j ≠ k) : s'.requests[j]? = s.requests[j]? := by
  rw [hu.requests, List.getElem?_modify]
  simp [hj.symm]

theorem Update.getElem?_self {s s' : GatewayState P} {k : ℕ} {old new : RequestPhase P}
    (hu : Update N S p s s' k old new) {r' : Request P} (hr' : s'.requests[k]? = some r') :
    r'.phase = new := by
  rw [hu.requests, List.getElem?_modify] at hr'
  obtain ⟨r, -, hr⟩ := Option.map_eq_some_iff.mp hr'
  rw [← hr, if_pos rfl]

/-- A request with a call of the Gate: the call is unchanged unless the request is updated. -/
theorem Update.callOf_cases {s s' : GatewayState P} {k j : ℕ} {old new : RequestPhase P}
    (hu : Update N S p s s' k old new) {r' : Request P} (hr' : s'.requests[j]? = some r') :
    (j = k ∧ r'.phase = new) ∨ (j ≠ k ∧ s.requests[j]? = some r') := by
  by_cases hj : j = k
  · subst hj
    exact .inl ⟨rfl, hu.getElem?_self hr'⟩
  · exact .inr ⟨hj, hu.getElem?_of_ne hj ▸ hr'⟩

/-- An update keeps the invariant. -/
theorem Invariant.update {s s' : GatewayState P} {k : ℕ} {r : Request P} {new : RequestPhase P}
    (hs : Invariant N S p s) (hr : s.requests[k]? = some r)
    (hu : Update N S p s s' k r.phase new) : Invariant N S p s' := by
  have hne : ∀ j r' call, j ≠ k → s.requests[j]? = some r' → r'.phase.callOf = some call →
      r.phase.callOf ≠ some call :=
    fun j r' call hj hr' hcall hk => hj (hs.exclusive j k r' r call hr' hr hcall hk)
  -- a new call of the request is not the call of another one
  have hfresh : ∀ j r' call, j ≠ k → s.requests[j]? = some r' → r'.phase.callOf = some call →
      new.callOf ≠ some call := by
    intro j r' call hj hr' hcall hnew
    rcases (hu.call call hnew).2 with hold | hlong
    · exact hne j r' call hj hr' hcall hold
    · exact absurd (hs.bounded j r' call hr' hcall) (Nat.not_lt.mpr hlong)
  refine ⟨?_, ?_, ?_, ?_, ?_⟩
  · intro j r' hr'
    rcases hu.callOf_cases hr' with ⟨rfl, hphase⟩ | ⟨hj, hr'⟩
    · rw [hphase]
      exact hu.phase
    · rw [hu.contextSamples_of_ne hj]
      exact (hs.phases j r' hr').congr fun call hcall =>
        hu.frame call (hs.bounded j r' call hr' hcall) (hne j r' call hj hr' hcall)
  · intro e he
    obtain ⟨events, htrace, habout⟩ := hu.events
    rw [hu.requests, List.length_modify]
    rw [htrace, List.mem_append] at he
    rcases he with he | he
    · exact hs.known e he
    · rw [habout e he]
      exact (List.getElem?_eq_some_iff.mp hr).1
  · intro j r' call hr' hcall
    rcases hu.callOf_cases hr' with ⟨rfl, hphase⟩ | ⟨hj, hr'⟩
    · exact (hu.call call (hphase ▸ hcall)).1
    · exact (hs.bounded j r' call hr' hcall).trans_le hu.length
  · intro i j r₁ r₂ call hr₁ hr₂ hcall₁ hcall₂
    rcases hu.callOf_cases hr₁ with ⟨rfl, hphase₁⟩ | ⟨hi, hr₁⟩ <;>
      rcases hu.callOf_cases hr₂ with ⟨rfl, hphase₂⟩ | ⟨hj, hr₂⟩
    · rfl
    · exact absurd (hphase₁ ▸ hcall₁) (hfresh j r₂ call hj hr₂ hcall₂)
    · exact absurd (hphase₂ ▸ hcall₂) (hfresh i r₁ call hi hr₁ hcall₁)
    · exact hs.exclusive i j r₁ r₂ call hr₁ hr₂ hcall₁ hcall₂
  · intro j request hforward
    by_cases hj : j = k
    · subst hj
      obtain ⟨hlate, hsafe⟩ := hu.forwards request hforward
      exact ⟨fun r' hr' => hu.getElem?_self hr' ▸ hlate, hsafe⟩
    · obtain ⟨events, htrace, habout⟩ := hu.events
      rw [htrace, List.mem_append] at hforward
      obtain ⟨hlate, hsafe⟩ := hs.forwards j request
        (hforward.resolve_right fun h => hj (habout _ h))
      rw [hu.getElem?_of_ne hj, hu.contextSamples_of_ne hj]
      exact ⟨hlate, hsafe⟩

/-- Nothing has been forwarded for a request that is not late. -/
theorem Invariant.not_forwarded {s : GatewayState P} {k : ℕ} {r : Request P}
    (hs : Invariant N S p s) (hr : s.requests[k]? = some r) (hlate : ¬ r.phase.Late)
    (request : JsValue) : .forwarded k request ∉ s.trace :=
  fun h => hlate ((hs.forwards k request h).1 r hr)

/-- A step that leaves the Gate as it is and forwards nothing. -/
theorem update_local {s s' : GatewayState P} {k : ℕ} {old new : RequestPhase P}
    {events : List GatewayEvent} (hgate : s'.gate = s.gate)
    (hrequests : s'.requests = s.requests.modify k fun r => { r with phase := new })
    (htrace : s'.trace = s.trace ++ events) (habout : ∀ e ∈ events, e.about = k)
    (hquiet : ∀ request, .forwarded k request ∉ s'.trace)
    (hcall : ∀ call, new.callOf = some call → old.callOf = some call ∧ call < s.gate.calls.length)
    (hphase : PhaseOk N S p s.gate (contextSamples k s'.trace) new) : Update N S p s s' k old new where
  requests := hrequests
  events := ⟨events, htrace, habout⟩
  length := by rw [hgate]
  frame := fun call _ _ => by rw [hgate]
  call := fun call h => by
    rw [hgate]
    exact ⟨(hcall call h).2, .inl (hcall call h).1⟩
  phase := by rwa [hgate]
  forwards := fun request h => absurd h (hquiet request)

end Frame

/-! ## Steps -/

section Sample

variable {U : UrlParser} {N : Normalization} {S : Hash} {P : DateParser} {b : Bootstrap U}
variable {s : GatewayState P} {k : ℕ} {r : Request P}

theorem not_forwarded_sampled {trace : List GatewayEvent} {new : List Sample} {request : JsValue}
    (h : .forwarded k request ∉ trace) :
    .forwarded k request ∉ trace ++ new.map (GatewayEvent.sampled k) := by
  rw [List.mem_append, not_or]
  exact ⟨h, by simp⟩

theorem about_sampled {new : List Sample} :
    ∀ e ∈ new.map (GatewayEvent.sampled k), e.about = k := by
  intro e he
  obtain ⟨sample, -, rfl⟩ := List.mem_map.mp he
  rfl

/-- A request that goes on after samples, with the same call of the Gate or none. -/
theorem update_sampled {site : Site} {sampling : Sampling} {next : RequestPhase P}
    (hs : Invariant N S b.policy s) (hr : s.requests[k]? = some r)
    (hphase : r.phase = .sampling site sampling) (new : List Sample)
    (hcall : ∀ call, next.callOf = some call → r.phase.callOf = some call)
    (hok : PhaseOk N S b.policy s.gate (contextSamples k s.trace ++ new) next) :
    Update N S b.policy s ((s.log (new.map (.sampled k))).setPhase k next) k r.phase next := by
  have hlate : ¬ r.phase.Late := by rw [hphase]; exact id
  refine update_local rfl rfl rfl about_sampled ?_ ?_ ?_
  · exact fun request => not_forwarded_sampled (hs.not_forwarded hr hlate request)
  · exact fun call h => ⟨hcall call h, hs.bounded k r call hr (hcall call h)⟩
  · show PhaseOk N S b.policy s.gate (contextSamples k (s.trace ++ new.map (.sampled k))) next
    rwa [contextSamples_append, contextSamples_sampled]

theorem phaseOk_sampleFailed {site : Site} {error : GatewayError} {gate : GateState P Attempt}
    {before taken : List Sample} (h : SiteOk N S b.policy gate before site) :
    PhaseOk N S b.policy gate taken (sampleFailed site error) := by
  cases site with
  | atObservation e call =>
    obtain ⟨-, binding, hphase, hbound⟩ := h
    exact ⟨binding, hphase, hbound, fun v hv => nomatch hv⟩
  | _ => exact trivial

theorem callOf_sampleFailed {site : Site} {error : GatewayError} {sampling : Sampling} {call : ℕ}
    (h : (sampleFailed site error : RequestPhase P).callOf = some call) :
    (RequestPhase.sampling site sampling : RequestPhase P).callOf = some call := by
  cases site with
  | atRequest => cases h
  | _ => exact h

theorem phaseOk_decideRequest {gate : GateState P Attempt} (c : TrustedContext) :
    PhaseOk N S b.policy gate c.samples (decideRequest U N S b r c) ∧
      (decideRequest U N S b r c).callOf = none := by
  unfold decideRequest
  split
  · exact ⟨trivial, rfl⟩
  · rename_i e he
    obtain ⟨hcontext, hhash⟩ := evaluateRequest_eq_ok he
    split_ifs
    · refine ⟨⟨?_, hhash⟩, rfl⟩
      rw [hcontext]
    · exact ⟨trivial, rfl⟩

/-- The final sample of a request that is then forwarded. -/
theorem update_forwarded {e : Evaluation} {call : ℕ} {request : JsValue} {new : List Sample}
    (hs : Invariant N S b.policy s) (hr : s.requests[k]? = some r) (hlate : ¬ r.phase.Late)
    (hcall : r.phase.callOf = some call)
    (hsafe : SafeForward N S b.policy (contextSamples k s.trace ++ new) request) :
    Update N S b.policy s
      (((s.log (new.map (.sampled k))).setPhase k (.forwarded e call)).log [.forwarded k request])
      k r.phase (.forwarded e call) where
  requests := rfl
  events := by
    refine ⟨new.map (.sampled k) ++ [GatewayEvent.forwarded k request], ?_, ?_⟩
    · exact List.append_assoc s.trace (new.map (.sampled k)) [.forwarded k request]
    intro event hevent
    rcases List.mem_append.mp hevent with h | h
    · exact about_sampled event h
    · rw [List.mem_singleton.mp h]
      rfl
  length := le_rfl
  frame := fun _ _ _ => rfl
  call := by
    rintro call' h
    cases h
    exact ⟨hs.bounded k r call hr hcall, .inl hcall⟩
  phase := trivial
  forwards := by
    intro request' h
    refine ⟨trivial, ?_⟩
    simp only [GatewayState.log, GatewayState.setPhase] at h ⊢
    have hnew : .forwarded k request' ∉ s.trace ++ new.map (GatewayEvent.sampled k) :=
      not_forwarded_sampled (hs.not_forwarded hr hlate request')
    have heq := List.mem_singleton.mp ((List.mem_append.mp h).resolve_left hnew)
    cases heq
    rw [contextSamples_append, contextSamples_append, contextSamples_sampled]
    exact (List.append_nil (contextSamples k s.trace ++ new)).symm ▸ hsafe

/-- The end of a context reading. -/
theorem update_sampleDone {site : Site} {sampling : Sampling} {before new : List Sample}
    (c : TrustedContext) (hs : Invariant N S b.policy s) (hr : s.requests[k]? = some r)
    (hphase : r.phase = .sampling site sampling)
    (hsite : SiteOk N S b.policy s.gate before site)
    (htaken : contextSamples k s.trace ++ new = before ++ c.samples) :
    ∃ next, Update N S b.policy s
      (sampleDone U N S b (s.log (new.map (.sampled k))) k r site c) k r.phase next := by
  have hsame : ∀ {next : RequestPhase P}, (∀ call, next.callOf = some call → r.phase.callOf = some call) →
      PhaseOk N S b.policy s.gate (before ++ c.samples) next →
      Update N S b.policy s ((s.log (new.map (.sampled k))).setPhase k next) k r.phase next := by
    intro next hcall hok
    refine update_sampled hs hr hphase new hcall ?_
    rwa [htaken]
  cases site with
  | atRequest =>
    obtain ⟨hok, hnone⟩ : PhaseOk N S b.policy s.gate c.samples (decideRequest U N S b r c) ∧
      (decideRequest U N S b r c).callOf = none := phaseOk_decideRequest c
    refine ⟨_, hsame (fun call h => ?_) ?_⟩
    · rw [hnone] at h
      cases h
    · rw [show before = [] from hsite]
      exact hok
  | atObservation e call =>
    obtain ⟨rfl, binding, hgate, hbound⟩ := hsite
    simp only [sampleDone]
    split
    · rename_i v hv
      refine ⟨_, hsame (fun call h => by rw [hphase]; exact h) ⟨binding, hgate, hbound, ?_⟩⟩
      intro v' hv'
      cases hv'
      obtain ⟨action, request, rfl⟩ := observeBinding_eq_ok hv
      exact ⟨c, action, _, rfl, ⟨_, _, _, rfl⟩, rfl⟩
    · refine ⟨_, hsame (fun call h => by rw [hphase]; exact h) ⟨binding, hgate, hbound, ?_⟩⟩
      exact fun v hv => nomatch hv
  | beforeCheck e call prepared =>
    obtain ⟨c₀, hsc, hprep, rfl⟩ := hsite
    simp only [sampleDone]
    split
    · rename_i request hrequest
      obtain ⟨hmatch, hallowed⟩ := checkPrepared_eq_ok hrequest
      obtain rfl := hprep.eq_of_matches hmatch
      refine ⟨_, hsame (fun call h => by rw [hphase]; exact h) ⟨_, ⟨c, hsc, hprep, hallowed, rfl⟩, ?_⟩⟩
      exact (List.append_nil _).symm
    · exact ⟨_, hsame (fun call h => by rw [hphase]; exact h) trivial⟩
  | beforeForward e call prepared request =>
    obtain ⟨c₀, hsc, hprep, ⟨intent, hallowed⟩, rfl⟩ := hsite
    simp only [sampleDone]
    split_ifs with hmatch
    · obtain rfl := hprep.eq_of_matches hmatch
      have hlate : ¬ r.phase.Late := by rw [hphase]; exact id
      refine ⟨_, update_forwarded hs hr hlate (by rw [hphase]; rfl) ?_⟩
      rw [htaken]
      exact ⟨e.context, c, intent, hsc, hallowed, rfl⟩
    · exact ⟨_, hsame (fun call h => by rw [hphase]; exact h) trivial⟩

/-- An answer to a context sample. -/
theorem update_sampleStep {site : Site} {sampling : Sampling} {answer : SampleAnswer}
    {s' : GatewayState P} (hs : Invariant N S b.policy s) (hr : s.requests[k]? = some r)
    (hphase : r.phase = .sampling site sampling)
    (h : sampleStep U N S b s k r site sampling answer = some s') :
    ∃ next, Update N S b.policy s s' k r.phase next := by
  obtain ⟨before, hsite, htaken⟩ : PhaseOk N S b.policy s.gate (contextSamples k s.trace)
    (.sampling site sampling) := hphase ▸ hs.phases k r hr
  obtain ⟨⟨new, progress⟩, hresume, rfl⟩ := Option.map_eq_some_iff.mp h
  have hall : ∀ all, progress.samples = some all → contextSamples k s.trace ++ new = before ++ all := by
    intro all h
    rw [Sampling.resume_samples hresume h, htaken, List.append_assoc]
  cases progress with
  | waiting sampling' =>
    refine ⟨_, update_sampled hs hr hphase new (fun call h => ?_) ⟨before, hsite, hall _ rfl⟩⟩
    rw [hphase]
    cases site with
    | atRequest => cases h
    | _ => exact h
  | failed error =>
    refine ⟨_, update_sampled hs hr hphase new (fun call h => ?_) (phaseOk_sampleFailed hsite)⟩
    rw [hphase]
    exact callOf_sampleFailed h
  | done c => exact update_sampleDone c hs hr hphase hsite (hall _ rfl)

end Sample

section GateStep

variable {U : UrlParser} {N : Normalization} {S : Hash} {P : DateParser} {p : Policy U}
variable {s s' : GatewayState P} {k : ℕ} {r : Request P} {e : Evaluation} {call : ℕ}

theorem follow_settled {gate : GateState P Attempt} {argument : JsValue}
    {result : Except GateError HostValue} (h : gate.phaseAt call = some (.settled result)) :
    ∃ result', follow gate e call argument = .settled result' := by
  rw [GateState.phaseAt] at h
  simp only [follow, h]
  cases result with
  | ok v => exact ⟨_, rfl⟩
  | error error => exact ⟨_, rfl⟩

theorem callOf_follow {gate : GateState P Attempt} {argument : JsValue} {call' : ℕ}
    (h : (follow gate e call argument).callOf = some call') : call' = call := by
  unfold follow at h
  split at h
  on_goal 4 => split at h
  all_goals cases h
  all_goals rfl

/-- A step of the Gate on the call of a request, after which the request goes on. -/
theorem update_gateContinue {argument : JsValue} {action : Action Attempt} {old : Phase P}
    (hs : Invariant N S p s) (hr : s.requests[k]? = some r) (hcall : r.phase.callOf = some call)
    (hold : s.gate.phaseAt call = some old)
    (hstep : ∀ gate, gateStep N S s.gate action = some gate → ∃ phase,
      CallStep s.gate gate call phase ∧
      (gate.phaseAt call = some phase →
        PhaseOk N S p gate (contextSamples k s.trace) (follow gate e call argument) ∧
        (r.phase.Late → (follow gate e call argument).Late)))
    (h : gateContinue N S s k e call argument action = some s') :
    ∃ next, Update N S p s s' k r.phase next := by
  obtain ⟨gate, hgate, rfl⟩ := Option.map_eq_some_iff.mp h
  obtain ⟨phase, hcallStep, hnext⟩ := hstep gate hgate
  obtain ⟨hok, hlate⟩ := hnext (hcallStep.phaseAt_self hold)
  have hbound := hs.bounded k r call hr hcall
  refine ⟨follow gate e call argument, rfl, ⟨[], (List.append_nil _).symm, by simp⟩, ?_, ?_, ?_, hok, ?_⟩
  · exact hcallStep.length.ge
  · intro call' _ hne
    exact hcallStep.phaseAt_of_ne fun heq => hne (heq ▸ hcall)
  · intro call' hcall'
    obtain rfl := callOf_follow hcall'
    exact ⟨hcallStep.length.symm ▸ hbound, .inl hcall⟩
  · intro request hforward
    obtain ⟨hold, hsafe⟩ := hs.forwards k request hforward
    exact ⟨hlate (hold r hr), hsafe⟩

theorem phaseOk_follow_settled {gate : GateState P Attempt} {argument : JsValue} {taken : List Sample}
    {result : Except GateError HostValue} (h : gate.phaseAt call = some (.settled result)) :
    PhaseOk N S p gate taken (follow gate e call argument) ∧ (follow gate e call argument).Late := by
  obtain ⟨result', hfollow⟩ := follow_settled h
  rw [hfollow]
  exact ⟨trivial, trivial⟩

/-- A clock reading of the Gate. -/
theorem update_gateClock {answer : SyncAnswer} (hs : Invariant N S p s)
    (hr : s.requests[k]? = some r) (hphase : r.phase = .gateClock e call)
    (h : gateContinue N S s k e call (pendingArgument s.gate call) (.clock call answer) = some s') :
    ∃ next, Update N S p s s' k r.phase next := by
  have hcall : r.phase.callOf = some call := by rw [hphase]; rfl
  have hlate : ¬ r.phase.Late := by rw [hphase]; exact id
  have hok := hs.phases k r hr
  rw [hphase] at hok
  rcases hok with ⟨binding, hfirst, hbound, htaken⟩ | ⟨binding, observed, c, hsecond, hsame, hfor, htaken⟩
  · refine update_gateContinue hs hr hcall hfirst (fun gate hgate => ?_) h
    rcases gateStep_clock hgate with ⟨binding', phase, hfirst', hcs, hnext⟩ | ⟨_, _, _, hsecond, -, -⟩
    · rw [hfirst] at hfirst'
      cases hfirst'
      refine ⟨phase, hcs, fun hnew => ⟨?_, fun hl => absurd hl hlate⟩⟩
      rcases hnext with rfl | ⟨error, rfl⟩
      · rw [follow, ← GateState.phaseAt, hnew]
        exact ⟨_, ⟨rfl, binding, hnew, hbound⟩, htaken.trans (List.append_nil _).symm⟩
      · exact (phaseOk_follow_settled hnew).1
    · rw [hfirst] at hsecond
      cases hsecond
  · refine update_gateContinue hs hr hcall hsecond (fun gate hgate => ?_) h
    rcases gateStep_clock hgate with ⟨_, _, hfirst, -, -⟩ | ⟨_, _, phase, hsecond', hcs, hnext⟩
    · rw [hsecond] at hfirst
      cases hfirst
    · refine ⟨phase, hcs, fun hnew => ⟨?_, fun hl => absurd hl hlate⟩⟩
      rcases hnext with rfl | ⟨error, rfl⟩
      · rw [follow, ← GateState.phaseAt, hnew, pendingArgument, ← GateState.phaseAt, hsecond]
        dsimp only
        split
        · rename_i prepared hprepared
          obtain ⟨requestId, action, request, hargument⟩ := hfor
          rw [hargument] at hprepared
          exact ⟨_, ⟨c, hsame, validatePreparedExecution_preparedExecution hprepared, rfl⟩,
            htaken.trans (List.append_nil _).symm⟩
        · exact trivial
      · exact (phaseOk_follow_settled hnew).1

/-- The observation of a request comes back to the Gate. -/
theorem update_observed {answer : ObserverAnswer} (hs : Invariant N S p s)
    (hr : s.requests[k]? = some r) (hphase : r.phase = .observed e call answer)
    (h : gateContinue N S s k e call .null (.observer call answer) = some s') :
    ∃ next, Update N S p s s' k r.phase next := by
  have hcall : r.phase.callOf = some call := by rw [hphase]; rfl
  have hlate : ¬ r.phase.Late := by rw [hphase]; exact id
  obtain ⟨binding, hobserving, hbound, hanswer⟩ : PhaseOk N S p s.gate (contextSamples k s.trace)
    (.observed e call answer) := hphase ▸ hs.phases k r hr
  refine update_gateContinue hs hr hcall hobserving (fun gate hgate => ?_) h
  obtain ⟨binding', phase, hobserving', hcs, hnext⟩ := gateStep_observer hgate
  rw [hobserving] at hobserving'
  cases hobserving'
  refine ⟨phase, hcs, fun hnew => ⟨?_, fun hl => absurd hl hlate⟩⟩
  rcases hnext with ⟨v, observed, rfl, hvalid, hmatch, rfl⟩ | ⟨error, rfl⟩
  · obtain ⟨c, action, prepared, rfl, hfor, htaken⟩ := hanswer v rfl
    obtain ⟨hcommitment, hprepared⟩ := validateObservedBinding_observedRecord hvalid
    have hequal : commitContext S e.context (policyHash p.toPolicyFields S) =
        commitContext S c (policyHash p.toPolicyFields S) := by
      simp only [exactBindingMatches, Bool.and_eq_true, decide_eq_true_eq] at hmatch
      rw [← hbound, hmatch.2, hcommitment]
    rw [follow, ← GateState.phaseAt, hnew]
    exact .inr ⟨binding, observed, c, hnew, (commitContext_eq hequal).imp_left And.left,
      hprepared ▸ hfor, htaken⟩
  · exact (phaseOk_follow_settled hnew).1

/-- The execution of a request comes back to the Gate. -/
theorem update_downstream {answer : DownstreamAnswer} (hs : Invariant N S p s)
    (hr : s.requests[k]? = some r) (hcall : r.phase.callOf = some call)
    (h : gateContinue N S s k e call .null (.downstream call answer) = some s') :
    ∃ next, Update N S p s s' k r.phase next := by
  obtain ⟨gate, hgate, -⟩ := Option.map_eq_some_iff.mp h
  obtain ⟨hexecuting, -⟩ := gateStep_downstream hgate
  refine update_gateContinue hs hr hcall hexecuting (fun gate hgate => ?_) h
  obtain ⟨-, result, hcs⟩ := gateStep_downstream hgate
  refine ⟨.settled result, hcs, fun hnew => ?_⟩
  obtain ⟨hok, hl⟩ := phaseOk_follow_settled hnew
  exact ⟨hok, fun _ => hl⟩

end GateStep

section Supplier

variable {U : UrlParser} {N : Normalization} {S : Hash} {P : DateParser}
variable {s s' : GatewayState P} {k : ℕ} {r : Request P} {e : Evaluation}

/-- A capability was issued for a request, with the identities of its authorization, and a
    call of `consume` waits with it. -/
structure IssuedFor (S : Hash) (gate gate' : GateState P Attempt) (e : Evaluation) (i : Identities)
    (binding : ExactBinding P) : Prop where
  calls : ∃ capability attempt,
    gate'.calls = gate.calls ++ [⟨capability, attempt, .firstClock binding⟩]
  issued : issuedOf gate'.trace = issuedOf gate.trace ++ [binding]
  context : binding.contextCommitment = commitContext S e.context e.policyResult.policyHash
  runId : binding.runId.val = i.runId
  preflightReceiptHash : binding.preflightReceiptHash.val = i.preflightReceiptHash
  witnessAckHash : binding.witnessAckHash.val = i.witnessAckHash

theorem IssuedFor.phaseAt_new {gate gate' : GateState P Attempt} {i : Identities}
    {binding : ExactBinding P} (h : IssuedFor S gate gate' e i binding) :
    gate'.phaseAt gate.calls.length = some (.firstClock binding) := by
  obtain ⟨capability, attempt, hcalls⟩ := h.calls
  rw [GateState.phaseAt, hcalls, List.getElem?_concat_length]
  rfl

theorem IssuedFor.phaseAt_old {gate gate' : GateState P Attempt} {i : Identities}
    {binding : ExactBinding P} (h : IssuedFor S gate gate' e i binding) {call : ℕ}
    (hcall : call < gate.calls.length) : gate'.phaseAt call = gate.phaseAt call := by
  obtain ⟨capability, attempt, hcalls⟩ := h.calls
  rw [GateState.phaseAt, GateState.phaseAt, hcalls, List.getElem?_append_left hcall]

/-- The binding of an issuance has the context and the identities of the input. -/
theorem bindingInput_fields {authorization : ReferenceAuthorization P} {issuedAt : UtcInstant P}
    {expiresAt : JsString} {witnessValidUntil capabilityId : HostValue}
    {evidence : AuthorizationEvidence P}
    (h : prepareReferenceExactAuthorizationRecord P N S
      (.ofData (bindingInput S e authorization issuedAt expiresAt)) witnessValidUntil capabilityId =
        .ok evidence) :
    evidence.binding.contextCommitment = commitContext S e.context e.policyResult.policyHash ∧
      evidence.binding.runId = authorization.runId ∧
      evidence.binding.preflightReceiptHash = authorization.preflightReceiptHash ∧
      evidence.binding.witnessAckHash = authorization.witnessAckHash := by
  have key : ∀ {s t : JsString}, some (HostValue.string s) = some (.string t) → t = s := by
    intro s t h
    cases h
    rfl
  have hb := prepareReferenceExactAuthorizationRecord_fields rfl h
  exact ⟨Subtype.ext (key hb.contextCommitment), Subtype.ext (key hb.runId),
    Subtype.ext (key hb.preflightReceiptHash), Subtype.ext (key hb.witnessAckHash)⟩

theorem issueAndConsume_cases {authorization : ReferenceAuthorization P} {issuedAt : UtcInstant P}
    {expiresAt witnessValidUntil : JsString} {capability : ObjectId} {randomBytes : List UInt8}
    (h : issueAndConsume N S s k r e (.ofData (bindingInput S e authorization issuedAt expiresAt))
      witnessValidUntil capability randomBytes = some s') :
    (∃ error, s' = s.setPhase k (.settled (.error error))) ∨
      ∃ gate binding, s' = { s with gate }.setPhase k (.gateClock e s.gate.calls.length) ∧
        IssuedFor S s.gate gate e authorization.identities binding := by
  obtain ⟨gate, hissue, h⟩ := Option.bind_eq_some_iff.mp h
  rcases gateStep_issue hissue with ⟨error, herror, rfl⟩ |
    ⟨evidence, hevidence, hcalls, hissued, hcapability⟩
  · rw [herror] at h
    cases h
    exact .inl ⟨_, rfl⟩
  · rw [hevidence] at h
    obtain ⟨gate', hconsume, rfl⟩ := Option.map_eq_some_iff.mp h
    obtain ⟨hcalls', htrace'⟩ := gateStep_consume hcapability hconsume
    obtain ⟨hcontext, hrunId, hpreflight, hwitness⟩ := bindingInput_fields hevidence
    have hfor : IssuedFor S s.gate gate' e authorization.identities evidence.binding :=
      { calls := ⟨_, _, by rw [hcalls', hcalls]⟩
        issued := by rw [htrace', hissued]
        context := hcontext
        runId := congrArg Subtype.val hrunId
        preflightReceiptHash := congrArg Subtype.val hpreflight
        witnessAckHash := congrArg Subtype.val hwitness }
    refine .inr ⟨gate', evidence.binding, ?_, hfor⟩
    rw [follow, ← GateState.phaseAt, hcalls, hfor.phaseAt_new]

/-- The answer of the supplier ends the request, or its identities are reserved and the
    issuance fails or gives a capability. -/
theorem supplierStep_cases {issuedAt : UtcInstant P} {expiresAt : JsString} {answer : SupplierAnswer}
    {capability : ObjectId} {randomBytes : List UInt8}
    (h : supplierStep N S s k r e issuedAt expiresAt answer capability randomBytes = some s') :
    (∃ error, s' = s.setPhase k (.settled (.error error))) ∨
      ∃ i, s.replayed i = false ∧
        ((∃ error, s' = (s.reserve k i).setPhase k (.settled (.error error))) ∨
          ∃ gate binding,
            s' = { s.reserve k i with gate }.setPhase k (.gateClock e s.gate.calls.length) ∧
            IssuedFor S s.gate gate e i binding) := by
  unfold supplierStep at h
  split at h
  · cases h
    exact .inl ⟨_, rfl⟩
  · rename_i authorization _
    split_ifs at h with htime hreplayed
    · cases h
      exact .inl ⟨_, rfl⟩
    · cases h
      exact .inl ⟨_, rfl⟩
    · exact .inr ⟨authorization.identities, Bool.eq_false_iff.mpr hreplayed, issueAndConsume_cases h⟩

variable {p : Policy U}

/-- A request that ends. -/
theorem update_settled {result : Except GatewayError DecisionResult} {events : List GatewayEvent}
    (hs : Invariant N S p s) (hr : s.requests[k]? = some r) (hlate : ¬ r.phase.Late)
    (hgate : s'.gate = s.gate)
    (hrequests : s'.requests = s.requests.modify k fun r => { r with phase := .settled result })
    (htrace : s'.trace = s.trace ++ events)
    (habout : ∀ e ∈ events, e.about = k ∧ ∀ request, e ≠ .forwarded k request) :
    Update N S p s s' k r.phase (.settled result) := by
  refine update_local hgate hrequests htrace (fun e he => (habout e he).1) ?_ ?_ trivial
  · intro request h
    rw [htrace, List.mem_append] at h
    rcases h with h | h
    · exact hs.not_forwarded hr hlate request h
    · exact (habout _ h).2 request rfl
  · exact fun call h => nomatch h

/-- The clock reading of a request. -/
theorem update_clockAnswer {b : Bootstrap U} {answer : SyncAnswer} (hs : Invariant N S b.policy s)
    (hr : s.requests[k]? = some r) (hphase : r.phase = .clock e) :
    ∃ next, Update N S b.policy s (clockAnswer U S b s k r e answer) k r.phase next := by
  have hlate : ¬ r.phase.Late := by rw [hphase]; exact id
  have hok : PhaseOk N S b.policy s.gate (contextSamples k s.trace) (.clock e) := hphase ▸ hs.phases k r hr
  unfold clockAnswer
  split
  · exact ⟨_, update_settled hs hr hlate rfl rfl (List.append_nil _).symm (by simp)⟩
  · split
    · exact ⟨_, update_settled hs hr hlate rfl rfl (List.append_nil _).symm (by simp)⟩
    · rename_i issuedAt _ _ expiresAt _
      refine ⟨_, update_local rfl rfl rfl (by simp [GatewayEvent.about]) ?_ (fun call h => nomatch h) ?_⟩
      · intro request h
        rcases List.mem_append.mp h with h | h
        · exact hs.not_forwarded hr hlate request h
        · cases List.mem_singleton.mp h
      · show PhaseOk N S b.policy s.gate (contextSamples k (s.trace ++ _)) (.supplier e issuedAt expiresAt)
        rw [contextSamples_append]
        exact ⟨(List.append_nil _).trans hok.1, hok.2⟩

theorem contextSamples_reserve (i : Identities) :
    contextSamples k (s.reserve k i).trace = contextSamples k s.trace := by
  rw [GatewayState.reserve, contextSamples_append]
  exact List.append_nil _

/-- The answer of the supplier. -/
theorem update_supplierStep {issuedAt : UtcInstant P} {expiresAt : JsString}
    {answer : SupplierAnswer} {capability : ObjectId} {randomBytes : List UInt8}
    (hs : Invariant N S p s) (hr : s.requests[k]? = some r)
    (hphase : r.phase = .supplier e issuedAt expiresAt)
    (h : supplierStep N S s k r e issuedAt expiresAt answer capability randomBytes = some s') :
    ∃ next, Update N S p s s' k r.phase next := by
  have hlate : ¬ r.phase.Late := by rw [hphase]; exact id
  have hok : PhaseOk N S p s.gate (contextSamples k s.trace) (.supplier e issuedAt expiresAt) :=
    hphase ▸ hs.phases k r hr
  rcases supplierStep_cases h with ⟨error, rfl⟩ | ⟨i, -, ⟨error, rfl⟩ | ⟨gate, binding, rfl, hfor⟩⟩
  · exact ⟨_, update_settled hs hr hlate rfl rfl (List.append_nil _).symm (by simp)⟩
  · refine ⟨_, update_settled hs hr hlate rfl rfl rfl ?_⟩
    simp [GatewayEvent.about]
  · obtain ⟨capability, attempt, hcalls⟩ := hfor.calls
    refine ⟨_, rfl, ⟨[.reserved k i], rfl, by simp [GatewayEvent.about]⟩, ?_, ?_, ?_, ?_, ?_⟩
    · show s.gate.calls.length ≤ gate.calls.length
      rw [hcalls]
      simp
    · exact fun call hcall _ => hfor.phaseAt_old hcall
    · intro call hcall
      cases hcall
      refine ⟨?_, .inr le_rfl⟩
      show s.gate.calls.length < gate.calls.length
      rw [hcalls]
      simp
    · refine .inl ⟨binding, hfor.phaseAt_new, ?_, (contextSamples_reserve i).trans hok.1⟩
      rw [BoundTo, hfor.context, hok.2]
    · intro request h
      rcases List.mem_append.mp h with h | h
      · exact absurd h (hs.not_forwarded hr hlate request)
      · cases List.mem_singleton.mp h

end Supplier

/-! ## Runs -/

section Run

variable {U : UrlParser} {N : Normalization} {S : Hash} {P : DateParser} {b : Bootstrap U}

/-- A new request has no samples and no call of the Gate. -/
theorem Invariant.request {s : GatewayState P} (hs : Invariant N S b.policy s) (v : HostValue) :
    Invariant N S b.policy (requestStep s v) := by
  unfold requestStep
  split
  · exact hs
  · rename_i snapshot _
    have hnew : contextSamples s.requests.length s.trace = [] :=
      contextSamples_eq_nil fun e he => (hs.known e he).ne
    have hget : ∀ (j : ℕ) (x r : Request P), (s.requests ++ [x])[j]? = some r →
        s.requests[j]? = some r ∨ (j = s.requests.length ∧ r = x) := by
      intro j x r h
      rw [List.getElem?_append] at h
      split_ifs at h with hj
      · exact .inl h
      · rw [List.getElem?_singleton] at h
        split_ifs at h with h0
        exact .inr ⟨by omega, (Option.some.inj h).symm⟩
    refine ⟨?_, ?_, ?_, ?_, ?_⟩
    · intro j r hr
      rcases hget j _ r hr with hr | ⟨rfl, rfl⟩
      · exact hs.phases j r hr
      · exact ⟨[], rfl, hnew⟩
    · intro e he
      have := hs.known e he
      simp
      omega
    · intro j r call hr hcall
      rcases hget j _ r hr with hr | ⟨rfl, rfl⟩
      · exact hs.bounded j r call hr hcall
      · cases hcall
    · intro i j r r' call hr hr' hcall hcall'
      rcases hget i _ r hr with hr | ⟨rfl, rfl⟩
      · rcases hget j _ r' hr' with hr' | ⟨rfl, rfl⟩
        · exact hs.exclusive i j r r' call hr hr' hcall hcall'
        · cases hcall'
      · cases hcall
    · intro k request h
      obtain ⟨hlate, hsafe⟩ := hs.forwards k request h
      refine ⟨fun r hr => ?_, hsafe⟩
      rcases hget k _ r hr with hr | ⟨rfl, -⟩
      · exact hlate r hr
      · exact absurd (hs.known _ h) (lt_irrefl _)

/-- Every step keeps the invariant. -/
theorem gatewayStep_invariant {s s' : GatewayState P} {action : GatewayAction}
    (hs : Invariant N S b.policy s) (h : gatewayStep U N S b s action = some s') :
    Invariant N S b.policy s' := by
  have hupdate : ∀ {k r}, s.requests[k]? = some r →
      (∃ next, Update N S b.policy s s' k r.phase next) → Invariant N S b.policy s' :=
    fun hr ⟨_, hu⟩ => hs.update hr hu
  cases gatewayStep_cases U N S b h with
  | request v h =>
    rw [h]
    exact hs.request v
  | sample answer hr hphase h => exact hupdate hr (update_sampleStep hs hr hphase h)
  | clock answer hr hphase h =>
    rw [h] at hupdate ⊢
    exact hupdate hr (update_clockAnswer hs hr hphase)
  | supplier answer capability randomBytes hr hphase h =>
    exact hupdate hr (update_supplierStep hs hr hphase h)
  | gateClock answer hr hphase h => exact hupdate hr (update_gateClock hs hr hphase h)
  | observed hr hphase h => exact hupdate hr (update_observed hs hr hphase h)
  | executed answer hr hphase h =>
    refine hupdate hr (update_downstream hs hr ?_ h)
    rcases hphase with hphase | hphase
    all_goals rw [hphase]; rfl

/-- The invariant holds after every run. -/
theorem gatewayRun_invariant {s : GatewayState P} {actions : List GatewayAction}
    (h : gatewayRun U N S b .initial actions = some s) : Invariant N S b.policy s :=
  Machine.run_invariant (fun _ _ _ hs hstep => gatewayStep_invariant hs hstep) h initial_invariant

/-- A sample leaves the Gate as it is. -/
theorem gate_sampleStep {s s' : GatewayState P} {k : ℕ} {r : Request P} {site : Site}
    {sampling : Sampling} {answer : SampleAnswer}
    (h : sampleStep U N S b s k r site sampling answer = some s') : s'.gate = s.gate := by
  obtain ⟨⟨new, progress⟩, -, rfl⟩ := Option.map_eq_some_iff.mp h
  cases progress with
  | waiting sampling => rfl
  | failed error => rfl
  | done c =>
    cases site with
    | atRequest => rfl
    | atObservation e call =>
      simp only [sampleDone]
      split <;> rfl
    | beforeCheck e call prepared =>
      simp only [sampleDone]
      split <;> rfl
    | beforeForward e call prepared request =>
      simp only [sampleDone]
      split_ifs <;> rfl

/-- Every step of the gateway is a run of its Gate. -/
theorem gatewayStep_gate {s s' : GatewayState P} {action : GatewayAction}
    (h : gatewayStep U N S b s action = some s') :
    ∃ actions, gateRun N S s.gate actions = some s'.gate := by
  have hstay : s'.gate = s.gate → ∃ actions, gateRun N S s.gate actions = some s'.gate :=
    fun h => ⟨[], by rw [h]; rfl⟩
  have hcontinue : ∀ {s₀ : GatewayState P} {k e call argument action},
      gateContinue N S s₀ k e call argument action = some s' →
      gateRun N S s₀.gate [action] = some s'.gate := by
    intro s₀ k e call argument action h
    obtain ⟨gate, hgate, rfl⟩ := Option.map_eq_some_iff.mp h
    exact Machine.run_cons.mpr ⟨gate, hgate, rfl⟩
  cases gatewayStep_cases U N S b h with
  | request v h =>
    refine hstay ?_
    rw [h, requestStep]
    split <;> rfl
  | sample answer hr hphase h => exact hstay (gate_sampleStep h)
  | clock answer hr hphase h =>
    refine hstay ?_
    rw [h, clockAnswer]
    split
    · rfl
    · split <;> rfl
  | supplier answer capability randomBytes hr hphase h =>
    unfold supplierStep at h
    split at h
    · cases h
      exact hstay rfl
    · split_ifs at h
      · cases h
        exact hstay rfl
      · cases h
        exact hstay rfl
      · obtain ⟨gate, hissue, h⟩ := Option.bind_eq_some_iff.mp h
        split at h
        · cases h
          exact ⟨[_], Machine.run_cons.mpr ⟨gate, hissue, rfl⟩⟩
        · exact ⟨[_, _], Machine.run_cons.mpr ⟨gate, hissue, hcontinue h⟩⟩
  | gateClock answer hr hphase h => exact ⟨_, hcontinue h⟩
  | observed hr hphase h => exact ⟨_, hcontinue h⟩
  | executed answer hr hphase h => exact ⟨_, hcontinue h⟩

/-- What the Gate of a gateway goes through is a run of the Gate. -/
theorem gatewayRun_gate {s : GatewayState P} {actions : List GatewayAction}
    (h : gatewayRun U N S b .initial actions = some s) :
    ∃ gateActions, gateRun N S GateState.initial gateActions = some s.gate :=
  Machine.exists_run_of_simulation GatewayState.gate (fun _ _ _ => gatewayStep_gate) h

end Run

/-! ## What is forwarded -/

/-- The request is a native transfer, under the context, that the policy allows. -/
structure AllowedTransfer (U : UrlParser) (N : Normalization) (S : Hash) (p : Policy U)
    (c : TrustedContext) (request : JsValue) : Prop where
  enabled : p.enabled = true
  killSwitch : p.killSwitch = false
  origin : c.origin ∈ p.allowedOrigins.texts
  chain : c.chainId = p.expectedChainId
  /-- The class of its intent. -/
  requestClass : ∃ requestId intent, normalizeUnder U N S requestId c request = .ok intent ∧
    intent.requestClass = .nativeTransfer
  transfer : ∃ recipient value transaction,
    NativeTransfer request c.account recipient value transaction ∧
    recipient ∈ p.allowedRecipients.entries ∧
    decimalNumber value.val ≤ decimalNumber p.maxNativeValue.val

theorem Allowed.transfer {U : UrlParser} {N : Normalization} {S : Hash} {p : Policy U}
    {c : TrustedContext} {request : JsValue} {intent : Intent}
    (h : Allowed U N S p c request intent) : AllowedTransfer U N S p c request := by
  obtain ⟨⟨requestId, hintent⟩, hallow⟩ := h
  obtain ⟨hgeneral, hsim, hrecipients⟩ := allow_without_simulation hallow
  obtain ⟨horigin, hchain, haccount⟩ := normalizeUnder_context hintent
  obtain ⟨transaction, recipient, hclass, hrecipient, hnative⟩ :=
    normalizeWalletGuardIntent_native (mapError_eq_ok.mp hintent) hsim
  rw [haccount] at hnative
  exact
    { enabled := hgeneral.enabled
      killSwitch := hgeneral.killSwitch
      origin := horigin ▸ hgeneral.origin
      chain := hchain ▸ hgeneral.chain
      requestClass := ⟨requestId, intent, hintent, hclass⟩
      transfer := ⟨recipient, intent.nativeValue, transaction, hnative,
        hrecipients recipient hclass hrecipient, hgeneral.nativeValue⟩ }

/-- In every run of a gateway, whatever the callbacks answer and in whatever order: the
    provider is called only with a native transfer that the policy allows, and the samples
    of the request are those of one context, read four times. The context of the evaluation
    is that context, or the Gate was shown a SHA-256 collision. -/
theorem gateway_forwards_safely {U : UrlParser} {N : Normalization} {S : Hash} {P : DateParser}
    {b : Bootstrap U} {actions : List GatewayAction} {s : GatewayState P}
    (h : gatewayRun U N S b .initial actions = some s) {k : ℕ} {request : JsValue}
    (hforward : .forwarded k request ∈ s.trace) :
    ∃ evaluated c, AllowedTransfer U N S b.policy c request ∧
      contextSamples k s.trace = evaluated.samples ++ c.samples ++ c.samples ++ c.samples ∧
      SameContext S b.policy evaluated c := by
  obtain ⟨-, evaluated, c, intent, hsame, hallowed, hsamples⟩ :=
    (gatewayRun_invariant h).forwards k request hforward
  exact ⟨evaluated, c, hallowed.transfer, hsamples, hsame⟩

/-! A gateway that forwards one transfer. -/

def sampleUrls : UrlParser := fun s =>
  if s = js "https://app.example" then some ⟨js "https:", s, [], []⟩ else none

def sampleAccount : JsString := js "0x" ++ List.replicate 40 0x61

def sampleRecipient : JsString := js "0x" ++ List.replicate 40 0x62

def samplePolicy : JsValue :=
  .object [(js "schema_version", .string WALLET_GUARD_POLICY_SCHEMA_VERSION),
    (js "policy_id", .string (js "policy-0001")), (js "enabled", .bool true),
    (js "kill_switch", .bool false), (js "expected_chain_id", .string (js "0x1")),
    (js "allowed_origins", .array [.string (js "https://app.example")]),
    (js "allowed_targets", .array []),
    (js "allowed_recipients", .array [.string sampleRecipient]),
    (js "allowed_spenders", .array []), (js "allowed_typed_data_verifying_contracts", .array []),
    (js "max_native_value", .string (js "1000")), (js "max_token_amount", .string (js "0")),
    (js "deny_unlimited_allowance", .bool true), (js "deny_operator_approval", .bool true),
    (js "require_simulation_for", .array [])]

def sampleTransfer : JsValue :=
  .object [(js "method", .string (js "eth_sendTransaction")),
    (js "params", .array [.object [(js "from", .string sampleAccount),
      (js "to", .string sampleRecipient), (js "value", .string (js "0x10"))]])]

/-- The authorization of the supplier, with identities that end in `n`. -/
def sampleAuthorization (n : UInt16) : JsValue :=
  .object [(js "run_id", .string (js "run-00000000000" ++ [n])),
    (js "agent_ref", .string (js "agent-0000000001")),
    (js "subject_ref", .string (js "subject-00000001")),
    (js "preflight_receipt_hash", .string (List.replicate 64 n)),
    (js "witness_ack_hash", .string (List.replicate 64 n)),
    (js "source_key_id", .string (js "ed25519-" ++ List.replicate 32 0x61)),
    (js "witness_key_id", .string (js "ed25519-" ++ List.replicate 32 0x62)),
    (js "verification_profile", .string (js "strict/0.1")),
    (js "verifier_version", .string (js "v0.1")),
    (js "implementation_artifact_sha256", .string (List.replicate 64 0x61)),
    (js "effective_verification_policy_sha256", .string (List.replicate 64 0x61)),
    (js "witness_valid_until", .string (js "2026-01-02T04:00:00.000Z"))]

/-- The four answers of one context reading. -/
def sampleReading (k : ℕ) : List GatewayAction :=
  let origin : GatewayAction := .sample k (.origin (.value (.string (js "https://app.example"))))
  let provider : GatewayAction := .sample k (.provider
    ⟨[.deliverContext (.string (js "0x1")) (.string sampleAccount)], .returned .undefined⟩)
  [origin, provider, provider, origin]

/-- The request `k` from its call to the answer of the supplier. -/
def sampleIssue (k : ℕ) (n : UInt16) : List GatewayAction :=
  [GatewayAction.request (.ofData sampleTransfer)] ++ sampleReading k ++
    [GatewayAction.clock k (.value (.string (js "2026-01-02T03:04:05.000Z"))),
      GatewayAction.supplier k (.returned (.ofData (sampleAuthorization n))) k (List.replicate 16 0)]

/-- The request `k` from the first clock reading of the Gate to the call of the provider. -/
def sampleForward (k : ℕ) : List GatewayAction :=
  [GatewayAction.clock k (.value (.string (js "2026-01-02T03:04:06.000Z")))] ++ sampleReading k ++
    [GatewayAction.resume k, GatewayAction.clock k (.value (.string (js "2026-01-02T03:04:07.000Z")))] ++
    sampleReading k ++ sampleReading k

/-- One request is forwarded, another one comes with the same authorization. -/
def sampleGatewayActions : List GatewayAction := sampleIssue 0 0x61 ++ sampleForward 0 ++ sampleIssue 1 0x61

/-- The state of the sample gateway after some actions, with its policy. -/
def sampleRun (S : Hash) (actions : List GatewayAction) :
    Option (Policy sampleUrls × GatewayState Date.isoParser) :=
  (normalizePolicy sampleUrls (.ofData samplePolicy)).toOption.bind fun p =>
    (gatewayRun sampleUrls devanagari S ⟨p, 60000, by decide⟩ .initial actions).map (p, ·)

theorem sampleRun_eq_some {S : Hash} {actions : List GatewayAction} {p : Policy sampleUrls}
    {s : GatewayState Date.isoParser} (h : sampleRun S actions = some (p, s)) :
    normalizePolicy sampleUrls (.ofData samplePolicy) = .ok p ∧
      gatewayRun sampleUrls devanagari S ⟨p, 60000, by decide⟩ .initial actions = some s := by
  obtain ⟨p', hp, h⟩ := Option.bind_eq_some_iff.mp h
  obtain ⟨s', hs, heq⟩ := Option.map_eq_some_iff.mp h
  cases heq
  refine ⟨?_, hs⟩
  cases hpolicy : normalizePolicy sampleUrls (.ofData samplePolicy) with
  | ok p' =>
    rw [hpolicy] at hp
    exact congrArg _ (Option.some.inj hp)
  | error e =>
    rw [hpolicy] at hp
    cases hp

def isForwardOf (k : ℕ) : GatewayEvent → Bool
  | .forwarded j _ => j = k
  | _ => false

theorem sampleRun_summary :
    (sampleRun strictSha256 sampleGatewayActions).map (fun r =>
      (r.2.trace.any (isForwardOf 0), r.2.requests.length, (issuedOf r.2.gate.trace).length)) =
        some (true, 2, 1) := by
  decide +kernel

theorem gateway_forwards_sampleTransfer :
    ∃ p s request, normalizePolicy sampleUrls (.ofData samplePolicy) = .ok p ∧
      gatewayRun sampleUrls devanagari sha256 ⟨p, 60000, by decide⟩
        (GatewayState.initial : GatewayState Date.isoParser) sampleGatewayActions = some s ∧
      .forwarded 0 request ∈ s.trace ∧
      ∃ c, AllowedTransfer sampleUrls devanagari sha256 p c request := by
  obtain ⟨⟨p, s⟩, hrun, hsummary⟩ := Option.map_eq_some_iff.mp sampleRun_summary
  rw [← sha256_eq_strict] at hrun
  obtain ⟨hp, hs⟩ := sampleRun_eq_some hrun
  rw [Prod.mk.injEq] at hsummary
  obtain ⟨event, hevent, hforward⟩ := List.any_eq_true.mp hsummary.1
  cases event with
  | forwarded k request =>
    obtain rfl : k = 0 := of_decide_eq_true hforward
    obtain ⟨-, c, htransfer, -⟩ := gateway_forwards_safely hs hevent
    exact ⟨p, s, request, hp, hs, hevent, c, htransfer⟩
  | _ => cases hforward

end OpenRisk.Guard
