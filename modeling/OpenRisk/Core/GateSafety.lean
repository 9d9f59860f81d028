import OpenRisk.Core.Gate

/-!
# The Gate starts an execution at most once

The invariant of the Gate machine ties the state of a capability to the one call that
has reserved it and to the trace. A step either adds a capability, adds a call, or takes
one waiting call to its next phase; `Advance` says what the last kind may change, and
`Invariant.advance` is the frame argument for all other calls.

Results:
* `gateRun_invariant`: the invariant holds after every run.
* `gateRun_map`: the caller's attempts do not influence a run.
* `gate_at_most_once`: at most one start for each capability, none for other objects,
  and each start is exactly authorized.
-/

namespace OpenRisk.Core

open Text

variable {P : DateParser} {A : Type}

/-! ## What a trace says -/

/-- The clock samples of a call. -/
def samplesOf (trace : List (Event P)) (call : ℕ) : List ℤ :=
  trace.filterMap fun
    | .sampled k ms => if k = call then some ms else none
    | _ => none

/-- The observer's answers to a call. -/
def answersOf (trace : List (Event P)) (call : ℕ) : List HostValue :=
  trace.filterMap fun
    | .observed k v => if k = call then some v else none
    | _ => none

/-- The calls that started an execution with a capability. -/
def startsOf (trace : List (Event P)) (capability : ObjectId) : List ℕ :=
  trace.filterMap fun
    | .started k c _ => if c = capability then some k else none
    | _ => none

/-- Every sample of the call is inside the window of the binding, and no sample of the
    Gate before it is later. -/
def GoodSamples (trace : List (Event P)) (call : ℕ) (binding : ExactBinding P) : Prop :=
  ∀ before ms, before ++ [Event.sampled call ms] <+: trace →
    binding.issuedAt.ms ≤ ms ∧ ms < binding.expiresAt.ms ∧
      ∀ k t, Event.sampled k t ∈ before → t ≤ ms

/-- The execution that `call` started with `argument` is exactly authorized by `binding`:
    issued, sampled, observed, sampled again and started, in this order. -/
structure Authorized (trace : List (Event P)) (call : ℕ) (capability : ObjectId)
    (argument : JsValue) (binding : ExactBinding P) (answer : HostValue) (observed : Observed)
    (first second : ℤ) : Prop where
  order : List.Sublist [.issued capability binding, .sampled call first, .observed call answer,
    .sampled call second, .started call capability argument] trace
  samples : samplesOf trace call = [first, second]
  answers : answersOf trace call = [answer]
  good : GoodSamples trace call binding
  validated : validateObservedBinding answer = .ok observed
  profile : observed.bindingProfile = binding.bindingProfile
  action : observed.actionCommitment = binding.actionCommitment
  context : observed.contextCommitment = binding.contextCommitment
  argument_eq : argument = observed.preparedExecution

section Trace

variable {trace more : List (Event P)} {call : ℕ} {capability : ObjectId}

theorem samplesOf_append :
    samplesOf (trace ++ more) call = samplesOf trace call ++ samplesOf more call :=
  List.filterMap_append

theorem answersOf_append :
    answersOf (trace ++ more) call = answersOf trace call ++ answersOf more call :=
  List.filterMap_append

theorem startsOf_append :
    startsOf (trace ++ more) capability = startsOf trace capability ++ startsOf more capability :=
  List.filterMap_append

theorem mem_startsOf {k : ℕ} {argument : JsValue} (h : .started k capability argument ∈ trace) :
    k ∈ startsOf trace capability :=
  List.mem_filterMap.mpr ⟨_, h, by simp⟩

theorem goodSamples_concat {binding : ExactBinding P} {e : Event P} :
    GoodSamples (trace ++ [e]) call binding ↔ GoodSamples trace call binding ∧
      ∀ ms, e = .sampled call ms → binding.issuedAt.ms ≤ ms ∧ ms < binding.expiresAt.ms ∧
        ∀ k t, Event.sampled k t ∈ trace → t ≤ ms := by
  constructor
  · intro h
    refine ⟨fun before ms hp => h before ms (hp.trans (List.prefix_append _ _)), ?_⟩
    rintro ms rfl
    exact h trace ms (List.prefix_refl _)
  · rintro ⟨h, hlast⟩ before ms hp
    rcases List.prefix_concat_iff.mp hp with heq | hp
    · obtain ⟨rfl, hsample⟩ := List.append_inj' heq rfl
      exact hlast ms (List.cons.inj hsample).1.symm
    · exact h before ms hp

/-- The events of one call. -/
def Event.OfCall (call : ℕ) : Event P → Prop
  | .issued _ _ => False
  | .sampled k _ => k = call
  | .observed k _ => k = call
  | .started k _ _ => k = call

theorem Event.OfCall.unique {e : Event P} {i j : ℕ} (hi : e.OfCall i) (hj : e.OfCall j) :
    i = j := by
  cases e with
  | issued c b => exact absurd hi id
  | _ => exact hi.symm.trans hj

theorem samplesOf_eq_nil (h : ∀ e ∈ more, ¬ e.OfCall call) : samplesOf more call = [] := by
  refine List.filterMap_eq_nil_iff.mpr fun e he => ?_
  have := h e he
  cases e <;> simp_all [Event.OfCall]

theorem answersOf_eq_nil (h : ∀ e ∈ more, ¬ e.OfCall call) : answersOf more call = [] := by
  refine List.filterMap_eq_nil_iff.mpr fun e he => ?_
  have := h e he
  cases e <;> simp_all [Event.OfCall]

/-- Events of others leave the samples of a call as they are. -/
theorem GoodSamples.append {binding : ExactBinding P} (h : GoodSamples trace call binding)
    (hmore : ∀ e ∈ more, ¬ e.OfCall call) : GoodSamples (trace ++ more) call binding := by
  induction more using List.reverseRecOn with
  | nil => simpa using h
  | append_singleton more e ih =>
    rw [← List.append_assoc, goodSamples_concat]
    refine ⟨ih fun e' he' => hmore e' (by simp [he']), ?_⟩
    rintro ms rfl
    exact absurd rfl (hmore (.sampled call ms) (by simp))

/-- An authorized start stays one when others go on. -/
theorem Authorized.append {argument : JsValue} {binding : ExactBinding P} {answer : HostValue}
    {observed : Observed} {first second : ℤ}
    (h : Authorized trace call capability argument binding answer observed first second)
    (hmore : ∀ e ∈ more, ¬ e.OfCall call) :
    Authorized (trace ++ more) call capability argument binding answer observed first second where
  order := h.order.trans (List.sublist_append_left _ _)
  samples := by rw [samplesOf_append, h.samples, samplesOf_eq_nil hmore, List.append_nil]
  answers := by rw [answersOf_append, h.answers, answersOf_eq_nil hmore, List.append_nil]
  good := h.good.append hmore
  validated := h.validated
  profile := h.profile
  action := h.action
  context := h.context
  argument_eq := h.argument_eq

end Trace

/-! ## The invariant -/

/-- How often an execution has been started in this state of a capability. -/
def startCount (record : Option (CapabilityRecord P)) : ℕ :=
  match record with
  | some ⟨.consuming, _⟩ => 1
  | some ⟨.consumedSuccess, _⟩ => 1
  | some ⟨.consumedError, _⟩ => 1
  | _ => 0

/-- The call has not settled. -/
def Phase.active : Phase P → Bool
  | .settled _ => false
  | _ => true

/-- The call may have started its execution. -/
def Phase.late : Phase P → Bool
  | .executing => true
  | .settled _ => true
  | _ => false

/-- What holds of a call in each phase. -/
def CallOk (s : GateState P A) (k : ℕ) (call : Call P A) : Prop :=
  match call.phase with
  | .firstClock binding =>
    s.capabilities call.capability = some ⟨.validating, binding⟩ ∧
      samplesOf s.trace k = [] ∧ answersOf s.trace k = [] ∧ GoodSamples s.trace k binding ∧
      List.Sublist [.issued call.capability binding] s.trace
  | .observing binding =>
    s.capabilities call.capability = some ⟨.validating, binding⟩ ∧
      ∃ first, samplesOf s.trace k = [first] ∧ answersOf s.trace k = [] ∧
        GoodSamples s.trace k binding ∧
        List.Sublist [.issued call.capability binding, .sampled k first] s.trace
  | .secondClock binding observed =>
    s.capabilities call.capability = some ⟨.validating, binding⟩ ∧
      ∃ first answer, samplesOf s.trace k = [first] ∧ answersOf s.trace k = [answer] ∧
        GoodSamples s.trace k binding ∧
        List.Sublist [.issued call.capability binding, .sampled k first, .observed k answer]
          s.trace ∧
        validateObservedBinding answer = .ok observed ∧ exactBindingMatches binding observed = true
  | .executing => ∃ binding, s.capabilities call.capability = some ⟨.consuming, binding⟩
  | .settled _ => True

/-- The invariant of the Gate. -/
structure Invariant (s : GateState P A) : Prop where
  call_ok : ∀ k call, s.calls[k]? = some call → CallOk s k call
  /-- An unsettled call owns its capability. -/
  exclusive : ∀ (k k' : ℕ) (call call' : Call P A), s.calls[k]? = some call → s.calls[k']? = some call' →
    call.phase.active = true → call'.phase.active = true → call.capability = call'.capability →
    k = k'
  starts : ∀ c, (startsOf s.trace c).length = startCount (s.capabilities c)
  started : ∀ k c argument, .started k c argument ∈ s.trace →
    (∃ call, s.calls[k]? = some call ∧ call.capability = c ∧ call.phase.late = true) ∧
      ∃ binding answer observed first second,
        Authorized s.trace k c argument binding answer observed first second
  /-- Calls that are still to come have left no trace. -/
  fresh : ∀ e ∈ s.trace, ∀ k, e.OfCall k → k < s.calls.length
  issued : ∀ c binding, .issued c binding ∈ s.trace ↔
    ∃ state, s.capabilities c = some ⟨state, binding⟩
  clock : ∀ k t, Event.sampled k t ∈ s.trace → ∃ last, s.lastTrustedTimeMs = some last ∧ t ≤ last

theorem invariant_initial : Invariant (GateState.initial : GateState P A) where
  call_ok := by simp [GateState.initial]
  exclusive := by simp [GateState.initial]
  starts := fun _ => rfl
  started := by simp [GateState.initial]
  fresh := by simp [GateState.initial]
  issued := by simp [GateState.initial]
  clock := by simp [GateState.initial]

section Frame

variable {s s' : GateState P A}

/-- A call keeps its property when its capability stays and other calls leave events. -/
theorem CallOk.frame {k : ℕ} {call : Call P A} {events : List (Event P)} (h : CallOk s k call)
    (hcap : call.phase.active = true → s'.capabilities call.capability = s.capabilities call.capability)
    (htrace : s'.trace = s.trace ++ events) (hevents : ∀ e ∈ events, ¬ e.OfCall k) :
    CallOk s' k call := by
  have hsub : ∀ l, List.Sublist l s.trace → List.Sublist l s'.trace := by
    intro l hl
    rw [htrace]
    exact hl.trans (List.sublist_append_left _ _)
  have hsamples : samplesOf s'.trace k = samplesOf s.trace k := by
    rw [htrace, samplesOf_append, samplesOf_eq_nil hevents, List.append_nil]
  have hanswers : answersOf s'.trace k = answersOf s.trace k := by
    rw [htrace, answersOf_append, answersOf_eq_nil hevents, List.append_nil]
  have hgood : ∀ b, GoodSamples s.trace k b → GoodSamples s'.trace k b := by
    intro b hb
    rw [htrace]
    exact hb.append hevents
  obtain ⟨capability, attempt, phase⟩ := call
  cases phase with
  | firstClock b =>
    obtain ⟨hc, h1, h2, h3, h4⟩ := h
    exact ⟨(hcap rfl).trans hc, hsamples.trans h1, hanswers.trans h2, hgood _ h3, hsub _ h4⟩
  | observing b =>
    obtain ⟨hc, first, h1, h2, h3, h4⟩ := h
    exact ⟨(hcap rfl).trans hc, first, hsamples.trans h1, hanswers.trans h2, hgood _ h3, hsub _ h4⟩
  | secondClock b observed =>
    obtain ⟨hc, first, answer, h1, h2, h3, h4, h5, h6⟩ := h
    exact ⟨(hcap rfl).trans hc, first, answer, hsamples.trans h1, hanswers.trans h2, hgood _ h3,
      hsub _ h4, h5, h6⟩
  | executing =>
    obtain ⟨b, hc⟩ := h
    exact ⟨b, (hcap rfl).trans hc⟩
  | settled r => trivial

/-- A waiting call goes on: it changes its own phase and the state of its capability, and
    leaves events of its own. -/
structure Advance (s s' : GateState P A) (k : ℕ) (call : Call P A) (record : CapabilityRecord P)
    (state : CapabilityState) (phase : Phase P) (events : List (Event P)) : Prop where
  call_at : s.calls[k]? = some call
  active : call.phase.active = true
  record_at : s.capabilities call.capability = some record
  calls : s'.calls = s.calls.modify k fun c => { c with phase }
  capabilities : s'.capabilities = setState s.capabilities call.capability record state
  trace : s'.trace = s.trace ++ events
  of_call : ∀ e ∈ events, e.OfCall k
  /-- An execution leaves no events of the call behind it. -/
  quiet : call.phase.late = true → events = [] ∧ phase.late = true
  count : (startsOf events call.capability).length + startCount (some record) =
    startCount (some { record with state })
  started : ∀ j c argument, .started j c argument ∈ events → c = call.capability ∧
    phase.late = true ∧ ∃ binding answer observed first second,
      Authorized s'.trace j c argument binding answer observed first second
  clock_mono : ∀ last, s.lastTrustedTimeMs = some last →
    ∃ last', s'.lastTrustedTimeMs = some last' ∧ last ≤ last'
  clock_events : ∀ j t, Event.sampled j t ∈ events →
    ∃ last', s'.lastTrustedTimeMs = some last' ∧ t ≤ last'
  ok : CallOk s' k { call with phase }

variable {k : ℕ} {call : Call P A} {record : CapabilityRecord P} {state : CapabilityState}
  {phase : Phase P} {events : List (Event P)}

theorem Advance.getElem? (h : Advance s s' k call record state phase events) (j : ℕ) :
    s'.calls[j]? = if j = k then some { call with phase } else s.calls[j]? := by
  rw [h.calls, List.getElem?_modify]
  by_cases hj : j = k
  · subst hj
    simp [h.call_at]
  · simp [hj, Ne.symm hj]

theorem Advance.capabilities_of_ne (h : Advance s s' k call record state phase events)
    {c : ObjectId} (hc : c ≠ call.capability) : s'.capabilities c = s.capabilities c := by
  rw [h.capabilities, setState, Function.update_of_ne hc]

theorem Advance.capabilities_self (h : Advance s s' k call record state phase events) :
    s'.capabilities call.capability = some { record with state } := by
  rw [h.capabilities, setState, Function.update_self]

theorem Advance.startsOf_of_ne (h : Advance s s' k call record state phase events)
    {c : ObjectId} (hc : c ≠ call.capability) : startsOf events c = [] := by
  refine List.filterMap_eq_nil_iff.mpr fun e he => ?_
  cases e with
  | started j c' argument =>
    have hc' := (h.started j c' argument he).1
    simp [hc', Ne.symm hc]
  | _ => rfl

theorem Advance.not_ofCall (h : Advance s s' k call record state phase events) {j : ℕ}
    (hj : j ≠ k) : ∀ e ∈ events, ¬ e.OfCall j :=
  fun e he hej => hj (hej.unique (h.of_call e he))

/-- The invariant is kept: only the call itself and its capability are concerned. -/
theorem Invariant.advance (hs : Invariant s) (h : Advance s s' k call record state phase events) : Invariant s' where
  call_ok := by
    intro j call' hcall'
    rw [h.getElem? j] at hcall'
    split_ifs at hcall' with hj
    · cases hcall'
      rw [hj]
      exact h.ok
    · refine (hs.call_ok j call' hcall').frame ?_ h.trace (h.not_ofCall hj)
      intro hactive
      apply h.capabilities_of_ne
      intro hsame
      exact hj (hs.exclusive j k call' call hcall' h.call_at hactive h.active hsame)
  exclusive := by
    intro i j call₁ call₂ h₁ h₂ hactive₁ hactive₂ hsame
    rw [h.getElem? i] at h₁
    rw [h.getElem? j] at h₂
    split_ifs at h₁ h₂ with hi hj hj
    · rw [hi, hj]
    · cases h₁
      rw [hi]
      exact hs.exclusive k j call call₂ h.call_at h₂ h.active hactive₂ hsame
    · cases h₂
      rw [hj]
      exact hs.exclusive i k call₁ call h₁ h.call_at hactive₁ h.active hsame
    · exact hs.exclusive i j call₁ call₂ h₁ h₂ hactive₁ hactive₂ hsame
  starts := by
    intro c
    rw [h.trace, startsOf_append, List.length_append, hs.starts]
    by_cases hc : c = call.capability
    · rw [hc, h.record_at, h.capabilities_self, ← h.count, Nat.add_comm]
    · rw [h.capabilities_of_ne hc, h.startsOf_of_ne hc, List.length_nil, Nat.add_zero]
  started := by
    intro j c argument hmem
    rw [h.trace, List.mem_append] at hmem
    rcases hmem with hmem | hmem
    · obtain ⟨⟨call', hcall', hcap, hlate⟩, b, answer, observed, first, second, hauth⟩ :=
        hs.started j c argument hmem
      by_cases hj : j = k
      · subst hj
        have hsame : call' = call := Option.some.inj (hcall'.symm.trans h.call_at)
        subst hsame
        obtain ⟨hnil, hphase⟩ := h.quiet hlate
        refine ⟨⟨{ call' with phase }, ?_, hcap, hphase⟩, b, answer, observed, first, second, ?_⟩
        · rw [h.getElem? j, if_pos rfl]
        · rw [h.trace, hnil, List.append_nil]
          exact hauth
      · refine ⟨⟨call', ?_, hcap, hlate⟩, b, answer, observed, first, second, ?_⟩
        · rw [h.getElem? j, if_neg hj, hcall']
        · rw [h.trace]
          exact hauth.append (h.not_ofCall hj)
    · obtain ⟨hc, hphase, hauth⟩ := h.started j c argument hmem
      have hj : j = k := h.of_call _ hmem
      refine ⟨⟨{ call with phase }, ?_, hc.symm, hphase⟩, hauth⟩
      rw [h.getElem? j, if_pos hj]
  fresh := by
    intro e he j hj
    have hk : k < s.calls.length := (List.getElem?_eq_some_iff.mp h.call_at).1
    rw [h.calls, List.length_modify]
    rw [h.trace, List.mem_append] at he
    rcases he with he | he
    · exact hs.fresh e he j hj
    · rw [hj.unique (h.of_call e he)]
      exact hk
  issued := by
    intro c b
    have hnone : Event.issued c b ∉ events := fun hmem => h.of_call _ hmem
    rw [h.trace, List.mem_append, or_iff_left hnone, hs.issued]
    by_cases hc : c = call.capability
    · rw [hc, h.record_at, h.capabilities_self]
      obtain ⟨st, b'⟩ := record
      simp
    · rw [h.capabilities_of_ne hc]
  clock := by
    intro j t hmem
    rw [h.trace, List.mem_append] at hmem
    rcases hmem with hmem | hmem
    · obtain ⟨last, hlast, hle⟩ := hs.clock j t hmem
      obtain ⟨last', hlast', hle'⟩ := h.clock_mono last hlast
      exact ⟨last', hlast', hle.trans hle'⟩
    · exact h.clock_events j t hmem

end Frame

/-! ## Steps -/

theorem assertCapabilityActive_eq_ok {binding : ExactBinding P} {ms : ℤ} :
    assertCapabilityActive binding ms = .ok () ↔
      binding.issuedAt.ms ≤ ms ∧ ms < binding.expiresAt.ms := by
  rw [assertCapabilityActive, binding.issuedAt.parse_text, binding.expiresAt.parse_text]
  simp only [Option.any_some, decide_eq_true_eq, gateError]
  split_ifs with h₁ h₂
  · simp only [false_iff]
    omega
  · simp only [false_iff]
    omega
  · simp only [true_iff]
    omega

theorem checkRollback_eq_ok {last : Option ℤ} {ms : ℤ} :
    checkRollback last ms = .ok () ↔ ∀ t, last = some t → t ≤ ms := by
  unfold checkRollback gateError
  cases last with
  | none => simp
  | some t =>
    dsimp only
    split_ifs with h
    · simp only [Option.some.injEq, forall_eq', false_iff]
      omega
    · simp only [Option.some.injEq, forall_eq', true_iff]
      omega

theorem lt_of_checkRollback_eq_error {last : Option ℤ} {ms : ℤ} {e : GateError}
    (h : checkRollback last ms = .error e) : ∃ t, last = some t ∧ ms < t := by
  by_contra hnone
  have hok : checkRollback last ms = .ok () := by
    refine checkRollback_eq_ok.mpr fun t ht => ?_
    by_contra hlt
    exact hnone ⟨t, ht, by omega⟩
  rw [hok] at h
  cases h

theorem setState_self {capabilities : CapabilityMap P} {c : ObjectId} {record : CapabilityRecord P}
    (h : capabilities c = some record) : setState capabilities c record record.state = capabilities := by
  rw [setState, ← h, Function.update_eq_self]

section Steps

variable {s : GateState P A} {k : ℕ} {call : Call P A} {b : ExactBinding P}

theorem reject_eq (t : GateState P A) {c : ObjectId} (h : t.capabilities c = some ⟨.validating, b⟩)
    (e : GateError) : t.reject k c e =
      { t with capabilities := setState t.capabilities c ⟨.validating, b⟩ .rejected }.setPhase k
        (.settled (.error e)) := by
  rw [GateState.reject, rejectCapability, h]
  rfl

/-- A rejection after the call has left the given events. -/
theorem advance_reject (hs : Invariant s) (hcall : s.calls[k]? = some call)
    (hactive : call.phase.active = true) (hlate : call.phase.late = false)
    (hrec : s.capabilities call.capability = some ⟨.validating, b⟩) (events : List (Event P))
    (last : Option ℤ) (hof : ∀ e ∈ events, e.OfCall k)
    (hstart : ∀ j c argument, .started j c argument ∉ events)
    (hmono : ∀ t, s.lastTrustedTimeMs = some t → ∃ t', last = some t' ∧ t ≤ t')
    (hclock : ∀ j t, Event.sampled j t ∈ events → ∃ t', last = some t' ∧ t ≤ t')
    (e : GateError) :
    Invariant (GateState.reject ⟨s.capabilities, last, s.calls, s.trace ++ events⟩ k
      call.capability e) := by
  rw [reject_eq (⟨s.capabilities, last, s.calls, s.trace ++ events⟩ : GateState P A) hrec]
  have hnone : startsOf events call.capability = [] := by
    refine List.filterMap_eq_nil_iff.mpr fun ev hev => ?_
    cases ev with
    | started j c argument => exact absurd hev (hstart j c argument)
    | _ => rfl
  refine hs.advance (?_ : Advance s _ k call ⟨.validating, b⟩ .rejected (.settled (.error e)) events)
  exact
    { call_at := hcall
      active := hactive
      record_at := hrec
      calls := rfl
      capabilities := rfl
      trace := rfl
      of_call := hof
      quiet := fun h => by rw [hlate] at h; cases h
      count := by rw [hnone]; rfl
      started := fun j c argument hmem => absurd hmem (hstart j c argument)
      clock_mono := hmono
      clock_events := hclock
      ok := trivial }

theorem clock_le_of_rollback (hs : Invariant s) {ms : ℤ}
    (h : checkRollback s.lastTrustedTimeMs ms = .ok ()) (j : ℕ) (t : ℤ)
    (hmem : Event.sampled j t ∈ s.trace) : t ≤ ms := by
  obtain ⟨last, hlast, hle⟩ := hs.clock j t hmem
  exact hle.trans (checkRollback_eq_ok.mp h last hlast)

/-- A clock reading of a call that waits for one. -/
theorem Invariant.clockStep (hs : Invariant s) (hcall : s.calls[k]? = some call)
    (hactive : call.phase.active = true) (hlate : call.phase.late = false)
    (hrec : s.capabilities call.capability = some ⟨.validating, b⟩) (answer : SyncAnswer)
    {next : GateState P A → GateState P A}
    (hnext : ∀ ms, b.issuedAt.ms ≤ ms → ms < b.expiresAt.ms →
      checkRollback s.lastTrustedTimeMs ms = .ok () →
      Invariant (next ⟨s.capabilities, some ms, s.calls, s.trace ++ [Event.sampled k ms]⟩)) :
    Invariant (clockStep s k call.capability b answer next) := by
  have hof : ∀ ms, ∀ e ∈ [Event.sampled (P := P) k ms], e.OfCall k := by
    intro ms e he
    rw [List.mem_singleton.mp he]
    rfl
  have hstart : ∀ ms j c argument, Event.started j c argument ∉ [Event.sampled (P := P) k ms] := by
    intro ms j c argument hmem
    cases List.mem_singleton.mp hmem
  unfold Core.clockStep
  split
  · -- no instant: nothing is recorded
    have h := advance_reject hs hcall hactive hlate hrec [] s.lastTrustedTimeMs
      (by simp) (by simp) (fun t ht => ⟨t, ht, le_refl t⟩) (by simp) (by assumption)
    simpa using h
  · rename_i now _
    split
    · -- the clock went back
      rename_i e hroll
      refine advance_reject hs hcall hactive hlate hrec _ _ (hof _) (hstart _)
        (fun t ht => ⟨t, ht, le_refl t⟩) ?_ e
      intro j t hmem
      cases List.mem_singleton.mp hmem
      obtain ⟨last, hlast, hlt⟩ := lt_of_checkRollback_eq_error hroll
      exact ⟨last, hlast, hlt.le⟩
    · rename_i hroll
      have hmono : ∀ t, s.lastTrustedTimeMs = some t → ∃ t', some now.ms = some t' ∧ t ≤ t' :=
        fun t ht => ⟨now.ms, rfl, checkRollback_eq_ok.mp hroll t ht⟩
      dsimp only
      split
      · rename_i e _
        refine advance_reject hs hcall hactive hlate hrec _ _ (hof _) (hstart _) hmono ?_ e
        intro j t hmem
        cases List.mem_singleton.mp hmem
        exact ⟨now.ms, rfl, le_refl _⟩
      · rename_i hwindow
        obtain ⟨hissued, hexpires⟩ := assertCapabilityActive_eq_ok.mp hwindow
        exact hnext now.ms hissued hexpires hroll

/-- After the first reading the observer is called. -/
theorem Invariant.firstClock (hs : Invariant s) (hcall : s.calls[k]? = some call)
    (hphase : call.phase = .firstClock b) (answer : SyncAnswer) :
    Invariant (Core.clockStep s k call.capability b answer fun s =>
      s.setPhase k (.observing b)) := by
  have hok := hs.call_ok k call hcall
  rw [CallOk, hphase] at hok
  obtain ⟨hrec, hsamples, hanswers, hgood, hissue⟩ := hok
  refine hs.clockStep hcall (by rw [hphase]; rfl) (by rw [hphase]; rfl) hrec answer ?_
  intro ms hissued hexpires hroll
  refine hs.advance (?_ : Advance s _ k call ⟨.validating, b⟩ .validating (.observing b)
    [Event.sampled k ms])
  exact
    { call_at := hcall
      active := by rw [hphase]; rfl
      record_at := hrec
      calls := rfl
      capabilities := (setState_self hrec).symm
      trace := rfl
      of_call := by simp [Event.OfCall]
      quiet := by rw [hphase]; simp [Phase.late]
      count := rfl
      started := by simp
      clock_mono := fun t ht => ⟨ms, rfl, checkRollback_eq_ok.mp hroll t ht⟩
      clock_events := by
        intro j t hmem
        cases List.mem_singleton.mp hmem
        exact ⟨ms, rfl, le_refl ms⟩
      ok := by
        refine ⟨hrec, ms, ?_, ?_, ?_, ?_⟩
        · show samplesOf (s.trace ++ _) k = _
          rw [samplesOf_append, hsamples]
          simp [samplesOf]
        · show answersOf (s.trace ++ _) k = _
          rw [answersOf_append, hanswers]
          rfl
        · refine goodSamples_concat.mpr ⟨hgood, ?_⟩
          rintro t ⟨⟩
          exact ⟨hissued, hexpires, clock_le_of_rollback hs hroll⟩
        · exact hissue.append (List.Sublist.refl [Event.sampled k ms]) }

/-- After the second reading the execution starts. -/
theorem Invariant.secondClock (hs : Invariant s) (hcall : s.calls[k]? = some call)
    {observed : Observed} (hphase : call.phase = .secondClock b observed) (answer : SyncAnswer) :
    Invariant (Core.clockStep s k call.capability b answer
      (startDownstream k call.capability observed)) := by
  have hok := hs.call_ok k call hcall
  rw [CallOk, hphase] at hok
  obtain ⟨hrec, first, seen, hsamples, hanswers, hgood, horder, hvalid, hmatch⟩ := hok
  refine hs.clockStep hcall (by rw [hphase]; rfl) (by rw [hphase]; rfl) hrec answer ?_
  intro ms hissued hexpires hroll
  -- `beginConsumption` succeeds, as the capability is still validating
  have hbegin : startDownstream k call.capability observed
      ⟨s.capabilities, some ms, s.calls, s.trace ++ [Event.sampled k ms]⟩ =
      ⟨setState s.capabilities call.capability ⟨.validating, b⟩ .consuming, some ms,
        s.calls.modify k fun c => { c with phase := .executing },
        s.trace ++ [Event.sampled k ms] ++
          [Event.started k call.capability observed.preparedExecution]⟩ := by
    simp only [startDownstream, beginConsumption, hrec]
    rfl
  rw [hbegin]
  have hauth : Authorized (s.trace ++ [Event.sampled k ms] ++
      [Event.started k call.capability observed.preparedExecution]) k call.capability
      observed.preparedExecution b seen observed first ms := by
    simp only [exactBindingMatches, Bool.and_eq_true, decide_eq_true_eq] at hmatch
    exact
      { order := (horder.append (List.Sublist.refl [Event.sampled k ms])).append
          (List.Sublist.refl [Event.started k call.capability observed.preparedExecution])
        samples := by
          rw [samplesOf_append, samplesOf_append, hsamples]
          simp [samplesOf]
        answers := by
          rw [answersOf_append, answersOf_append, hanswers]
          rfl
        good := by
          refine goodSamples_concat.mpr ⟨goodSamples_concat.mpr ⟨hgood, ?_⟩, ?_⟩
          · rintro t ⟨⟩
            exact ⟨hissued, hexpires, clock_le_of_rollback hs hroll⟩
          · intro t ht
            cases ht
        validated := hvalid
        profile := hmatch.1.1.symm
        action := hmatch.1.2.symm
        context := hmatch.2.symm
        argument_eq := rfl }
  refine hs.advance (?_ : Advance s _ k call ⟨.validating, b⟩ .consuming .executing
    [Event.sampled k ms, Event.started k call.capability observed.preparedExecution])
  exact
    { call_at := hcall
      active := by rw [hphase]; rfl
      record_at := hrec
      calls := rfl
      capabilities := rfl
      trace := List.append_assoc _ _ _
      of_call := by simp [Event.OfCall]
      quiet := by rw [hphase]; simp [Phase.late]
      count := by simp [startsOf, startCount]
      started := by
        intro j c argument hmem
        simp only [List.mem_cons, reduceCtorEq, Event.started.injEq, List.not_mem_nil, or_false,
          false_or] at hmem
        obtain ⟨rfl, rfl, rfl⟩ := hmem
        exact ⟨rfl, rfl, b, seen, observed, first, ms, hauth⟩
      clock_mono := fun t ht => ⟨ms, rfl, checkRollback_eq_ok.mp hroll t ht⟩
      clock_events := by
        intro j t hmem
        simp only [List.mem_cons, Event.sampled.injEq, reduceCtorEq, List.not_mem_nil, or_false] at hmem
        exact ⟨ms, rfl, le_of_eq hmem.2⟩
      ok := ⟨b, by simp [setState]⟩ }

/-- The observer has answered. -/
theorem Invariant.observerStep (hs : Invariant s) (hcall : s.calls[k]? = some call)
    (hphase : call.phase = .observing b) (answer : ObserverAnswer) :
    Invariant (observerStep s k call.capability b answer) := by
  have hok := hs.call_ok k call hcall
  rw [CallOk, hphase] at hok
  obtain ⟨hrec, first, hsamples, hanswers, hgood, horder⟩ := hok
  have hactive : call.phase.active = true := by rw [hphase]; rfl
  have hlate : call.phase.late = false := by rw [hphase]; rfl
  have hmono : ∀ t, s.lastTrustedTimeMs = some t → ∃ t', s.lastTrustedTimeMs = some t' ∧ t ≤ t' :=
    fun t ht => ⟨t, ht, le_refl t⟩
  have hquiet : ∀ e, Invariant (s.reject k call.capability e) := by
    intro e
    have h := advance_reject hs hcall hactive hlate hrec [] s.lastTrustedTimeMs (by simp) (by simp)
      hmono (by simp) e
    simpa using h
  have hanswered : ∀ v e, Invariant ((s.log [.observed k v]).reject k call.capability e) := by
    intro v e
    exact advance_reject hs hcall hactive hlate hrec [.observed k v] s.lastTrustedTimeMs
      (by simp [Event.OfCall]) (by simp) hmono (by simp) e
  unfold Core.observerStep
  split
  · exact hquiet _
  · exact hquiet _
  · rename_i v
    dsimp only
    split
    · exact hanswered v _
    · rename_i observed hvalid
      split_ifs with hmatch
      · refine hs.advance (?_ : Advance s _ k call ⟨.validating, b⟩ .validating
          (.secondClock b observed) [.observed k v])
        exact
          { call_at := hcall
            active := hactive
            record_at := hrec
            calls := rfl
            capabilities := (setState_self hrec).symm
            trace := rfl
            of_call := by simp [Event.OfCall]
            quiet := by rw [hphase]; simp [Phase.late]
            count := rfl
            started := by simp
            clock_mono := hmono
            clock_events := by simp
            ok := by
              refine ⟨hrec, first, v, ?_, ?_, ?_, ?_, hvalid, hmatch⟩
              · show samplesOf (s.trace ++ _) k = _
                rw [samplesOf_append, hsamples]
                rfl
              · show answersOf (s.trace ++ _) k = _
                rw [answersOf_append, hanswers]
                simp [answersOf]
              · refine goodSamples_concat.mpr ⟨hgood, ?_⟩
                intro t ht
                cases ht
              · exact horder.append (List.Sublist.refl [Event.observed k v]) }
      · exact hanswered v _

/-- The execution of a call has ended. -/
theorem Invariant.settle (hs : Invariant s) (hcall : s.calls[k]? = some call)
    (hphase : call.phase = .executing) (hrec : s.capabilities call.capability = some ⟨.consuming, b⟩)
    (state : CapabilityState) (hstate : startCount (some (⟨state, b⟩ : CapabilityRecord P)) = 1)
    (result : Except GateError HostValue) :
    Invariant ((⟨setState s.capabilities call.capability ⟨.consuming, b⟩ state,
      s.lastTrustedTimeMs, s.calls, s.trace⟩ : GateState P A).setPhase k (.settled result)) := by
  refine hs.advance (?_ : Advance s _ k call ⟨.consuming, b⟩ state (.settled result) [])
  exact
    { call_at := hcall
      active := by rw [hphase]; rfl
      record_at := hrec
      calls := rfl
      capabilities := rfl
      trace := (List.append_nil _).symm
      of_call := by simp
      quiet := fun _ => ⟨rfl, rfl⟩
      count := hstate.symm
      started := by simp
      clock_mono := fun t ht => ⟨t, ht, le_refl t⟩
      clock_events := by simp
      ok := trivial }

theorem Invariant.downstreamStep (hs : Invariant s) (hcall : s.calls[k]? = some call)
    (hphase : call.phase = .executing) (answer : DownstreamAnswer) :
    Invariant (downstreamStep s k call.capability answer) := by
  have hok := hs.call_ok k call hcall
  rw [CallOk, hphase] at hok
  obtain ⟨b, hrec⟩ := hok
  cases answer with
  | rejected =>
    simp only [Core.downstreamStep, failDownstream, completeConsumption, hrec]
    exact hs.settle hcall hphase hrec .consumedError rfl _
  | resolved v =>
    simp only [Core.downstreamStep, completeConsumption, hrec]
    exact hs.settle hcall hphase hrec .consumedSuccess rfl _

theorem active_state (hs : Invariant s) (hcall : s.calls[k]? = some call)
    (hactive : call.phase.active = true) :
    ∃ binding, s.capabilities call.capability = some ⟨.validating, binding⟩ ∨
      s.capabilities call.capability = some ⟨.consuming, binding⟩ := by
  have hok := hs.call_ok k call hcall
  obtain ⟨c, attempt, phase⟩ := call
  cases phase with
  | firstClock b => exact ⟨b, .inl hok.1⟩
  | observing b => exact ⟨b, .inl hok.1⟩
  | secondClock b observed => exact ⟨b, .inl hok.1⟩
  | executing => exact ⟨hok.choose, .inr hok.choose_spec⟩
  | settled r => cases hactive

/-- A new call. It is settled at once, or it takes an available capability. -/
theorem Invariant.addCall (hs : Invariant s) {capabilities : CapabilityMap P} {new : Call P A}
    (hcap : (capabilities = s.capabilities ∧ new.phase.active = false) ∨
      ∃ b, s.capabilities new.capability = some ⟨.available, b⟩ ∧ new.phase = .firstClock b ∧
        capabilities = setState s.capabilities new.capability ⟨.available, b⟩ .validating) :
    Invariant ⟨capabilities, s.lastTrustedTimeMs, s.calls ++ [new], s.trace⟩ := by
  have hget : ∀ (j : ℕ) (call : Call P A), (s.calls ++ [new])[j]? = some call →
      s.calls[j]? = some call ∨ j = s.calls.length ∧ call = new := by
    intro j call h
    rw [List.getElem?_append] at h
    split_ifs at h with hj
    · exact .inl h
    · rw [List.getElem?_singleton] at h
      split_ifs at h with hj'
      exact .inr ⟨by omega, (Option.some.inj h).symm⟩
  -- a new active call takes a capability that no other active call has
  have hother : ∀ (j : ℕ) (call : Call P A), s.calls[j]? = some call → call.phase.active = true →
      new.phase.active = true → call.capability ≠ new.capability := by
    intro j call hcall hactive hnew hsame
    obtain ⟨b', hrec⟩ := active_state hs hcall hactive
    rcases hcap with ⟨-, hsettled⟩ | ⟨b, havail, -, -⟩
    · rw [hsettled] at hnew
      cases hnew
    · rw [hsame, havail] at hrec
      rcases hrec with hrec | hrec <;> cases hrec
  have hsame : ∀ (j : ℕ) (call : Call P A), s.calls[j]? = some call → call.phase.active = true →
      capabilities call.capability = s.capabilities call.capability := by
    intro j call hcall hactive
    rcases hcap with ⟨rfl, -⟩ | ⟨b, -, hphase, rfl⟩
    · rfl
    · exact Function.update_of_ne (hother j call hcall hactive (by rw [hphase]; rfl)) _ _
  have hcount : ∀ c, startCount (capabilities c) = startCount (s.capabilities c) := by
    intro c
    rcases hcap with ⟨rfl, -⟩ | ⟨b, havail, -, rfl⟩
    · rfl
    · by_cases hc : c = new.capability
      · rw [hc, havail, setState, Function.update_self]
        rfl
      · rw [setState, Function.update_of_ne hc]
  have hbinding : ∀ c b', (∃ state, capabilities c = some ⟨state, b'⟩) ↔
      ∃ state, s.capabilities c = some ⟨state, b'⟩ := by
    intro c b'
    rcases hcap with ⟨rfl, -⟩ | ⟨b, havail, -, rfl⟩
    · rfl
    · by_cases hc : c = new.capability
      · rw [hc, havail, setState, Function.update_self]
        simp
      · rw [setState, Function.update_of_ne hc]
  have hnoevent : ∀ e ∈ s.trace, ¬ e.OfCall s.calls.length := fun e he h =>
    absurd (hs.fresh e he _ h) (lt_irrefl _)
  exact
    { call_ok := by
        intro j call hcall
        rcases hget j call hcall with hcall | ⟨rfl, rfl⟩
        · exact (hs.call_ok j call hcall).frame (hsame j call hcall) (List.append_nil _).symm (by simp)
        · rcases hcap with ⟨-, hsettled⟩ | ⟨b, havail, hphase, rfl⟩
          · obtain ⟨c, attempt, phase⟩ := call
            cases phase with
            | settled r => trivial
            | _ => cases hsettled
          · rw [CallOk, hphase]
            refine ⟨by simp [setState], samplesOf_eq_nil hnoevent, answersOf_eq_nil hnoevent, ?_, ?_⟩
            · intro before ms hp
              exact absurd rfl (hnoevent (.sampled s.calls.length ms) (hp.subset (by simp)))
            · exact List.singleton_sublist.mpr ((hs.issued _ _).mpr ⟨_, havail⟩)
      exclusive := by
        intro i j call₁ call₂ h₁ h₂ hactive₁ hactive₂ heq
        rcases hget i call₁ h₁ with hold₁ | ⟨hi, rfl⟩
        · rcases hget j call₂ h₂ with hold₂ | ⟨hj, rfl⟩
          · exact hs.exclusive i j call₁ call₂ hold₁ hold₂ hactive₁ hactive₂ heq
          · exact absurd heq (hother i call₁ hold₁ hactive₁ hactive₂)
        · rcases hget j call₂ h₂ with hold₂ | ⟨hj, -⟩
          · exact absurd heq.symm (hother j call₂ hold₂ hactive₂ hactive₁)
          · rw [hi, hj]
      starts := fun c => (hs.starts c).trans (hcount c).symm
      started := by
        intro j c argument hmem
        obtain ⟨⟨call, hcall, hrest⟩, hauth⟩ := hs.started j c argument hmem
        refine ⟨⟨call, ?_, hrest⟩, hauth⟩
        rw [List.getElem?_append_left (List.getElem?_eq_some_iff.mp hcall).1]
        exact hcall
      fresh := by
        intro e he j hj
        have := hs.fresh e he j hj
        rw [List.length_append]
        omega
      issued := fun c b' => (hs.issued c b').trans (hbinding c b').symm
      clock := hs.clock }

theorem Invariant.consumeStep (hs : Invariant s) (capability : ObjectId) (attempt : A) :
    Invariant (consumeStep s capability attempt) := by
  unfold Core.consumeStep
  split
  · rename_i capabilities binding hreserve
    unfold reserveCapability at hreserve
    split at hreserve
    · cases hreserve
    · rename_i record hrec
      split_ifs at hreserve with havail
      · cases hreserve
      · cases hreserve
        obtain ⟨state, b⟩ := record
        simp only [ne_eq, not_not] at havail
        subst havail
        exact hs.addCall (.inr ⟨b, hrec, rfl, rfl⟩)
  · exact hs.addCall (.inl ⟨rfl, rfl⟩)

/-- A new capability. -/
theorem Invariant.issue (hs : Invariant s) {c : ObjectId} (hc : s.capabilities c = none)
    (b : ExactBinding P) :
    Invariant ⟨Function.update s.capabilities c (some ⟨.available, b⟩), s.lastTrustedTimeMs, s.calls,
      s.trace ++ [Event.issued c b]⟩ := by
  have hevent : ∀ j, ∀ e ∈ [Event.issued c b], ¬ e.OfCall j := by
    intro j e he
    rw [List.mem_singleton.mp he]
    exact id
  exact
    { call_ok := by
        intro j call hcall
        refine (hs.call_ok j call hcall).frame ?_ rfl (hevent j)
        intro hactive
        obtain ⟨b', hrec⟩ := active_state hs hcall hactive
        refine Function.update_of_ne ?_ _ _
        rintro rfl
        rw [hc] at hrec
        rcases hrec with hrec | hrec <;> cases hrec
      exclusive := hs.exclusive
      starts := by
        intro c'
        show (startsOf (s.trace ++ _) c').length =
          startCount (Function.update s.capabilities c (some ⟨.available, b⟩) c')
        rw [startsOf_append, List.length_append, hs.starts]
        by_cases h : c' = c
        · rw [h, hc, Function.update_self]
          rfl
        · rw [Function.update_of_ne h]
          rfl
      started := by
        intro j c' argument hmem
        rcases List.mem_append.mp hmem with hmem | hmem
        · obtain ⟨hcall, b', answer, observed, first, second, hauth⟩ := hs.started j c' argument hmem
          exact ⟨hcall, b', answer, observed, first, second, hauth.append (hevent j)⟩
        · cases List.mem_singleton.mp hmem
      fresh := by
        intro e he j hj
        rcases List.mem_append.mp he with he | he
        · exact hs.fresh e he j hj
        · exact absurd hj (hevent j e he)
      issued := by
        intro c' b'
        show Event.issued c' b' ∈ s.trace ++ _ ↔
          ∃ state, Function.update s.capabilities c (some ⟨.available, b⟩) c' = some ⟨state, b'⟩
        rw [List.mem_append, hs.issued, List.mem_singleton]
        by_cases h : c' = c
        · rw [h, hc, Function.update_self]
          simp [eq_comm]
        · rw [Function.update_of_ne h]
          simp [h]
      clock := by
        intro j t hmem
        rcases List.mem_append.mp hmem with hmem | hmem
        · exact hs.clock j t hmem
        · cases List.mem_singleton.mp hmem }

variable {N : Normalization} {S : Hash}

/-- Every step keeps the invariant. -/
theorem Invariant.gateStep {s' : GateState P A} {action : Action A} (hs : Invariant s)
    (h : gateStep N S s action = some s') : Invariant s' := by
  cases action with
  | issue c randomBytes bindingInput witnessValidUntil =>
    simp only [Core.gateStep, issueStep] at h
    split_ifs at h with hguard
    split at h
    · cases h
      refine hs.issue ?_ _
      simpa using (not_or.mp hguard).1
    · cases h
      exact hs
  | consume c attempt =>
    cases h
    exact hs.consumeStep c attempt
  | clock j answer =>
    simp only [Core.gateStep] at h
    split at h
    · rename_i hcall
      cases h
      exact hs.firstClock hcall rfl answer
    · rename_i hcall
      cases h
      exact hs.secondClock hcall rfl answer
    · cases h
  | observer j answer =>
    simp only [Core.gateStep] at h
    split at h
    · rename_i hcall
      cases h
      exact hs.observerStep hcall rfl answer
    · cases h
  | downstream j answer =>
    simp only [Core.gateStep] at h
    split at h
    · rename_i hcall
      cases h
      exact hs.downstreamStep hcall rfl answer
    · cases h

/-- The invariant holds after every run. -/
theorem gateRun_invariant {actions : List (Action A)} {s' : GateState P A}
    (h : gateRun N S GateState.initial actions = some s') : Invariant s' :=
  Machine.run_invariant (fun _ _ _ hs hstep => hs.gateStep hstep) h invariant_initial

end Steps

/-! ## The caller's attempts -/

section Attempts

variable {B : Type} (f : A → B)

/-- The same call with another attempt. -/
def Call.mapAttempt (call : Call P A) : Call P B := ⟨call.capability, f call.attempt, call.phase⟩

def GateState.mapAttempt (s : GateState P A) : GateState P B :=
  ⟨s.capabilities, s.lastTrustedTimeMs, s.calls.map (Call.mapAttempt f), s.trace⟩

def Action.mapAttempt : Action A → Action B
  | .issue c randomBytes bindingInput witnessValidUntil =>
    .issue c randomBytes bindingInput witnessValidUntil
  | .consume c attempt => .consume c (f attempt)
  | .clock k answer => .clock k answer
  | .observer k answer => .observer k answer
  | .downstream k answer => .downstream k answer

variable (s : GateState P A) (k : ℕ)

theorem mapAttempt_setPhase (phase : Phase P) :
    (s.setPhase k phase).mapAttempt f = (s.mapAttempt f).setPhase k phase := by
  have hcalls : (s.calls.modify k fun c => { c with phase }).map (Call.mapAttempt f) =
      (s.calls.map (Call.mapAttempt f)).modify k fun c => { c with phase } := by
    apply List.ext_getElem?
    intro j
    rw [List.getElem?_map, List.getElem?_modify, List.getElem?_modify, List.getElem?_map]
    cases s.calls[j]? with
    | none => rfl
    | some c =>
      by_cases hj : k = j
      · simp [hj, Call.mapAttempt]
      · simp [hj]
  rw [GateState.setPhase, GateState.mapAttempt, hcalls]
  rfl

theorem mapAttempt_reject (c : ObjectId) (e : GateError) :
    (s.reject k c e).mapAttempt f = (s.mapAttempt f).reject k c e := by
  unfold GateState.reject
  rw [show (s.mapAttempt f).capabilities = s.capabilities from rfl]
  cases rejectCapability s.capabilities c with
  | ok capabilities => exact mapAttempt_setPhase f { s with capabilities } k _
  | error stale => exact mapAttempt_setPhase f s k _

theorem mapAttempt_clockStep (c : ObjectId) (b : ExactBinding P) (answer : SyncAnswer)
    {next : GateState P A → GateState P A} {next' : GateState P B → GateState P B}
    (hnext : ∀ t, (next t).mapAttempt f = next' (t.mapAttempt f)) :
    (clockStep s k c b answer next).mapAttempt f =
      clockStep (s.mapAttempt f) k c b answer next' := by
  unfold clockStep
  rw [show (s.mapAttempt f).lastTrustedTimeMs = s.lastTrustedTimeMs from rfl]
  cases sampleTrustedClock P answer with
  | error e => exact mapAttempt_reject f s k c e
  | ok now =>
    cases hroll : checkRollback s.lastTrustedTimeMs now.ms with
    | error e =>
      simp only [hroll]
      exact mapAttempt_reject f _ k c e
    | ok u =>
      simp only [hroll]
      cases hactive : assertCapabilityActive b now.ms with
      | error e => exact mapAttempt_reject f _ k c e
      | ok u => exact hnext _

theorem mapAttempt_startDownstream (c : ObjectId) (observed : Observed) :
    (startDownstream k c observed s).mapAttempt f =
      startDownstream k c observed (s.mapAttempt f) := by
  unfold startDownstream
  rw [show (s.mapAttempt f).capabilities = s.capabilities from rfl]
  cases beginConsumption s.capabilities c with
  | ok capabilities =>
    exact congrArg (GateState.log · [.started k c observed.preparedExecution])
      (mapAttempt_setPhase f { s with capabilities } k .executing)
  | error e => exact mapAttempt_setPhase f s k _

theorem mapAttempt_observerStep (c : ObjectId) (b : ExactBinding P) (answer : ObserverAnswer) :
    (observerStep s k c b answer).mapAttempt f = observerStep (s.mapAttempt f) k c b answer := by
  cases answer with
  | rejected reason => cases reason <;> exact mapAttempt_reject f s k c _
  | resolved v =>
    unfold observerStep
    cases hvalid : validateObservedBinding v with
    | error e =>
      simp only [hvalid]
      exact mapAttempt_reject f _ k c e
    | ok observed =>
      simp only [hvalid]
      split_ifs
      · exact mapAttempt_setPhase f _ k _
      · exact mapAttempt_reject f _ k c _

theorem mapAttempt_failDownstream (c : ObjectId) :
    (failDownstream s k c).mapAttempt f = failDownstream (s.mapAttempt f) k c := by
  unfold failDownstream
  rw [show (s.mapAttempt f).capabilities = s.capabilities from rfl]
  cases completeConsumption s.capabilities c false with
  | ok capabilities => exact mapAttempt_setPhase f { s with capabilities } k _
  | error e => exact mapAttempt_setPhase f s k _

theorem mapAttempt_downstreamStep (c : ObjectId) (answer : DownstreamAnswer) :
    (downstreamStep s k c answer).mapAttempt f = downstreamStep (s.mapAttempt f) k c answer := by
  cases answer with
  | rejected => exact mapAttempt_failDownstream f s k c
  | resolved v =>
    unfold downstreamStep
    rw [show (s.mapAttempt f).capabilities = s.capabilities from rfl]
    cases completeConsumption s.capabilities c true with
    | ok capabilities => exact mapAttempt_setPhase f { s with capabilities } k _
    | error e => exact mapAttempt_failDownstream f s k c

theorem mapAttempt_consumeStep (c : ObjectId) (attempt : A) :
    (consumeStep s c attempt).mapAttempt f = consumeStep (s.mapAttempt f) c (f attempt) := by
  unfold consumeStep
  rw [show (s.mapAttempt f).capabilities = s.capabilities from rfl]
  cases reserveCapability s.capabilities c <;> simp [GateState.mapAttempt, Call.mapAttempt]

variable (N : Normalization) (S : Hash)

theorem gateStep_mapAttempt (action : Action A) :
    gateStep N S (s.mapAttempt f) (action.mapAttempt f) =
      (gateStep N S s action).map (GateState.mapAttempt f) := by
  have hget : ∀ j : ℕ, (s.mapAttempt f).calls[j]? = (s.calls[j]?).map (Call.mapAttempt f) :=
    fun j => List.getElem?_map
  cases action with
  | issue c randomBytes bindingInput witnessValidUntil =>
    simp only [gateStep, Action.mapAttempt, issueStep]
    rw [show (s.mapAttempt f).capabilities = s.capabilities from rfl]
    split_ifs
    · rfl
    · cases prepareReferenceExactAuthorizationRecord P N S bindingInput witnessValidUntil
        (.string (js "cap-" ++ randomBytes.flatMap hexByte)) <;> rfl
  | consume c attempt => exact congrArg some (mapAttempt_consumeStep f s c attempt).symm
  | clock j answer =>
    simp only [gateStep, Action.mapAttempt, hget]
    rcases s.calls[j]? with _ | ⟨c, attempt, phase⟩
    · rfl
    · cases phase with
      | firstClock b =>
        exact congrArg some (mapAttempt_clockStep f s j c b answer
          fun t => mapAttempt_setPhase f t j (.observing b)).symm
      | secondClock b observed =>
        exact congrArg some (mapAttempt_clockStep f s j c b answer
          fun t => mapAttempt_startDownstream f t j c observed).symm
      | _ => rfl
  | observer j answer =>
    simp only [gateStep, Action.mapAttempt, hget]
    rcases s.calls[j]? with _ | ⟨c, attempt, phase⟩
    · rfl
    · cases phase with
      | observing b => exact congrArg some (mapAttempt_observerStep f s j c b answer).symm
      | _ => rfl
  | downstream j answer =>
    simp only [gateStep, Action.mapAttempt, hget]
    rcases s.calls[j]? with _ | ⟨c, attempt, phase⟩
    · rfl
    · cases phase with
      | executing => exact congrArg some (mapAttempt_downstreamStep f s j c answer).symm
      | _ => rfl

/-- The same run with other attempts. -/
theorem gateRun_mapAttempt (actions : List (Action A)) :
    gateRun N S (s.mapAttempt f) (actions.map (Action.mapAttempt f)) =
      (gateRun N S s actions).map (GateState.mapAttempt f) :=
  Machine.run_map (GateState.mapAttempt f) (Action.mapAttempt f)
    (fun t action => gateStep_mapAttempt f t N S action) s actions

end Attempts

/-! ## At most once -/

/-- In every run of a Gate, whatever the callbacks answer and in whatever order: an
    execution is started at most once for each capability, only for a capability that the
    Gate issued, exactly as its stored binding says, and with the snapshot of the
    observer's answer; the callers' attempts have no influence on what is started. -/
theorem gate_at_most_once (P : DateParser) (N : Normalization) (S : Hash) (A : Type)
    (actions : List (Action A)) (s : GateState P A)
    (h : gateRun N S GateState.initial actions = some s) :
    (∀ c, (startsOf s.trace c).length ≤ 1) ∧
    (∀ k c argument, Event.started k c argument ∈ s.trace →
      (∃ call, s.calls[k]? = some call ∧ call.capability = c) ∧
      ∃ binding answer observed first second,
        (∃ state, s.capabilities c = some ⟨state, binding⟩) ∧
        Authorized s.trace k c argument binding answer observed first second) ∧
    ∀ (B : Type) (f : A → B), ∃ s', s'.trace = s.trace ∧
      gateRun N S (GateState.initial : GateState P B) (actions.map (Action.mapAttempt f)) =
        some s' := by
  have hs := gateRun_invariant h
  refine ⟨?_, ?_, ?_⟩
  · intro c
    rw [hs.starts c]
    unfold startCount
    split <;> omega
  · intro k c argument hmem
    obtain ⟨⟨call, hcall, hc, -⟩, b, answer, observed, first, second, hauth⟩ :=
      hs.started k c argument hmem
    refine ⟨⟨call, hcall, hc⟩, b, answer, observed, first, second, ?_, hauth⟩
    exact (hs.issued c b).mp (hauth.order.subset (by simp))
  · intro B f
    refine ⟨s.mapAttempt f, rfl, ?_⟩
    have hmap := gateRun_mapAttempt f (GateState.initial : GateState P A) N S actions
    rw [h] at hmap
    exact hmap

/-- A binding input with the window of one minute. -/
def sampleInput : JsValue :=
  .object [(js "binding_profile", .string (js "pom-rx-example/0.1")),
    (js "run_id", .string (js "run-000000000001")), (js "agent_ref", .string (js "agent-0000000001")),
    (js "subject_ref", .string (js "subject-00000001")),
    (js "method_hash", .string (List.replicate 64 0x61)),
    (js "policy_hash", .string (List.replicate 64 0x62)),
    (js "action_commitment", .string (List.replicate 64 0x63)),
    (js "context_commitment", .string (List.replicate 64 0x64)),
    (js "preflight_receipt_hash", .string (List.replicate 64 0x65)),
    (js "witness_ack_hash", .string (List.replicate 64 0x66)),
    (js "source_key_id", .string (js "ed25519-" ++ List.replicate 32 0x61)),
    (js "witness_key_id", .string (js "ed25519-" ++ List.replicate 32 0x62)),
    (js "verification_profile", .string (js "strict/0.1")),
    (js "verifier_version", .string (js "v0.1")),
    (js "implementation_artifact_sha256", .string (List.replicate 64 0x61)),
    (js "effective_verification_policy_sha256", .string (List.replicate 64 0x61)),
    (js "issued_at", .string (js "2026-01-02T03:04:05.000Z")),
    (js "expires_at", .string (js "2026-01-02T03:05:05.000Z"))]

/-- An answer of the observer that fits `sampleInput`. -/
def sampleObservation : JsValue :=
  .object [(js "binding_profile", .string (js "pom-rx-example/0.1")),
    (js "action_commitment", .string (List.replicate 64 0x63)),
    (js "context_commitment", .string (List.replicate 64 0x64)),
    (js "prepared_execution", .object [(js "amount", .number (.ofInt 7))])]

def sampleClock (s : String) : SyncAnswer := .value (.string (js s))

/-- Issue a capability, consume it twice, and answer all callbacks of the first call. -/
def sampleActions : List (Action ℕ) :=
  [.issue 7 (List.replicate 16 0) (.ofData sampleInput) (.string (js "2026-01-02T04:00:00.000Z")),
    .consume 7 0, .consume 7 1, .clock 0 (sampleClock "2026-01-02T03:04:05.000Z"),
    .observer 0 (.resolved (.ofData sampleObservation)),
    .clock 0 (sampleClock "2026-01-02T03:04:06.000Z"), .downstream 0 .rejected]

theorem gate_at_most_once_sample :
    ∃ s, gateRun devanagari sha256 (GateState.initial : GateState Date.isoParser ℕ) sampleActions =
        some s ∧ startsOf s.trace 7 = [0] ∧ ∀ c, (startsOf s.trace c).length ≤ 1 := by
  have hrun : (gateRun devanagari sha256 (GateState.initial : GateState Date.isoParser ℕ)
      sampleActions).map (fun s => startsOf s.trace 7) = some [0] := by decide +kernel
  obtain ⟨s, hs, hstarts⟩ := Option.map_eq_some_iff.mp hrun
  exact ⟨s, hs, hstarts, (gate_at_most_once _ _ _ _ sampleActions s hs).1⟩

end OpenRisk.Core
