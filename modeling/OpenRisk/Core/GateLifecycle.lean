import OpenRisk.Core.GateSafety
import OpenRisk.Core.GateSteps
import OpenRisk.Crypto.Sha256Eval

/-!
# The lifecycle of a capability

A call of `consume` that finds its capability available owns it until the promise of the call
settles. `StepEffect` says once what a step does to the capabilities; `Life` follows one call
and its capability along a run.

Results:
* `helpers_ok`: the helpers that change the state never find a wrong one.
* `gate_lifecycle`: the state of a capability once the call that reserved it has settled.
* `not_settled_final`: a call that does not find its capability available settles at once, while
  another call may still be validating the capability.
-/

namespace OpenRisk.Core

open Text

variable {P : DateParser} {A : Type}

/-! ## Steps -/

/-- The call has reserved its capability and not started the execution. -/
def Phase.validates : Phase P → Bool
  | .firstClock _ => true
  | .observing _ => true
  | .secondClock _ _ => true
  | _ => false

/-- What the steps of the call `k` do: its phase and the state of its capability before and
    after, and whether the execution is started. -/
inductive Transition (k : ℕ) : Action A → Phase P → CapabilityState → Phase P → CapabilityState →
    Bool → Prop
  | observe (answer : SyncAnswer) (b : ExactBinding P) :
      Transition k (.clock k answer) (.firstClock b) .validating (.observing b) .validating false
  | observed (answer : ObserverAnswer) (b : ExactBinding P) (o : Observed) :
      Transition k (.observer k answer) (.observing b) .validating (.secondClock b o) .validating
        false
  | reject (a : Action A) (old : Phase P) (e : GateError) (hold : old.validates = true)
      (ha : ∀ j answer, a ≠ .downstream j answer) :
      Transition k a old .validating (.settled (.error e)) .rejected false
  | start (answer : SyncAnswer) (b : ExactBinding P) (o : Observed) :
      Transition k (.clock k answer) (.secondClock b o) .validating .executing .consuming true
  | succeed (v : HostValue) :
      Transition k (.downstream k (.resolved v)) .executing .consuming (.settled (.ok v))
        .consumedSuccess false
  | fail :
      Transition k (.downstream k .rejected) .executing .consuming
        (.settled (.error downstreamFailed)) .consumedError false

/-- The call `k` starts the execution in these events, and no other call does. -/
def StartedIn (events : List (Event P)) (k : ℕ) (starts : Bool) : Prop :=
  (∀ j c argument, .started j c argument ∈ events → j = k) ∧
    ((∃ c argument, .started k c argument ∈ events) ↔ starts = true)

/-- What a step can do. -/
inductive StepEffect (s : GateState P A) : Action A → GateState P A → Prop
  | issue {a : Action A} {s' : GateState P A} (ha : ∀ k answer, a ≠ .downstream k answer)
      (hcalls : s'.calls = s.calls)
      (hcap : ∀ c r, s.capabilities c = some r → s'.capabilities c = some r)
      (hstarted : ∀ k c argument,
        .started k c argument ∈ s'.trace ↔ .started k c argument ∈ s.trace) : StepEffect s a s'
  | reserve (c : ObjectId) (attempt : A) (b : ExactBinding P)
      (hcap : s.capabilities c = some ⟨.available, b⟩) :
      StepEffect s (.consume c attempt) { s with
        capabilities := setState s.capabilities c ⟨.available, b⟩ .validating
        calls := s.calls ++ [⟨c, attempt, .firstClock b⟩] }
  | refuse (c : ObjectId) (attempt : A) (e : GateError)
      (hcap : ∀ b, s.capabilities c ≠ some ⟨.available, b⟩) :
      StepEffect s (.consume c attempt) { s with
        calls := s.calls ++ [⟨c, attempt, .settled (.error e)⟩] }
  | call {a : Action A} (k : ℕ) (call : Call P A) (b : ExactBinding P) (old : CapabilityState)
      (phase : Phase P) (new : CapabilityState) (starts : Bool) (last : Option ℤ)
      (events : List (Event P)) (hcall : s.calls[k]? = some call)
      (hcap : s.capabilities call.capability = some ⟨old, b⟩)
      (htransition : Transition k a call.phase old phase new starts)
      (hstarted : StartedIn events k starts) :
      StepEffect s a ⟨setState s.capabilities call.capability ⟨old, b⟩ new, last,
        s.calls.modify k fun c => { c with phase }, s.trace ++ events⟩

theorem startedIn_of_not {events : List (Event P)} {k : ℕ}
    (h : ∀ j c argument, .started j c argument ∉ events) : StartedIn events k false := by
  refine ⟨fun j c argument hmem => absurd hmem (h j c argument), ?_⟩
  refine iff_of_false ?_ Bool.false_ne_true
  rintro ⟨c, argument, hmem⟩
  exact h k c argument hmem

section Effect

variable {s : GateState P A} {k : ℕ} {call : Call P A} {b : ExactBinding P}

/-- A rejection of a call that validates its capability. -/
theorem stepEffect_reject {a : Action A} (hcall : s.calls[k]? = some call)
    (hphase : call.phase.validates = true)
    (hcap : s.capabilities call.capability = some ⟨.validating, b⟩)
    (ha : ∀ j answer, a ≠ .downstream j answer) (last : Option ℤ) (events : List (Event P))
    (hevents : ∀ j c argument, .started j c argument ∉ events) (e : GateError) :
    StepEffect s a (GateState.reject ⟨s.capabilities, last, s.calls, s.trace ++ events⟩ k
      call.capability e) := by
  rw [reject_eq (⟨s.capabilities, last, s.calls, s.trace ++ events⟩ : GateState P A) hcap]
  exact .call k call b _ _ _ false last events hcall hcap (.reject a _ e hphase ha)
    (startedIn_of_not hevents)

theorem not_started_sampled (ms : ℤ) (j : ℕ) (c : ObjectId) (argument : JsValue) :
    Event.started j c argument ∉ [Event.sampled (P := P) k ms] := by
  intro hmem
  cases List.mem_singleton.mp hmem

theorem stepEffect_clockStep {a : Action A} (hcall : s.calls[k]? = some call)
    (hphase : call.phase.validates = true)
    (hcap : s.capabilities call.capability = some ⟨.validating, b⟩)
    (ha : ∀ j answer, a ≠ .downstream j answer) (answer : SyncAnswer)
    {next : GateState P A → GateState P A}
    (hnext : ∀ ms, StepEffect s a
      (next ⟨s.capabilities, some ms, s.calls, s.trace ++ [Event.sampled k ms]⟩)) :
    StepEffect s a (clockStep s k call.capability b answer next) := by
  unfold clockStep
  split
  · have h := stepEffect_reject hcall hphase hcap ha s.lastTrustedTimeMs [] (by simp) (by assumption)
    rw [List.append_nil] at h
    exact h
  · rename_i now hnow
    split
    · rename_i e hroll
      exact stepEffect_reject hcall hphase hcap ha s.lastTrustedTimeMs [.sampled k now.ms]
        (not_started_sampled now.ms) e
    · dsimp only
      split
      · rename_i e hwindow
        exact stepEffect_reject hcall hphase hcap ha (some now.ms) [.sampled k now.ms]
          (not_started_sampled now.ms) e
      · exact hnext now.ms

/-- A step that only takes the call to another phase. -/
theorem stepEffect_phase {a : Action A} (hcall : s.calls[k]? = some call)
    (hcap : s.capabilities call.capability = some ⟨.validating, b⟩) {phase : Phase P}
    (htransition : Transition k a call.phase .validating phase .validating false)
    (last : Option ℤ) (events : List (Event P))
    (hevents : ∀ j c argument, .started j c argument ∉ events) :
    StepEffect s a (GateState.setPhase ⟨s.capabilities, last, s.calls, s.trace ++ events⟩ k
      phase) := by
  have h := StepEffect.call k call b _ _ _ false last events hcall hcap htransition
    (startedIn_of_not hevents)
  rw [setState_self hcap] at h
  exact h

variable {N : Normalization} {S : Hash}

/-- What a step does, in a state of the Gate. -/
theorem gateStep_effect {s' : GateState P A} {a : Action A} (hs : Invariant s)
    (h : gateStep N S s a = some s') : StepEffect s a s' := by
  cases a with
  | issue c randomBytes bindingInput witnessValidUntil =>
    have ha : ∀ k answer, Action.issue (A := A) c randomBytes bindingInput witnessValidUntil ≠
        .downstream k answer := by
      intro k answer heq
      cases heq
    simp only [gateStep, issueStep] at h
    split_ifs at h with hguard
    rw [not_or, Option.not_isSome_iff_eq_none] at hguard
    split at h
    · cases h
      refine .issue ha rfl ?_ ?_
      · intro c' r hr
        refine (Function.update_of_ne ?_ _ _).trans hr
        rintro rfl
        rw [hguard.1] at hr
        cases hr
      · intro k c' argument
        rw [GateState.log, List.mem_append]
        constructor
        · rintro (hmem | hmem)
          · exact hmem
          · cases List.mem_singleton.mp hmem
        · exact .inl
    · cases h
      exact .issue ha rfl (fun _ _ hr => hr) fun _ _ _ => Iff.rfl
  | consume c attempt =>
    cases h
    unfold consumeStep
    split
    · rename_i capabilities binding hreserve
      unfold reserveCapability at hreserve
      split at hreserve
      · cases hreserve
      · rename_i record hrecord
        split_ifs at hreserve with hstate
        · cases hreserve
        · cases hreserve
          obtain ⟨state, b⟩ := record
          rw [not_not] at hstate
          obtain rfl : state = .available := hstate
          exact .reserve c attempt b hrecord
    · rename_i e hreserve
      refine .refuse c attempt e ?_
      intro b hb
      rw [reserveCapability, hb] at hreserve
      simp at hreserve
  | clock j answer =>
    have ha : ∀ k answer', Action.clock (A := A) j answer ≠ .downstream k answer' := by
      intro k answer' heq
      cases heq
    simp only [gateStep] at h
    split at h
    · rename_i c attempt b hcall
      cases h
      have hok := hs.call_ok j _ hcall
      refine stepEffect_clockStep hcall rfl hok.1 ha answer ?_
      intro ms
      exact stepEffect_phase hcall hok.1 (.observe answer b) _ _ (not_started_sampled ms)
    · rename_i c attempt b observed hcall
      cases h
      have hok := hs.call_ok j _ hcall
      refine stepEffect_clockStep hcall rfl hok.1 ha answer ?_
      intro ms
      have hbegin : startDownstream j c observed
          ⟨s.capabilities, some ms, s.calls, s.trace ++ [Event.sampled j ms]⟩ =
          ⟨setState s.capabilities c ⟨.validating, b⟩ .consuming, some ms,
            s.calls.modify j fun call => { call with phase := .executing },
            s.trace ++ [Event.sampled j ms, Event.started j c observed.preparedExecution]⟩ := by
        have hcap : s.capabilities c = some ⟨.validating, b⟩ := hok.1
        simp only [startDownstream, beginConsumption, hcap]
        simp [GateState.setPhase, GateState.log]
      rw [hbegin]
      refine .call j _ b _ _ _ true _ _ hcall hok.1 (.start answer b observed) ⟨?_, ?_⟩
      · intro i c' argument hmem
        simp only [List.mem_cons, reduceCtorEq, Event.started.injEq, List.not_mem_nil, or_false,
          false_or] at hmem
        exact hmem.1
      · exact iff_of_true ⟨c, observed.preparedExecution, by simp⟩ rfl
    · cases h
  | observer j answer =>
    have ha : ∀ k answer', Action.observer (A := A) j answer ≠ .downstream k answer' := by
      intro k answer' heq
      cases heq
    simp only [gateStep] at h
    split at h
    · rename_i c attempt b hcall
      cases h
      have hok := hs.call_ok j _ hcall
      have hreject : ∀ events : List (Event P),
          (∀ i c' argument, .started i c' argument ∉ events) → ∀ e,
          StepEffect s (.observer j answer) (GateState.reject
            ⟨s.capabilities, s.lastTrustedTimeMs, s.calls, s.trace ++ events⟩ j c e) :=
        fun events hevents e => stepEffect_reject hcall rfl hok.1 ha _ events hevents e
      have hnone := hreject [] fun _ _ _ => List.not_mem_nil
      have hsome : ∀ v e, StepEffect s (.observer j answer)
          (GateState.reject (s.log [.observed j v]) j c e) := by
        intro v e
        refine hreject [.observed j v] ?_ e
        intro i c' argument hmem
        cases List.mem_singleton.mp hmem
      rw [List.append_nil] at hnone
      unfold observerStep
      split
      · exact hnone _
      · exact hnone _
      · rename_i v
        dsimp only
        split
        · exact hsome v _
        · rename_i observed hobserved
          split_ifs with hmatch
          · refine stepEffect_phase hcall hok.1 (.observed _ b observed) s.lastTrustedTimeMs
              [.observed j v] ?_
            intro i c' argument hmem
            cases List.mem_singleton.mp hmem
          · exact hsome v _
    · cases h
  | downstream j answer =>
    simp only [gateStep] at h
    split at h
    · rename_i c attempt hcall
      cases h
      obtain ⟨b, hcap⟩ := hs.call_ok j _ hcall
      have hcap' : s.capabilities c = some ⟨.consuming, b⟩ := hcap
      have hnothing : StartedIn ([] : List (Event P)) j false :=
        startedIn_of_not fun _ _ _ => List.not_mem_nil
      cases answer with
      | rejected =>
        have heffect := StepEffect.call (s := s) j _ b _ _ _ false s.lastTrustedTimeMs [] hcall hcap
          .fail hnothing
        rw [List.append_nil] at heffect
        simp only [downstreamStep, failDownstream, completeConsumption, hcap']
        exact heffect
      | resolved v =>
        have heffect := StepEffect.call (s := s) j _ b _ _ _ false s.lastTrustedTimeMs [] hcall hcap
          (.succeed v) hnothing
        rw [List.append_nil] at heffect
        simp only [downstreamStep, completeConsumption, hcap']
        exact heffect
    · cases h

/-- The helpers never find a state that they refuse. -/
theorem helpers_ok (hs : Invariant s) (hcall : s.calls[k]? = some call) :
    (call.phase.validates = true →
      (∃ capabilities, rejectCapability s.capabilities call.capability = .ok capabilities) ∧
        ∃ capabilities, beginConsumption s.capabilities call.capability = .ok capabilities) ∧
    (call.phase = .executing → ∀ success, ∃ capabilities,
      completeConsumption s.capabilities call.capability success = .ok capabilities) := by
  have hvalidating : ∀ b, s.capabilities call.capability = some ⟨.validating, b⟩ →
      (∃ capabilities, rejectCapability s.capabilities call.capability = .ok capabilities) ∧
        ∃ capabilities, beginConsumption s.capabilities call.capability = .ok capabilities := by
    intro b hb
    rw [rejectCapability, beginConsumption, hb]
    exact ⟨⟨_, rfl⟩, ⟨_, rfl⟩⟩
  have hok := hs.call_ok k call hcall
  obtain ⟨c, attempt, phase⟩ := call
  constructor
  · intro hphase
    cases phase with
    | firstClock b => exact hvalidating b hok.1
    | observing b => exact hvalidating b hok.1
    | secondClock b observed => exact hvalidating b hok.1
    | executing => cases hphase
    | settled result => cases hphase
  · rintro rfl success
    obtain ⟨b, hb⟩ := hok
    rw [completeConsumption, hb]
    exact ⟨_, rfl⟩

end Effect

/-! ## The life of a call and its capability -/

/-- The capability of the call `k`, which reserved it, after these actions. -/
inductive Life (k : ℕ) (c : ObjectId) (b : ExactBinding P) (done : List (Action A))
    (s : GateState P A) : Prop
  | validating (phase : Phase P) (hphase : s.phaseAt k = some phase)
      (hvalidates : phase.validates = true) (hcap : s.capabilities c = some ⟨.validating, b⟩)
      (hstarted : ∀ c argument, .started k c argument ∉ s.trace)
      (hdone : ∀ answer, .downstream k answer ∉ done)
  | executing (hphase : s.phaseAt k = some .executing)
      (hcap : s.capabilities c = some ⟨.consuming, b⟩)
      (hstarted : ∃ c argument, .started k c argument ∈ s.trace)
      (hdone : ∀ answer, .downstream k answer ∉ done)
  | rejected (e : GateError) (hphase : s.phaseAt k = some (.settled (.error e)))
      (hcap : s.capabilities c = some ⟨.rejected, b⟩)
      (hstarted : ∀ c argument, .started k c argument ∉ s.trace)
      (hdone : ∀ answer, .downstream k answer ∉ done)
  | succeeded (v : HostValue) (hphase : s.phaseAt k = some (.settled (.ok v)))
      (hcap : s.capabilities c = some ⟨.consumedSuccess, b⟩)
      (hstarted : ∃ c argument, .started k c argument ∈ s.trace)
      (hdone : .downstream k (.resolved v) ∈ done)
  | failed (e : GateError) (hphase : s.phaseAt k = some (.settled (.error e)))
      (hcap : s.capabilities c = some ⟨.consumedError, b⟩)
      (hstarted : ∃ c argument, .started k c argument ∈ s.trace)
      (hdone : ∀ v, .downstream k (.resolved v) ∉ done)

section Life

variable {s s' : GateState P A} {k : ℕ} {c : ObjectId} {b : ExactBinding P} {done : List (Action A)}

theorem not_mem_concat {α : Type} {l : List α} {x a : α} (hl : x ∉ l) (ha : a ≠ x) :
    x ∉ l ++ [a] := by
  rw [List.mem_append, List.mem_singleton, not_or]
  exact ⟨hl, fun heq => ha heq.symm⟩

/-- A step that is not about the call and keeps its capability. -/
theorem Life.frame {a : Action A} (h : Life k c b done s) (hphase : s'.phaseAt k = s.phaseAt k)
    (hcap : s'.capabilities c = s.capabilities c)
    (hstarted : ∀ c argument, .started k c argument ∈ s'.trace ↔ .started k c argument ∈ s.trace)
    (ha : ∀ answer, a ≠ .downstream k answer) : Life k c b (done ++ [a]) s' := by
  cases h with
  | validating phase hp hvalidates hc hs hd =>
    exact .validating phase (hphase.trans hp) hvalidates (hcap.trans hc)
      (fun c' argument hmem => hs c' argument ((hstarted c' argument).mp hmem))
      fun answer => not_mem_concat (hd answer) (ha answer)
  | executing hp hc hs hd =>
    obtain ⟨c', argument, hmem⟩ := hs
    exact .executing (hphase.trans hp) (hcap.trans hc)
      ⟨c', argument, (hstarted c' argument).mpr hmem⟩
      fun answer => not_mem_concat (hd answer) (ha answer)
  | rejected e hp hc hs hd =>
    exact .rejected e (hphase.trans hp) (hcap.trans hc)
      (fun c' argument hmem => hs c' argument ((hstarted c' argument).mp hmem))
      fun answer => not_mem_concat (hd answer) (ha answer)
  | succeeded v hp hc hs hd =>
    obtain ⟨c', argument, hmem⟩ := hs
    exact .succeeded v (hphase.trans hp) (hcap.trans hc)
      ⟨c', argument, (hstarted c' argument).mpr hmem⟩ (List.mem_append_left _ hd)
  | failed e hp hc hs hd =>
    obtain ⟨c', argument, hmem⟩ := hs
    exact .failed e (hphase.trans hp) (hcap.trans hc)
      ⟨c', argument, (hstarted c' argument).mpr hmem⟩
      fun v => not_mem_concat (hd v) (ha (.resolved v))

/-- The capability has a record with the binding, and is not available. -/
theorem Life.capability (h : Life k c b done s) :
    ∃ state, s.capabilities c = some ⟨state, b⟩ ∧ state ≠ .available := by
  cases h with
  | validating phase hp hvalidates hc hs hd => exact ⟨_, hc, by decide⟩
  | executing hp hc hs hd => exact ⟨_, hc, by decide⟩
  | rejected e hp hc hs hd => exact ⟨_, hc, by decide⟩
  | succeeded v hp hc hs hd => exact ⟨_, hc, by decide⟩
  | failed e hp hc hs hd => exact ⟨_, hc, by decide⟩

theorem Life.phaseAt (h : Life k c b done s) : ∃ phase, s.phaseAt k = some phase := by
  cases h with
  | validating phase hp hvalidates hc hs hd => exact ⟨_, hp⟩
  | executing hp hc hs hd => exact ⟨_, hp⟩
  | rejected e hp hc hs hd => exact ⟨_, hp⟩
  | succeeded v hp hc hs hd => exact ⟨_, hp⟩
  | failed e hp hc hs hd => exact ⟨_, hp⟩

theorem Transition.old_cases {a : Action A} {old phase : Phase P} {state new : CapabilityState}
    {starts : Bool} (h : Transition k a old state phase new starts) :
    old.active = true ∧ (state = .validating ∨ state = .consuming) := by
  cases h with
  | observe answer b => exact ⟨rfl, .inl rfl⟩
  | observed answer b o => exact ⟨rfl, .inl rfl⟩
  | reject a old e hold ha =>
    refine ⟨?_, .inl rfl⟩
    cases old <;> first | rfl | cases hold
  | start answer b o => exact ⟨rfl, .inl rfl⟩
  | succeed v => exact ⟨rfl, .inr rfl⟩
  | fail => exact ⟨rfl, .inr rfl⟩

theorem Transition.not_downstream {a : Action A} {old phase : Phase P}
    {state new : CapabilityState} {starts : Bool} {j : ℕ}
    (h : Transition j a old state phase new starts) (hj : j ≠ k) :
    ∀ answer, a ≠ .downstream k answer := by
  intro answer heq
  subst heq
  cases h with
  | reject a old e hold ha => exact ha k answer rfl
  | succeed v => exact hj rfl
  | fail => exact hj rfl

/-- Another call that goes on is about another capability. -/
theorem Life.capability_ne (h : Life k c b done s) (hs : Invariant s)
    (hk : ∃ call, s.calls[k]? = some call ∧ call.capability = c) {j : ℕ} {call : Call P A}
    {b' : ExactBinding P} {old : CapabilityState} (hj : j ≠ k) (hcall : s.calls[j]? = some call)
    (hactive : call.phase.active = true)
    (hcap : s.capabilities call.capability = some ⟨old, b'⟩)
    (hold : old = .validating ∨ old = .consuming) : call.capability ≠ c := by
  obtain ⟨own, hown, hc⟩ := hk
  intro heq
  have hphaseOf : ∀ phase, s.phaseAt k = some phase → own.phase = phase := by
    intro phase hphase
    rw [GateState.phaseAt, hown, Option.map_some, Option.some.injEq] at hphase
    exact hphase
  have hsame : own.phase.active = true → False := fun hown' =>
    hj (hs.exclusive j k call own hcall hown hactive hown' (heq.trans hc.symm))
  rw [heq] at hcap
  cases h with
  | validating phase hp hvalidates hc' _ _ =>
    apply hsame
    rw [hphaseOf phase hp]
    cases phase <;> first | rfl | cases hvalidates
  | executing hp hc' _ _ =>
    apply hsame
    rw [hphaseOf _ hp]
    rfl
  | rejected e hp hc' _ _ =>
    rw [hcap] at hc'
    cases hc'
    rcases hold with hold | hold <;> cases hold
  | succeeded v hp hc' _ _ =>
    rw [hcap] at hc'
    cases hc'
    rcases hold with hold | hold <;> cases hold
  | failed e hp hc' _ _ =>
    rw [hcap] at hc'
    cases hc'
    rcases hold with hold | hold <;> cases hold

/-- A step of the call itself. -/
theorem Life.own {a : Action A} (h : Life k c b done s) {call : Call P A}
    (hcall : s.calls[k]? = some call) {b' : ExactBinding P} {old new : CapabilityState}
    {phase : Phase P} {starts : Bool} (hcap : s.capabilities c = some ⟨old, b'⟩)
    (htransition : Transition k a call.phase old phase new starts)
    (hphase' : s'.phaseAt k = some phase) (hcap' : s'.capabilities c = some ⟨new, b'⟩)
    {events : List (Event P)} (htrace : s'.trace = s.trace ++ events)
    (hevents : StartedIn events k starts) : Life k c b (done ++ [a]) s' := by
  have hphaseOf : ∀ phase, s.phaseAt k = some phase → call.phase = phase := by
    intro phase hphase
    rw [GateState.phaseAt, hcall, Option.map_some, Option.some.injEq] at hphase
    exact hphase
  have hkept : (∃ c argument, Event.started k c argument ∈ s.trace) →
      ∃ c argument, Event.started k c argument ∈ s'.trace := by
    rintro ⟨c', argument, hmem⟩
    exact ⟨c', argument, htrace ▸ List.mem_append_left _ hmem⟩
  have hnone : starts = false → (∀ c argument, Event.started k c argument ∉ s.trace) →
      ∀ c argument, Event.started k c argument ∉ s'.trace := by
    rintro rfl hs c' argument hmem
    rw [htrace] at hmem
    rcases List.mem_append.mp hmem with hmem | hmem
    · exact hs c' argument hmem
    · exact Bool.false_ne_true (hevents.2.mp ⟨c', argument, hmem⟩)
  cases h with
  | validating old' hp hvalidates hc hs hd =>
    obtain ⟨rfl, rfl⟩ : old = .validating ∧ b' = b := by
      rw [hcap] at hc
      cases hc
      exact ⟨rfl, rfl⟩
    have hold := hphaseOf old' hp
    generalize call.phase = p at hold htransition
    cases htransition with
    | observe answer b'' =>
      exact .validating _ hphase' rfl hcap' (hnone rfl hs)
        fun answer' => not_mem_concat (hd answer') (by intro heq; cases heq)
    | observed answer b'' o =>
      exact .validating _ hphase' rfl hcap' (hnone rfl hs)
        fun answer' => not_mem_concat (hd answer') (by intro heq; cases heq)
    | reject a old e hvalid ha =>
      exact .rejected e hphase' hcap' (hnone rfl hs)
        fun answer' => not_mem_concat (hd answer') (ha k answer')
    | start answer b'' o =>
      obtain ⟨c', argument, hmem⟩ := hevents.2.mpr rfl
      exact .executing hphase' hcap' ⟨c', argument, htrace ▸ List.mem_append_right _ hmem⟩
        fun answer' => not_mem_concat (hd answer') (by intro heq; cases heq)
  | executing hp hc hs hd =>
    obtain ⟨rfl, rfl⟩ : old = .consuming ∧ b' = b := by
      rw [hcap] at hc
      cases hc
      exact ⟨rfl, rfl⟩
    generalize call.phase = p at htransition
    cases htransition with
    | succeed v =>
      exact .succeeded v hphase' hcap' (hkept hs)
        (List.mem_append_right _ (List.mem_singleton.mpr rfl))
    | fail =>
      exact .failed downstreamFailed hphase' hcap' (hkept hs)
        fun v => not_mem_concat (hd (.resolved v)) (by intro heq; cases heq)
  | rejected e hp hc _ _ =>
    have hactive := htransition.old_cases.1
    rw [hphaseOf _ hp] at hactive
    cases hactive
  | succeeded v hp hc _ _ =>
    have hactive := htransition.old_cases.1
    rw [hphaseOf _ hp] at hactive
    cases hactive
  | failed e hp hc _ _ =>
    have hactive := htransition.old_cases.1
    rw [hphaseOf _ hp] at hactive
    cases hactive

variable {N : Normalization} {S : Hash}

/-- A step keeps the life of a call. -/
theorem Life.step {a : Action A} (h : Life k c b done s) (hs : Invariant s)
    (hk : ∃ call, s.calls[k]? = some call ∧ call.capability = c)
    (hstep : gateStep N S s a = some s') :
    Life k c b (done ++ [a]) s' ∧ ∃ call, s'.calls[k]? = some call ∧ call.capability = c := by
  obtain ⟨own, hown, hc⟩ := hk
  have hk : ∃ call, s.calls[k]? = some call ∧ call.capability = c := ⟨own, hown, hc⟩
  obtain ⟨state, hrecord, hstate⟩ := h.capability
  have hlt : k < s.calls.length := (List.getElem?_eq_some_iff.mp hown).1
  have happend : ∀ call : Call P A, (s.calls ++ [call])[k]? = s.calls[k]? :=
    fun call => List.getElem?_append_left hlt
  cases gateStep_effect hs hstep with
  | issue ha hcalls hcap hstarted =>
    refine ⟨h.frame ?_ ?_ (fun c' argument => hstarted k c' argument) (ha k), ?_⟩
    · rw [GateState.phaseAt, GateState.phaseAt, hcalls]
    · rw [hrecord]
      exact hcap c _ hrecord
    · rw [hcalls]
      exact hk
  | reserve c' attempt b' hcap =>
    have hne : c ≠ c' := by
      rintro rfl
      rw [hrecord] at hcap
      cases hcap
      exact hstate rfl
    refine ⟨h.frame ?_ ?_ (fun _ _ => Iff.rfl) (by intro answer heq; cases heq), ?_⟩
    · rw [GateState.phaseAt, GateState.phaseAt, happend]
    · exact Function.update_of_ne hne _ _
    · exact ⟨own, (happend _).trans hown, hc⟩
  | refuse c' attempt e hcap =>
    refine ⟨h.frame ?_ rfl (fun _ _ => Iff.rfl) (by intro answer heq; cases heq), ?_⟩
    · rw [GateState.phaseAt, GateState.phaseAt, happend]
    · exact ⟨own, (happend _).trans hown, hc⟩
  | call j call b' old phase new starts last events hcall hcap htransition hstarted =>
    by_cases hj : j = k
    · subst hj
      rw [hown] at hcall
      cases hcall
      subst hc
      refine ⟨h.own hown hcap htransition ?_ ?_ rfl hstarted, ?_⟩
      · rw [GateState.phaseAt, List.getElem?_modify, hown]
        simp
      · exact Function.update_self _ _ _
      · rw [List.getElem?_modify, hown]
        exact ⟨_, rfl, by simp⟩
    · obtain ⟨hactive, hold⟩ := htransition.old_cases
      have hne := h.capability_ne hs hk hj hcall hactive hcap hold
      have hmodify : ∀ f : Call P A → Call P A, (s.calls.modify j f)[k]? = s.calls[k]? := by
        intro f
        rw [List.getElem?_modify]
        simp [hj]
      refine ⟨h.frame ?_ ?_ ?_ (htransition.not_downstream hj), ?_⟩
      · rw [GateState.phaseAt, GateState.phaseAt, hmodify]
      · exact Function.update_of_ne hne.symm _ _
      · intro c' argument
        dsimp only
        rw [List.mem_append]
        constructor
        · rintro (hmem | hmem)
          · exact hmem
          · exact absurd (hstarted.1 k c' argument hmem).symm hj
        · exact .inl
      · exact ⟨own, (hmodify _).trans hown, hc⟩

/-- A run keeps the life of a call. -/
theorem Life.run {actions : List (Action A)} (h : Life k c b done s) (hs : Invariant s)
    (hk : ∃ call, s.calls[k]? = some call ∧ call.capability = c)
    (hrun : gateRun N S s actions = some s') :
    Life k c b (done ++ actions) s' ∧ ∃ call, s'.calls[k]? = some call ∧ call.capability = c := by
  induction actions generalizing s done with
  | nil =>
    cases hrun
    rw [List.append_nil]
    exact ⟨h, hk⟩
  | cons a actions ih =>
    obtain ⟨t, ht, hrest⟩ := Machine.run_cons.mp hrun
    obtain ⟨h', hk'⟩ := h.step hs hk ht
    rw [List.append_cons]
    exact ih h' (hs.gateStep ht) hk' hrest

/-- A call that has settled does nothing more. -/
theorem settled_step {a : Action A} {result : Except GateError HostValue} (hs : Invariant s)
    (hphase : s.phaseAt k = some (.settled result)) (h : gateStep N S s a = some s') :
    s'.phaseAt k = some (.settled result) ∧ ∀ c argument,
      .started k c argument ∈ s'.trace ↔ .started k c argument ∈ s.trace := by
  obtain ⟨own, hown, hsettled⟩ := Option.map_eq_some_iff.mp hphase
  have happend : ∀ call : Call P A, (s.calls ++ [call])[k]? = s.calls[k]? :=
    fun call => List.getElem?_append_left (List.getElem?_eq_some_iff.mp hown).1
  cases gateStep_effect hs h with
  | issue ha hcalls hcap hstarted =>
    refine ⟨?_, hstarted k⟩
    rw [GateState.phaseAt, hcalls]
    exact hphase
  | reserve c' attempt b' hcap =>
    refine ⟨?_, fun _ _ => Iff.rfl⟩
    rw [GateState.phaseAt, happend]
    exact hphase
  | refuse c' attempt e hcap =>
    refine ⟨?_, fun _ _ => Iff.rfl⟩
    rw [GateState.phaseAt, happend]
    exact hphase
  | call j call b' old phase new starts last events hcall hcap htransition hstarted =>
    have hj : j ≠ k := by
      rintro rfl
      rw [hown] at hcall
      cases hcall
      have hactive := htransition.old_cases.1
      rw [hsettled] at hactive
      cases hactive
    constructor
    · rw [GateState.phaseAt, List.getElem?_modify, hown]
      simp [hj, hsettled]
    · intro c' argument
      dsimp only
      rw [List.mem_append]
      constructor
      · rintro (hmem | hmem)
        · exact hmem
        · exact absurd (hstarted.1 k c' argument hmem).symm hj
      · exact .inl

theorem settled_run {actions : List (Action A)} {result : Except GateError HostValue}
    (hs : Invariant s) (hphase : s.phaseAt k = some (.settled result))
    (h : gateRun N S s actions = some s') :
    s'.phaseAt k = some (.settled result) ∧ ∀ c argument,
      .started k c argument ∈ s'.trace ↔ .started k c argument ∈ s.trace := by
  induction actions generalizing s with
  | nil =>
    cases h
    exact ⟨hphase, fun _ _ => Iff.rfl⟩
  | cons a actions ih =>
    obtain ⟨t, ht, hrest⟩ := Machine.run_cons.mp h
    obtain ⟨hphase', hstarted⟩ := settled_step hs hphase ht
    obtain ⟨hphase'', hstarted'⟩ := ih (hs.gateStep ht) hphase' hrest
    exact ⟨hphase'', fun c' argument => (hstarted' c' argument).trans (hstarted c' argument)⟩

/-- After the call has settled, its capability stays as it is. -/
theorem Life.capability_step {a : Action A} {result : Except GateError HostValue}
    (h : Life k c b done s) (hs : Invariant s)
    (hk : ∃ call, s.calls[k]? = some call ∧ call.capability = c)
    (hphase : s.phaseAt k = some (.settled result)) (hstep : gateStep N S s a = some s') :
    s'.capabilities c = s.capabilities c := by
  obtain ⟨state, hrecord, hstate⟩ := h.capability
  cases gateStep_effect hs hstep with
  | issue ha hcalls hcap hstarted =>
    rw [hrecord]
    exact hcap c _ hrecord
  | reserve c' attempt b' hcap =>
    refine Function.update_of_ne ?_ _ _
    rintro rfl
    rw [hrecord] at hcap
    cases hcap
    exact hstate rfl
  | refuse c' attempt e hcap => rfl
  | call j call b' old phase new starts last events hcall hcap htransition hstarted =>
    obtain ⟨hactive, hold⟩ := htransition.old_cases
    have hj : j ≠ k := by
      rintro rfl
      rw [GateState.phaseAt, hcall, Option.map_some, Option.some.injEq] at hphase
      rw [hphase] at hactive
      cases hactive
    exact Function.update_of_ne (h.capability_ne hs hk hj hcall hactive hcap hold).symm _ _

theorem Life.capability_run {actions : List (Action A)} {result : Except GateError HostValue}
    (h : Life k c b done s) (hs : Invariant s)
    (hk : ∃ call, s.calls[k]? = some call ∧ call.capability = c)
    (hphase : s.phaseAt k = some (.settled result)) (hrun : gateRun N S s actions = some s') :
    s'.capabilities c = s.capabilities c := by
  induction actions generalizing s done with
  | nil =>
    cases hrun
    rfl
  | cons a actions ih =>
    obtain ⟨t, ht, hrest⟩ := Machine.run_cons.mp hrun
    obtain ⟨h', hk'⟩ := h.step hs hk ht
    rw [ih h' (hs.gateStep ht) hk' (settled_step hs hphase ht).1 hrest]
    exact h.capability_step hs hk hphase ht

/-- What a capability is once the call that reserved it has settled. -/
structure Final (k : ℕ) (c : ObjectId) (b : ExactBinding P) (done : List (Action A))
    (s : GateState P A) (state : CapabilityState) : Prop where
  capability : s.capabilities c = some ⟨state, b⟩
  terminal : state = .rejected ∨ state = .consumedSuccess ∨ state = .consumedError
  started : state = .consumedSuccess ∨ state = .consumedError ↔
    ∃ c argument, .started k c argument ∈ s.trace
  fulfilled : state = .consumedSuccess ↔ ∃ v, .downstream k (.resolved v) ∈ done

theorem Life.final (h : Life k c b done s) {result : Except GateError HostValue}
    (hphase : s.phaseAt k = some (.settled result)) : ∃ state, Final k c b done s state := by
  cases h with
  | validating phase hp hvalidates hc hs hd =>
    rw [hphase] at hp
    cases hp
    cases hvalidates
  | executing hp hc hs hd =>
    rw [hphase] at hp
    cases hp
  | rejected e hp hc hs hd =>
    refine ⟨.rejected, hc, .inl rfl, iff_of_false (by decide) ?_, iff_of_false (by decide) ?_⟩
    · rintro ⟨c', argument, hmem⟩
      exact hs c' argument hmem
    · rintro ⟨v, hmem⟩
      exact hd _ hmem
  | succeeded v hp hc hs hd =>
    exact ⟨.consumedSuccess, hc, .inr (.inl rfl), iff_of_true (.inl rfl) hs,
      iff_of_true rfl ⟨v, hd⟩⟩
  | failed e hp hc hs hd =>
    refine ⟨.consumedError, hc, .inr (.inr rfl), iff_of_true (.inr rfl) hs,
      iff_of_false (by decide) ?_⟩
    rintro ⟨v, hmem⟩
    exact hd v hmem

end Life

theorem consumeStep_refused {s : GateState P A} {c : ObjectId}
    (h : ∀ b, s.capabilities c ≠ some ⟨.available, b⟩) (attempt : A) :
    ∃ e, consumeStep s c attempt =
      { s with calls := s.calls ++ [⟨c, attempt, .settled (.error e)⟩] } := by
  unfold consumeStep
  split
  · rename_i capabilities binding hreserve
    exfalso
    unfold reserveCapability at hreserve
    split at hreserve
    · cases hreserve
    · rename_i record hrecord
      split_ifs at hreserve with hstate
      · cases hreserve
      · obtain ⟨state, b⟩ := record
        rw [not_not] at hstate
        obtain rfl : state = .available := hstate
        exact h b hrecord
  · exact ⟨_, rfl⟩

/-- The state of a capability once the call of `consume` that found it available has settled: it
    is rejected or consumed, consumed exactly when the execution was started, with success exactly
    when the execution was fulfilled, and it never changes again. A call that does not find its
    capability available settles at once and changes nothing. The helpers never throw. -/
theorem gate_lifecycle {N : Normalization} {S : Hash} {before after : List (Action A)} {c : ObjectId}
    {attempt : A} {s₀ s : GateState P A} (hbefore : gateRun N S .initial before = some s₀)
    (hafter : gateRun N S (consumeStep s₀ c attempt) after = some s) :
    (∀ b, s₀.capabilities c = some ⟨.available, b⟩ →
      ∀ result, s.phaseAt s₀.calls.length = some (.settled result) →
        ∃ state, Final s₀.calls.length c b after s state ∧
          ∀ more t, gateRun N S s more = some t → t.capabilities c = some ⟨state, b⟩) ∧
    ((∀ b, s₀.capabilities c ≠ some ⟨.available, b⟩) →
      (consumeStep s₀ c attempt).capabilities = s₀.capabilities ∧
      (∃ e, (consumeStep s₀ c attempt).phaseAt s₀.calls.length = some (.settled (.error e))) ∧
      ∀ c argument, .started s₀.calls.length c argument ∉ s.trace) ∧
    ∀ (k : ℕ) (call : Call P A), s.calls[k]? = some call →
      (call.phase.validates = true →
        (∃ capabilities, rejectCapability s.capabilities call.capability = .ok capabilities) ∧
          ∃ capabilities, beginConsumption s.capabilities call.capability = .ok capabilities) ∧
      (call.phase = .executing → ∀ success, ∃ capabilities,
        completeConsumption s.capabilities call.capability success = .ok capabilities) := by
  have hs₀ : Invariant s₀ := gateRun_invariant hbefore
  have hs₁ := hs₀.consumeStep c attempt
  have hs : Invariant s := Machine.run_invariant (fun _ _ _ hs hstep => hs.gateStep hstep) hafter hs₁
  -- calls that are still to come have started nothing
  have hfresh : ∀ c argument, .started s₀.calls.length c argument ∉ s₀.trace := by
    intro c' argument hmem
    exact Nat.lt_irrefl _ (hs₀.fresh _ hmem _ rfl)
  refine ⟨?_, ?_, fun k call hcall => helpers_ok hs hcall⟩
  · intro b hb result hresult
    have hconsume : consumeStep s₀ c attempt = { s₀ with
        capabilities := setState s₀.capabilities c ⟨.available, b⟩ .validating
        calls := s₀.calls ++ [⟨c, attempt, .firstClock b⟩] } := by
      rw [consumeStep, reserveCapability, hb]
      rfl
    have hcall : (consumeStep s₀ c attempt).calls[s₀.calls.length]? =
        some ⟨c, attempt, .firstClock b⟩ := by
      rw [hconsume]
      exact List.getElem?_concat_length
    have hlife : Life s₀.calls.length c b ([] : List (Action A)) (consumeStep s₀ c attempt) := by
      refine .validating (.firstClock b) ?_ rfl ?_ ?_ fun _ => List.not_mem_nil
      · rw [GateState.phaseAt, hcall, Option.map_some]
      · rw [hconsume]
        exact Function.update_self _ _ _
      · rw [hconsume]
        exact hfresh
    obtain ⟨hend, hk⟩ := hlife.run hs₁ ⟨_, hcall, rfl⟩ hafter
    rw [List.nil_append] at hend
    obtain ⟨state, hfinal⟩ := hend.final hresult
    refine ⟨state, hfinal, ?_⟩
    intro more t hmore
    exact (hend.capability_run hs hk hresult hmore).trans hfinal.capability
  · intro hnot
    obtain ⟨e, he⟩ := consumeStep_refused hnot attempt
    have hphase : (consumeStep s₀ c attempt).phaseAt s₀.calls.length =
        some (.settled (.error e)) := by
      rw [he, GateState.phaseAt, List.getElem?_concat_length]
      rfl
    refine ⟨by rw [he], ⟨e, hphase⟩, ?_⟩
    intro c' argument hmem
    have hold := ((settled_run hs₁ hphase hafter).2 c' argument).mp hmem
    rw [he] at hold
    exact hfresh c' argument hold

/-- The issuance of the capability 7. -/
def sampleIssuance : Action ℕ :=
  .issue 7 (List.replicate 16 0) (.ofData sampleInput) (.string (js "2026-01-02T04:00:00.000Z"))

/-- The answers of the callbacks to a call that consumes it. -/
def sampleAnswers : List (Action ℕ) :=
  [.clock 0 (sampleClock "2026-01-02T03:04:05.000Z"),
    .observer 0 (.resolved (.ofData sampleObservation)),
    .clock 0 (sampleClock "2026-01-02T03:04:06.000Z"), .downstream 0 (.resolved .null)]

/-- The call has settled. -/
def isSettled {P : DateParser} (s : GateState P ℕ) (k : ℕ) : Bool :=
  (s.calls[k]?).any fun call => !call.phase.active

theorem phaseAt_of_isSettled {P : DateParser} {s : GateState P ℕ} {k : ℕ}
    (h : isSettled s k = true) : ∃ result, s.phaseAt k = some (.settled result) := by
  unfold isSettled at h
  cases hcall : s.calls[k]? with
  | none =>
    rw [hcall] at h
    cases h
  | some call =>
  rw [hcall, Option.any_some] at h
  obtain ⟨c, attempt, phase⟩ := call
  cases phase with
  | settled result => exact ⟨result, by rw [GateState.phaseAt, hcall]; rfl⟩
  | firstClock b => cases h
  | observing b => cases h
  | secondClock b observed => cases h
  | executing => cases h

/-- What the state shows after the issuance and the answers, and after the issuance and two calls.
    Both runs are evaluated together, since they begin with the same issuance. -/
theorem sampleIssuance_runs :
    ((gateRun devanagari sha256 (.initial : GateState Date.isoReader ℕ)
      [sampleIssuance]).bind fun s₀ => (gateRun devanagari sha256 (consumeStep s₀ 7 0)
        sampleAnswers).map fun s =>
          ((s₀.capabilities 7).map fun r => r.state, isSettled s s₀.calls.length)) =
      some (some .available, true) ∧
    (gateRun devanagari sha256 (.initial : GateState Date.isoReader ℕ)
      [sampleIssuance, .consume 7 0, .consume 7 1]).map (fun s =>
        ((s.capabilities 7).map fun r => r.state, isSettled s 1,
          (s.calls[1]?).map Call.capability)) = some (some .validating, true, some 7) := by
  rw [sha256_eq_strict]
  decide +kernel

theorem gate_lifecycle_sample :
    ∃ s₀ s, ∃ b : ExactBinding Date.isoReader,
      gateRun devanagari sha256 .initial [sampleIssuance] = some s₀ ∧
      gateRun devanagari sha256 (consumeStep s₀ 7 0) sampleAnswers = some s ∧
      ∃ state, Final s₀.calls.length 7 b sampleAnswers s state := by
  obtain ⟨s₀, hbefore, hsample⟩ := Option.bind_eq_some_iff.mp sampleIssuance_runs.1
  obtain ⟨s, hafter, hsample⟩ := Option.map_eq_some_iff.mp hsample
  obtain ⟨havailable, hsettled⟩ := Prod.mk.inj hsample
  obtain ⟨⟨state, b⟩, hb, hstate⟩ := Option.map_eq_some_iff.mp havailable
  obtain rfl : state = .available := hstate
  obtain ⟨result, hresult⟩ := phaseAt_of_isSettled hsettled
  obtain ⟨final, hfinal, -⟩ := (gate_lifecycle hbefore hafter).1 b hb result hresult
  exact ⟨s₀, s, b, hbefore, hafter, final, hfinal⟩

/-- A second call settles while the first one still validates the capability. -/
theorem not_settled_final :
    ¬ ∀ (actions : List (Action ℕ)) (s : GateState Date.isoReader ℕ),
      gateRun devanagari sha256 .initial actions = some s →
      ∀ k result, s.phaseAt k = some (.settled result) →
        ∀ call, s.calls[k]? = some call → ∃ state b,
          s.capabilities call.capability = some ⟨state, b⟩ ∧
            (state = .rejected ∨ state = .consumedSuccess ∨ state = .consumedError) := by
  intro h
  obtain ⟨s, hs, hsample⟩ := Option.map_eq_some_iff.mp sampleIssuance_runs.2
  obtain ⟨hvalidating, hsample⟩ := Prod.mk.inj hsample
  obtain ⟨hsettled, hseven⟩ := Prod.mk.inj hsample
  obtain ⟨call, hcall, hcapability⟩ := Option.map_eq_some_iff.mp hseven
  obtain ⟨result, hresult⟩ := phaseAt_of_isSettled hsettled
  obtain ⟨state, b, hcap, hfinal⟩ := h _ s hs 1 result hresult call hcall
  rw [hcapability] at hcap
  rw [hcap] at hvalidating
  obtain rfl : state = .validating := Option.some.inj hvalidating
  rcases hfinal with hfinal | hfinal | hfinal <;> cases hfinal

end OpenRisk.Core
