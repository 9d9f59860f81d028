import OpenRisk.Core.Gate

/-!
# Steps of the Gate, seen by its callers

A component that drives the Gate needs to know what a step does to the call it is about,
that other calls are not touched, and which steps issue a capability.

Results:
* `gateStep_clock`, `gateStep_observer`, `gateStep_downstream`: the next phase of the call.
* `gateStep_issue`, `gateStep_consume`: an issuance and the call that uses it.
-/

namespace OpenRisk.Core

open Text

variable {P : DateParser} {A : Type}

/-- The bindings of the capabilities that were issued, in order. -/
def issuedOf (trace : List (Event P)) : List (ExactBinding P) :=
  trace.filterMap fun
    | .issued _ binding => some binding
    | _ => none

theorem issuedOf_append {trace more : List (Event P)} :
    issuedOf (trace ++ more) = issuedOf trace ++ issuedOf more :=
  List.filterMap_append

/-- The phase of a call. -/
def GateState.phaseAt (s : GateState P A) (call : ℕ) : Option (Phase P) := (s.calls[call]?).map Call.phase

/-- A step that takes one call to another phase and issues nothing. -/
structure CallStep (s s' : GateState P A) (call : ℕ) (phase : Phase P) : Prop where
  calls : s'.calls = s.calls.modify call fun c => { c with phase }
  issued : issuedOf s'.trace = issuedOf s.trace

section CallStep

variable {s s' : GateState P A} {call : ℕ} {phase : Phase P}

theorem CallStep.phaseAt_of_ne (h : CallStep s s' call phase) {j : ℕ} (hj : j ≠ call) :
    s'.phaseAt j = s.phaseAt j := by
  rw [GateState.phaseAt, GateState.phaseAt, h.calls, List.getElem?_modify]
  simp [Ne.symm hj]

theorem CallStep.phaseAt_self (h : CallStep s s' call phase) {old : Phase P}
    (hold : s.phaseAt call = some old) : s'.phaseAt call = some phase := by
  obtain ⟨c, hc, -⟩ := Option.map_eq_some_iff.mp hold
  rw [GateState.phaseAt, h.calls, List.getElem?_modify, hc]
  simp

theorem CallStep.length (h : CallStep s s' call phase) : s'.calls.length = s.calls.length := by
  rw [h.calls, List.length_modify]

theorem callStep_setPhase {t : GateState P A} (hcalls : t.calls = s.calls)
    (hissued : issuedOf t.trace = issuedOf s.trace) (phase : Phase P) :
    CallStep s (t.setPhase call phase) call phase where
  calls := by rw [GateState.setPhase, hcalls]
  issued := hissued

theorem callStep_reject {t : GateState P A} (hcalls : t.calls = s.calls)
    (hissued : issuedOf t.trace = issuedOf s.trace) (capability : ObjectId) (error : GateError) :
    ∃ e, CallStep s (t.reject call capability error) call (.settled (.error e)) := by
  unfold GateState.reject
  split
  · rename_i capabilities _
    have ht : ({ t with capabilities } : GateState P A).calls = s.calls := hcalls
    exact ⟨error, callStep_setPhase ht hissued _⟩
  · rename_i stale _
    exact ⟨stale, callStep_setPhase hcalls hissued _⟩

theorem issuedOf_log_sampled (t : GateState P A) (call : ℕ) (ms : ℤ) :
    issuedOf (t.log [.sampled call ms]).trace = issuedOf t.trace := by
  rw [GateState.log, issuedOf_append]
  exact List.append_nil _

theorem callStep_clockStep {next : GateState P A → GateState P A} (Q : Phase P → Prop)
    (capability : ObjectId) (binding : ExactBinding P) (answer : SyncAnswer)
    (hnext : ∀ t : GateState P A, t.calls = s.calls → issuedOf t.trace = issuedOf s.trace →
      ∃ phase, CallStep s (next t) call phase ∧ Q phase)
    (herror : ∀ e, Q (.settled (.error e))) :
    ∃ phase, CallStep s (clockStep s call capability binding answer next) call phase ∧ Q phase := by
  have hreject : ∀ t : GateState P A, t.calls = s.calls → issuedOf t.trace = issuedOf s.trace →
      ∀ error, ∃ phase, CallStep s (t.reject call capability error) call phase ∧ Q phase := by
    intro t hcalls hissued error
    obtain ⟨e, he⟩ := callStep_reject hcalls hissued capability error
    exact ⟨_, he, herror e⟩
  unfold clockStep
  split
  · exact hreject s rfl rfl _
  · rename_i now hnow
    split
    · refine hreject (s.log [.sampled call now.ms]) rfl ?_ _
      exact issuedOf_log_sampled s call now.ms
    · have hissued := issuedOf_log_sampled
        ({ s with lastTrustedTimeMs := some now.ms } : GateState P A) call now.ms
      dsimp only
      split
      · exact hreject (GateState.log { s with lastTrustedTimeMs := some now.ms } _) rfl hissued _
      · exact hnext (GateState.log { s with lastTrustedTimeMs := some now.ms } _) rfl hissued

theorem callStep_startDownstream {t : GateState P A} (hcalls : t.calls = s.calls)
    (hissued : issuedOf t.trace = issuedOf s.trace) (capability : ObjectId) (observed : Observed) :
    ∃ phase, CallStep s (startDownstream call capability observed t) call phase ∧
      (phase = .executing ∨ ∃ e, phase = .settled (.error e)) := by
  unfold startDownstream
  split
  · refine ⟨.executing, ⟨?_, ?_⟩, .inl rfl⟩
    · simp only [GateState.log, GateState.setPhase, hcalls]
    · rw [GateState.log, issuedOf_append, ← hissued]
      exact List.append_nil _
  · rename_i e _
    exact ⟨_, callStep_setPhase hcalls hissued _, .inr ⟨e, rfl⟩⟩

theorem callStep_failDownstream (s : GateState P A) (call : ℕ) (capability : ObjectId) :
    ∃ e, CallStep s (failDownstream s call capability) call (.settled (.error e)) := by
  unfold failDownstream
  split
  · rename_i capabilities _
    have ht : ({ s with capabilities } : GateState P A).calls = s.calls := rfl
    exact ⟨downstreamFailed, callStep_setPhase ht rfl _⟩
  · rename_i e _
    exact ⟨e, callStep_setPhase rfl rfl _⟩

end CallStep

section Steps

variable {N : Normalization} {S : Hash} {s s' : GateState P A} {call : ℕ}

/-- A clock reading: the call goes on to the observation or the execution, or is refused. -/
theorem gateStep_clock {answer : SyncAnswer} (h : gateStep N S s (.clock call answer) = some s') :
    (∃ binding phase, s.phaseAt call = some (.firstClock binding) ∧ CallStep s s' call phase ∧
      (phase = .observing binding ∨ ∃ e, phase = .settled (.error e))) ∨
    ∃ binding observed phase, s.phaseAt call = some (.secondClock binding observed) ∧
      CallStep s s' call phase ∧ (phase = .executing ∨ ∃ e, phase = .settled (.error e)) := by
  simp only [gateStep] at h
  split at h
  · rename_i capability attempt binding hcall
    cases h
    obtain ⟨phase, hstep, hphase⟩ := callStep_clockStep
      (fun phase => phase = .observing binding ∨ ∃ e, phase = .settled (.error e))
      capability binding answer
      (fun t hcalls hissued => ⟨_, callStep_setPhase hcalls hissued _, .inl rfl⟩)
      fun e => .inr ⟨e, rfl⟩
    exact .inl ⟨binding, phase, by rw [GateState.phaseAt, hcall]; rfl, hstep, hphase⟩
  · rename_i capability attempt binding observed hcall
    cases h
    obtain ⟨phase, hstep, hphase⟩ := callStep_clockStep
      (fun phase => phase = .executing ∨ ∃ e, phase = .settled (.error e))
      capability binding answer
      (fun t hcalls hissued => callStep_startDownstream hcalls hissued capability observed)
      fun e => .inr ⟨e, rfl⟩
    exact .inr ⟨binding, observed, phase, by rw [GateState.phaseAt, hcall]; rfl, hstep, hphase⟩
  · cases h

/-- The end of an observation: the call goes on if the answer fits its binding. -/
theorem gateStep_observer {answer : ObserverAnswer}
    (h : gateStep N S s (.observer call answer) = some s') :
    ∃ binding phase, s.phaseAt call = some (.observing binding) ∧ CallStep s s' call phase ∧
      ((∃ v observed, answer = .resolved v ∧ validateObservedBinding v = .ok observed ∧
        exactBindingMatches binding observed = true ∧ phase = .secondClock binding observed) ∨
        ∃ e, phase = .settled (.error e)) := by
  simp only [gateStep] at h
  split at h
  · rename_i capability attempt binding hcall
    cases h
    have hphase : s.phaseAt call = some (.observing binding) := by rw [GateState.phaseAt, hcall]; rfl
    have hreject : ∀ t : GateState P A, t.calls = s.calls → issuedOf t.trace = issuedOf s.trace →
        ∀ error, ∃ e, CallStep s (t.reject call capability error) call (.settled (.error e)) :=
      fun t hcalls hissued => callStep_reject hcalls hissued capability
    unfold observerStep
    split
    · obtain ⟨e, he⟩ := hreject s rfl rfl _
      exact ⟨binding, _, hphase, he, .inr ⟨e, rfl⟩⟩
    · obtain ⟨e, he⟩ := hreject s rfl rfl _
      exact ⟨binding, _, hphase, he, .inr ⟨e, rfl⟩⟩
    · rename_i v
      have hissued : issuedOf (s.log [.observed call v]).trace = issuedOf s.trace := by
        rw [GateState.log, issuedOf_append]
        exact List.append_nil _
      dsimp only
      split
      · obtain ⟨e, he⟩ := hreject (s.log [.observed call v]) rfl hissued _
        exact ⟨binding, _, hphase, he, .inr ⟨e, rfl⟩⟩
      · rename_i observed hobserved
        split_ifs with hmatch
        · have ht : (s.log [.observed call v]).calls = s.calls := rfl
          exact ⟨binding, _, hphase, callStep_setPhase ht hissued _,
            .inl ⟨v, observed, rfl, hobserved, hmatch, rfl⟩⟩
        · obtain ⟨e, he⟩ := hreject (s.log [.observed call v]) rfl hissued _
          exact ⟨binding, _, hphase, he, .inr ⟨e, rfl⟩⟩
  · cases h

/-- The end of an execution settles the call. -/
theorem gateStep_downstream {answer : DownstreamAnswer}
    (h : gateStep N S s (.downstream call answer) = some s') :
    s.phaseAt call = some .executing ∧ ∃ result, CallStep s s' call (.settled result) := by
  simp only [gateStep] at h
  split at h
  · rename_i capability attempt hcall
    cases h
    refine ⟨by rw [GateState.phaseAt, hcall]; rfl, ?_⟩
    unfold downstreamStep
    split
    · obtain ⟨e, he⟩ := callStep_failDownstream s call capability
      exact ⟨_, he⟩
    · rename_i v
      split
      · rename_i capabilities _
        have ht : ({ s with capabilities } : GateState P A).calls = s.calls := rfl
        exact ⟨.ok v, callStep_setPhase ht rfl _⟩
      · obtain ⟨e, he⟩ := callStep_failDownstream s call capability
        exact ⟨_, he⟩
  · cases h

/-- An issuance leaves the calls as they are; it stores the binding as available, or fails
    and changes nothing. -/
theorem gateStep_issue {capability : ObjectId} {randomBytes : List UInt8}
    {bindingInput witnessValidUntil : HostValue}
    (h : gateStep N S s (.issue capability randomBytes bindingInput witnessValidUntil) = some s') :
    (∃ error, prepareReferenceExactAuthorizationRecord P N S bindingInput witnessValidUntil
        (.string (js "cap-" ++ randomBytes.flatMap hexByte)) = .error error ∧ s' = s) ∨
    ∃ prepared, prepareReferenceExactAuthorizationRecord P N S bindingInput witnessValidUntil
        (.string (js "cap-" ++ randomBytes.flatMap hexByte)) = .ok prepared ∧
      s'.calls = s.calls ∧ issuedOf s'.trace = issuedOf s.trace ++ [prepared.binding] ∧
      s'.capabilities capability = some ⟨.available, prepared.binding⟩ := by
  simp only [gateStep, issueStep] at h
  split_ifs at h
  split at h
  · rename_i prepared hprepared
    cases h
    refine .inr ⟨prepared, hprepared, rfl, ?_, Function.update_self _ _ _⟩
    rw [GateState.log, issuedOf_append]
    rfl
  · rename_i error herror
    cases h
    exact .inl ⟨error, herror, rfl⟩

/-- A call of `consume` with an available capability waits for the clock. -/
theorem gateStep_consume {capability : ObjectId} {attempt : A} {binding : ExactBinding P}
    (hcap : s.capabilities capability = some ⟨.available, binding⟩)
    (h : gateStep N S s (.consume capability attempt) = some s') :
    s'.calls = s.calls ++ [⟨capability, attempt, .firstClock binding⟩] ∧ s'.trace = s.trace := by
  simp only [gateStep, consumeStep, reserveCapability, hcap] at h
  cases h
  exact ⟨rfl, rfl⟩

end Steps

end OpenRisk.Core
