import OpenRisk.Core.GateSafety
import OpenRisk.Guard.GatewaySafety

/-!
# Identities are spent once

The gateway keeps three sets of identities. The check of all three and the three
insertions stand in one piece of code between two callbacks, so that a step either
reserves three new identities or leaves the sets as they are.

Results:
* `gatewayStep_replay`: what a step does to the sets and to the issued capabilities.
* `gateway_no_replay`: issued capabilities have different identities, and what has been
  reserved is refused for ever.
* `gatewayRun_refines_gate`: the Gate of a gateway makes a run of its own.
-/

namespace OpenRisk.Guard

open Text Sdk
open OpenRisk.Core

/-- The identities that were reserved, in order. -/
def reservationsOf (trace : List GatewayEvent) : List Identities :=
  trace.filterMap fun
    | .reserved _ i => some i
    | _ => none

theorem reservationsOf_append {trace events : List GatewayEvent} :
    reservationsOf (trace ++ events) = reservationsOf trace ++ reservationsOf events :=
  List.filterMap_append

/-- The identities differ in each place. -/
structure Identities.Apart (i j : Identities) : Prop where
  runId : i.runId ≠ j.runId
  preflightReceiptHash : i.preflightReceiptHash ≠ j.preflightReceiptHash
  witnessAckHash : i.witnessAckHash ≠ j.witnessAckHash

/-- The identities of a binding. -/
def identitiesOf {P : DateParser} (binding : ExactBinding P) : Identities :=
  ⟨binding.runId.val, binding.preflightReceiptHash.val, binding.witnessAckHash.val⟩

section Step

variable {U : UrlParser} {N : Normalization} {S : Hash} {P : DateParser} {b : Bootstrap U}
variable {s s' : GatewayState P}

/-- The three sets and the reservations are the same. -/
structure SameSets (s s' : GatewayState P) : Prop where
  runIds : s'.usedRunIds = s.usedRunIds
  preflightHashes : s'.usedPreflightHashes = s.usedPreflightHashes
  witnessHashes : s'.usedWitnessHashes = s.usedWitnessHashes
  reservations : reservationsOf s'.trace = reservationsOf s.trace

/-- What a step does to the sets and to the issued capabilities. -/
inductive ReplayStep (s s' : GatewayState P) : Prop where
  | stays (sets : SameSets s s') (issued : issuedOf s'.gate.trace = issuedOf s.gate.trace)
  | reserves {k : ℕ} {i : Identities} (new : s.replayed i = false) (sets : SameSets (s.reserve k i) s')
      (issued : issuedOf s'.gate.trace = issuedOf s.gate.trace ∨
        ∃ binding, identitiesOf binding = i ∧
          issuedOf s'.gate.trace = issuedOf s.gate.trace ++ [binding])

theorem sameSets_log {events : List GatewayEvent} (h : reservationsOf events = []) :
    SameSets s (s.log events) := by
  refine ⟨rfl, rfl, rfl, ?_⟩
  rw [GatewayState.log, reservationsOf_append, h, List.append_nil]

theorem reservationsOf_sampled (k : ℕ) (new : List Sample) :
    reservationsOf (new.map (.sampled k)) = [] := by
  rw [reservationsOf, List.filterMap_map]
  simp

theorem sameSets_sampleStep {k : ℕ} {r : Request P} {site : Site} {sampling : Sampling}
    {answer : SampleAnswer} (h : sampleStep U N S b s k r site sampling answer = some s') :
    SameSets s s' := by
  obtain ⟨⟨new, progress⟩, -, rfl⟩ := Option.map_eq_some_iff.mp h
  have hlog : SameSets s (s.log (new.map (.sampled k))) := sameSets_log (reservationsOf_sampled k new)
  cases progress with
  | waiting sampling => exact ⟨rfl, rfl, rfl, hlog.reservations⟩
  | failed error => exact ⟨rfl, rfl, rfl, hlog.reservations⟩
  | done c =>
    cases site with
    | atRequest => exact ⟨rfl, rfl, rfl, hlog.reservations⟩
    | atObservation e call =>
      simp only [sampleDone]
      split <;> exact ⟨rfl, rfl, rfl, hlog.reservations⟩
    | beforeCheck e call prepared =>
      simp only [sampleDone]
      split <;> exact ⟨rfl, rfl, rfl, hlog.reservations⟩
    | beforeForward e call prepared request =>
      simp only [sampleDone]
      split_ifs
      · refine ⟨rfl, rfl, rfl, ?_⟩
        exact (reservationsOf_append.trans (List.append_nil _)).trans hlog.reservations
      · exact ⟨rfl, rfl, rfl, hlog.reservations⟩

theorem sameSets_gateContinue {k : ℕ} {e : Evaluation} {call : ℕ} {argument : JsValue}
    {action : Action Attempt} (h : gateContinue N S s k e call argument action = some s') :
    SameSets s s' := by
  obtain ⟨gate, -, rfl⟩ := Option.map_eq_some_iff.mp h
  exact ⟨rfl, rfl, rfl, rfl⟩

/-- Every step leaves the sets as they are, or reserves three new identities, and issues a
    capability only with the identities it reserves. -/
theorem gatewayStep_replay {action : GatewayAction}
    (h : gatewayStep U N S b s action = some s') : ReplayStep s s' := by
  cases gatewayStep_cases U N S b h with
  | request v h =>
    rw [h, requestStep]
    split
    · exact .stays ⟨rfl, rfl, rfl, rfl⟩ rfl
    · exact .stays ⟨rfl, rfl, rfl, rfl⟩ rfl
  | sample answer hr hphase h =>
    refine .stays (sameSets_sampleStep h) ?_
    rw [gate_sampleStep h]
  | clock answer hr hphase h =>
    rw [h, clockAnswer]
    split
    · exact .stays ⟨rfl, rfl, rfl, rfl⟩ rfl
    · split
      · exact .stays ⟨rfl, rfl, rfl, rfl⟩ rfl
      · exact .stays ⟨rfl, rfl, rfl, reservationsOf_append.trans (List.append_nil _)⟩ rfl
  | supplier answer capability randomBytes hr hphase h =>
    rcases supplierStep_cases h with ⟨error, rfl⟩ | ⟨i, hnew, ⟨error, rfl⟩ | ⟨gate, binding, rfl, hfor⟩⟩
    · exact .stays ⟨rfl, rfl, rfl, rfl⟩ rfl
    · exact .reserves hnew ⟨rfl, rfl, rfl, rfl⟩ (.inl rfl)
    · refine .reserves hnew ⟨rfl, rfl, rfl, rfl⟩ (.inr ⟨binding, ?_, hfor.issued⟩)
      rw [identitiesOf, hfor.runId, hfor.preflightReceiptHash, hfor.witnessAckHash]
  | gateClock answer hr hphase h =>
    refine .stays (sameSets_gateContinue h) ?_
    obtain ⟨gate, hgate, rfl⟩ := Option.map_eq_some_iff.mp h
    rcases gateStep_clock hgate with ⟨_, _, -, hstep, -⟩ | ⟨_, _, _, -, hstep, -⟩
    · exact hstep.issued
    · exact hstep.issued
  | observed hr hphase h =>
    refine .stays (sameSets_gateContinue h) ?_
    obtain ⟨gate, hgate, rfl⟩ := Option.map_eq_some_iff.mp h
    obtain ⟨_, _, -, hstep, -⟩ := gateStep_observer hgate
    exact hstep.issued
  | executed answer hr hphase h =>
    refine .stays (sameSets_gateContinue h) ?_
    obtain ⟨gate, hgate, rfl⟩ := Option.map_eq_some_iff.mp h
    obtain ⟨-, _, hstep⟩ := gateStep_downstream hgate
    exact hstep.issued

end Step

/-! ## Runs -/

section Run

variable {U : UrlParser} {N : Normalization} {S : Hash} {P : DateParser} {b : Bootstrap U}
variable {s s' : GatewayState P}

/-- The identities are in the sets. -/
structure Used (s : GatewayState P) (i : Identities) : Prop where
  runId : i.runId ∈ s.usedRunIds
  preflightReceiptHash : i.preflightReceiptHash ∈ s.usedPreflightHashes
  witnessAckHash : i.witnessAckHash ∈ s.usedWitnessHashes

theorem replayed_eq_false {i : Identities} : s.replayed i = false ↔
    i.runId ∉ s.usedRunIds ∧ i.preflightReceiptHash ∉ s.usedPreflightHashes ∧
      i.witnessAckHash ∉ s.usedWitnessHashes := by
  simp [GatewayState.replayed, and_assoc]

/-- Identities in the sets are apart from those that pass the check. -/
theorem Used.apart {i j : Identities} (hi : Used s i) (hj : s.replayed j = false) : i.Apart j := by
  obtain ⟨h₁, h₂, h₃⟩ := replayed_eq_false.mp hj
  exact ⟨fun h => h₁ (h ▸ hi.runId), fun h => h₂ (h ▸ hi.preflightReceiptHash),
    fun h => h₃ (h ▸ hi.witnessAckHash)⟩

/-- A step keeps what is in the sets, and a reservation adds its identities. -/
theorem ReplayStep.used (h : ReplayStep s s') {i : Identities} (hi : Used s i) : Used s' i := by
  cases h with
  | stays sets issued =>
    obtain ⟨h₁, h₂, h₃, -⟩ := sets
    exact ⟨h₁ ▸ hi.runId, h₂ ▸ hi.preflightReceiptHash, h₃ ▸ hi.witnessAckHash⟩
  | reserves new sets issued =>
    obtain ⟨h₁, h₂, h₃, -⟩ := sets
    exact ⟨h₁ ▸ List.mem_insert_of_mem hi.runId, h₂ ▸ List.mem_insert_of_mem hi.preflightReceiptHash,
      h₃ ▸ List.mem_insert_of_mem hi.witnessAckHash⟩

/-- What holds of reservations and issued capabilities in every state. -/
structure ReplayInvariant (s : GatewayState P) : Prop where
  used : ∀ i ∈ reservationsOf s.trace, Used s i
  apart : (reservationsOf s.trace).Pairwise Identities.Apart
  issued : ((issuedOf s.gate.trace).map identitiesOf).Sublist (reservationsOf s.trace)

theorem ReplayInvariant.step (hs : ReplayInvariant s) (h : ReplayStep s s') : ReplayInvariant s' := by
  have hkept : ∀ i ∈ reservationsOf s.trace, Used s' i := fun i hi => h.used (hs.used i hi)
  cases h with
  | stays sets issued =>
    refine ⟨?_, ?_, ?_⟩
    · rw [sets.reservations]
      exact hkept
    · rw [sets.reservations]
      exact hs.apart
    · rw [sets.reservations, issued]
      exact hs.issued
  | reserves new sets issued =>
    rename_i k i
    have hres : reservationsOf s'.trace = reservationsOf s.trace ++ [i] := by
      rw [sets.reservations, GatewayState.reserve, reservationsOf_append]
      rfl
    refine ⟨?_, ?_, ?_⟩
    · intro j hj
      rw [hres, List.mem_append, List.mem_singleton] at hj
      rcases hj with hj | rfl
      · exact hkept j hj
      · obtain ⟨h₁, h₂, h₃, -⟩ := sets
        exact ⟨h₁ ▸ List.mem_insert_self, h₂ ▸ List.mem_insert_self, h₃ ▸ List.mem_insert_self⟩
    · rw [hres, List.pairwise_append]
      refine ⟨hs.apart, List.pairwise_singleton _ _, fun j hj i' hi' => ?_⟩
      rw [List.mem_singleton.mp hi']
      exact (hs.used j hj).apart new
    · rw [hres]
      rcases issued with issued | ⟨binding, hbinding, issued⟩
      · rw [issued]
        exact hs.issued.trans (List.sublist_append_left _ _)
      · rw [issued, List.map_append]
        refine hs.issued.append ?_
        rw [List.map_singleton, hbinding]

theorem gatewayRun_replay {actions : List GatewayAction}
    (h : gatewayRun U N S b .initial actions = some s) : ReplayInvariant s := by
  refine Machine.run_invariant (fun _ _ _ hs hstep => hs.step (gatewayStep_replay hstep)) h ?_
  exact ⟨by simp [GatewayState.initial, reservationsOf], List.Pairwise.nil, List.Sublist.slnil⟩

theorem gatewayRun_used {actions : List GatewayAction} (h : gatewayRun U N S b s actions = some s')
    {i : Identities} (hi : Used s i) : Used s' i :=
  Machine.run_invariant (fun _ _ _ hs hstep => (gatewayStep_replay hstep).used hs) h hi

/-- In every run of a gateway, whatever the callbacks answer and in whatever order: the
    capabilities it has issued differ in run id, preflight hash and witness hash, and have
    identities that were reserved; once identities are reserved, an authorization that
    shares one of them is refused in every later state. -/
theorem gateway_no_replay {actions more : List GatewayAction}
    (h : gatewayRun U N S b .initial actions = some s) (h' : gatewayRun U N S b s more = some s') :
    (issuedOf s.gate.trace).Pairwise (fun x y => (identitiesOf x).Apart (identitiesOf y)) ∧
    (∀ binding ∈ issuedOf s.gate.trace, identitiesOf binding ∈ reservationsOf s.trace) ∧
    ∀ i ∈ reservationsOf s.trace, ∀ j : Identities, ¬ i.Apart j → s'.replayed j = true := by
  have hs := gatewayRun_replay h
  refine ⟨?_, ?_, ?_⟩
  · exact List.pairwise_map.mp (hs.apart.sublist hs.issued)
  · exact fun binding hbinding => hs.issued.subset (List.mem_map_of_mem hbinding)
  · intro i hi j hj
    by_contra hne
    exact hj ((gatewayRun_used h' (hs.used i hi)).apart (Bool.eq_false_iff.mpr hne))

end Run

theorem gateway_no_replay_sample :
    ∃ p s s', normalizePolicy sampleUrls (.ofData samplePolicy) = .ok p ∧
      gatewayRun sampleUrls devanagari sha256 ⟨p, 60000, by decide⟩
        (GatewayState.initial : GatewayState Date.isoParser) sampleGatewayActions = some s ∧
      gatewayRun sampleUrls devanagari sha256 ⟨p, 60000, by decide⟩ s
        [.request (.ofData sampleTransfer)] = some s' ∧
      s.requests.length = 2 ∧ (issuedOf s.gate.trace).length = 1 ∧
      (∀ binding ∈ issuedOf s.gate.trace, identitiesOf binding ∈ reservationsOf s.trace) ∧
      ∀ i ∈ reservationsOf s.trace, ∀ j : Identities, ¬ i.Apart j → s'.replayed j = true := by
  obtain ⟨⟨p, s⟩, hrun, hsummary⟩ := Option.map_eq_some_iff.mp sampleRun_summary
  rw [← sha256_eq_strict] at hrun
  obtain ⟨hp, hs⟩ := sampleRun_eq_some hrun
  simp only [Prod.mk.injEq] at hsummary
  have hnext : gatewayRun sampleUrls devanagari sha256 ⟨p, 60000, by decide⟩ s
      [.request (.ofData sampleTransfer)] = some (requestStep s (.ofData sampleTransfer)) := rfl
  obtain ⟨-, hissued, hrefused⟩ := gateway_no_replay hs hnext
  exact ⟨p, s, _, hp, hs, hnext, hsummary.2.1, hsummary.2.2, hissued, hrefused⟩

/-! ## The Gate of a gateway -/

section Refinement

variable {U : UrlParser} {N : Normalization} {S : Hash} {P : DateParser} {b : Bootstrap U}

/-- In every run of a gateway, its Gate makes a run of its own: the Gate starts at most one
    execution for each capability, and only as the binding of the capability says. -/
theorem gatewayRun_refines_gate {s : GatewayState P} {actions : List GatewayAction}
    (h : gatewayRun U N S b .initial actions = some s) :
    (∃ gateActions, gateRun N S GateState.initial gateActions = some s.gate) ∧
      ∀ c, (startsOf s.gate.trace c).length ≤ 1 ∧
        ∀ k argument, Event.started k c argument ∈ s.gate.trace →
          ∃ binding answer observed first second,
            (∃ state, s.gate.capabilities c = some ⟨state, binding⟩) ∧
            Authorized s.gate.trace k c argument binding answer observed first second := by
  obtain ⟨gateActions, hgate⟩ := gatewayRun_gate h
  have hs := gateRun_invariant hgate
  refine ⟨⟨gateActions, hgate⟩, fun c => ⟨?_, fun k argument hmem => ?_⟩⟩
  · rw [hs.starts c]
    unfold startCount
    split <;> omega
  · obtain ⟨-, binding, answer, observed, first, second, hauth⟩ := hs.started k c argument hmem
    refine ⟨binding, answer, observed, first, second, ?_, hauth⟩
    exact (hs.issued c binding).mp (hauth.order.subset (by simp))

end Refinement

theorem gatewayRun_refines_gate_sample :
    ∃ (p : Policy sampleUrls) (s : GatewayState Date.isoParser),
      gatewayRun sampleUrls devanagari sha256 ⟨p, 60000, by decide⟩ .initial sampleGatewayActions =
        some s ∧
      ∀ c, (startsOf s.gate.trace c).length ≤ 1 := by
  obtain ⟨⟨p, s⟩, hrun, -⟩ := Option.map_eq_some_iff.mp sampleRun_summary
  rw [← sha256_eq_strict] at hrun
  obtain ⟨-, hs⟩ := sampleRun_eq_some hrun
  exact ⟨p, s, hs, fun c => ((gatewayRun_refines_gate hs).2 c).1⟩

end OpenRisk.Guard
