import OpenRisk.Core.ExecutionEvidence
import OpenRisk.Crypto.Sha256Eval
import OpenRisk.Machine.Run

/-!
# What the recorder of execution evidence guarantees

`RecorderMove` says once what a step can do; the invariant and the moves of the handles are
proved from it.

Results:
* `recorderInv_of_run`: the invariant holds in every state that is reached.
* `executionRecorder_protocol`: one evidence for every authorization and handle, the moves of
  a handle, and what `complete` returns.
-/

namespace OpenRisk.Core

open Text Sdk Machine

section Recorder

variable {P : DateParser} {N : Normalization} {S : Hash}

/-! ## Steps -/

/-- A clock reading does not go back. -/
def ClockLe (a b : Option ℤ) : Prop := ∀ t, a = some t → ∃ t', b = some t' ∧ t ≤ t'

theorem ClockLe.refl (a : Option ℤ) : ClockLe a a := fun t ht => ⟨t, ht, le_refl t⟩

/-- The state without the innermost waiting call, after a clock reading. -/
def RecorderState.pop (s : RecorderState P) (rest : List (Waiting P)) (last : Option ℤ) :
    RecorderState P :=
  { s with lastTrustedTimeMs := last, waiting := rest }

/-- What a step can do. -/
inductive RecorderMove (N : Normalization) (S : Hash) (s : RecorderState P) :
    RecorderState P → Prop
  | stay : RecorderMove N S s s
  | begin (authorization : AuthorizationEvidence P) :
      RecorderMove N S s { s with waiting := .begin authorization :: s.waiting }
  | reserve (handle : ℕ) (record : HandleRecord P) (rawOutcome : HostValue)
      (hrecord : s.handles[handle]? = some record) (hopen : record.state = .OPEN) :
      RecorderMove N S s { s with
        handles := s.handles.set handle { record with state := .COMPLETING }
        waiting := .complete handle (planOf N S rawOutcome) :: s.waiting }
  | refuse (authorization : AuthorizationEvidence P) (rest : List (Waiting P)) (last : Option ℤ)
      (hwaiting : s.waiting = .begin authorization :: rest)
      (hlast : ClockLe s.lastTrustedTimeMs last) : RecorderMove N S s (s.pop rest last)
  | opened (authorization : AuthorizationEvidence P) (rest : List (Waiting P)) (now : UtcInstant P)
      (hwaiting : s.waiting = .begin authorization :: rest)
      (hlast : ClockLe s.lastTrustedTimeMs (some now.ms))
      (hwindow : authorization.binding.issuedAt.ms ≤ now.ms ∧
        now.ms < authorization.binding.expiresAt.ms)
      (hfresh : authorization.authorizationCommitment ∉ s.usedAuthorizationCommitments) :
      RecorderMove N S s { s.pop rest (some now.ms) with
        usedAuthorizationCommitments :=
          s.usedAuthorizationCommitments ++ [authorization.authorizationCommitment]
        handles := s.handles ++ [⟨.OPEN, authorization.binding,
          authorization.authorizationCommitment, now, none⟩] }
  | missing (handle : ℕ) (plan : Plan) (rest : List (Waiting P))
      (hwaiting : s.waiting = .complete handle plan :: rest)
      (hrecord : s.handles[handle]? = none) :
      RecorderMove N S s (s.pop rest s.lastTrustedTimeMs)
  | failed (handle : ℕ) (plan : Plan) (rest : List (Waiting P)) (record : HandleRecord P)
      (last : Option ℤ) (hwaiting : s.waiting = .complete handle plan :: rest)
      (hrecord : s.handles[handle]? = some record) (hlast : ClockLe s.lastTrustedTimeMs last) :
      RecorderMove N S s { s.pop rest last with
        handles := s.handles.set handle { record with state := .FAILED } }
  | recorded (handle : ℕ) (plan : Plan) (rest : List (Waiting P)) (record : HandleRecord P)
      (recordedAt : UtcInstant P) (evidence : JsValue)
      (hwaiting : s.waiting = .complete handle plan :: rest)
      (hrecord : s.handles[handle]? = some record)
      (hlast : ClockLe s.lastTrustedTimeMs (some recordedAt.ms))
      (hbuild : buildEvidence N S record plan recordedAt = .ok evidence) :
      RecorderMove N S s { s.pop rest (some recordedAt.ms) with
        handles := s.handles.set handle
          { record with state := .RECORDED, evidence := some evidence }
        localEvidence := s.localEvidence ++ [(handle, evidence)] }

theorem clockLe_sampleExecutionClock {last : Option ℤ} {answer : SyncAnswer} {now : UtcInstant P}
    (h : sampleExecutionClock last answer = .ok now) : ClockLe last (some now.ms) := by
  intro t ht
  subst ht
  cases answer with
  | throws => cases h
  | thenable => cases h
  | thenThrows => cases h
  | value v =>
    obtain ⟨i, -, h⟩ := bind_eq_ok.mp h
    dsimp only at h
    split_ifs at h with hback
    · cases h
    · cases h
      exact ⟨now.ms, rfl, not_lt.mp hback⟩

/-- The reading of a clock that works. -/
theorem sampleExecutionClock_text {last : Option ℤ} {now : UtcInstant P}
    (hlast : ∀ t, last = some t → t ≤ now.ms) :
    sampleExecutionClock last (.value (.string now.text)) = .ok now := by
  have hread : (canonicalExecutionInstant P (some (.string now.text))
      (js "trusted clock")).mapError RecorderError.evidence = .ok now := by
    rw [canonicalExecutionInstant_text]
    rfl
  rw [sampleExecutionClock]
  refine bind_eq_ok.mpr ⟨now, hread, ?_⟩
  cases last with
  | none => rfl
  | some t => exact if_neg (not_lt.mpr (hlast t rfl))

theorem beginAt_eq_ok {s s' : RecorderState P} {authorization : AuthorizationEvidence P}
    {now : UtcInstant P} (h : beginAt s authorization now = .ok s') :
    (authorization.binding.issuedAt.ms ≤ now.ms ∧
        now.ms < authorization.binding.expiresAt.ms) ∧
      authorization.authorizationCommitment ∉ s.usedAuthorizationCommitments ∧
      s' = { s with
        usedAuthorizationCommitments :=
          s.usedAuthorizationCommitments ++ [authorization.authorizationCommitment]
        handles := s.handles ++ [⟨.OPEN, authorization.binding,
          authorization.authorizationCommitment, now, none⟩] } := by
  unfold beginAt at h
  split_ifs at h with hwindow hreplay hcapacity
  · cases h
  · cases h
  · cases h
  · rw [not_or, not_lt, not_le] at hwindow
    cases h
    exact ⟨hwindow, hreplay, rfl⟩

/-- A step does one of the moves. -/
theorem recorderStep_move {s s' : RecorderState P} {a : RecorderAction}
    (h : recorderStep N S s a = some s') : RecorderMove N S s s' := by
  cases a with
  | begin input =>
    simp only [recorderStep] at h
    split at h
    · cases h
      exact .stay
    · cases h
      exact .begin _
  | complete handle rawOutcome =>
    simp only [recorderStep] at h
    split at h
    · cases h
      exact .stay
    · rename_i t ht
      cases h
      unfold reserve at ht
      split at ht
      · cases ht
      · rename_i record hrecord
        split_ifs at ht with hstate
        · cases ht
        · cases ht
          exact .reserve handle record rawOutcome hrecord (not_not.mp hstate)
  | clock answer =>
    simp only [recorderStep] at h
    split at h
    · cases h
    · rename_i authorization rest hwaiting
      split at h
      · cases h
        exact .refuse authorization rest _ hwaiting (.refl _)
      · rename_i now hnow
        have hlast := clockLe_sampleExecutionClock hnow
        split at h
        · cases h
          exact .refuse authorization rest _ hwaiting hlast
        · rename_i t hbegin
          cases h
          obtain ⟨hwindow, hfresh, rfl⟩ := beginAt_eq_ok hbegin
          exact .opened authorization rest now hwaiting hlast hwindow hfresh
    · rename_i handle plan rest hwaiting
      cases h
      unfold completeAt
      split
      · rename_i hrecord
        exact .missing handle plan rest hwaiting hrecord
      · rename_i record hrecord
        split
        · exact .failed handle plan rest record _ hwaiting hrecord (.refl _)
        · rename_i recordedAt hnow
          have hlast := clockLe_sampleExecutionClock hnow
          split
          · exact .failed handle plan rest record _ hwaiting hrecord hlast
          · rename_i evidence hbuild
            exact .recorded handle plan rest record recordedAt evidence hwaiting hrecord hlast hbuild

/-! ## The parts of a state -/

/-- What does not change of a handle. -/
structure Opening (P : DateParser) where
  binding : ExactBinding P
  authorizationCommitment : HashText
  recordingStartedAt : UtcInstant P

def HandleRecord.opening (r : HandleRecord P) : Opening P :=
  ⟨r.binding, r.authorizationCommitment, r.recordingStartedAt⟩

/-- Evidence depends on what does not change of a handle. -/
theorem evidenceOf_congr {r r' : HandleRecord P} (h : r.opening = r'.opening) (plan : Plan)
    (recordedAt : UtcInstant P) (hash : HashText) :
    evidenceOf r plan recordedAt hash = evidenceOf r' plan recordedAt hash := by
  obtain ⟨_, binding, commitment, started, _⟩ := r
  obtain ⟨_, binding', commitment', started', _⟩ := r'
  cases h
  rfl

/-- The state of a handle. -/
def RecorderState.status (s : RecorderState P) (handle : ℕ) : Option HandleStatus :=
  s.handles[handle]?.map fun r => r.state

/-- The evidence of a handle. -/
def RecorderState.evidence (s : RecorderState P) (handle : ℕ) : Option JsValue :=
  s.handles[handle]?.bind fun r => r.evidence

/-- The handle that a waiting call completes. -/
def Waiting.handle : Waiting P → Option ℕ
  | .begin _ => none
  | .complete handle _ => some handle

/-- The handles that waiting calls complete. -/
def RecorderState.busy (s : RecorderState P) : List ℕ := s.waiting.filterMap Waiting.handle

theorem getElem?_set_of_some {α : Type} {l : List α} {i : ℕ} {a : α} (h : l[i]? = some a) (b : α)
    (j : ℕ) : (l.set i b)[j]? = if j = i then some b else l[j]? := by
  obtain ⟨hi, -⟩ := List.getElem?_eq_some_iff.mp h
  rw [List.getElem?_set]
  by_cases hj : i = j
  · rw [if_pos hj, if_pos hi, if_pos hj.symm]
  · rw [if_neg hj, if_neg fun heq => hj heq.symm]

theorem getElem?_concat {α : Type} (l : List α) (a : α) (j : ℕ) :
    (l ++ [a])[j]? = if j = l.length then some a else l[j]? := by
  by_cases hj : j = l.length
  · rw [if_pos hj, hj, List.getElem?_concat_length]
  · rw [if_neg hj, List.getElem?_append]
    split_ifs with hlt
    · rfl
    · rw [List.getElem?_eq_none (by simp; omega), List.getElem?_eq_none (by omega)]

theorem map_set_of_some {α β : Type} {l : List α} {i : ℕ} {a b : α} {f : α → β}
    (h : l[i]? = some a) (hf : f b = f a) : (l.set i b).map f = l.map f := by
  apply List.ext_getElem?
  intro j
  rw [List.getElem?_map, List.getElem?_map, getElem?_set_of_some h]
  split_ifs with hj
  · rw [hj, h, Option.map_some, Option.map_some, hf]
  · rfl

/-! ## Authorizations -/

/-- Every handle has an authorization of its own, and was opened in its window, before the last
    clock reading. -/
structure OpeningsInv (s : RecorderState P) : Prop where
  used : s.usedAuthorizationCommitments =
    (s.handles.map HandleRecord.opening).map Opening.authorizationCommitment
  distinct : s.usedAuthorizationCommitments.Nodup
  window : ∀ o ∈ s.handles.map HandleRecord.opening,
    o.binding.issuedAt.ms ≤ o.recordingStartedAt.ms ∧
      o.recordingStartedAt.ms < o.binding.expiresAt.ms
  started : ∀ o ∈ s.handles.map HandleRecord.opening,
    ∃ last, s.lastTrustedTimeMs = some last ∧ o.recordingStartedAt.ms ≤ last

/-- A step keeps the authorizations, or opens a handle for a new one. -/
theorem RecorderMove.openings {s s' : RecorderState P} (h : RecorderMove N S s s') :
    ClockLe s.lastTrustedTimeMs s'.lastTrustedTimeMs ∧
      ((s'.usedAuthorizationCommitments = s.usedAuthorizationCommitments ∧
          s'.handles.map HandleRecord.opening = s.handles.map HandleRecord.opening) ∨
        ∃ o : Opening P, s'.lastTrustedTimeMs = some o.recordingStartedAt.ms ∧
          (o.binding.issuedAt.ms ≤ o.recordingStartedAt.ms ∧
            o.recordingStartedAt.ms < o.binding.expiresAt.ms) ∧
          o.authorizationCommitment ∉ s.usedAuthorizationCommitments ∧
          s'.usedAuthorizationCommitments =
            s.usedAuthorizationCommitments ++ [o.authorizationCommitment] ∧
          s'.handles.map HandleRecord.opening = s.handles.map HandleRecord.opening ++ [o]) := by
  cases h with
  | stay => exact ⟨.refl _, .inl ⟨rfl, rfl⟩⟩
  | begin authorization => exact ⟨.refl _, .inl ⟨rfl, rfl⟩⟩
  | reserve handle record rawOutcome hrecord hopen =>
    exact ⟨.refl _, .inl ⟨rfl, map_set_of_some hrecord rfl⟩⟩
  | refuse authorization rest last hwaiting hlast => exact ⟨hlast, .inl ⟨rfl, rfl⟩⟩
  | opened authorization rest now hwaiting hlast hwindow hfresh =>
    refine ⟨hlast, .inr ⟨⟨authorization.binding, authorization.authorizationCommitment, now⟩, rfl,
      hwindow, hfresh, rfl, ?_⟩⟩
    exact List.map_append
  | missing handle plan rest hwaiting hrecord => exact ⟨.refl _, .inl ⟨rfl, rfl⟩⟩
  | failed handle plan rest record last hwaiting hrecord hlast =>
    exact ⟨hlast, .inl ⟨rfl, map_set_of_some hrecord rfl⟩⟩
  | recorded handle plan rest record recordedAt evidence hwaiting hrecord hlast hbuild =>
    exact ⟨hlast, .inl ⟨rfl, map_set_of_some hrecord rfl⟩⟩

theorem OpeningsInv.move {s s' : RecorderState P} (hs : OpeningsInv s)
    (h : RecorderMove N S s s') : OpeningsInv s' := by
  obtain ⟨hclock, ⟨hused, hopenings⟩ | ⟨o, hlast, hwindow, hfresh, hused, hopenings⟩⟩ := h.openings
  · refine ⟨?_, ?_, ?_, ?_⟩
    · rw [hused, hopenings, hs.used]
    · rw [hused]
      exact hs.distinct
    · rw [hopenings]
      exact hs.window
    · rw [hopenings]
      intro o ho
      obtain ⟨last, hlast, hle⟩ := hs.started o ho
      obtain ⟨last', hlast', hle'⟩ := hclock last hlast
      exact ⟨last', hlast', hle.trans hle'⟩
  · refine ⟨?_, ?_, ?_, ?_⟩
    · rw [hused, hopenings, hs.used, List.map_append]
      rfl
    · rw [hused]
      exact List.nodup_append.mpr ⟨hs.distinct, List.nodup_singleton _, by
        intro a ha b hb heq
        rw [List.mem_singleton.mp hb] at heq
        exact hfresh (heq ▸ ha)⟩
    · rw [hopenings]
      intro o' ho'
      rcases List.mem_append.mp ho' with ho' | ho'
      · exact hs.window o' ho'
      · rw [List.mem_singleton.mp ho']
        exact hwindow
    · rw [hopenings]
      intro o' ho'
      rcases List.mem_append.mp ho' with ho' | ho'
      · obtain ⟨last, hlast, hle⟩ := hs.started o' ho'
        obtain ⟨last', hlast', hle'⟩ := hclock last hlast
        exact ⟨last', hlast', hle.trans hle'⟩
      · rw [List.mem_singleton.mp ho']
        exact ⟨_, hlast, le_refl _⟩

/-! ## Handles -/

/-- What a step does to a handle. -/
inductive HandleMove (N : Normalization) (S : Hash) (r : HandleRecord P) :
    HandleRecord P → Prop
  | reserve (hopen : r.state = .OPEN) : HandleMove N S r { r with state := .COMPLETING }
  | recorded (plan : Plan) (recordedAt : UtcInstant P) (evidence : JsValue)
      (hcompleting : r.state = .COMPLETING)
      (hbuild : buildEvidence N S r plan recordedAt = .ok evidence) :
      HandleMove N S r { r with state := .RECORDED, evidence := some evidence }
  | failed (hcompleting : r.state = .COMPLETING) : HandleMove N S r { r with state := .FAILED }

/-- A handle is being completed as long as its call waits. -/
structure WaitingInv (s : RecorderState P) : Prop where
  plans : ∀ handle plan, Waiting.complete handle plan ∈ s.waiting → PlanOk plan
  busy : s.busy.Nodup
  completing : ∀ handle, handle ∈ s.busy ↔ s.status handle = some .COMPLETING

theorem status_of_handle {s : RecorderState P} {handle : ℕ} {r : HandleRecord P}
    (h : s.handles[handle]? = some r) : s.status handle = some r.state := by
  rw [RecorderState.status, h, Option.map_some]

/-- The innermost call completes a handle that is being completed. -/
theorem WaitingInv.innermost {s : RecorderState P} (hs : WaitingInv s) {handle : ℕ} {plan : Plan}
    {rest : List (Waiting P)} (hwaiting : s.waiting = .complete handle plan :: rest) :
    s.status handle = some .COMPLETING ∧ handle ∉ rest.filterMap Waiting.handle ∧
      (rest.filterMap Waiting.handle).Nodup ∧
      s.busy = handle :: rest.filterMap Waiting.handle := by
  have hbusy : s.busy = handle :: rest.filterMap Waiting.handle := by
    rw [RecorderState.busy, hwaiting]
    rfl
  have hnodup := hs.busy
  rw [hbusy, List.nodup_cons] at hnodup
  refine ⟨(hs.completing handle).mp ?_, hnodup.1, hnodup.2, hbusy⟩
  rw [hbusy]
  exact List.mem_cons_self

/-- The end of a call that completes a handle. -/
theorem WaitingInv.popComplete {s : RecorderState P} (hs : WaitingInv s) {handle : ℕ} {plan : Plan}
    {rest : List (Waiting P)} (hwaiting : s.waiting = .complete handle plan :: rest)
    {record : HandleRecord P} (hrecord : s.handles[handle]? = some record) {t : RecorderState P}
    {r' : HandleRecord P} (hhandles : t.handles = s.handles.set handle r')
    (hstate : r'.state ≠ .COMPLETING) (ht : t.waiting = rest) : WaitingInv t := by
  obtain ⟨-, hnot, hnodup, hbusy⟩ := hs.innermost hwaiting
  have hbusy' : t.busy = rest.filterMap Waiting.handle := by rw [RecorderState.busy, ht]
  refine ⟨?_, ?_, ?_⟩
  · intro h p hp
    rw [ht] at hp
    exact hs.plans h p (hwaiting ▸ List.mem_cons_of_mem _ hp)
  · rw [hbusy']
    exact hnodup
  · intro h
    rw [hbusy', RecorderState.status, hhandles, getElem?_set_of_some hrecord]
    by_cases hh : h = handle
    · rw [if_pos hh, hh, Option.map_some, Option.some.injEq]
      exact iff_of_false hnot hstate
    · rw [if_neg hh]
      have hold := hs.completing h
      rw [hbusy, List.mem_cons, RecorderState.status] at hold
      rw [← hold]
      constructor
      · exact .inr
      · rintro (heq | hmem)
        · exact absurd heq hh
        · exact hmem

theorem WaitingInv.move {s s' : RecorderState P} (hs : WaitingInv s) (h : RecorderMove N S s s') :
    WaitingInv s' := by
  cases h with
  | stay => exact hs
  | begin authorization =>
    refine ⟨fun h p hp => ?_, hs.busy, hs.completing⟩
    rcases List.mem_cons.mp hp with heq | hp
    · cases heq
    · exact hs.plans h p hp
  | reserve handle record rawOutcome hrecord hopen =>
    have hfree : handle ∉ s.busy := by
      rw [hs.completing, status_of_handle hrecord, hopen]
      decide
    refine ⟨?_, List.nodup_cons.mpr ⟨hfree, hs.busy⟩, ?_⟩
    · intro h p hp
      rcases List.mem_cons.mp hp with heq | hp
      · cases heq
        exact planOk_planOf N S rawOutcome
      · exact hs.plans h p hp
    · intro h
      have hbusy : h ∈ handle :: s.busy ↔ h = handle ∨ s.status h = some .COMPLETING := by
        rw [List.mem_cons, hs.completing]
      refine hbusy.trans ?_
      unfold RecorderState.status
      dsimp only
      rw [getElem?_set_of_some hrecord]
      by_cases hh : h = handle
      · rw [if_pos hh]
        exact iff_of_true (.inl hh) rfl
      · rw [if_neg hh]
        constructor
        · rintro (heq | hstatus)
          · exact absurd heq hh
          · exact hstatus
        · exact .inr
  | refuse authorization rest last hwaiting hlast =>
    have hbusy : (s.pop rest last).busy = s.busy := by
      rw [RecorderState.busy, RecorderState.busy, hwaiting]
      rfl
    refine ⟨fun h p hp => hs.plans h p (hwaiting ▸ List.mem_cons_of_mem _ hp), ?_, ?_⟩
    · rw [hbusy]
      exact hs.busy
    · intro h
      rw [hbusy]
      exact hs.completing h
  | opened authorization rest now hwaiting hlast hwindow hfresh =>
    have hbusy : rest.filterMap Waiting.handle = s.busy := by
      rw [RecorderState.busy, hwaiting]
      rfl
    refine ⟨fun h p hp => hs.plans h p (hwaiting ▸ List.mem_cons_of_mem _ hp), ?_, ?_⟩
    · rw [RecorderState.busy]
      exact hbusy ▸ hs.busy
    · intro h
      have hold := hs.completing h
      rw [RecorderState.status] at hold
      rw [RecorderState.busy, RecorderState.status]
      dsimp only [RecorderState.pop]
      rw [hbusy, hold, getElem?_concat]
      by_cases hh : h = s.handles.length
      · rw [if_pos hh, hh, List.getElem?_eq_none (le_refl _)]
        exact iff_of_false (fun heq => (by cases heq)) (fun heq => (by cases heq))
      · rw [if_neg hh]
  | missing handle plan rest hwaiting hrecord =>
    obtain ⟨hstatus, -⟩ := hs.innermost hwaiting
    rw [RecorderState.status, hrecord] at hstatus
    cases hstatus
  | failed handle plan rest record last hwaiting hrecord hlast =>
    exact hs.popComplete hwaiting hrecord rfl (show HandleStatus.FAILED ≠ .COMPLETING by decide) rfl
  | recorded handle plan rest record recordedAt evidence hwaiting hrecord hlast hbuild =>
    exact hs.popComplete hwaiting hrecord rfl (show HandleStatus.RECORDED ≠ .COMPLETING by decide)
      rfl

/-- Every handle stays, and moves as it may; new handles are open. -/
theorem WaitingInv.handleMove {s s' : RecorderState P} (hs : WaitingInv s)
    (h : RecorderMove N S s s') (handle : ℕ) :
    (∀ r, s.handles[handle]? = some r →
      ∃ r', s'.handles[handle]? = some r' ∧ (r' = r ∨ HandleMove N S r r')) ∧
    (s.handles[handle]? = none → ∀ r', s'.handles[handle]? = some r' →
      r'.state = .OPEN ∧ r'.evidence = none) := by
  have hkeep : s'.handles = s.handles → (∀ r, s.handles[handle]? = some r →
      ∃ r', s'.handles[handle]? = some r' ∧ (r' = r ∨ HandleMove N S r r')) ∧
    (s.handles[handle]? = none → ∀ r', s'.handles[handle]? = some r' →
      r'.state = .OPEN ∧ r'.evidence = none) := by
    intro hhandles
    rw [hhandles]
    refine ⟨fun r hr => ⟨r, hr, .inl rfl⟩, ?_⟩
    intro hnone r' hr'
    rw [hnone] at hr'
    cases hr'
  have hset : ∀ (k : ℕ) (record record' : HandleRecord P), s.handles[k]? = some record →
      s'.handles = s.handles.set k record' → HandleMove N S record record' →
      (∀ r, s.handles[handle]? = some r →
        ∃ r', s'.handles[handle]? = some r' ∧ (r' = r ∨ HandleMove N S r r')) ∧
      (s.handles[handle]? = none → ∀ r', s'.handles[handle]? = some r' →
        r'.state = .OPEN ∧ r'.evidence = none) := by
    intro k record record' hrecord hhandles hmove
    rw [hhandles, getElem?_set_of_some hrecord]
    by_cases hk : handle = k
    · rw [if_pos hk]
      subst hk
      rw [hrecord]
      refine ⟨?_, fun hnone => (by cases hnone)⟩
      intro r hr
      cases hr
      exact ⟨record', rfl, .inr hmove⟩
    · rw [if_neg hk]
      refine ⟨fun r hr => ⟨r, hr, .inl rfl⟩, ?_⟩
      intro hnone r' hr'
      rw [hnone] at hr'
      cases hr'
  have hcompleting : ∀ k plan rest record, s.waiting = .complete k plan :: rest →
      s.handles[k]? = some record → record.state = .COMPLETING := by
    intro k plan rest record hwaiting hrecord
    obtain ⟨hstatus, -⟩ := hs.innermost hwaiting
    rw [status_of_handle hrecord] at hstatus
    exact Option.some.inj hstatus
  cases h with
  | stay => exact hkeep rfl
  | begin authorization => exact hkeep rfl
  | reserve k record rawOutcome hrecord hopen => exact hset k record _ hrecord rfl (.reserve hopen)
  | refuse authorization rest last hwaiting hlast => exact hkeep rfl
  | opened authorization rest now hwaiting hlast hwindow hfresh =>
    dsimp only [RecorderState.pop]
    rw [getElem?_concat]
    by_cases hh : handle = s.handles.length
    · rw [if_pos hh, hh, List.getElem?_eq_none (le_refl _)]
      refine ⟨fun r hr => (by cases hr), ?_⟩
      intro _ r' hr'
      cases hr'
      exact ⟨rfl, rfl⟩
    · rw [if_neg hh]
      refine ⟨fun r hr => ⟨r, hr, .inl rfl⟩, ?_⟩
      intro hnone r' hr'
      rw [hnone] at hr'
      cases hr'
  | missing k plan rest hwaiting hrecord => exact hkeep rfl
  | failed k plan rest record last hwaiting hrecord hlast =>
    exact hset k record _ hrecord rfl (.failed (hcompleting k plan rest record hwaiting hrecord))
  | recorded k plan rest record recordedAt evidence hwaiting hrecord hlast hbuild =>
    exact hset k record _ hrecord rfl
      (.recorded plan recordedAt evidence (hcompleting k plan rest record hwaiting hrecord) hbuild)

/-! ## Recorded evidence -/

/-- The evidence is what is built for the handle, at a time that is not before its start. -/
def EvidenceFor (r : HandleRecord P) (evidence : JsValue) : Prop :=
  ∃ plan recordedAt hash, PlanOk plan ∧ r.recordingStartedAt.ms ≤ recordedAt.ms ∧
    evidence = evidenceOf r plan recordedAt hash

theorem evidenceFor_of_build {r : HandleRecord P} {plan : Plan} {recordedAt : UtcInstant P}
    {evidence : JsValue} (hplan : PlanOk plan) (htime : r.recordingStartedAt.ms ≤ recordedAt.ms)
    (h : buildEvidence N S r plan recordedAt = .ok evidence) : EvidenceFor r evidence := by
  obtain ⟨hash, hbuild⟩ := buildEvidence_ok (N := N) (S := S) r hplan htime
  rw [hbuild] at h
  cases h
  exact ⟨plan, recordedAt, hash, hplan, htime, rfl⟩

/-- A handle has evidence when it is recorded. -/
structure HandleOk (r : HandleRecord P) : Prop where
  recorded : r.state = .RECORDED ↔ r.evidence.isSome = true
  evidence : ∀ e, r.evidence = some e → EvidenceFor r e

theorem HandleOk.evidence_eq_none {r : HandleRecord P} (h : HandleOk r)
    (hstate : r.state ≠ .RECORDED) : r.evidence = none := by
  apply Option.not_isSome_iff_eq_none.mp
  exact fun hsome => hstate (h.recorded.mpr hsome)

/-- A handle without evidence that is not recorded. -/
theorem HandleOk.of_none {r : HandleRecord P} (hstate : r.state ≠ .RECORDED)
    (hevidence : r.evidence = none) : HandleOk r := by
  refine ⟨iff_of_false hstate ?_, ?_⟩
  · rw [hevidence]
    decide
  · intro e he
    rw [hevidence] at he
    cases he

/-- The evidence of the recorder is the evidence of its handles. -/
structure EvidenceInv (s : RecorderState P) : Prop where
  distinct : (s.localEvidence.map Prod.fst).Nodup
  handles : ∀ (handle : ℕ) (r : HandleRecord P), s.handles[handle]? = some r → HandleOk r
  local_iff : ∀ handle evidence,
    (handle, evidence) ∈ s.localEvidence ↔ s.evidence handle = some evidence

theorem EvidenceInv.set {s t : RecorderState P} (hs : EvidenceInv s) {handle : ℕ}
    {record r' : HandleRecord P} (hrecord : s.handles[handle]? = some record)
    (hhandles : t.handles = s.handles.set handle r') (hlocal : t.localEvidence = s.localEvidence)
    (hstate : record.state ≠ .RECORDED) (hstate' : r'.state ≠ .RECORDED)
    (hevidence : r'.evidence = record.evidence) : EvidenceInv t := by
  have hnone := (hs.handles handle record hrecord).evidence_eq_none hstate
  refine ⟨hlocal ▸ hs.distinct, ?_, ?_⟩
  · intro k r hr
    rw [hhandles, getElem?_set_of_some hrecord] at hr
    split_ifs at hr with hk
    · cases hr
      exact .of_none hstate' (hevidence.trans hnone)
    · exact hs.handles k r hr
  · intro k evidence
    rw [hlocal, hs.local_iff, RecorderState.evidence, RecorderState.evidence, hhandles,
      getElem?_set_of_some hrecord]
    by_cases hk : k = handle
    · rw [if_pos hk, hk, hrecord, Option.bind_some, Option.bind_some, hevidence]
    · rw [if_neg hk]

theorem EvidenceInv.move {s s' : RecorderState P} (hs : EvidenceInv s) (hopen : OpeningsInv s)
    (hwait : WaitingInv s) (h : RecorderMove N S s s') : EvidenceInv s' := by
  have hcompleting : ∀ k plan rest record, s.waiting = .complete k plan :: rest →
      s.handles[k]? = some record → record.state ≠ .RECORDED := by
    intro k plan rest record hwaiting hrecord
    obtain ⟨hstatus, -⟩ := hwait.innermost hwaiting
    rw [status_of_handle hrecord, Option.some.injEq] at hstatus
    rw [hstatus]
    decide
  cases h with
  | stay => exact hs
  | begin authorization => exact ⟨hs.distinct, hs.handles, hs.local_iff⟩
  | reserve handle record rawOutcome hrecord hstate =>
    exact hs.set hrecord rfl rfl (by rw [hstate]; decide)
      (show HandleStatus.COMPLETING ≠ .RECORDED by decide) rfl
  | refuse authorization rest last hwaiting hlast => exact ⟨hs.distinct, hs.handles, hs.local_iff⟩
  | opened authorization rest now hwaiting hlast hwindow hfresh =>
    refine ⟨hs.distinct, ?_, ?_⟩
    · intro k r hr
      dsimp only [RecorderState.pop] at hr
      rw [getElem?_concat] at hr
      split_ifs at hr with hk
      · cases hr
        exact .of_none (show HandleStatus.OPEN ≠ .RECORDED by decide) rfl
      · exact hs.handles k r hr
    · intro k evidence
      have hold := hs.local_iff k evidence
      unfold RecorderState.evidence at hold ⊢
      dsimp only [RecorderState.pop]
      rw [hold, getElem?_concat]
      by_cases hk : k = s.handles.length
      · rw [if_pos hk, hk, List.getElem?_eq_none (le_refl _)]
        rfl
      · rw [if_neg hk]
  | missing handle plan rest hwaiting hrecord => exact ⟨hs.distinct, hs.handles, hs.local_iff⟩
  | failed handle plan rest record last hwaiting hrecord hlast =>
    exact hs.set hrecord rfl rfl (hcompleting handle plan rest record hwaiting hrecord)
      (show HandleStatus.FAILED ≠ .RECORDED by decide) rfl
  | recorded handle plan rest record recordedAt evidence hwaiting hrecord hlast hbuild =>
    have hstate := hcompleting handle plan rest record hwaiting hrecord
    have hnone := (hs.handles handle record hrecord).evidence_eq_none hstate
    have hmember : record.opening ∈ s.handles.map HandleRecord.opening :=
      List.mem_map_of_mem (List.mem_of_getElem? hrecord)
    have htime : record.recordingStartedAt.ms ≤ recordedAt.ms := by
      obtain ⟨last, hstarted, hle⟩ := hopen.started record.opening hmember
      obtain ⟨t, ht, hle'⟩ := hlast last hstarted
      cases ht
      exact hle.trans hle'
    have hplan : PlanOk plan := hwait.plans handle plan (hwaiting ▸ List.mem_cons_self)
    have hfor : EvidenceFor record evidence := evidenceFor_of_build hplan htime hbuild
    have hnew : ∀ e, (handle, e) ∉ s.localEvidence := by
      intro e he
      rw [hs.local_iff, RecorderState.evidence, hrecord, Option.bind_some, hnone] at he
      cases he
    refine ⟨?_, ?_, ?_⟩
    · dsimp only [RecorderState.pop]
      rw [List.map_append, List.nodup_append]
      refine ⟨hs.distinct, List.nodup_singleton _, ?_⟩
      intro a ha b hb hab
      rw [List.map_singleton, List.mem_singleton] at hb
      obtain ⟨⟨k, e⟩, he, rfl⟩ := List.mem_map.mp ha
      obtain rfl : k = handle := hab.trans hb
      exact hnew e he
    · intro k r hr
      dsimp only [RecorderState.pop] at hr
      rw [getElem?_set_of_some hrecord] at hr
      split_ifs at hr with hk
      · cases hr
        refine ⟨iff_of_true rfl rfl, ?_⟩
        intro e he
        cases he
        exact hfor
      · exact hs.handles k r hr
    · intro k e
      have hold := hs.local_iff k e
      unfold RecorderState.evidence at hold ⊢
      dsimp only [RecorderState.pop]
      rw [List.mem_append, List.mem_singleton, Prod.mk.injEq, hold, getElem?_set_of_some hrecord]
      by_cases hk : k = handle
      · rw [if_pos hk, hk, hrecord, Option.bind_some, Option.bind_some, hnone, Option.some.injEq]
        constructor
        · rintro (he | ⟨-, rfl⟩)
          · cases he
          · rfl
        · rintro rfl
          exact .inr ⟨rfl, rfl⟩
      · rw [if_neg hk]
        constructor
        · rintro (he | ⟨heq, -⟩)
          · exact he
          · exact absurd heq hk
        · exact .inl

/-! ## Runs -/

/-- What holds in every state that is reached. -/
structure RecorderInv (s : RecorderState P) : Prop where
  openings : OpeningsInv s
  waiting : WaitingInv s
  evidence : EvidenceInv s

theorem recorderInv_initial : RecorderInv (RecorderState.initial P) where
  openings := by
    refine ⟨rfl, List.nodup_nil, ?_, ?_⟩
    · intro o ho
      cases ho
    · intro o ho
      cases ho
  waiting := by
    refine ⟨?_, List.nodup_nil, ?_⟩
    · intro handle plan h
      cases h
    · intro handle
      exact iff_of_false List.not_mem_nil (fun h => (by cases h))
  evidence := by
    refine ⟨List.nodup_nil, ?_, ?_⟩
    · intro handle r h
      cases h
    · intro handle evidence
      exact iff_of_false List.not_mem_nil (fun h => (by cases h))

theorem RecorderInv.move {s s' : RecorderState P} (hs : RecorderInv s)
    (h : RecorderMove N S s s') : RecorderInv s' :=
  ⟨hs.openings.move h, hs.waiting.move h, hs.evidence.move hs.openings hs.waiting h⟩

theorem RecorderInv.run {s s' : RecorderState P} {actions : List RecorderAction}
    (hs : RecorderInv s) (h : run (recorderStep N S) s actions = some s') : RecorderInv s' :=
  run_invariant (fun _ _ _ hs h => hs.move (recorderStep_move h)) h hs

theorem recorderInv_of_run {s : RecorderState P} {actions : List RecorderAction}
    (h : run (recorderStep N S) (.initial P) actions = some s) : RecorderInv s :=
  recorderInv_initial.run h

/-- A new handle. -/
def HandleRecord.fresh (o : Opening P) : HandleRecord P :=
  ⟨.OPEN, o.binding, o.authorizationCommitment, o.recordingStartedAt, none⟩

theorem HandleMove.opening {r r' : HandleRecord P} (h : HandleMove N S r r') :
    r'.opening = r.opening := by
  cases h <;> rfl

theorem opening_of_handleMoves {r r' : HandleRecord P}
    (h : Relation.ReflTransGen (HandleMove N S) r r') : r'.opening = r.opening := by
  induction h with
  | refl => rfl
  | tail _ hmove ih => exact hmove.opening.trans ih

/-- A handle that is recorded or failed does not move. -/
theorem not_handleMove_of_final {r r' : HandleRecord P}
    (h : r.state = .RECORDED ∨ r.state = .FAILED) : ¬ HandleMove N S r r' := by
  intro hmove
  cases hmove with
  | reserve hopen => simp [hopen] at h
  | recorded plan recordedAt evidence hcompleting hbuild => simp [hcompleting] at h
  | failed hcompleting => simp [hcompleting] at h

/-- A handle stays, and its record moves. -/
theorem handleMoves_of_run {s s' : RecorderState P} {actions : List RecorderAction}
    (hs : RecorderInv s) (h : run (recorderStep N S) s actions = some s') (handle : ℕ)
    {r : HandleRecord P} (hr : s.handles[handle]? = some r) :
    ∃ r', s'.handles[handle]? = some r' ∧ Relation.ReflTransGen (HandleMove N S) r r' := by
  induction actions generalizing s r with
  | nil =>
    cases h
    exact ⟨r, hr, .refl⟩
  | cons a actions ih =>
    obtain ⟨t, ht, h⟩ := run_cons.mp h
    have hmove := recorderStep_move ht
    obtain ⟨r₁, hr₁, hstep⟩ := (hs.waiting.handleMove hmove handle).1 r hr
    obtain ⟨r', hr', hrest⟩ := ih (hs.move hmove) h hr₁
    refine ⟨r', hr', ?_⟩
    rcases hstep with rfl | hstep
    · exact hrest
    · exact .head hstep hrest

/-- Every handle began as a new handle. -/
theorem handleMoves_of_fresh {s : RecorderState P} {actions : List RecorderAction}
    (h : run (recorderStep N S) (.initial P) actions = some s) (handle : ℕ) :
    ∀ r, s.handles[handle]? = some r →
      Relation.ReflTransGen (HandleMove N S) (.fresh r.opening) r := by
  have hboth : RecorderInv s ∧ ∀ r, s.handles[handle]? = some r →
      Relation.ReflTransGen (HandleMove N S) (.fresh r.opening) r := by
    refine @run_invariant _ _ (recorderStep N S) (fun s => RecorderInv s ∧
      ∀ r, s.handles[handle]? = some r → Relation.ReflTransGen (HandleMove N S) (.fresh r.opening) r)
      ?_ _ _ _ h ⟨recorderInv_initial, fun r hr => (by cases hr)⟩
    rintro s a s' ⟨hs, hold⟩ hstep
    have hmove := recorderStep_move hstep
    refine ⟨hs.move hmove, ?_⟩
    intro r' hr'
    obtain ⟨hkept, hnew⟩ := hs.waiting.handleMove hmove handle
    cases hr : s.handles[handle]? with
    | none =>
      obtain ⟨hstate, hevidence⟩ := hnew hr r' hr'
      have heq : r' = .fresh r'.opening := by
        obtain ⟨state, binding, commitment, started, evidence⟩ := r'
        cases hstate
        cases hevidence
        rfl
      rw [← heq]
    | some r =>
      obtain ⟨r₁, hr₁, hstep⟩ := hkept r hr
      rw [hr'] at hr₁
      cases hr₁
      rcases hstep with rfl | hstep
      · exact hold r' hr
      · rw [hstep.opening]
        exact .tail (hold r hr) hstep
  exact hboth.2

/-- The evidence of a state is for its handles, which have authorizations of their own. -/
theorem RecorderInv.commitments_nodup {s : RecorderState P} (hs : RecorderInv s) :
    (s.localEvidence.map fun e => e.2.get (js "authorization_commitment")).Nodup := by
  have hhandles : s.localEvidence.Pairwise fun a b => a.1 ≠ b.1 :=
    List.pairwise_map.mp hs.evidence.distinct
  have hcommitment : ∀ e ∈ s.localEvidence, ∃ r, s.handles[e.1]? = some r ∧
      e.2.get (js "authorization_commitment") = some (.string r.authorizationCommitment.val) := by
    rintro ⟨handle, evidence⟩ he
    obtain ⟨r, hr, hevidence⟩ := Option.bind_eq_some_iff.mp ((hs.evidence.local_iff _ _).mp he)
    obtain ⟨plan, recordedAt, hash, -, -, rfl⟩ :=
      (hs.evidence.handles handle r hr).evidence evidence hevidence
    exact ⟨r, hr, rfl⟩
  have hused : (s.handles.map fun r => r.authorizationCommitment).Nodup := by
    have hdistinct := hs.openings.distinct
    rw [hs.openings.used, List.map_map] at hdistinct
    exact hdistinct
  refine List.pairwise_map.mpr (hhandles.imp_of_mem ?_)
  intro a b ha hb hne heq
  obtain ⟨ra, hra, hca⟩ := hcommitment a ha
  obtain ⟨rb, hrb, hcb⟩ := hcommitment b hb
  rw [hca, hcb, Option.some.injEq, JsValue.string.injEq] at heq
  have hlt : a.1 < (s.handles.map fun r => r.authorizationCommitment).length := by
    rw [List.length_map]
    exact (List.getElem?_eq_some_iff.mp hra).1
  apply hne
  apply (List.getElem?_inj hlt hused).mp
  rw [List.getElem?_map, List.getElem?_map, hra, hrb, Option.map_some, Option.map_some,
    Subtype.ext heq]

/-! ## The end of a call -/

/-- The evidence has the status and the commitment of an exact outcome, and is unknown for every
    other outcome. -/
structure Reports (N : Normalization) (S : Hash) (rawOutcome : HostValue) (evidence : JsValue) :
    Prop where
  exact : ∀ status (commitment : HashText),
    (evidence.get (js "execution_status") = some (.string status) ∧
        evidence.get (js "effect_commitment") = some (.string commitment.val)) ↔
      ExactOutcome N S rawOutcome status commitment
  other : (∀ status commitment, ¬ ExactOutcome N S rawOutcome status commitment) →
    evidence.get (js "execution_status") = some (.string (js "unknown")) ∧
      evidence.get (js "effect_commitment") = some .null

theorem reports_evidenceOf (rawOutcome : HostValue) (record : HandleRecord P)
    (recordedAt : UtcInstant P) (hash : HashText) :
    Reports N S rawOutcome (evidenceOf record (planOf N S rawOutcome) recordedAt hash) := by
  have hget : ∀ plan : Plan,
      (evidenceOf record plan recordedAt hash).get (js "execution_status") =
          some (.string plan.executionStatus) ∧
        (evidenceOf record plan recordedAt hash).get (js "effect_commitment") =
          some (nullableHash plan.effectHash) := fun plan => ⟨rfl, rfl⟩
  obtain ⟨hstatus, heffect⟩ := hget (planOf N S rawOutcome)
  have hother : (∀ status commitment, ¬ ExactOutcome N S rawOutcome status commitment) →
      (planOf N S rawOutcome).executionStatus = js "unknown" ∧
        (planOf N S rawOutcome).effectHash = none := by
    intro hnone
    obtain ⟨diagnostic, hplan, -⟩ := planOf_other hnone
    rw [hplan]
    exact ⟨rfl, rfl⟩
  refine ⟨?_, ?_⟩
  · intro status commitment
    rw [hstatus, heffect]
    constructor
    · rintro ⟨hs, he⟩
      by_cases hsome : ∃ status' commitment', ExactOutcome N S rawOutcome status' commitment'
      · obtain ⟨status', commitment', hexact⟩ := hsome
        rw [planOf_exact hexact] at hs he
        obtain rfl : status' = status := by simpa using hs
        obtain rfl : commitment' = commitment := by
          apply Subtype.ext
          simpa [nullableHash] using he
        exact hexact
      · obtain ⟨-, hnone⟩ := hother fun status' commitment' hexact =>
          hsome ⟨status', commitment', hexact⟩
        rw [hnone] at he
        cases he
    · intro hexact
      rw [planOf_exact hexact]
      exact ⟨rfl, rfl⟩
  · intro hnone
    obtain ⟨hs, he⟩ := hother hnone
    rw [hstatus, heffect, hs, he]
    exact ⟨rfl, rfl⟩

/-- A call that completes an open handle waits for the clock. -/
theorem recorderStep_complete (s : RecorderState P) {handle : ℕ} {r : HandleRecord P}
    (hr : s.handles[handle]? = some r) (hopen : r.state = .OPEN) (rawOutcome : HostValue) :
    recorderStep N S s (.complete handle rawOutcome) = some { s with
      handles := s.handles.set handle { r with state := .COMPLETING }
      waiting := .complete handle (planOf N S rawOutcome) :: s.waiting } := by
  have hreserve : reserve s handle =
      .ok { s with handles := s.handles.set handle { r with state := .COMPLETING } } := by
    rw [reserve, hr]
    exact if_neg (not_not.mpr hopen)
  rw [recorderStep, hreserve]

/-- When the clock works, the call records the evidence. -/
theorem RecorderInv.recorded {s : RecorderState P} (hs : RecorderInv s) {handle : ℕ} {plan : Plan}
    {rest : List (Waiting P)} (hwaiting : s.waiting = .complete handle plan :: rest)
    {now : UtcInstant P} (hnow : ∀ last, s.lastTrustedTimeMs = some last → last ≤ now.ms) :
    ∃ t r hash, recorderStep N S s (.clock (.value (.string now.text))) = some t ∧
      t.waiting = rest ∧ t.handles[handle]? = some { r with
        state := .RECORDED, evidence := some (evidenceOf r plan now hash) } ∧
      t.localEvidence = s.localEvidence ++ [(handle, evidenceOf r plan now hash)] ∧
      validateEvidence P (.ofData (evidenceOf r plan now hash)) = .ok () := by
  obtain ⟨hstatus, -⟩ := hs.waiting.innermost hwaiting
  obtain ⟨r, hr, -⟩ := Option.map_eq_some_iff.mp hstatus
  have htime : r.recordingStartedAt.ms ≤ now.ms := by
    obtain ⟨last, hlast, hle⟩ := hs.openings.started r.opening
      (List.mem_map_of_mem (List.mem_of_getElem? hr))
    exact hle.trans (hnow last hlast)
  have hplan : PlanOk plan := hs.waiting.plans handle plan (hwaiting ▸ List.mem_cons_self)
  obtain ⟨hash, hbuild⟩ := buildEvidence_ok (N := N) (S := S) r hplan htime
  have hstep : recorderStep N S s (.clock (.value (.string now.text))) =
      some { s.pop rest (some now.ms) with
        handles := s.handles.set handle { r with
          state := .RECORDED, evidence := some (evidenceOf r plan now hash) }
        localEvidence := s.localEvidence ++ [(handle, evidenceOf r plan now hash)] } := by
    simp only [recorderStep, hwaiting]
    rw [completeAt, hr]
    simp only [sampleExecutionClock_text hnow, hbuild]
    rfl
  refine ⟨_, r, hash, hstep, rfl, ?_, rfl, validateEvidence_evidenceOf r hplan htime hash⟩
  dsimp only
  rw [getElem?_set_of_some hr, if_pos rfl]

/-- The recorder records one evidence for every handle and every authorization, in the window of
    the authorization. A handle moves from open to recorded or failed, and is being completed
    only as long as its call waits. A call that completes an open handle with any outcome records
    valid evidence of the outcome, whatever was called before its clock answered. -/
theorem executionRecorder_protocol {actions : List RecorderAction} {s : RecorderState P}
    (h : run (recorderStep N S) (.initial P) actions = some s) :
    ((s.localEvidence.map Prod.fst).Nodup ∧
      (s.localEvidence.map fun e => e.2.get (js "authorization_commitment")).Nodup) ∧
    (∀ r ∈ s.handles, r.binding.issuedAt.ms ≤ r.recordingStartedAt.ms ∧
      r.recordingStartedAt.ms < r.binding.expiresAt.ms) ∧
    (∀ handle evidence, (handle, evidence) ∈ s.localEvidence →
      ∃ (r : HandleRecord P) (recordedAt : UtcInstant P),
      s.handles[handle]? = some r ∧ r.state = .RECORDED ∧ r.evidence = some evidence ∧
        evidence.get (js "authorization_commitment") =
          some (.string r.authorizationCommitment.val) ∧
        evidence.get (js "recording_started_at") = some (.string r.recordingStartedAt.text) ∧
        evidence.get (js "recorded_at") = some (.string recordedAt.text) ∧
        r.recordingStartedAt.ms ≤ recordedAt.ms) ∧
    (∀ (handle : ℕ) (r : HandleRecord P), s.handles[handle]? = some r →
      Relation.ReflTransGen (HandleMove N S) (.fresh r.opening) r ∧
        ∀ more t, run (recorderStep N S) s more = some t →
          ∃ r', t.handles[handle]? = some r' ∧ Relation.ReflTransGen (HandleMove N S) r r' ∧
            (r.state = .RECORDED ∨ r.state = .FAILED → r' = r)) ∧
    (∀ handle, s.status handle = some .COMPLETING ↔
      ∃ plan, Waiting.complete handle plan ∈ s.waiting) ∧
    (∀ (handle : ℕ) (r : HandleRecord P) rawOutcome,
      s.handles[handle]? = some r → r.state = .OPEN →
      ∃ t, recorderStep N S s (.complete handle rawOutcome) = some t ∧
        ∀ nested u (now : UtcInstant P), run (recorderStep N S) t nested = some u →
          u.waiting = t.waiting → (∀ last, u.lastTrustedTimeMs = some last → last ≤ now.ms) →
          ∃ v r' evidence, recorderStep N S u (.clock (.value (.string now.text))) = some v ∧
            v.waiting = s.waiting ∧ v.handles[handle]? = some r' ∧ r'.opening = r.opening ∧
            r'.state = .RECORDED ∧ r'.evidence = some evidence ∧
            v.localEvidence = u.localEvidence ++ [(handle, evidence)] ∧
            validateEvidence P (.ofData evidence) = .ok () ∧ Reports N S rawOutcome evidence) := by
  have hs := recorderInv_of_run h
  refine ⟨⟨hs.evidence.distinct, hs.commitments_nodup⟩, ?_, ?_, ?_, ?_, ?_⟩
  · intro r hr
    exact hs.openings.window r.opening (List.mem_map_of_mem hr)
  · intro handle evidence hmem
    obtain ⟨r, hr, hevidence⟩ := Option.bind_eq_some_iff.mp ((hs.evidence.local_iff _ _).mp hmem)
    have hok := hs.evidence.handles handle r hr
    obtain ⟨plan, recordedAt, hash, -, htime, rfl⟩ := hok.evidence evidence hevidence
    refine ⟨r, recordedAt, hr, ?_, hevidence, rfl, rfl, rfl, htime⟩
    rw [hok.recorded, hevidence]
    rfl
  · intro handle r hr
    refine ⟨handleMoves_of_fresh h handle r hr, ?_⟩
    intro more t hrun
    obtain ⟨r', hr', hmoves⟩ := handleMoves_of_run hs hrun handle hr
    refine ⟨r', hr', hmoves, ?_⟩
    intro hfinal
    rcases hmoves.cases_head with heq | ⟨_, hmove, -⟩
    · exact heq.symm
    · exact absurd hmove (not_handleMove_of_final hfinal)
  · intro handle
    rw [← hs.waiting.completing, RecorderState.busy, List.mem_filterMap]
    constructor
    · rintro ⟨w, hw, hhandle⟩
      cases w with
      | begin authorization => cases hhandle
      | complete handle' plan =>
        cases hhandle
        exact ⟨plan, hw⟩
    · rintro ⟨plan, hw⟩
      exact ⟨_, hw, rfl⟩
  · intro handle r rawOutcome hr hopen
    have hstep := recorderStep_complete (N := N) (S := S) s hr hopen rawOutcome
    refine ⟨_, hstep, ?_⟩
    intro nested u now hrun hwaiting hnow
    have ht := hs.move (recorderStep_move hstep)
    have hu := ht.run hrun
    obtain ⟨v, record, hash, hclock, hrest, hv, hlocal, hvalid⟩ := hu.recorded hwaiting hnow
    -- the handle is still the one that was reserved
    have hopening : record.opening = r.opening := by
      have hrun' : run (recorderStep N S) s (.complete handle rawOutcome ::
          (nested ++ [.clock (.value (.string now.text))])) = some v := by
        refine run_cons.mpr ⟨_, hstep, run_append.mpr ⟨u, hrun, run_cons.mpr ⟨v, hclock, rfl⟩⟩⟩
      obtain ⟨r', hr', hmoves⟩ := handleMoves_of_run hs hrun' handle hr
      rw [hv] at hr'
      cases hr'
      have hopening := opening_of_handleMoves hmoves
      exact hopening
    exact ⟨v, _, _, hclock, hrest, hv, hopening, rfl, rfl, hlocal, hvalid,
      reports_evidenceOf rawOutcome record now hash⟩

end Recorder

/-- An exact authorization binding with the window of one minute. -/
def sampleBinding : JsValue :=
  .object [(js "schema_version", .string exactAuthorizationSchemaVersion),
    (js "capability_id", .string (js "cap-" ++ List.replicate 32 0x61)),
    (js "binding_profile", .string (js "pom-rx-example/0.1")),
    (js "run_id", .string (js "run-000000000001")), (js "agent_ref", .string (js "agent-0000000001")),
    (js "subject_ref", .string (js "subject-00000001")),
    (js "method_hash", .string (List.replicate 64 0x61)),
    (js "policy_hash", .string (List.replicate 64 0x62)),
    (js "action_commitment", .string (List.replicate 64 0x63)),
    (js "context_commitment", .string (List.replicate 64 0x64)),
    (js "preflight_receipt_hash", .string (List.replicate 64 0x65)),
    (js "witness_ack_hash", .string (List.replicate 64 0x66)),
    (js "source_key_id", .string (js "ed25519-" ++ List.replicate 32 0x61)),
    (js "witness_key_id", .string (js "ed25519-" ++ List.replicate 32 0x62)),
    (js "verification_profile", .string (js "strict/0.1")),
    (js "verifier_version", .string (js "v0.1")),
    (js "implementation_artifact_sha256", .string (List.replicate 64 0x61)),
    (js "effective_verification_policy_sha256", .string (List.replicate 64 0x61)),
    (js "issued_at", .string (js "2026-01-02T03:04:05.000Z")),
    (js "expires_at", .string (js "2026-01-02T03:05:05.000Z"))]

def sampleBegin : RecorderAction :=
  .begin (.ofData (.object [(js "authorization_binding", sampleBinding)]))

def sampleOutcome : JsValue :=
  .object [(js "execution_status", .string (js "success")),
    (js "effect", .object [(js "amount", .number (.ofInt 7))])]

/-- The authorization is opened and completed; the clock of `complete` completes it once more. -/
def sampleRecording : List RecorderAction :=
  [sampleBegin, .clock (.value (.string (js "2026-01-02T03:04:05.000Z"))),
    .complete 0 (.ofData sampleOutcome), .complete 0 (.ofData sampleOutcome),
    .clock (.value (.string (js "2026-01-02T03:04:07.000Z")))]

theorem executionRecorder_protocol_sample :
    ∃ s, run (recorderStep devanagari sha256) (.initial Date.isoReader) sampleRecording = some s ∧
      s.status 0 = some .RECORDED ∧ s.localEvidence.length = 1 ∧
      (s.localEvidence.map Prod.fst).Nodup := by
  have hrun : (run (recorderStep devanagari sha256) (.initial Date.isoReader)
      sampleRecording).map (fun s => (s.status 0, s.localEvidence.length)) =
        some (some .RECORDED, 1) := by
    rw [sha256_eq_strict]
    decide +kernel
  obtain ⟨s, hs, hsample⟩ := Option.map_eq_some_iff.mp hrun
  obtain ⟨hstatus, hlength⟩ := Prod.mk.inj hsample
  exact ⟨s, hs, hstatus, hlength, (executionRecorder_protocol hs).1.1⟩

end OpenRisk.Core
