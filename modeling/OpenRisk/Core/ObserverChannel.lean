import OpenRisk.Core.PlainData
import OpenRisk.Machine.Run

/-!
# The channel of an independent observer

Model of `captureObserverOutput` of `core/observation/reference-observation-reconciliation.mjs`.
The observer gets two callbacks and may call them any number of times, while it is invoked and
later. The channel turns these calls into the settlement of one promise; `settlements` lists
what the promise was told.

Results:
* `channelRun_sync`: the terminal outcome that the calls during the invocation leave.
* `channelRun_late`: calls after the settlement change nothing.
* `captureObserverOutput_settlement`: when the promise is resolved, and when it is rejected.
-/

namespace OpenRisk.Core

open Text

/-! ## Model -/

/-- `PomRxObservationError`. -/
structure ObservationError where
  code : JsString
  message : JsString
  deriving DecidableEq

/-- `observerProtocolError(message)`. -/
def observerProtocolError (message : String) : ObservationError :=
  ⟨js "POMRX_OBS_E_OBSERVER_INVALID", js message⟩

/-- `observerFailureError()`. -/
def observerFailureError : ObservationError :=
  ⟨js "POMRX_OBS_E_OBSERVER_FAILED", js "independent observer failed"⟩

/-- The error for an observer that returns a value. -/
def returnedValueError : ObservationError :=
  observerProtocolError ("independent observer must deliver through the one-shot capture callback " ++
    "and return undefined")

/-- `snapshotPlainData(value, label, errorCode)`. -/
def snapshotPlainData (value : HostValue) (label errorCode : String) :
    Except ObservationError JsValue :=
  (captureReferencePlainData value (js label)).mapError fun _ =>
    ⟨js errorCode, js label ++ js " must be inert bounded plain data"⟩

/-- The variable `terminal`, when it is not `null`. -/
inductive Terminal where
  | delivered (value : JsValue)
  | error (e : ObservationError)

/-- What the promise is told. -/
def Terminal.settlement : Terminal → Except ObservationError JsValue
  | .delivered value => .ok value
  | .error e => .error e

/-- The variables of `captureObserverOutput`, and the calls of `resolve` and `reject` so far. -/
structure Channel where
  invocationReturned : Bool := false
  settled : Bool := false
  terminal : Option Terminal := none
  settlements : List (Except ObservationError JsValue) := []

/-- A call of one of the two callbacks. -/
inductive ObserverCall where
  /-- `deliverObservation(value)` -/
  | deliver (value : HostValue)
  /-- `reportObserverFailure()` -/
  | reportFailure

/-- How `observeExecution(...)` ends. -/
inductive Completion where
  | returned (value : HostValue)
  | threw

namespace Channel

/-- `settleIfReady()`. -/
def settleIfReady (c : Channel) : Channel :=
  match c.terminal with
  | none => c
  | some terminal =>
    if !c.invocationReturned || c.settled then c
    else { c with settled := true, settlements := c.settlements ++ [terminal.settlement] }

/-- The outcome of a second call during the invocation. -/
def conflict : Terminal :=
  .error (observerProtocolError
    "independent observer reported conflicting synchronous terminal outcomes")

/-- `setTerminal(next)`, with the value it returns. -/
def setTerminal (c : Channel) (next : Terminal) : Channel × Bool :=
  if c.settled then (c, false)
  else
    match c.terminal with
    | some _ =>
      if c.invocationReturned then (c.settleIfReady, false)
      else ({ c with terminal := some conflict }.settleIfReady, false)
    | none => ({ c with terminal := some next }.settleIfReady, true)

/-- The two callbacks, with the values they return to the observer. -/
def call (c : Channel) : ObserverCall → Channel × Bool
  | .deliver value =>
    match snapshotPlainData value "independent observation" "POMRX_OBS_E_OBSERVER_INVALID" with
    | .error error => ((c.setTerminal (.error error)).1, false)
    | .ok captured => c.setTerminal (.delivered captured)
  | .reportFailure => c.setTerminal (.error observerFailureError)

/-- The end of the invocation. -/
def complete (c : Channel) : Completion → Channel
  | .threw =>
    { c with terminal := some (.error observerFailureError), invocationReturned := true }.settleIfReady
  | .returned .undefined => { c with invocationReturned := true }.settleIfReady
  | .returned _ =>
    { c with
      terminal := some (.error returnedValueError)
      invocationReturned := true }.settleIfReady

end Channel

/-- What the observer does. -/
inductive ObserverAction where
  | call (c : ObserverCall)
  | complete (completion : Completion)

/-- The invocation ends once; the callbacks may be called at any time. -/
def channelStep (c : Channel) : ObserverAction → Option Channel
  | .call o => some (c.call o).1
  | .complete completion => if c.invocationReturned then none else some (c.complete completion)

/-! ## Calls -/

/-- The outcome that a call reports. -/
def ObserverCall.terminal : ObserverCall → Terminal
  | .deliver value =>
    match snapshotPlainData value "independent observation" "POMRX_OBS_E_OBSERVER_INVALID" with
    | .error error => .error error
    | .ok captured => .delivered captured
  | .reportFailure => .error observerFailureError

theorem ObserverCall.terminal_eq_delivered {o : ObserverCall} {v : JsValue} :
    o.terminal = .delivered v ↔ ∃ value, o = .deliver value ∧
      captureReferencePlainData value (js "independent observation") = .ok v := by
  cases o with
  | reportFailure => simp [ObserverCall.terminal]
  | deliver value =>
    simp only [ObserverCall.terminal, snapshotPlainData, ObserverCall.deliver.injEq,
      exists_eq_left']
    cases captureReferencePlainData value (js "independent observation") with
    | error e => simp [Except.mapError]
    | ok w => simp [Except.mapError]

namespace Channel

theorem call_fst (c : Channel) (o : ObserverCall) :
    (c.call o).1 = (c.setTerminal o.terminal).1 := by
  cases o with
  | reportFailure => rfl
  | deliver value =>
    simp only [Channel.call, ObserverCall.terminal]
    split <;> rfl

/-- A call after the settlement. -/
theorem call_of_settled {c : Channel} (h : c.settled = true) (o : ObserverCall) :
    (c.call o).1 = c := by
  rw [call_fst, setTerminal, if_pos h]

/-- The first call after an invocation that left no outcome. -/
theorem call_of_returned {c : Channel} (hreturned : c.invocationReturned = true)
    (hsettled : c.settled = false) (hterminal : c.terminal = none) (o : ObserverCall) :
    (c.call o).1 = { c with
      terminal := some o.terminal
      settled := true
      settlements := c.settlements ++ [o.terminal.settlement] } := by
  rw [call_fst, setTerminal, if_neg (by rw [hsettled]; decide), hterminal]
  simp only [settleIfReady, hreturned, hsettled]
  rfl

end Channel

/-- The outcome after the calls during the invocation. -/
def syncTerminal : List ObserverCall → Option Terminal
  | [] => none
  | [o] => some o.terminal
  | _ => some Channel.conflict

theorem syncTerminal_eq_none {sync : List ObserverCall} (h : syncTerminal sync = none) :
    sync = [] := by
  match sync with
  | [] => rfl
  | [_] => cases h
  | _ :: _ :: _ => cases h

/-- During the invocation nothing is settled, and a second call makes a conflict. -/
theorem channelRun_sync (sync : List ObserverCall) :
    Machine.run channelStep {} (sync.map .call) =
      some { terminal := syncTerminal sync : Channel } := by
  -- an outcome that is there already becomes a conflict
  have hmore : ∀ (t : Terminal) (o : ObserverCall) (os : List ObserverCall),
      Machine.run channelStep { terminal := some t } ((o :: os).map .call) =
        some { terminal := some Channel.conflict : Channel } := by
    intro t o os
    have hcall : ∀ t : Terminal, (Channel.call { terminal := some t } o).1 =
        { terminal := some Channel.conflict } := by
      intro t
      rw [Channel.call_fst]
      rfl
    induction os generalizing t o with
    | nil =>
      rw [List.map_singleton, Machine.run_cons]
      exact ⟨_, rfl, congrArg some (hcall t)⟩
    | cons o' os ih =>
      rw [List.map_cons, Machine.run_cons]
      refine ⟨_, rfl, ?_⟩
      rw [hcall t]
      refine ih Channel.conflict o' fun t => ?_
      rw [Channel.call_fst]
      rfl
  cases sync with
  | nil => rfl
  | cons o os =>
    have hfirst : (Channel.call {} o).1 = { terminal := some o.terminal } := by
      rw [Channel.call_fst]
      rfl
    rw [List.map_cons, Machine.run_cons]
    refine ⟨_, rfl, ?_⟩
    rw [hfirst]
    cases os with
    | nil => rfl
    | cons o' os => exact hmore o.terminal o' os

/-- Calls after the settlement change nothing. -/
theorem channelRun_late {c : Channel} (h : c.settled = true) (late : List ObserverCall) :
    Machine.run channelStep c (late.map .call) = some c := by
  induction late with
  | nil => rfl
  | cons o late ih =>
    rw [List.map_cons, Machine.run_cons]
    refine ⟨_, rfl, ?_⟩
    rw [Channel.call_of_settled h]
    exact ih

/-! ## The promise -/

/-- The channel after an invocation and the calls that follow it. -/
theorem channelRun_completed {c : Channel} {t : Terminal} (hreturned : c.invocationReturned = true)
    (hsettled : c.settled = false) (hterminal : c.terminal = some t) (late : List ObserverCall) :
    Machine.run channelStep c.settleIfReady (late.map .call) =
      some { c with settled := true, settlements := c.settlements ++ [t.settlement] } := by
  have hsettle : c.settleIfReady =
      { c with settled := true, settlements := c.settlements ++ [t.settlement] } := by
    rw [Channel.settleIfReady, hterminal]
    simp only [hreturned, hsettled]
    rfl
  rw [hsettle]
  exact channelRun_late rfl late

/-- What the promise is told: the outcome of an invocation that returned `undefined`, or else
    of the first later call. -/
def settlementOf (sync : List ObserverCall) (completion : Completion) (late : List ObserverCall) :
    List (Except ObservationError JsValue) :=
  match completion with
  | .threw => [.error observerFailureError]
  | .returned .undefined =>
    match syncTerminal sync with
    | some t => [t.settlement]
    | none => (late.head?.map fun o => o.terminal.settlement).toList
  | .returned _ => [.error returnedValueError]

/-- An invocation that ends with an outcome. -/
theorem channelRun_of_terminal {sync : List ObserverCall} {completion : Completion} {t : Terminal}
    (h : Channel.complete { terminal := syncTerminal sync } completion =
      Channel.settleIfReady { terminal := some t, invocationReturned := true })
    (late : List ObserverCall) :
    ∃ c, Machine.run channelStep {} (sync.map .call ++ ObserverAction.complete completion :: late.map .call) =
      some c ∧ c.settlements = [t.settlement] := by
  have hlate := channelRun_completed (c := { terminal := some t, invocationReturned := true })
    rfl rfl rfl late
  rw [← h] at hlate
  have hstep : channelStep { terminal := syncTerminal sync } (.complete completion) =
      some (Channel.complete { terminal := syncTerminal sync } completion) := rfl
  have hcomplete := Machine.run_cons.mpr ⟨_, hstep, hlate⟩
  exact ⟨_, Machine.run_append.mpr ⟨_, channelRun_sync sync, hcomplete⟩, rfl⟩

/-- An invocation that ends without an outcome. -/
theorem channelRun_of_none (late : List ObserverCall) :
    ∃ c, Machine.run channelStep {} (.complete (.returned .undefined) :: late.map .call) = some c ∧
      c.settlements = (late.head?.map fun o => o.terminal.settlement).toList := by
  cases late with
  | nil => exact ⟨_, Machine.run_cons.mpr ⟨_, rfl, rfl⟩, rfl⟩
  | cons o late =>
    have hcall := @Channel.call_of_returned { invocationReturned := true } rfl rfl rfl o
    have hlate := channelRun_late (c := (Channel.call { invocationReturned := true } o).1)
      (by rw [hcall]) late
    have hstep : channelStep { invocationReturned := true } (.call o) =
        some (Channel.call { invocationReturned := true } o).1 := rfl
    have hcomplete : channelStep {} (.complete (.returned .undefined)) =
        some { invocationReturned := true } := rfl
    have hrun := Machine.run_cons.mpr ⟨_, hcomplete, Machine.run_cons.mpr ⟨_, hstep, hlate⟩⟩
    exact ⟨_, hrun, by rw [hcall]; rfl⟩

theorem channelRun_settlements (sync : List ObserverCall) (completion : Completion)
    (late : List ObserverCall) :
    ∃ c, Machine.run channelStep {} (sync.map .call ++ ObserverAction.complete completion :: late.map .call) =
      some c ∧ c.settlements = settlementOf sync completion late := by
  cases completion with
  | threw => exact @channelRun_of_terminal sync .threw (.error observerFailureError) rfl late
  | returned value =>
    cases value with
    | undefined =>
      cases hsync : syncTerminal sync with
      | some t =>
        rw [settlementOf, hsync]
        exact @channelRun_of_terminal sync (.returned .undefined) t (by rw [hsync]; rfl) late
      | none =>
        rw [settlementOf, hsync]
        obtain rfl := syncTerminal_eq_none hsync
        exact channelRun_of_none late
    | _ => exact @channelRun_of_terminal sync _ (.error returnedValueError) rfl late

/-- The observer returned `undefined`, and its only call during the invocation, or else its
    first later call, delivered the plain data `v`. -/
def Delivers (sync : List ObserverCall) (completion : Completion) (late : List ObserverCall)
    (v : JsValue) : Prop :=
  completion = .returned .undefined ∧
    ∃ value, captureReferencePlainData value (js "independent observation") = .ok v ∧
      (sync = [.deliver value] ∨ sync = [] ∧ ∃ rest, late = .deliver value :: rest)

theorem settlementOf_eq_ok {sync late : List ObserverCall} {completion : Completion} {v : JsValue} :
    settlementOf sync completion late = [.ok v] ↔ Delivers sync completion late v := by
  have hok : ∀ t : Terminal, t.settlement = .ok v ↔ t = .delivered v := by
    intro t
    cases t <;> simp [Terminal.settlement]
  unfold Delivers
  cases completion with
  | threw => simp [settlementOf]
  | returned value =>
    cases value with
    | undefined =>
      match sync with
      | [] =>
        cases late with
        | nil => simp [settlementOf, syncTerminal]
        | cons o late =>
          simp only [settlementOf, syncTerminal, List.head?_cons, Option.map_some, Option.toList_some,
            List.cons.injEq, and_true, hok, ObserverCall.terminal_eq_delivered, true_and]
          constructor
          · rintro ⟨value, rfl, hvalue⟩
            exact ⟨value, hvalue, .inr ⟨late, rfl, rfl⟩⟩
          · rintro ⟨value, hvalue, h | ⟨rest, rfl, -⟩⟩
            · cases h
            · exact ⟨value, rfl, hvalue⟩
      | [o] =>
        simp only [settlementOf, syncTerminal, List.cons.injEq, and_true, hok,
          ObserverCall.terminal_eq_delivered, true_and]
        constructor
        · rintro ⟨value, rfl, hvalue⟩
          exact ⟨value, hvalue, .inl rfl⟩
        · rintro ⟨value, hvalue, rfl | ⟨h, -⟩⟩
          · exact ⟨value, rfl, hvalue⟩
          · cases h
      | o :: o' :: rest =>
        simp [settlementOf, syncTerminal, hok, Channel.conflict]
    | _ => simp [settlementOf]

/-- Something happened that the promise may be settled for. -/
def Acted (sync : List ObserverCall) (completion : Completion) (late : List ObserverCall) : Prop :=
  sync ≠ [] ∨ completion ≠ .returned .undefined ∨ late ≠ []

/-- The promise is told one thing when the observer acted, and else nothing. -/
theorem settlementOf_acted (sync late : List ObserverCall) (completion : Completion) :
    (Acted sync completion late ∧ ∃ result, settlementOf sync completion late = [result]) ∨
      (¬ Acted sync completion late ∧ settlementOf sync completion late = []) := by
  unfold Acted
  cases completion with
  | threw => exact .inl ⟨by simp, _, rfl⟩
  | returned value =>
    cases value with
    | undefined =>
      match sync with
      | [] =>
        cases late with
        | nil => exact .inr ⟨by simp, rfl⟩
        | cons o late => exact .inl ⟨by simp, _, rfl⟩
      | [o] => exact .inl ⟨by simp, _, rfl⟩
      | o :: o' :: rest => exact .inl ⟨by simp, _, rfl⟩
    | _ => exact .inl ⟨by simp, _, rfl⟩

/-- The promise of `captureObserverOutput` settles at most once, and not before the observer has
    returned. It resolves with `v` exactly when the observer delivers `v`; when anything else
    happens it rejects. -/
theorem captureObserverOutput_settlement (sync late : List ObserverCall) (completion : Completion) :
    (∃ c, Machine.run channelStep {} (sync.map .call) = some c ∧ c.settlements = []) ∧
    ∃ c, Machine.run channelStep {} (sync.map .call ++ .complete completion :: late.map .call) =
        some c ∧
      c.settlements.length ≤ 1 ∧
      (∀ v, c.settlements = [.ok v] ↔ Delivers sync completion late v) ∧
      ((∃ error, c.settlements = [.error error]) ↔
        Acted sync completion late ∧ ∀ v, ¬ Delivers sync completion late v) ∧
      (c.settlements = [] ↔ ¬ Acted sync completion late) := by
  refine ⟨⟨_, channelRun_sync sync, rfl⟩, ?_⟩
  obtain ⟨c, hc, hsettlements⟩ := channelRun_settlements sync completion late
  refine ⟨c, hc, ?_⟩
  have hdelivers := fun v => @settlementOf_eq_ok sync late completion v
  rw [hsettlements]
  rcases settlementOf_acted sync late completion with ⟨hacted, result, hresult⟩ | ⟨hacted, hnone⟩
  · rw [hresult] at hdelivers ⊢
    refine ⟨le_refl _, hdelivers, ?_, by simp [hacted]⟩
    simp only [← hdelivers, hacted, true_and]
    cases result <;> simp
  · rw [hnone] at hdelivers ⊢
    refine ⟨Nat.zero_le _, hdelivers, ?_, by simp [hacted]⟩
    simp [hacted]

end OpenRisk.Core
