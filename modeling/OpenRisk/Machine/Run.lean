import Mathlib.Data.List.Basic

/-!
# Runs of a transition function

A machine is a partial function `step : σ → α → Option σ`: `none` says that the action
is not possible in the state. `run` takes a list of actions.

Results:
* `run_invariant`, `run_invariant_of_mem`: what the steps preserve, every run preserves.
* `run_map`: a renaming that commutes with steps commutes with runs.
* `exists_run_of_simulation`: a machine whose steps are runs of another one has only
  its runs.
* `pairwise_trace`: a relation between a step and every later one holds in the trace.
* `exists_step_of_run`: what a run brings about, one of its steps brings about.
* `run_count`: a counter that one kind of step raises counts them.
-/

namespace OpenRisk.Machine

variable {σ τ α β : Type}

/-- The state after a list of actions. -/
def run (step : σ → α → Option σ) : σ → List α → Option σ
  | s, [] => some s
  | s, a :: actions => (step s a).bind fun s' => run step s' actions

section Run

variable {step : σ → α → Option σ}

theorem run_cons {s s' : σ} {a : α} {actions : List α} :
    run step s (a :: actions) = some s' ↔
      ∃ t, step s a = some t ∧ run step t actions = some s' := by
  rw [run, Option.bind_eq_some_iff]

theorem run_append {s s' : σ} {actions more : List α} :
    run step s (actions ++ more) = some s' ↔
      ∃ t, run step s actions = some t ∧ run step t more = some s' := by
  induction actions generalizing s with
  | nil => simp [run]
  | cons a actions ih =>
    rw [List.cons_append, run_cons]
    constructor
    · rintro ⟨t, ht, h⟩
      obtain ⟨u, hu, hmore⟩ := ih.mp h
      exact ⟨u, run_cons.mpr ⟨t, ht, hu⟩, hmore⟩
    · rintro ⟨u, hu, hmore⟩
      obtain ⟨t, ht, h⟩ := run_cons.mp hu
      exact ⟨t, ht, ih.mpr ⟨u, h, hmore⟩⟩

/-- What every step preserves, every run preserves. -/
theorem run_invariant {Inv : σ → Prop} (hstep : ∀ s a s', Inv s → step s a = some s' → Inv s')
    {s s' : σ} {actions : List α} (h : run step s actions = some s') (hs : Inv s) : Inv s' := by
  induction actions generalizing s with
  | nil =>
    cases h
    exact hs
  | cons a actions ih =>
    obtain ⟨t, ht, h⟩ := run_cons.mp h
    exact ih h (hstep s a t hs ht)

/-- What the steps of some actions preserve, runs of these actions preserve. -/
theorem run_invariant_of_mem {Inv : σ → Prop} {P : α → Prop}
    (hstep : ∀ s a s', P a → Inv s → step s a = some s' → Inv s') {s s' : σ} {actions : List α}
    (hactions : ∀ a ∈ actions, P a) (h : run step s actions = some s') (hs : Inv s) : Inv s' := by
  induction actions generalizing s with
  | nil =>
    cases h
    exact hs
  | cons a actions ih =>
    obtain ⟨t, ht, h⟩ := run_cons.mp h
    exact ih (fun b hb => hactions b (List.mem_cons_of_mem a hb)) h
      (hstep s a t (hactions a List.mem_cons_self) hs ht)

/-- A preorder between a state and its successors holds between the ends of a run. -/
theorem run_rel {r : σ → σ → Prop} (hrefl : ∀ s, r s s) (htrans : ∀ s t u, r s t → r t u → r s u)
    (hstep : ∀ s a s', step s a = some s' → r s s') {s s' : σ} {actions : List α}
    (h : run step s actions = some s') : r s s' := by
  induction actions generalizing s with
  | nil =>
    cases h
    exact hrefl _
  | cons a actions ih =>
    obtain ⟨t, ht, h⟩ := run_cons.mp h
    exact htrans s t s' (hstep s a t ht) (ih h)

/-- A renaming of states and actions that commutes with steps commutes with runs. -/
theorem run_map {step' : τ → β → Option τ} (f : σ → τ) (g : α → β)
    (hstep : ∀ s a, step' (f s) (g a) = (step s a).map f) (s : σ) (actions : List α) :
    run step' (f s) (actions.map g) = (run step s actions).map f := by
  induction actions generalizing s with
  | nil => rfl
  | cons a actions ih =>
    rw [List.map_cons, run, run, hstep]
    cases step s a with
    | none => rfl
    | some t => exact ih t

/-- If every step of a machine is a run of another machine on a part of the state, so is
    every run. -/
theorem exists_run_of_simulation {step' : τ → β → Option τ} (f : σ → τ)
    (hstep : ∀ s a s', step s a = some s' → ∃ bs, run step' (f s) bs = some (f s'))
    {s s' : σ} {actions : List α} (h : run step s actions = some s') :
    ∃ bs, run step' (f s) bs = some (f s') := by
  induction actions generalizing s with
  | nil =>
    cases h
    exact ⟨[], rfl⟩
  | cons a actions ih =>
    obtain ⟨t, ht, h⟩ := run_cons.mp h
    obtain ⟨bs, hbs⟩ := hstep s a t ht
    obtain ⟨cs, hcs⟩ := ih h
    exact ⟨bs ++ cs, run_append.mpr ⟨f t, hbs, hcs⟩⟩

end Run

/-! ## Traces -/

/-- The steps of a run: each action with the state in which it happens. -/
def trace (step : σ → α → Option σ) : σ → List α → List (σ × α)
  | _, [] => []
  | s, a :: actions =>
    (s, a) :: match step s a with
      | some s' => trace step s' actions
      | none => []

section Trace

variable {step : σ → α → Option σ}

/-- A step of a run happens after a run. -/
theorem mem_trace {s : σ} {actions : List α} {x : σ × α} (hx : x ∈ trace step s actions) :
    ∃ before after, actions = before ++ x.2 :: after ∧ run step s before = some x.1 := by
  induction actions generalizing s with
  | nil => cases hx
  | cons a actions ih =>
    rw [trace] at hx
    rcases List.mem_cons.mp hx with rfl | hx
    · exact ⟨[], actions, rfl, rfl⟩
    · split at hx
      · rename_i t ht
        obtain ⟨before, after, rfl, hrun⟩ := ih hx
        exact ⟨a :: before, after, rfl, run_cons.mpr ⟨t, ht, hrun⟩⟩
      · cases hx

/-- What holds initially and is preserved holds at every step. -/
theorem trace_invariant {Inv : σ → Prop} (hstep : ∀ s a s', Inv s → step s a = some s' → Inv s')
    {s : σ} (hs : Inv s) {actions : List α} {x : σ × α} (hx : x ∈ trace step s actions) : Inv x.1 := by
  obtain ⟨before, -, -, hrun⟩ := mem_trace hx
  exact run_invariant hstep hrun hs

/-- A relation between a step and every later one holds in the trace. -/
theorem pairwise_trace {Inv : σ → Prop} (hstep : ∀ s a s', Inv s → step s a = some s' → Inv s')
    {r : σ × α → σ × α → Prop}
    (hr : ∀ s a s' actions u b, Inv s → step s a = some s' → run step s' actions = some u →
      r (s, a) (u, b))
    {s : σ} (hs : Inv s) (actions : List α) : (trace step s actions).Pairwise r := by
  induction actions generalizing s with
  | nil => exact List.Pairwise.nil
  | cons a actions ih =>
    rw [trace, List.pairwise_cons]
    cases ht : step s a with
    | none =>
      refine ⟨?_, List.Pairwise.nil⟩
      intro y hy
      cases hy
    | some t =>
      refine ⟨?_, ih (hstep s a t hs ht)⟩
      intro y hy
      obtain ⟨before, -, -, hrun⟩ := mem_trace hy
      exact hr s a t before y.1 y.2 hs ht hrun

/-- What a run brings about, one of its steps brings about. -/
theorem exists_step_of_run {Q : σ → Prop} {s s' : σ} {actions : List α}
    (h : run step s actions = some s') (hs : ¬ Q s) (hs' : Q s') :
    ∃ x ∈ trace step s actions, ∃ t, step x.1 x.2 = some t ∧ ¬ Q x.1 ∧ Q t := by
  induction actions generalizing s with
  | nil =>
    cases h
    exact absurd hs' hs
  | cons a actions ih =>
    obtain ⟨t, ht, h⟩ := run_cons.mp h
    by_cases hQ : Q t
    · exact ⟨(s, a), List.mem_cons_self, t, ht, hs, hQ⟩
    · obtain ⟨x, hx, hstep⟩ := ih h hQ
      refine ⟨x, ?_, hstep⟩
      rw [trace, ht]
      exact List.mem_cons_of_mem _ hx

/-- The trace of a run starts with the trace of its first actions. -/
theorem trace_append {s s' : σ} {actions more : List α} (h : run step s actions = some s') :
    trace step s (actions ++ more) = trace step s actions ++ trace step s' more := by
  induction actions generalizing s with
  | nil =>
    cases h
    rfl
  | cons a actions ih =>
    obtain ⟨t, ht, h⟩ := run_cons.mp h
    rw [List.cons_append, trace, trace, ht]
    exact congrArg _ (ih h)

/-- A counter that one kind of step raises counts the steps of that kind. -/
theorem run_count (count : σ → ℕ) (p : σ → α → Bool)
    (hstep : ∀ s a s', step s a = some s' → count s' = count s + if p s a then 1 else 0)
    {s s' : σ} {actions : List α} (h : run step s actions = some s') :
    count s' = count s + (trace step s actions).countP fun x => p x.1 x.2 := by
  induction actions generalizing s with
  | nil =>
    cases h
    rfl
  | cons a actions ih =>
    obtain ⟨t, ht, h⟩ := run_cons.mp h
    rw [ih h, hstep s a t ht, trace, ht, List.countP_cons]
    dsimp only
    omega

/-- Where no two elements satisfy a predicate, at most one does. -/
theorem countP_le_one {p : α → Bool} {l : List α}
    (h : l.Pairwise fun a b => p a = true → p b = false) : l.countP p ≤ 1 := by
  induction h with
  | nil => exact Nat.zero_le 1
  | @cons a l hall _ ih =>
    by_cases ha : p a = true
    · have hnone : l.countP p = 0 := by
        rw [List.countP_eq_zero]
        intro b hb
        simp [hall b hb ha]
      rw [List.countP_cons_of_pos ha]
      omega
    · rw [List.countP_cons_of_neg ha]
      exact ih

end Trace

end OpenRisk.Machine
