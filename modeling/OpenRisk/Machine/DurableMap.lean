import Mathlib.Logic.Function.Basic
import Mathlib.Data.Option.Basic

/-!
# Maps that survive crashes in part

A directory of a file system as a map from names to entries. An entry is durable once the
directory has been synchronized; a crash may lose any entry that is not.

Results:
* `Extends.refl`, `Extends.trans`, `extends_create`, `extends_sync`, `extends_modify`: the
  operations only add entries and raise their durability.
* `crash_of_durable`, `of_crash`: what a crash keeps, and that it adds nothing.
-/

namespace OpenRisk.Machine

/-- What stands under a name, and whether it is sure to survive a crash. -/
structure Entry (α : Type) where
  value : α
  durable : Bool

abbrev DurableMap (κ α : Type) := κ → Option (Entry α)

namespace DurableMap

variable {κ α : Type}

/-- The map without entries. -/
def empty : DurableMap κ α := fun _ => none

/-- Exclusive creation: it fails where the name is taken. -/
def create [DecidableEq κ] (m : DurableMap κ α) (k : κ) (v : α) : Option (DurableMap κ α) :=
  if (m k).isSome then none else some (Function.update m k (some ⟨v, false⟩))

/-- All entries become durable. -/
def sync (m : DurableMap κ α) : DurableMap κ α := fun k =>
  (m k).map fun e => { e with durable := true }

/-- Other values under the same names. -/
def modify (f : κ → α → α) (m : DurableMap κ α) : DurableMap κ α := fun k =>
  (m k).map fun e => { e with value := f k e.value }

/-- A crash, which loses the chosen entries that are not durable. -/
def crash (lost : κ → Bool) (m : DurableMap κ α) : DurableMap κ α := fun k =>
  (m k).filter fun e => e.durable || !lost k

/-! ## Operations -/

theorem create_eq_some [DecidableEq κ] {m m' : DurableMap κ α} {k : κ} {v : α} :
    m.create k v = some m' ↔ m k = none ∧ m' = Function.update m k (some ⟨v, false⟩) := by
  rw [create]
  cases h : m k with
  | none => simp [eq_comm]
  | some e => simp

theorem sync_eq_some {m : DurableMap κ α} {k : κ} {e : Entry α} :
    m.sync k = some e ↔ ∃ d, m k = some ⟨e.value, d⟩ ∧ e.durable = true := by
  rw [sync, Option.map_eq_some_iff]
  constructor
  · rintro ⟨⟨v, d⟩, h, rfl⟩
    exact ⟨d, h, rfl⟩
  · rintro ⟨d, h, hdurable⟩
    obtain ⟨v, d'⟩ := e
    obtain rfl : d' = true := hdurable
    exact ⟨⟨v, d⟩, h, rfl⟩

theorem crash_eq_some {m : DurableMap κ α} {lost : κ → Bool} {k : κ} {e : Entry α} :
    m.crash lost k = some e ↔ m k = some e ∧ (e.durable = true ∨ lost k = false) := by
  rw [crash, Option.filter_eq_some_iff, Bool.or_eq_true, Bool.not_eq_true']

/-- What is durable survives a crash. -/
theorem crash_of_durable {m : DurableMap κ α} {lost : κ → Bool} {k : κ} {e : Entry α}
    (h : m k = some e) (hdurable : e.durable = true) : m.crash lost k = some e :=
  crash_eq_some.mpr ⟨h, .inl hdurable⟩

/-- A crash adds nothing. -/
theorem of_crash {m : DurableMap κ α} {lost : κ → Bool} {k : κ} {e : Entry α}
    (h : m.crash lost k = some e) : m k = some e :=
  (crash_eq_some.mp h).1

theorem modify_eq_some {m : DurableMap κ α} {f : κ → α → α} {k : κ} {e : Entry α} :
    m.modify f k = some e ↔ ∃ v, m k = some ⟨v, e.durable⟩ ∧ e.value = f k v := by
  rw [modify, Option.map_eq_some_iff]
  constructor
  · rintro ⟨⟨v, d⟩, h, rfl⟩
    exact ⟨v, h, rfl⟩
  · rintro ⟨v, h, hv⟩
    obtain ⟨v', d⟩ := e
    obtain rfl : v' = f k v := hv
    exact ⟨⟨v, d⟩, h, rfl⟩

/-! ## Growth -/

/-- Every entry stays, its value changes by `r`, and it stays durable. -/
def Extends (r : α → α → Prop) (m m' : DurableMap κ α) : Prop :=
  ∀ k e, m k = some e →
    ∃ e', m' k = some e' ∧ r e.value e'.value ∧ (e.durable = true → e'.durable = true)

variable {r : α → α → Prop} {m m' m'' : DurableMap κ α}

theorem Extends.refl (hr : ∀ v, r v v) (m : DurableMap κ α) : Extends r m m :=
  fun _ e h => ⟨e, h, hr e.value, id⟩

theorem Extends.trans (hr : ∀ u v w, r u v → r v w → r u w) (h : Extends r m m')
    (h' : Extends r m' m'') : Extends r m m'' := by
  intro k e he
  obtain ⟨e', he', hvalue, hdurable⟩ := h k e he
  obtain ⟨e'', he'', hvalue', hdurable'⟩ := h' k e' he'
  exact ⟨e'', he'', hr _ _ _ hvalue hvalue', hdurable' ∘ hdurable⟩

theorem extends_create [DecidableEq κ] (hr : ∀ v, r v v) {k : κ} {v : α}
    (h : m.create k v = some m') : Extends r m m' := by
  obtain ⟨hnone, rfl⟩ := create_eq_some.mp h
  intro k' e he
  have hne : k' ≠ k := by
    rintro rfl
    rw [hnone] at he
    cases he
  exact ⟨e, by rw [Function.update_of_ne hne, he], hr e.value, id⟩

theorem extends_sync (hr : ∀ v, r v v) (m : DurableMap κ α) : Extends r m m.sync :=
  fun _ e h => ⟨{ e with durable := true }, sync_eq_some.mpr ⟨e.durable, h, rfl⟩, hr e.value,
    fun _ => rfl⟩

theorem extends_modify {f : κ → α → α} (hf : ∀ k v, r v (f k v)) (m : DurableMap κ α) :
    Extends r m (m.modify f) :=
  fun k e h => ⟨{ e with value := f k e.value }, modify_eq_some.mpr ⟨e.value, h, rfl⟩,
    hf k e.value, id⟩

end DurableMap

end OpenRisk.Machine
