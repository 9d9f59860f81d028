import Mathlib.Data.List.Lex
import Mathlib.Data.Prod.Lex
import Mathlib.Order.WithBot
import OpenRisk.Sorting.Comparator

/-!
# Comparators and the keys they compare

`Compares cmp key` says that a comparator compares the keys of two elements in a linear order.
Comparators that are put together (one after another, of two optional values, of two lists)
compare the keys that are put together in the same way.

Results:
* `Compares.lex`, `Compares.nullsLast`, `compares_list`: the keys of composed comparators.
* `Compares.increasing`: a sorted list without repeated keys is strictly increasing.
* `eq_of_increasing`: a strictly increasing list is determined by its elements.
-/

namespace OpenRisk.Sorting

variable {α β κ ι : Type}

/-- A value that comes after all others where it is absent. -/
def nullsLast : Option κ → WithTop κ
  | some k => k
  | none => ⊤

theorem nullsLast_inj {a b : Option κ} : nullsLast a = nullsLast b ↔ a = b := by
  cases a <;> cases b <;> simp [nullsLast]

variable [LinearOrder κ] [LinearOrder ι]

/-- `cmp` is the order of the keys. -/
structure Compares (cmp : α → α → Ordering) (key : α → κ) : Prop where
  lt : ∀ a b, cmp a b = .lt ↔ key a < key b
  eq : ∀ a b, cmp a b = .eq ↔ key a = key b

theorem Compares.comp {cmp : α → α → Ordering} {key : α → κ} (h : Compares cmp key) (f : β → α) :
    Compares (fun a b => cmp (f a) (f b)) (key ∘ f) :=
  ⟨fun a b => h.lt (f a) (f b), fun a b => h.eq (f a) (f b)⟩

/-- The second comparator decides where the first one finds no difference. -/
theorem Compares.lex {cmp cmp' : α → α → Ordering} {key : α → κ} {key' : α → ι}
    (h : Compares cmp key) (h' : Compares cmp' key') :
    Compares (fun a b => (cmp a b).then (cmp' a b)) fun a => toLex (key a, key' a) := by
  constructor
  · intro a b
    rw [Ordering.then_eq_lt, h.lt, h.eq, h'.lt, Prod.Lex.toLex_lt_toLex]
  · intro a b
    rw [Ordering.then_eq_eq, h.eq, h'.eq, toLex_inj, Prod.mk.injEq]

theorem compares_ord : Compares (compare : κ → κ → Ordering) id :=
  ⟨fun _ _ => compare_lt_iff_lt, fun _ _ => compare_eq_iff_eq⟩

theorem compare_list_lt (xs ys : List κ) : compare xs ys = .lt ↔ xs < ys := by
  induction xs generalizing ys with
  | nil =>
    cases ys with
    | nil => simp [compare, List.compareLex_nil_nil]
    | cons y ys => simp [compare, List.compareLex_nil_cons]
  | cons x xs ih =>
    cases ys with
    | nil => simp [compare, List.compareLex_cons_nil]
    | cons y ys =>
      have hcons : compare (x :: xs) (y :: ys) = (compare x y).then (compare xs ys) :=
        List.compareLex_cons_cons
      rw [hcons, Ordering.then_eq_lt, compare_lt_iff_lt, compare_eq_iff_eq, ih,
        List.cons_lt_cons_iff]

/-- Lists are compared element by element. -/
theorem compares_list : Compares (compare : List κ → List κ → Ordering) id :=
  ⟨compare_list_lt, fun _ _ => Std.LawfulEqCmp.compare_eq_iff_eq⟩

/-- A comparator of optional values that puts an absent one last. -/
theorem Compares.nullsLast {cmp : α → α → Ordering} {key : α → κ} (h : Compares cmp key)
    {nullable : Option α → Option α → Ordering} (hnone : nullable none none = .eq)
    (hleft : ∀ a, nullable none (some a) = .gt) (hright : ∀ a, nullable (some a) none = .lt)
    (hsome : ∀ a b, nullable (some a) (some b) = cmp a b) :
    Compares nullable fun a => Sorting.nullsLast (a.map key) := by
  constructor
  · intro a b
    cases a with
    | none => cases b <;> simp [hnone, hleft, Sorting.nullsLast]
    | some a =>
      cases b with
      | none => simp [hright, Sorting.nullsLast]
      | some b => simp [hsome, h.lt, Sorting.nullsLast]
  · intro a b
    cases a with
    | none => cases b <;> simp [hnone, hleft, Sorting.nullsLast]
    | some a =>
      cases b with
      | none => simp [hright, Sorting.nullsLast]
      | some b => simp [hsome, h.eq, Sorting.nullsLast]

/-- A sorted list in which no key is repeated is strictly increasing. -/
theorem Compares.increasing {cmp : α → α → Ordering} {key : α → κ} (h : Compares cmp key)
    {l : List α} (hsorted : l.Pairwise (NotAfter cmp)) (hnodup : (l.map key).Nodup) :
    l.Pairwise fun a b => key a < key b := by
  rw [List.Nodup, List.pairwise_map] at hnodup
  refine (hsorted.and hnodup).imp ?_
  intro a b ⟨hle, hne⟩
  rw [← h.lt]
  have heq := mt (h.eq a b).mp hne
  unfold NotAfter at hle
  cases hc : cmp a b with
  | lt => rfl
  | eq => exact absurd hc heq
  | gt => exact absurd hc hle

/-- A strictly increasing list is determined by its elements. -/
theorem eq_of_increasing {key : α → κ} {l l' : List α} (h : l.Pairwise fun a b => key a < key b)
    (h' : l'.Pairwise fun a b => key a < key b) (hmem : ∀ a, a ∈ l ↔ a ∈ l') : l = l' := by
  have : Std.Irrefl fun a b => key a < key b := ⟨fun a => lt_irrefl (key a)⟩
  have : Std.Antisymm fun a b => key a < key b := ⟨fun a b hab hba => absurd hab (lt_asymm hba)⟩
  exact List.Pairwise.eq_of_mem_iff h h' hmem

end OpenRisk.Sorting
