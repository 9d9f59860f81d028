import Mathlib.Data.List.Sort
import Mathlib.Data.Set.List

/-!
# Sorting with a comparator

`NotAfter cmp` is the order relation of a comparator, and `sortBy key` sorts a list by a
key, as `Array.prototype.sort` does with the texts of its elements.

Results:
* `insertionSort_eq_iff`: two comparators sort a list in the same way exactly when they
  agree on it.
* `insertionSort_eq_of_perm`: sorting forgets the order of the input.
* `sortBy_pairwise`, `sortBy_eq_self`: a list without duplicates becomes strictly
  increasing, and a strictly increasing list stays as it is.
-/

namespace OpenRisk.Sorting

variable {α β : Type} {cmp : α → α → Ordering}

/-- The order of a comparator. -/
def NotAfter (cmp : α → α → Ordering) (a b : α) : Prop := cmp a b ≠ .gt

instance : DecidableRel (NotAfter cmp) := fun a b => inferInstanceAs (Decidable (cmp a b ≠ .gt))

instance [Std.TransCmp cmp] : Std.Total (NotAfter cmp) where
  total a b := by
    have hswap : cmp b a = (cmp a b).swap := Std.OrientedCmp.eq_swap
    unfold NotAfter
    rw [hswap]
    cases cmp a b <;> simp

instance [Std.TransCmp cmp] : IsTrans α (NotAfter cmp) where
  trans a b c hab hbc := by
    unfold NotAfter at hab hbc ⊢
    exact Ordering.isLE_iff_ne_gt.mp
      (Std.TransCmp.isLE_trans (Ordering.isLE_iff_ne_gt.mpr hab) (Ordering.isLE_iff_ne_gt.mpr hbc))

theorem NotAfter.antisymm [Std.OrientedCmp cmp] {a b : α} (h : NotAfter cmp a b)
    (h' : NotAfter cmp b a) : cmp a b = .eq := by
  have hswap : cmp b a = (cmp a b).swap := Std.OrientedCmp.eq_swap
  unfold NotAfter at h h'
  rw [hswap] at h'
  cases hc : cmp a b <;> simp_all

theorem transCmp_on (cmp : α → α → Ordering) [Std.TransCmp cmp] (f : β → α) :
    Std.TransCmp fun a b => cmp (f a) (f b) where
  eq_swap := Std.OrientedCmp.eq_swap
  isLE_trans := Std.TransCmp.isLE_trans

/-- Two comparators without ties sort a list in the same way exactly when they agree on
    its elements. -/
theorem insertionSort_eq_iff {cmp' : α → α → Ordering} [Std.TransCmp cmp] [Std.TransCmp cmp']
    {xs : List α} (hties : ∀ x ∈ xs, ∀ y ∈ xs, cmp x y = .eq → x = y)
    (hties' : ∀ x ∈ xs, ∀ y ∈ xs, cmp' x y = .eq → x = y) :
    xs.insertionSort (NotAfter cmp) = xs.insertionSort (NotAfter cmp') ↔
      ∀ x ∈ xs, ∀ y ∈ xs, cmp x y = cmp' x y := by
  have hself : ∀ z, cmp z z = cmp' z z := fun z =>
    (Std.ReflCmp.compare_self : cmp z z = .eq).trans Std.ReflCmp.compare_self.symm
  constructor
  · intro heq
    have hsorted := List.pairwise_insertionSort (NotAfter cmp) xs
    have hsorted' := List.pairwise_insertionSort (NotAfter cmp') xs
    rw [← heq] at hsorted'
    have hmem : ∀ x, x ∈ xs.insertionSort (NotAfter cmp) ↔ x ∈ xs := fun x =>
      List.mem_insertionSort (NotAfter cmp)
    -- of two elements the one that comes first is the smaller one under both
    have hpair : (xs.insertionSort (NotAfter cmp)).Pairwise fun x y => cmp x y = cmp' x y := by
      refine (hsorted.and hsorted').imp_of_mem fun {x y} hx hy h => ?_
      by_cases hxy : x = y
      · rw [hxy, hself]
      · have hne := mt (hties x ((hmem x).mp hx) y ((hmem y).mp hy)) hxy
        have hne' := mt (hties' x ((hmem x).mp hx) y ((hmem y).mp hy)) hxy
        have h1 := h.1
        have h2 := h.2
        unfold NotAfter at h1 h2
        cases h : cmp x y <;> cases h' : cmp' x y <;> simp_all
    have hflip : (xs.insertionSort (NotAfter cmp)).Pairwise
        (flip fun x y => cmp x y = cmp' x y) := by
      refine hpair.imp fun {x y} h => ?_
      have hswap : cmp y x = (cmp x y).swap := Std.OrientedCmp.eq_swap
      have hswap' : cmp' y x = (cmp' x y).swap := Std.OrientedCmp.eq_swap
      show cmp y x = cmp' y x
      rw [hswap, hswap', h]
    intro x hx y hy
    exact hpair.forall_of_forall_of_flip (fun z _ => hself z) hflip
      ((hmem x).mpr hx) ((hmem y).mpr hy)
  · intro h
    have := List.map_insertionSort (NotAfter cmp) (NotAfter cmp') id xs
      fun x hx y hy => by rw [NotAfter, NotAfter, h x hx y hy]; rfl
    simpa using this

/-- A comparator that is a total preorder on some values sorts lists of these values. -/
theorem pairwise_insertionSort_of_forall {P : α → Prop}
    [Std.TransCmp fun a b : Subtype P => cmp a.val b.val] {xs : List α} (h : ∀ x ∈ xs, P x) :
    (xs.insertionSort (NotAfter cmp)).Pairwise (NotAfter cmp) := by
  lift xs to List (Subtype P) using h
  have hmap := List.map_insertionSort (NotAfter fun a b : Subtype P => cmp a.val b.val)
    (NotAfter cmp) Subtype.val xs fun _ _ _ _ => Iff.rfl
  rw [← hmap, List.pairwise_map]
  exact List.pairwise_insertionSort (NotAfter fun a b : Subtype P => cmp a.val b.val) xs

/-- The order of the input does not matter where only equal values compare as equal. -/
theorem insertionSort_eq_of_perm {P : α → Prop}
    [Std.TransCmp fun a b : Subtype P => cmp a.val b.val] {xs ys : List α} (h : ∀ x ∈ xs, P x)
    (hties : ∀ x ∈ xs, ∀ y ∈ xs, cmp x y = .eq → x = y) (hperm : xs.Perm ys) :
    xs.insertionSort (NotAfter cmp) = ys.insertionSort (NotAfter cmp) := by
  have hperm' : (xs.insertionSort (NotAfter cmp)).Perm (ys.insertionSort (NotAfter cmp)) :=
    (List.perm_insertionSort _ xs).trans (hperm.trans (List.perm_insertionSort _ ys).symm)
  refine hperm'.eq_of_pairwise ?_ (pairwise_insertionSort_of_forall h)
    (pairwise_insertionSort_of_forall fun y hy => h y (hperm.mem_iff.mpr hy))
  intro a b ha hb hab hba
  have ha' : a ∈ xs := (List.mem_insertionSort _).mp ha
  have hb' : b ∈ xs := hperm.mem_iff.mpr ((List.mem_insertionSort _).mp hb)
  have hle : NotAfter (fun a b : Subtype P => cmp a.val b.val) ⟨a, h a ha'⟩ ⟨b, h b hb'⟩ := hab
  exact hties a ha' b hb' (hle.antisymm hba)

/-! ## Sorting by a key -/

section Key

variable {κ : Type} [Ord κ] {key : α → κ} {l : List α}

/-- The list sorted by a key. -/
def sortBy (key : α → κ) (l : List α) : List α :=
  l.insertionSort (NotAfter fun a b => compare (key a) (key b))

/-- The keys increase strictly. -/
def Increasing (key : α → κ) (l : List α) : Prop :=
  l.Pairwise fun a b => compare (key a) (key b) = .lt

theorem sortBy_perm (key : α → κ) (l : List α) : (sortBy key l).Perm l :=
  List.perm_insertionSort _ l

theorem sortBy_pairwise [Std.TransOrd κ] [Std.LawfulEqOrd κ] (hkey : Function.Injective key)
    (hl : l.Nodup) : Increasing key (sortBy key l) := by
  have := transCmp_on (compare : κ → κ → Ordering) key
  have hsorted := List.pairwise_insertionSort (NotAfter fun a b => compare (key a) (key b)) l
  have hnodup : (sortBy key l).Nodup := (sortBy_perm key l).nodup_iff.mpr hl
  refine (hsorted.and hnodup).imp ?_
  intro a b h
  have hne : compare (key a) (key b) ≠ .eq := fun heq =>
    h.2 (hkey (Std.LawfulEqOrd.eq_of_compare heq))
  have hle := h.1
  unfold NotAfter at hle
  cases hc : compare (key a) (key b) <;> simp_all

theorem sortBy_eq_self (hl : Increasing key l) : sortBy key l = l := by
  apply List.Pairwise.insertionSort_eq
  refine hl.imp ?_
  intro a b h
  show compare (key a) (key b) ≠ .gt
  rw [h]
  simp

theorem Increasing.nodup [Std.ReflOrd κ] (hl : Increasing key l) : l.Nodup := by
  refine hl.imp ?_
  intro a b h heq
  rw [heq, Std.ReflOrd.compare_self] at h
  cases h

end Key

end OpenRisk.Sorting
