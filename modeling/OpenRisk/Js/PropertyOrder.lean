import OpenRisk.Js.Value
import OpenRisk.Json.RoundTrip

/-!
# Property order

`ownProperties` lists the properties of an object as `Object.entries` gives them: array
indices ascending, then the other names in order of creation. Creating the listed
properties again, one after another, gives the same list.

Results:
* `ordered_ownProperties`: the list is in property order.
* `ownProperties_of_ordered`: a list in property order is kept as it is.
-/

namespace OpenRisk

open Text

/-- The first name comes before the second, whichever was created first or later. -/
def Before (k l : JsString) : Prop :=
  match arrayIndex k, arrayIndex l with
  | some i, some j => i < j
  | none, some _ => False
  | _, none => True

/-- The list is in property order. -/
def Ordered {α : Type} (es : List (JsString × α)) : Prop := (es.map Prod.fst).Pairwise Before

theorem arrayIndex_injective {k l : JsString} {i : ℕ} (hk : arrayIndex k = some i)
    (hl : arrayIndex l = some i) : k = l := by
  unfold arrayIndex at hk hl
  split_ifs at hk hl with h h'
  rw [← h.2.2.1, ← h'.2.2.1, Option.some.inj hk, Option.some.inj hl]

theorem indexBelow_iff {i : ℕ} {k : JsString} : indexBelow i k = true ↔ ∃ j, arrayIndex k = some j ∧ j < i := by
  unfold indexBelow
  cases arrayIndex k <;> simp

theorem before_of_index {k l : JsString} {i : ℕ} (hl : arrayIndex l = some i) :
    Before k l ↔ indexBelow i k = true := by
  rw [indexBelow_iff, Before, hl]
  cases arrayIndex k <;> simp

theorem before_of_none {k l : JsString} (hl : arrayIndex l = none) : Before k l := by
  unfold Before
  rw [hl]
  cases arrayIndex k <;> trivial

theorem Before.trans {k l m : JsString} (h : Before k l) (h' : Before l m) : Before k m := by
  unfold Before at h h' ⊢
  cases hm : arrayIndex m with
  | none => cases arrayIndex k <;> trivial
  | some i =>
    cases hl : arrayIndex l with
    | none =>
      rw [hl, hm] at h'
      exact h'.elim
    | some j =>
      rw [hl, hm] at h'
      rw [hl] at h
      cases hk : arrayIndex k with
      | none =>
        rw [hk] at h
        exact h.elim
      | some n =>
        rw [hk] at h
        exact Nat.lt_trans h h'

/-- Of two different names, an index comes before every name that does not come before it. -/
theorem before_of_not_below {k l : JsString} {i : ℕ} (hk : arrayIndex k = some i) (hne : l ≠ k)
    (h : ¬ indexBelow i l = true) : Before k l := by
  cases hl : arrayIndex l with
  | none => exact before_of_none hl
  | some j =>
    have hji : ¬ j < i := fun hlt => h (indexBelow_iff.mpr ⟨j, hl, hlt⟩)
    have hij : j ≠ i := fun heq => hne (arrayIndex_injective (heq ▸ hl) hk)
    rw [before_of_index hl, indexBelow_iff]
    exact ⟨i, hk, by omega⟩

/-- A name that comes after all others is appended. -/
theorem putProperty_append {α : Type} {es : List (JsString × α)} {k : JsString} (v : α)
    (hk : k ∉ es.map Prod.fst) (h : ∀ e ∈ es, Before e.1 k) : putProperty es k v = es ++ [(k, v)] := by
  rw [putProperty, if_neg hk]
  cases hi : arrayIndex k with
  | none => rfl
  | some i =>
    have hall : ∀ e ∈ es, indexBelow i e.1 = true := fun e he => (before_of_index hi).mp (h e he)
    simp only [List.takeWhile_eq_self_iff.mpr hall, List.dropWhile_eq_nil_iff.mpr hall]

theorem ordered_putProperty {α : Type} {es : List (JsString × α)} (k : JsString) (v : α)
    (h : Ordered es) : Ordered (putProperty es k v) := by
  by_cases hk : k ∈ es.map Prod.fst
  · have hnames : (es.map fun e => if e.1 = k then (k, v) else e).map Prod.fst = es.map Prod.fst := by
      rw [List.map_map]
      refine List.map_congr_left fun e _ => ?_
      by_cases he : e.1 = k <;> simp [he]
    rw [putProperty, if_pos hk, Ordered, hnames]
    exact h
  · rw [putProperty, if_neg hk]
    cases hi : arrayIndex k with
    | none =>
      simp only [Ordered, List.map_append, List.map_cons, List.map_nil]
      rw [List.pairwise_append]
      refine ⟨h, List.pairwise_singleton _ _, ?_⟩
      intro a _ b hb
      rw [List.mem_singleton.mp hb]
      exact before_of_none hi
    | some i =>
      have hsplit := List.takeWhile_append_dropWhile (p := fun e : JsString × α => indexBelow i e.1) (l := es)
      rw [Ordered, ← hsplit, List.map_append, List.pairwise_append] at h
      obtain ⟨hbelow, hrest, hacross⟩ := h
      have hafter : ∀ b ∈ (es.dropWhile fun e => indexBelow i e.1).map Prod.fst, Before k b := by
        cases hdrop : es.dropWhile fun e => indexBelow i e.1 with
        | nil => simp
        | cons d rest =>
          rw [hdrop, List.map_cons, List.pairwise_cons] at hrest
          have hd : ¬ indexBelow i d.1 = true := by
            have := List.head_dropWhile_not (fun e : JsString × α => indexBelow i e.1) (l := es)
              (by rw [hdrop]; simp)
            simpa [hdrop] using this
          have hmem : d ∈ es := by
            rw [← hsplit, hdrop]
            simp
          have hne : d.1 ≠ k := fun heq => hk (heq ▸ List.mem_map_of_mem hmem)
          have hfirst := before_of_not_below hi hne hd
          intro b hb
          rw [List.map_cons, List.mem_cons] at hb
          rcases hb with rfl | hb
          · exact hfirst
          · exact hfirst.trans (hrest.1 b hb)
      simp only [Ordered, List.map_append, List.map_cons]
      rw [List.pairwise_append, List.pairwise_cons]
      refine ⟨hbelow, ⟨hafter, hrest⟩, ?_⟩
      intro a ha b hb
      rcases List.mem_cons.mp hb with rfl | hb
      · obtain ⟨e, he, rfl⟩ := List.mem_map.mp ha
        have hindex := List.mem_takeWhile_imp (p := fun e : JsString × α => indexBelow i e.1) he
        exact (before_of_index hi).mpr hindex
      · exact hacross a ha b hb

/-- The properties of an object are in property order. -/
theorem ordered_ownProperties {α : Type} (ms : List (JsString × α)) : Ordered (ownProperties ms) := by
  have hfold : ∀ (ms es : List (JsString × α)), Ordered es →
      Ordered (ms.foldl (fun es m => putProperty es m.1 m.2) es) := by
    intro ms
    induction ms with
    | nil => exact fun es h => h
    | cons m ms ih => exact fun es h => ih _ (ordered_putProperty m.1 m.2 h)
  exact hfold ms [] List.Pairwise.nil

/-- Properties that are created in property order stay in that order. -/
theorem ownProperties_of_ordered {α : Type} {es : List (JsString × α)} (h : Ordered es)
    (hnodup : (es.map Prod.fst).Nodup) : ownProperties es = es := by
  have hfold : ∀ (ms done : List (JsString × α)), Ordered (done ++ ms) →
      ((done ++ ms).map Prod.fst).Nodup →
      ms.foldl (fun es m => putProperty es m.1 m.2) done = done ++ ms := by
    intro ms
    induction ms with
    | nil => exact fun done _ _ => (List.append_nil done).symm
    | cons m ms ih =>
      intro done hordered hdistinct
      have hsplit : done ++ m :: ms = (done ++ [m]) ++ ms := by simp
      have hput : putProperty done m.1 m.2 = done ++ [m] := by
        refine putProperty_append m.2 ?_ ?_
        · rw [List.map_append, List.map_cons, List.nodup_append] at hdistinct
          exact fun hmem => hdistinct.2.2 _ hmem _ List.mem_cons_self rfl
        · intro e he
          rw [Ordered, List.map_append, List.pairwise_append] at hordered
          exact hordered.2.2 _ (List.mem_map_of_mem he) _ List.mem_cons_self
      rw [List.foldl_cons, hput, hsplit]
      rw [hsplit] at hordered hdistinct
      exact ih (done ++ [m]) hordered hdistinct
  exact hfold es [] h hnodup

end OpenRisk
