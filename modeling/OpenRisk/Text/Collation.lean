import OpenRisk.Text.Utf16

/-!
# Root collation

`localeCompare` in the root locale, on the characters of identifiers and timestamps:
`[A-Za-z0-9._:+-]`. Two strings are compared by primary weights (punctuation, digits,
letters without case) and, where these are equal, by tertiary weights (lower case
before upper case). Characters outside this set do not occur in the strings that the
modelled code compares; they are ordered after the letters here.

Results:
* `rootCompare_eq_iff`: on these characters only equal strings compare as equal.
* the instance `Std.TransCmp rootCompare`: root collation is a total preorder.
-/

namespace OpenRisk.Text

/-- Punctuation and digits in the order of their primary weights. -/
def rootOrder : JsString := js "_-:.+0123456789"

/-- The position of a letter in the alphabet, in either case. -/
def letterIndex (u : UInt16) : Option ℕ :=
  if 0x61 ≤ u.toNat ∧ u.toNat ≤ 0x7A then some (u.toNat - 0x61)
  else if 0x41 ≤ u.toNat ∧ u.toNat ≤ 0x5A then some (u.toNat - 0x41)
  else none

def primaryWeight (u : UInt16) : ℕ :=
  match letterIndex u with
  | some i => 100 + i
  | none => if u ∈ rootOrder then rootOrder.idxOf u else 1000 + u.toNat

def tertiaryWeight (u : UInt16) : ℕ := if 0x41 ≤ u.toNat ∧ u.toNat ≤ 0x5A then 1 else 0

/-- `a.localeCompare(b)` in the root locale. -/
def rootCompare (a b : JsString) : Ordering :=
  (compare (a.map primaryWeight) (b.map primaryWeight)).then
    (compare (a.map tertiaryWeight) (b.map tertiaryWeight))

example : rootCompare (js "a_a") (js "a-a") = .lt ∧ rootCompare (js "a-a") (js "a.a") = .lt ∧
    rootCompare (js "aB") (js "Aa") = .gt ∧ rootCompare (js "a") (js "A") = .lt := by
  decide +kernel

/-- Letters, listed characters and all others have separate primary weights. -/
theorem primaryWeight_cases (u : UInt16) :
    (0x61 ≤ u.toNat ∧ u.toNat ≤ 0x7A ∧ primaryWeight u = 100 + (u.toNat - 0x61)) ∨
    (0x41 ≤ u.toNat ∧ u.toNat ≤ 0x5A ∧ primaryWeight u = 100 + (u.toNat - 0x41)) ∨
    (¬ (0x41 ≤ u.toNat ∧ u.toNat ≤ 0x5A) ∧ u ∈ rootOrder ∧ primaryWeight u = rootOrder.idxOf u ∧
      primaryWeight u < 15) ∨
    (¬ (0x41 ≤ u.toNat ∧ u.toNat ≤ 0x5A) ∧ primaryWeight u = 1000 + u.toNat) := by
  unfold primaryWeight letterIndex
  by_cases hlow : 0x61 ≤ u.toNat ∧ u.toNat ≤ 0x7A
  · rw [if_pos hlow]
    exact .inl ⟨hlow.1, hlow.2, rfl⟩
  by_cases hup : 0x41 ≤ u.toNat ∧ u.toNat ≤ 0x5A
  · rw [if_neg hlow, if_pos hup]
    exact .inr (.inl ⟨hup.1, hup.2, rfl⟩)
  rw [if_neg hlow, if_neg hup]
  by_cases hmem : u ∈ rootOrder
  · have hlt := List.idxOf_lt_length_iff.mpr hmem
    have hlen : rootOrder.length = 15 := by decide +kernel
    simp only [if_pos hmem]
    exact .inr (.inr (.inl ⟨hup, hmem, trivial, by omega⟩))
  · simp only [if_neg hmem]
    exact .inr (.inr (.inr ⟨hup, trivial⟩))

theorem tertiaryWeight_eq_one_iff (u : UInt16) :
    tertiaryWeight u = 1 ↔ 0x41 ≤ u.toNat ∧ u.toNat ≤ 0x5A := by
  unfold tertiaryWeight
  split_ifs with h
  · simp [h]
  · simp [h]

/-- The two weights of a character determine it. -/
theorem eq_of_weights {u v : UInt16} (hp : primaryWeight u = primaryWeight v)
    (ht : tertiaryWeight u = tertiaryWeight v) : u = v := by
  have hcase : (0x41 ≤ u.toNat ∧ u.toNat ≤ 0x5A) ↔ (0x41 ≤ v.toNat ∧ v.toNat ≤ 0x5A) := by
    rw [← tertiaryWeight_eq_one_iff, ← tertiaryWeight_eq_one_iff, ht]
  have hu := primaryWeight_cases u
  have hv := primaryWeight_cases v
  by_cases hlisted : u ∈ rootOrder ∧ primaryWeight u = rootOrder.idxOf u ∧
      primaryWeight v = rootOrder.idxOf v
  · exact (List.idxOf_inj hlisted.1).mp (by rw [← hlisted.2.1, ← hlisted.2.2, hp])
  · apply UInt16.toNat_inj.mp
    rcases hu with hu | hu | hu | hu <;> rcases hv with hv | hv | hv | hv
    all_goals first
      | omega
      | exact absurd ⟨hu.2.1, hu.2.2.1, hv.2.2.1⟩ hlisted

theorem map_eq_of_weights {a b : JsString} (hp : a.map primaryWeight = b.map primaryWeight)
    (ht : a.map tertiaryWeight = b.map tertiaryWeight) : a = b := by
  induction a generalizing b with
  | nil => simpa using hp.symm
  | cons u a ih =>
    cases b with
    | nil => simp at hp
    | cons v b =>
      simp only [List.map_cons, List.cons.injEq] at hp ht
      rw [eq_of_weights hp.1 ht.1, ih hp.2 ht.2]

/-- Only equal strings compare as equal. -/
theorem rootCompare_eq_iff (a b : JsString) : rootCompare a b = .eq ↔ a = b := by
  rw [rootCompare, Ordering.then_eq_eq, Std.LawfulEqCmp.compare_eq_iff_eq,
    Std.LawfulEqCmp.compare_eq_iff_eq]
  exact ⟨fun h => map_eq_of_weights h.1 h.2, fun h => by rw [h]; exact ⟨rfl, rfl⟩⟩

/-- Root collation is a total preorder. -/
instance : Std.TransCmp rootCompare :=
  inferInstanceAs (Std.TransCmp (compareLex (compareOn fun a : JsString => a.map primaryWeight)
    (compareOn fun a : JsString => a.map tertiaryWeight)))

end OpenRisk.Text
