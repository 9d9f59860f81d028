import OpenRisk.Merkle.Tree

/-!
# Trees from paths

A root and one path for each leaf, checked leaf by leaf, need not be a tree over these
leaves: a path may go to another position, and what stands beside the last node of an odd
level is chosen by the author of the path. This module says what more is needed. As in
`Merkle.Tree`, nothing is assumed of the hash function but that it separates the messages
at hand.

Results:
* `eq_of_foldPath_eq`: paths of the same sides to the same digest are equal.
* `level_of_paths`: paths on the sides of their leaves, padded by duplication, that lead to
  one digest make it the root of the tree over their leaves.
* `map_fst_path`, `pads_path`: the paths of a tree are of this kind.
-/

namespace OpenRisk.Merkle

/-- The side on which the node above leaf `i` in level `k` has its sibling. -/
def siblingSide (i k : ℕ) : Side := if i / 2 ^ k % 2 = 0 then .right else .left

/-- The sides of the siblings of leaf `i` in the levels below `m`. -/
def sides (i m : ℕ) : List Side := (List.range m).map (siblingSide i)

namespace Hashing

variable {C M D : Type*} (H : Hashing C M D)

/-- Where leaf `i` of `n` has no neighbour on the right, its path repeats the node. -/
def Pads (n i : ℕ) (start : D) (p : List (Side × D)) : Prop :=
  ∀ k s, p[k]? = some s → s.1 = .right → n ≤ (i / 2 ^ k + 1) * 2 ^ k →
    s.2 = H.foldPath start (p.take k)

/-! ## The paths of a tree -/

theorem sibling_side {xs : List D} {j i : ℕ} {s : Side × D} (h : H.sibling xs j i = some s) :
    s.1 = siblingSide i j := by
  unfold sibling neighbour at h
  unfold siblingSide
  split_ifs at h ⊢ with hk
  · obtain ⟨a, -, rfl⟩ := Option.map_eq_some_iff.mp h
    rfl
  · obtain ⟨a, -, rfl⟩ := Option.map_eq_some_iff.mp h
    rfl

/-- Every leaf has a sibling in every level. -/
theorem exists_sibling {xs : List D} {i : ℕ} (hi : i < xs.length) (j : ℕ) :
    ∃ s, H.sibling xs j i = some s := by
  obtain ⟨s, hs, -⟩ := H.level_succ_of_sibling (H.foldPath_path (List.getElem?_eq_getElem hi) j)
  exact ⟨s, hs⟩

theorem map_fst_path {xs : List D} {i : ℕ} (hi : i < xs.length) (m : ℕ) :
    (H.path xs i m).map Prod.fst = sides i m := by
  induction m with
  | zero => rfl
  | succ m ih =>
    obtain ⟨s, hs⟩ := H.exists_sibling hi m
    rw [path, List.map_append, ih, hs, sides, sides, List.range_succ, List.map_append,
      Option.toList_some, List.map_singleton, List.map_singleton, H.sibling_side hs]

/-- The step of a path at a level. -/
theorem getElem?_path {xs : List D} {i : ℕ} (hi : i < xs.length) {m k : ℕ} (hk : k < m) :
    (H.path xs i m)[k]? = H.sibling xs k i := by
  induction m with
  | zero => omega
  | succ m ih =>
    have hlen := H.length_path hi m
    obtain ⟨s, hs⟩ := H.exists_sibling hi m
    rw [path]
    by_cases hkm : k < m
    · rw [List.getElem?_append_left (by omega), ih hkm]
    · obtain rfl : k = m := by omega
      rw [List.getElem?_append_right (by omega), hlen, Nat.sub_self, hs]
      rfl

theorem take_path {xs : List D} {i : ℕ} (hi : i < xs.length) {m k : ℕ} (hk : k ≤ m) :
    (H.path xs i m).take k = H.path xs i k := by
  induction m with
  | zero =>
    obtain rfl : k = 0 := by omega
    rfl
  | succ m ih =>
    by_cases hkm : k ≤ m
    · rw [path, List.take_append_of_le_length (by rw [H.length_path hi]; exact hkm), ih hkm]
    · obtain rfl : k = m + 1 := by omega
      rw [List.take_of_length_le (by rw [H.length_path hi])]

/-- The tree pads by duplication. -/
theorem pads_path {xs : List D} {i : ℕ} {a : D} (h : xs[i]? = some a) (m : ℕ) :
    H.Pads xs.length i a (H.path xs i m) := by
  have hi : i < xs.length := (List.getElem?_eq_some_iff.mp h).1
  intro k s hs hside hlast
  have hk : k < m := by
    have := (List.getElem?_eq_some_iff.mp hs).1
    rwa [H.length_path hi] at this
  rw [H.getElem?_path hi hk] at hs
  have hnode := H.foldPath_path h k
  have hnone : (H.level xs k)[i / 2 ^ k + 1]? = none := by
    rw [List.getElem?_eq_none_iff]
    by_contra hlt
    have := (H.lt_length_level_iff xs k (i / 2 ^ k + 1)).mp (by omega)
    omega
  rw [H.take_path hi hk.le]
  unfold sibling neighbour at hs
  split_ifs at hs with hpar
  · rw [hnode, hnone, Option.map_some, Option.getD_none] at hs
    cases hs
    rfl
  · obtain ⟨b, -, rfl⟩ := Option.map_eq_some_iff.mp hs
    cases hside

/-! ## Paths to one digest -/

theorem stepMessage_mem {start : D} {p : List (Side × D)} {k : ℕ} {s : Side × D}
    (h : p[k]? = some s) :
    H.stepMessage (H.foldPath start (p.take k)) s ∈ H.pathMessages start p := by
  induction p generalizing start k with
  | nil => simp at h
  | cons t p ih =>
    rw [pathMessages]
    cases k with
    | zero =>
      cases h
      exact List.mem_cons_self
    | succ k => exact List.mem_cons_of_mem _ (ih h)

theorem foldPath_take_succ {start : D} {p : List (Side × D)} {k : ℕ} {s : Side × D}
    (h : p[k]? = some s) :
    H.foldPath start (p.take (k + 1)) = H.stepUp (H.foldPath start (p.take k)) s := by
  rw [List.take_add_one, h, foldPath_append]
  rfl

/-- Steps on the same side with one message agree. -/
theorem eq_of_stepMessage_eq {a b : D} {s t : Side × D} (hside : s.1 = t.1)
    (h : H.stepMessage a s = H.stepMessage b t) : a = b ∧ s = t := by
  obtain ⟨side, x⟩ := s
  obtain ⟨side', y⟩ := t
  obtain rfl : side = side' := hside
  cases side with
  | left =>
    obtain ⟨rfl, rfl⟩ := H.node_injective _ _ _ _ h
    exact ⟨rfl, rfl⟩
  | right =>
    obtain ⟨rfl, rfl⟩ := H.node_injective _ _ _ _ h
    exact ⟨rfl, rfl⟩

/-- Steps from the two sides of a pair: each has the other as sibling. -/
theorem siblings_of_stepMessage_eq {a b : D} {s t : Side × D} (hs : s.1 = .right) (ht : t.1 = .left)
    (h : H.stepMessage a s = H.stepMessage b t) : s.2 = b ∧ t.2 = a := by
  obtain ⟨side, x⟩ := s
  obtain ⟨side', y⟩ := t
  obtain rfl : side = .right := hs
  obtain rfl : side' = .left := ht
  obtain ⟨rfl, rfl⟩ := H.node_injective _ _ _ _ h
  exact ⟨rfl, rfl⟩

/-- Paths with the same sides that lead to the same digest are equal. -/
theorem eq_of_foldPath_eq {S : List M} (hS : H.Separates S) {a b : D} {p q : List (Side × D)}
    (hsides : p.map Prod.fst = q.map Prod.fst) (hp : H.pathMessages a p ⊆ S)
    (hq : H.pathMessages b q ⊆ S) (h : H.foldPath a p = H.foldPath b q) : a = b ∧ p = q := by
  induction p using List.reverseRecOn generalizing q with
  | nil =>
    obtain rfl : q = [] := by simpa using hsides.symm
    exact ⟨h, rfl⟩
  | append_singleton p s ih =>
    obtain rfl | ⟨q, t, rfl⟩ := q.eq_nil_or_concat'
    · simp at hsides
    rw [List.map_append, List.map_append, List.map_singleton, List.map_singleton] at hsides
    obtain ⟨hfirst, hlast⟩ := List.append_inj' hsides rfl
    rw [pathMessages_append] at hp hq
    obtain ⟨hpS, hs⟩ := List.append_subset.mp hp
    obtain ⟨hqS, ht⟩ := List.append_subset.mp hq
    rw [foldPath_append, foldPath_append] at h
    change H.stepUp _ s = H.stepUp _ t at h
    rw [← hash_stepMessage, ← hash_stepMessage] at h
    have hmsg := hS _ (hs List.mem_cons_self) _ (ht List.mem_cons_self) h
    obtain ⟨hend, rfl⟩ := H.eq_of_stepMessage_eq (List.cons.inj hlast).1 hmsg
    obtain ⟨rfl, rfl⟩ := ih hfirst hpS hqS hend
    exact ⟨rfl, rfl⟩

/-- A pair of neighbours is hashed for the level above. -/
theorem mem_pairMessages {xs : List D} {k : ℕ} {a : D} (h : xs[2 * k]? = some a) :
    H.node a (xs[2 * k + 1]?.getD a) ∈ H.pairMessages xs := by
  fun_induction pairMessages H xs generalizing k with
  | case1 => simp at h
  | case2 b =>
    cases k with
    | zero =>
      cases h
      exact List.mem_cons_self
    | succ k => simp [show 2 * (k + 1) = 2 * k + 1 + 1 by ring] at h
  | case3 b c rest ih =>
    cases k with
    | zero =>
      cases h
      exact List.mem_cons_self
    | succ k =>
      rw [show 2 * (k + 1) = 2 * k + 1 + 1 by ring] at h ⊢
      exact List.mem_cons_of_mem _ (ih h)

theorem stepMessage_mem_pairMessages {xs : List D} {j i : ℕ} {a : D} {s : Side × D}
    (ha : (H.level xs j)[i / 2 ^ j]? = some a) (hs : H.sibling xs j i = some s) :
    H.stepMessage a s ∈ H.pairMessages (H.level xs j) := by
  unfold sibling neighbour at hs
  generalize i / 2 ^ j = k at ha hs
  split_ifs at hs with hk
  · rw [ha, Option.map_some, Option.some.injEq] at hs
    subst hs
    have hk2 : 2 * (k / 2) = k := by omega
    have hmem : _ ∈ H.pairMessages (H.level xs j) :=
      H.mem_pairMessages (k := k / 2) (a := a) (by rw [hk2, ha])
    rwa [hk2] at hmem
  · obtain ⟨b, hb, rfl⟩ := Option.map_eq_some_iff.mp hs
    have hk2 : 2 * (k / 2) = k - 1 := by omega
    have hk3 : k - 1 + 1 = k := by omega
    have hmem : _ ∈ H.pairMessages (H.level xs j) :=
      H.mem_pairMessages (k := k / 2) (a := b) (by rw [hk2, hb])
    rwa [hk2, hk3, ha, Option.getD_some] at hmem

/-- The messages along the path of a leaf are among those of the tree. -/
theorem pathMessages_path_subset {xs : List D} {i : ℕ} {a : D} (h : xs[i]? = some a) (m : ℕ) :
    H.pathMessages a (H.path xs i m) ⊆ H.levelMessages xs m := by
  have hi : i < xs.length := (List.getElem?_eq_some_iff.mp h).1
  induction m with
  | zero => exact List.nil_subset _
  | succ m ih =>
    obtain ⟨s, hs⟩ := H.exists_sibling hi m
    rw [path, hs, Option.toList_some, pathMessages_append, levelMessages]
    refine List.append_subset.mpr ⟨List.subset_append_of_subset_left _ ih, ?_⟩
    rw [List.cons_subset]
    refine ⟨List.mem_append_right _ ?_, List.nil_subset _⟩
    exact H.stepMessage_mem_pairMessages (H.foldPath_path h m) hs

/-! ## The tree that paths make up -/

/-- A digest and a path for each leaf, on the sides of the leaf, that lead to it. -/
structure PathsTo (S : List M) (xs : List D) (m : ℕ) (root : D) (start : ℕ → D)
    (p : ℕ → List (Side × D)) : Prop where
  leaf : ∀ i, i < xs.length → xs[i]? = some (start i)
  sides : ∀ i, i < xs.length → (p i).map Prod.fst = sides i m
  messages : ∀ i, i < xs.length → H.pathMessages (start i) (p i) ⊆ S
  leads : ∀ i, i < xs.length → H.foldPath (start i) (p i) = root

section Paths

variable {H} {S : List M} {xs : List D} {m : ℕ} {root : D} {start : ℕ → D}
  {p : ℕ → List (Side × D)}

theorem PathsTo.exists_step (h : H.PathsTo S xs m root start p) {i k : ℕ} (hi : i < xs.length)
    (hk : k < m) : ∃ s, (p i)[k]? = some s ∧ s.1 = siblingSide i k := by
  have hside : ((p i).map Prod.fst)[k]? = some (siblingSide i k) := by
    rw [h.sides i hi, Merkle.sides, List.getElem?_map, List.getElem?_range hk]
    rfl
  rw [List.getElem?_map] at hside
  obtain ⟨s, hs, hfst⟩ := Option.map_eq_some_iff.mp hside
  exact ⟨s, hs, hfst⟩

/-- Steps that meet in the level above hash one message. -/
theorem PathsTo.stepMessage_eq (h : H.PathsTo S xs m root start p) (hS : H.Separates S)
    {i i' k : ℕ} (hi : i < xs.length) (hi' : i' < xs.length) {s s' : Side × D}
    (hs : (p i)[k]? = some s) (hs' : (p i')[k]? = some s')
    (hmeet : H.foldPath (start i) ((p i).take (k + 1)) =
      H.foldPath (start i') ((p i').take (k + 1))) :
    H.stepMessage (H.foldPath (start i) ((p i).take k)) s =
      H.stepMessage (H.foldPath (start i') ((p i').take k)) s' := by
  rw [H.foldPath_take_succ hs, H.foldPath_take_succ hs', ← hash_stepMessage,
    ← hash_stepMessage] at hmeet
  exact hS _ (h.messages i hi (H.stepMessage_mem hs)) _ (h.messages i' hi' (H.stepMessage_mem hs'))
    hmeet

/-- Paths agree on the node that they share. By induction from the root down. -/
theorem PathsTo.node_eq (h : H.PathsTo S xs m root start p) (hS : H.Separates S)
    {d k : ℕ} (hd : k + d = m) {i i' : ℕ} (hi : i < xs.length)
    (hi' : i' < xs.length) (hii : i / 2 ^ k = i' / 2 ^ k) :
    H.foldPath (start i) ((p i).take k) = H.foldPath (start i') ((p i').take k) := by
  induction d generalizing k with
  | zero =>
    have hlen : ∀ j, j < xs.length → (p j).take k = p j := by
      intro j hj
      apply List.take_of_length_le
      have := congrArg List.length (h.sides j hj)
      simp only [List.length_map, Merkle.sides, List.length_range] at this
      omega
    rw [hlen i hi, hlen i' hi', h.leads i hi, h.leads i' hi']
  | succ d ih =>
    obtain ⟨s, hs, hside⟩ := h.exists_step hi (k := k) (by omega)
    obtain ⟨s', hs', hside'⟩ := h.exists_step hi' (k := k) (by omega)
    have hup : i / 2 ^ (k + 1) = i' / 2 ^ (k + 1) := by
      rw [pow_succ, ← Nat.div_div_eq_div_mul, ← Nat.div_div_eq_div_mul, hii]
    have hsame : s.1 = s'.1 := by rw [hside, hside', siblingSide, siblingSide, hii]
    exact (H.eq_of_stepMessage_eq hsame
      (h.stepMessage_eq hS hi hi' hs hs' (ih (by omega) hup))).1

/-- The siblings in the paths of two neighbours are these neighbours. -/
theorem PathsTo.neighbours (h : H.PathsTo S xs m root start p) (hS : H.Separates S)
    {k : ℕ} (hk : k < m) {i i' : ℕ} (hi : i < xs.length)
    (hi' : i' < xs.length) (heven : i / 2 ^ k % 2 = 0) (hii : i' / 2 ^ k = i / 2 ^ k + 1)
    {s s' : Side × D} (hs : (p i)[k]? = some s) (hs' : (p i')[k]? = some s') :
    s = (.right, H.foldPath (start i') ((p i').take k)) ∧
      s' = (.left, H.foldPath (start i) ((p i).take k)) := by
  obtain ⟨t, ht, hside⟩ := h.exists_step hi hk
  obtain ⟨t', ht', hside'⟩ := h.exists_step hi' hk
  obtain rfl : s = t := Option.some.inj (hs.symm.trans ht)
  obtain rfl : s' = t' := Option.some.inj (hs'.symm.trans ht')
  rw [siblingSide, if_pos heven] at hside
  rw [siblingSide, if_neg (by omega)] at hside'
  have hup : i / 2 ^ (k + 1) = i' / 2 ^ (k + 1) := by
    rw [pow_succ, ← Nat.div_div_eq_div_mul, ← Nat.div_div_eq_div_mul, hii]
    omega
  have hmeet := h.node_eq hS (d := m - (k + 1)) (by omega) hi hi' hup
  obtain ⟨h1, h2⟩ := H.siblings_of_stepMessage_eq hside hside'
    (h.stepMessage_eq hS hi hi' hs hs' hmeet)
  exact ⟨Prod.ext hside h1, Prod.ext hside' h2⟩

/-- The nodes of padded paths are those of the tree. -/
theorem PathsTo.level_eq (h : H.PathsTo S xs m root start p) (hS : H.Separates S)
    (hpads : ∀ i, i < xs.length → H.Pads xs.length i (start i) (p i)) {k : ℕ} (hk : k ≤ m) {i : ℕ}
    (hi : i < xs.length) :
    (H.level xs k)[i / 2 ^ k]? = some (H.foldPath (start i) ((p i).take k)) := by
  induction k generalizing i with
  | zero => simpa [level, foldPath] using h.leaf i hi
  | succ k ih =>
    have hpos : 0 < 2 ^ k := by positivity
    have hbelow : i / 2 ^ k * 2 ^ k ≤ i := Nat.div_mul_le_self _ _
    obtain ⟨s, hs, hside⟩ := h.exists_step hi (k := k) (by omega)
    obtain ⟨t, ht, hup⟩ := H.level_succ_of_sibling (ih (by omega) hi)
    rw [hup, H.foldPath_take_succ hs]
    -- the sibling in the path is the one in the tree
    suffices hst : t = s by rw [hst]
    unfold sibling neighbour at ht
    by_cases heven : i / 2 ^ k % 2 = 0
    · rw [if_pos heven, ih (by omega) hi, Option.map_some, Option.some.injEq] at ht
      by_cases hlast : xs.length ≤ (i / 2 ^ k + 1) * 2 ^ k
      · have hnone : (H.level xs k)[i / 2 ^ k + 1]? = none := by
          rw [List.getElem?_eq_none_iff]
          by_contra hlt
          have := (H.lt_length_level_iff xs k (i / 2 ^ k + 1)).mp (by omega)
          omega
        have hright : s.1 = .right := by rw [hside, siblingSide, if_pos heven]
        rw [hnone, Option.getD_none] at ht
        rw [← ht]
        exact (Prod.ext hright (hpads i hi k s hs hright hlast)).symm
      · have hi' : (i / 2 ^ k + 1) * 2 ^ k < xs.length := by omega
        have hdiv : (i / 2 ^ k + 1) * 2 ^ k / 2 ^ k = i / 2 ^ k + 1 := Nat.mul_div_cancel _ hpos
        obtain ⟨s', hs', -⟩ := h.exists_step hi' (k := k) (by omega)
        have hnode := ih (by omega) hi'
        rw [hdiv] at hnode
        rw [hnode, Option.getD_some] at ht
        rw [← ht, (h.neighbours hS (by omega) hi hi' heven hdiv hs hs').1]
    · have hone : i / 2 ^ k - 1 + 1 = i / 2 ^ k := by
        have hne : i / 2 ^ k ≠ 0 := fun h0 => heven (by rw [h0])
        exact Nat.sub_add_cancel (Nat.one_le_iff_ne_zero.mpr hne)
      have hi' : (i / 2 ^ k - 1) * 2 ^ k < xs.length := by
        rw [Nat.sub_mul]
        omega
      have hdiv : (i / 2 ^ k - 1) * 2 ^ k / 2 ^ k = i / 2 ^ k - 1 := Nat.mul_div_cancel _ hpos
      obtain ⟨s', hs', -⟩ := h.exists_step hi' (k := k) (by omega)
      have hnode := ih (by omega) hi'
      rw [hdiv] at hnode
      rw [if_neg heven, hnode, Option.map_some, Option.some.injEq] at ht
      rw [← ht, (h.neighbours hS (by omega) hi' hi (by rw [hdiv]; omega) (by rw [hdiv, hone])
        hs' hs).2]

/-- The digest that padded paths lead to is the root of the tree. -/
theorem level_of_paths (h : H.PathsTo S xs (Nat.clog 2 xs.length) root start p)
    (hS : H.Separates S) (hne : xs ≠ [])
    (hpads : ∀ i, i < xs.length → H.Pads xs.length i (start i) (p i)) :
    H.level xs (Nat.clog 2 xs.length) = [root] := by
  have hpos : 0 < xs.length := List.length_pos_iff.mpr hne
  obtain ⟨r, hr⟩ := List.length_eq_one_iff.mp (H.length_level_clog xs hne)
  have htop := h.level_eq hS hpads le_rfl hpos
  have hlen : (p 0).take (Nat.clog 2 xs.length) = p 0 := by
    apply List.take_of_length_le
    have := congrArg List.length (h.sides 0 hpos)
    simp only [List.length_map, Merkle.sides, List.length_range] at this
    omega
  rw [Nat.zero_div, hlen, h.leads 0 hpos, hr, List.getElem?_cons_zero] at htop
  rw [hr, Option.some.inj htop]

end Paths

end Hashing

end OpenRisk.Merkle
