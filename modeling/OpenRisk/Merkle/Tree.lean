import Mathlib

/-!
# Merkle trees that pad by duplication

The general theory of a binary hash tree over a list of leaves in which the last
node of an odd level is paired with itself. Leaves and nodes are hashed as messages
of separate domains. No property of the hash function is assumed: results say what
follows from equal digests, up to an explicit pair of distinct messages with the
same digest.

Results:
* `foldPath_path`: the siblings of a leaf, level by level, lead to the root.
* `length_path`, `length_level_clog`: there are `⌈log₂ n⌉` of them.
* `mem_of_foldPath_eq`: a path that leads to a node of some level starts at a leaf.
* `eq_of_level_eq`: the top level determines the leaves, if they are distinct.
-/

namespace OpenRisk.Merkle

/-- Messages of leaves and of inner nodes, and their hash. -/
structure Hashing (C M D : Type*) where
  hash : M → D
  leaf : C → M
  node : D → D → M
  leaf_injective : Function.Injective leaf
  node_injective : ∀ a b c d, node a b = node c d → a = c ∧ b = d
  leaf_ne_node : ∀ c a b, leaf c ≠ node a b

/-- The side of a sibling in its pair. -/
inductive Side where
  | left
  | right
  deriving DecidableEq

namespace Hashing

variable {C M D : Type*} (H : Hashing C M D)

def leafHash (c : C) : D := H.hash (H.leaf c)

def nodeHash (a b : D) : D := H.hash (H.node a b)

/-! ## Levels -/

/-- The level above: neighbours are hashed together, a last odd one with itself. -/
def pairUp : List D → List D
  | [] => []
  | [a] => [H.nodeHash a a]
  | a :: b :: rest => H.nodeHash a b :: pairUp rest

/-- The messages hashed for the level above. -/
def pairMessages : List D → List M
  | [] => []
  | [a] => [H.node a a]
  | a :: b :: rest => H.node a b :: pairMessages rest

/-- Level `j` above the list `xs`. -/
def level (xs : List D) : ℕ → List D
  | 0 => xs
  | j + 1 => H.pairUp (level xs j)

/-- The messages hashed for the levels `1, …, m`. -/
def levelMessages (xs : List D) : ℕ → List M
  | 0 => []
  | m + 1 => levelMessages xs m ++ H.pairMessages (H.level xs m)

theorem getElem?_pairUp (xs : List D) (k : ℕ) :
    (H.pairUp xs)[k]? = xs[2 * k]?.map fun a => H.nodeHash a (xs[2 * k + 1]?.getD a) := by
  fun_induction pairUp H xs generalizing k with
  | case1 => simp
  | case2 a =>
    cases k with
    | zero => simp
    | succ k => simp [show 2 * (k + 1) = 2 * k + 1 + 1 by ring]
  | case3 a b rest ih =>
    cases k with
    | zero => simp
    | succ k =>
      rw [List.getElem?_cons_succ, ih, show 2 * (k + 1) = 2 * k + 1 + 1 by ring]
      simp only [List.getElem?_cons_succ]

theorem length_pairUp (xs : List D) : (H.pairUp xs).length = (xs.length + 1) / 2 := by
  fun_induction pairUp H xs with
  | case1 => simp
  | case2 a => simp
  | case3 a b rest ih => simp only [List.length_cons, ih]; omega

/-- A level has `⌈n / 2^j⌉` nodes. -/
theorem length_level (xs : List D) (j : ℕ) :
    (H.level xs j).length = (xs.length + (2 ^ j - 1)) / 2 ^ j := by
  induction j with
  | zero => simp [level]
  | succ j ih =>
    have hpos : 0 < 2 ^ j := by positivity
    rw [level, length_pairUp, ih, pow_succ, ← Nat.div_div_eq_div_mul,
      show xs.length + (2 ^ j * 2 - 1) = xs.length + (2 ^ j - 1) + 2 ^ j by omega,
      Nat.add_div_right _ hpos]

theorem lt_length_level_iff (xs : List D) (j k : ℕ) :
    k < (H.level xs j).length ↔ k * 2 ^ j < xs.length := by
  have hpos : 0 < 2 ^ j := by positivity
  rw [length_level, Nat.lt_div_iff_mul_lt hpos]
  omega

/-- The level that has a single node. -/
theorem length_level_clog (xs : List D) (h : xs ≠ []) :
    (H.level xs (Nat.clog 2 xs.length)).length = 1 := by
  have hn : 0 < xs.length := List.length_pos_iff.mpr h
  have h0 := (H.lt_length_level_iff xs (Nat.clog 2 xs.length) 0).mpr (by omega)
  have h1 := (H.lt_length_level_iff xs (Nat.clog 2 xs.length) 1).not.mpr
    (by have := Nat.le_pow_clog (b := 2) (by norm_num) xs.length; omega)
  omega

/-! ## The path of a leaf -/

/-- The other node of the pair that node `k` of a level belongs to. -/
def neighbour (l : List D) (k : ℕ) : Option (Side × D) :=
  if k % 2 = 0 then l[k]?.map fun a => (.right, l[k + 1]?.getD a)
  else l[k - 1]?.map fun a => (.left, a)

theorem neighbour_cons_cons (a b : D) (l : List D) (k : ℕ) :
    neighbour (a :: b :: l) (k + 2) = neighbour l k := by
  unfold neighbour
  rw [Nat.add_mod_right]
  by_cases hk : k % 2 = 0
  · simp [hk]
  · have : k + 2 - 1 = k - 1 + 2 := by omega
    simp [hk, this]

/-- The sibling of the node above leaf `i` in level `j`. -/
def sibling (xs : List D) (j i : ℕ) : Option (Side × D) := neighbour (H.level xs j) (i / 2 ^ j)

/-- The siblings of leaf `i` in the levels below `m`. -/
def path (xs : List D) (i : ℕ) : ℕ → List (Side × D)
  | 0 => []
  | m + 1 => path xs i m ++ (H.sibling xs m i).toList

/-- The parent of `current` and its sibling. -/
def stepUp (current : D) (step : Side × D) : D :=
  match step.1 with
  | .left => H.nodeHash step.2 current
  | .right => H.nodeHash current step.2

/-- The digest a path leads to. -/
def foldPath (start : D) (p : List (Side × D)) : D := p.foldl H.stepUp start

theorem foldPath_append (start : D) (p q : List (Side × D)) :
    H.foldPath start (p ++ q) = H.foldPath (H.foldPath start p) q := List.foldl_append

/-- One step up: a node and its sibling give the node above. -/
theorem level_succ_of_sibling {xs : List D} {j i : ℕ} {a : D}
    (h : (H.level xs j)[i / 2 ^ j]? = some a) :
    ∃ s, H.sibling xs j i = some s ∧
      (H.level xs (j + 1))[i / 2 ^ (j + 1)]? = some (H.stepUp a s) := by
  have hdiv : i / 2 ^ (j + 1) = i / 2 ^ j / 2 := by rw [pow_succ, Nat.div_div_eq_div_mul]
  rw [level, hdiv, getElem?_pairUp]
  unfold sibling neighbour
  generalize i / 2 ^ j = k at h
  by_cases hk : k % 2 = 0
  · have hk2 : 2 * (k / 2) = k := by omega
    rw [hk2]
    simp only [hk, if_true, h, Option.map_some]
    exact ⟨_, rfl, rfl⟩
  · have hk2 : 2 * (k / 2) = k - 1 := by omega
    have hk3 : k - 1 + 1 = k := by omega
    -- an odd node has a left neighbour
    obtain ⟨b, hb⟩ : ∃ b, (H.level xs j)[k - 1]? = some b := by
      have hlt : k - 1 < (H.level xs j).length := by
        have := (List.getElem?_eq_some_iff.mp h).1
        omega
      exact ⟨_, List.getElem?_eq_getElem hlt⟩
    rw [hk2, hk3]
    simp only [hk, if_false, h, hb, Option.map_some, Option.getD_some]
    exact ⟨_, rfl, rfl⟩

/-- The path of leaf `i` leads to its node in every level. -/
theorem foldPath_path {xs : List D} {i : ℕ} {a : D} (h : xs[i]? = some a) (m : ℕ) :
    (H.level xs m)[i / 2 ^ m]? = some (H.foldPath a (H.path xs i m)) := by
  induction m with
  | zero => simpa [level, path, foldPath] using h
  | succ m ih =>
    obtain ⟨s, hs, hup⟩ := H.level_succ_of_sibling ih
    rw [hup, path, foldPath_append, hs]
    rfl

/-- A path has one step for each level. -/
theorem length_path {xs : List D} {i : ℕ} (hi : i < xs.length) (m : ℕ) :
    (H.path xs i m).length = m := by
  induction m with
  | zero => rfl
  | succ m ih =>
    obtain ⟨s, hs, -⟩ := H.level_succ_of_sibling (H.foldPath_path (List.getElem?_eq_getElem hi) m)
    rw [path, List.length_append, ih, hs]
    rfl

/-- The path of a leaf leads to the only node of the top level. -/
theorem foldPath_path_root {xs : List D} {i : ℕ} {a : D} (h : xs[i]? = some a) :
    H.level xs (Nat.clog 2 xs.length) =
      [H.foldPath a (H.path xs i (Nat.clog 2 xs.length))] := by
  have hi : i < xs.length := (List.getElem?_eq_some_iff.mp h).1
  have hne : xs ≠ [] := by rintro rfl; simp at h
  obtain ⟨r, hr⟩ := List.length_eq_one_iff.mp (H.length_level_clog xs hne)
  have hz : i / 2 ^ Nat.clog 2 xs.length = 0 := by
    apply Nat.div_eq_of_lt
    have := Nat.le_pow_clog (b := 2) (by norm_num) xs.length
    omega
  have hpath := H.foldPath_path h (Nat.clog 2 xs.length)
  rw [hz, hr] at hpath
  rw [hr]
  simpa using hpath

/-! ## Collisions -/

/-- Two distinct messages of the list have the same digest. -/
def Collision (S : List M) : Prop := ∃ a ∈ S, ∃ b ∈ S, a ≠ b ∧ H.hash a = H.hash b

/-- The hash separates the messages of the list. -/
def Separates (S : List M) : Prop := ∀ a ∈ S, ∀ b ∈ S, H.hash a = H.hash b → a = b

theorem collision_or_separates (S : List M) : H.Collision S ∨ H.Separates S := by
  by_cases h : H.Collision S
  · exact .inl h
  · refine .inr fun a ha b hb hab => ?_
    by_contra hne
    exact h ⟨a, ha, b, hb, hne, hab⟩

theorem Separates.mono {S T : List M} (h : H.Separates T) (hST : S ⊆ T) : H.Separates S :=
  fun a ha b hb => h a (hST ha) b (hST hb)

/-- Every node of the level above is the digest of a message of two nodes below. -/
theorem mem_pairUp {xs : List D} {d : D} (h : d ∈ H.pairUp xs) :
    ∃ a ∈ xs, ∃ b ∈ xs, H.node a b ∈ H.pairMessages xs ∧ d = H.nodeHash a b := by
  fun_induction pairUp H xs with
  | case1 => cases h
  | case2 a =>
    rw [List.mem_singleton] at h
    exact ⟨a, by simp, a, by simp, by simp [pairMessages], h⟩
  | case3 a b rest ih =>
    rcases List.mem_cons.mp h with h | h
    · exact ⟨a, by simp, b, by simp, by simp [pairMessages], h⟩
    · obtain ⟨x, hx, y, hy, hxy, hd⟩ := ih h
      exact ⟨x, by simp [hx], y, by simp [hy], by simp [pairMessages, hxy], hd⟩

theorem pairMessages_subset (xs : List D) {j m : ℕ} (h : j < m) :
    H.pairMessages (H.level xs j) ⊆ H.levelMessages xs m := by
  intro x hx
  induction m with
  | zero => omega
  | succ m ih =>
    rw [levelMessages, List.mem_append]
    rcases Nat.lt_succ_iff_lt_or_eq.mp h with h | rfl
    · exact .inl (ih h)
    · exact .inr hx

/-! ## Soundness of paths -/

/-- The message hashed in one step of a path. -/
def stepMessage (current : D) (step : Side × D) : M :=
  match step.1 with
  | .left => H.node step.2 current
  | .right => H.node current step.2

/-- The messages hashed along a path. -/
def pathMessages (start : D) : List (Side × D) → List M
  | [] => []
  | s :: p => H.stepMessage start s :: pathMessages (H.stepUp start s) p

theorem hash_stepMessage (current : D) (step : Side × D) :
    H.hash (H.stepMessage current step) = H.stepUp current step := by
  unfold stepMessage stepUp
  cases step.1 <;> rfl

theorem pathMessages_append (start : D) (p : List (Side × D)) (s : Side × D) :
    H.pathMessages start (p ++ [s]) =
      H.pathMessages start p ++ [H.stepMessage (H.foldPath start p) s] := by
  induction p generalizing start with
  | nil => rfl
  | cons t p ih => rw [List.cons_append, pathMessages, ih]; rfl

theorem leaf_ne_stepMessage (c : C) (current : D) (step : Side × D) :
    H.leaf c ≠ H.stepMessage current step := by
  unfold stepMessage
  cases step.1
  · exact H.leaf_ne_node _ _ _
  · exact H.leaf_ne_node _ _ _

/-- The two children of a node include the digest a path came from. -/
theorem mem_of_stepMessage_eq {current a b : D} {step : Side × D}
    (h : H.stepMessage current step = H.node a b) : current = a ∨ current = b := by
  unfold stepMessage at h
  cases hside : step.1 with
  | left =>
    rw [hside] at h
    exact .inr (H.node_injective _ _ _ _ h).2
  | right =>
    rw [hside] at h
    exact .inl (H.node_injective _ _ _ _ h).1

/-- A path from the hash of `c` that leads to a node of some level starts at a leaf.
    The induction peels the last step of the path and the top level together: a leaf is
    no node, so neither can end before the other. -/
theorem mem_of_foldPath_mem {cs : List C} {c : C} {S : List M} (hS : H.Separates S) {m : ℕ}
    (hcs : cs.map H.leaf ⊆ S) (hlevels : H.levelMessages (cs.map H.leafHash) m ⊆ S)
    (hc : H.leaf c ∈ S) (p : List (Side × D)) (hp : H.pathMessages (H.leafHash c) p ⊆ S)
    {j : ℕ} (hj : j ≤ m)
    (h : H.foldPath (H.leafHash c) p ∈ H.level (cs.map H.leafHash) j) : c ∈ cs := by
  induction p using List.reverseRecOn generalizing j with
  | nil =>
    cases j with
    | zero =>
      obtain ⟨x, hx, hxc⟩ := List.mem_map.mp h
      have := hS _ (hcs (List.mem_map.mpr ⟨x, hx, rfl⟩)) _ hc hxc
      rwa [← H.leaf_injective this]
    | succ j =>
      obtain ⟨a, -, b, -, hab, hd⟩ := H.mem_pairUp h
      have := hS _ hc _ (hlevels (H.pairMessages_subset _ (by omega) hab)) hd
      exact absurd this (H.leaf_ne_node _ _ _)
  | append_singleton p s ih =>
    rw [pathMessages_append] at hp
    have hpS := (List.append_subset.mp hp).1
    have hsS : H.stepMessage (H.foldPath (H.leafHash c) p) s ∈ S := hp (by simp)
    rw [foldPath_append] at h
    change H.stepUp _ s ∈ _ at h
    rw [← hash_stepMessage] at h
    cases j with
    | zero =>
      obtain ⟨x, hx, hxs⟩ := List.mem_map.mp h
      have := hS _ (hcs (List.mem_map.mpr ⟨x, hx, rfl⟩)) _ hsS hxs
      exact absurd this (H.leaf_ne_stepMessage _ _ _)
    | succ j =>
      obtain ⟨a, ha, b, hb, hab, hd⟩ := H.mem_pairUp h
      have heq := hS _ hsS _ (hlevels (H.pairMessages_subset _ (by omega) hab)) hd
      refine ih hpS (j := j) (by omega) ?_
      rcases H.mem_of_stepMessage_eq heq with h | h
      · rwa [h]
      · rwa [h]

/-! ## The top level determines the leaves -/

/-- Distinct nodes have distinct parents: the padded node has no twin. -/
theorem nodup_pairUp {S : List M} (hS : H.Separates S) {xs : List D}
    (hxs : H.pairMessages xs ⊆ S) (h : xs.Nodup) : (H.pairUp xs).Nodup := by
  fun_induction pairUp H xs with
  | case1 => exact List.nodup_nil
  | case2 a => exact List.nodup_singleton _
  | case3 a b rest ih =>
    rw [pairMessages] at hxs
    have hrest := (List.cons_subset.mp hxs).2
    have hab : H.node a b ∈ S := hxs (by simp)
    simp only [List.nodup_cons, List.mem_cons, not_or] at h
    refine List.nodup_cons.mpr ⟨?_, ih hrest h.2.2⟩
    intro hmem
    obtain ⟨x, hx, y, -, hxy, hd⟩ := H.mem_pairUp hmem
    have := H.node_injective _ _ _ _ (hS _ hab _ (hrest hxy) hd)
    exact h.1.2 (this.1 ▸ hx)

/-- The level above determines a level of distinct nodes, also when its length is not
    known. -/
theorem eq_of_pairUp_eq {S : List M} (hS : H.Separates S) {xs ys : List D}
    (hxs : H.pairMessages xs ⊆ S) (hys : H.pairMessages ys ⊆ S) (hx : xs.Nodup) (hy : ys.Nodup)
    (h : H.pairUp xs = H.pairUp ys) : xs = ys := by
  fun_induction pairUp H xs generalizing ys with
  | case1 =>
    match ys with
    | [] => rfl
    | [_] => simp [pairUp] at h
    | _ :: _ :: _ => simp [pairUp] at h
  | case2 a =>
    match ys with
    | [] => simp [pairUp] at h
    | [b] =>
      simp only [pairUp, List.cons.injEq, and_true] at h
      have := hS _ (hxs (by simp [pairMessages])) _ (hys (by simp [pairMessages])) h
      rw [(H.node_injective _ _ _ _ this).1]
    | b :: c :: rest =>
      simp only [pairUp, List.cons.injEq] at h
      have := H.node_injective _ _ _ _
        (hS _ (hxs (by simp [pairMessages])) _ (hys (by simp [pairMessages])) h.1)
      -- `a` twice on one side, two distinct nodes on the other
      rw [← this.1, ← this.2] at hy
      simp at hy
  | case3 a b rest ih =>
    match ys with
    | [] => simp [pairUp] at h
    | [c] =>
      simp only [pairUp, List.cons.injEq] at h
      have := H.node_injective _ _ _ _
        (hS _ (hxs (by simp [pairMessages])) _ (hys (by simp [pairMessages])) h.1)
      rw [this.1, this.2] at hx
      simp at hx
    | c :: d :: rest' =>
      simp only [pairUp, List.cons.injEq] at h
      have heq := H.node_injective _ _ _ _
        (hS _ (hxs (by simp [pairMessages])) _ (hys (by simp [pairMessages])) h.1)
      rw [pairMessages] at hxs hys
      have hrest := ih (List.cons_subset.mp hxs).2 (List.cons_subset.mp hys).2
        (hx.of_cons.of_cons) (hy.of_cons.of_cons) h.2
      rw [heq.1, heq.2, hrest]

theorem nodup_map_leafHash {S : List M} (hS : H.Separates S) {cs : List C}
    (hcs : cs.map H.leaf ⊆ S) (h : cs.Nodup) : (cs.map H.leafHash).Nodup := by
  refine (List.nodup_map_iff_inj_on h).mpr fun x hx y hy hxy => ?_
  exact H.leaf_injective
    (hS _ (hcs (List.mem_map.mpr ⟨x, hx, rfl⟩)) _ (hcs (List.mem_map.mpr ⟨y, hy, rfl⟩)) hxy)

theorem nodup_level {S : List M} (hS : H.Separates S) {xs : List D} {m : ℕ}
    (hlevels : H.levelMessages xs m ⊆ S) (h : xs.Nodup) {j : ℕ} (hj : j ≤ m) :
    (H.level xs j).Nodup := by
  induction j with
  | zero => exact h
  | succ j ih =>
    exact H.nodup_pairUp hS (fun x hx => hlevels (H.pairMessages_subset xs (by omega) hx))
      (ih (by omega))

theorem eq_of_map_leafHash_eq {S : List M} (hS : H.Separates S) {cs ds : List C}
    (hcs : cs.map H.leaf ⊆ S) (hds : ds.map H.leaf ⊆ S)
    (h : cs.map H.leafHash = ds.map H.leafHash) : cs = ds := by
  induction cs generalizing ds with
  | nil => simpa using h.symm
  | cons c cs ih =>
    cases ds with
    | nil => simp at h
    | cons d ds =>
      simp only [List.map_cons, List.cons.injEq] at h
      simp only [List.map_cons, List.cons_subset] at hcs hds
      rw [H.leaf_injective (hS _ hcs.1 _ hds.1 h.1), ih hcs.2 hds.2 h.2]

/-- No level of inner nodes is a list of leaves. -/
theorem map_leafHash_ne_pairUp {S : List M} (hS : H.Separates S) {cs : List C} (hne : cs ≠ [])
    (hcs : cs.map H.leaf ⊆ S) {ys : List D} (hys : H.pairMessages ys ⊆ S) :
    cs.map H.leafHash ≠ H.pairUp ys := by
  intro h
  cases cs with
  | nil => exact hne rfl
  | cons c cs =>
    obtain ⟨a, -, b, -, hab, hd⟩ := H.mem_pairUp (h ▸ List.mem_cons_self : H.leafHash c ∈ H.pairUp ys)
    exact H.leaf_ne_node c a b (hS _ (hcs (by simp)) _ (hys hab) hd)

/-- Equal levels of two trees, at any two heights, come from the same leaves. -/
theorem eq_of_level_eq {S : List M} (hS : H.Separates S) {cs ds : List C} {m n : ℕ}
    (hcs : cs.map H.leaf ⊆ S) (hds : ds.map H.leaf ⊆ S)
    (hm : H.levelMessages (cs.map H.leafHash) m ⊆ S)
    (hn : H.levelMessages (ds.map H.leafHash) n ⊆ S) (hc : cs.Nodup) (hd : ds.Nodup)
    (hc0 : cs ≠ []) (hd0 : ds ≠ [])
    (h : H.level (cs.map H.leafHash) m = H.level (ds.map H.leafHash) n) : cs = ds := by
  have hxs := H.nodup_map_leafHash hS hcs hc
  have hys := H.nodup_map_leafHash hS hds hd
  induction m generalizing n with
  | zero =>
    cases n with
    | zero => exact H.eq_of_map_leafHash_eq hS hcs hds h
    | succ n =>
      rw [levelMessages] at hn
      exact absurd h (H.map_leafHash_ne_pairUp hS hc0 hcs (List.append_subset.mp hn).2)
  | succ m ih =>
    rw [levelMessages] at hm
    have hm' := List.append_subset.mp hm
    cases n with
    | zero => exact absurd h.symm (H.map_leafHash_ne_pairUp hS hd0 hds hm'.2)
    | succ n =>
      rw [levelMessages] at hn
      have hn' := List.append_subset.mp hn
      refine ih hm'.1 hn'.1 (H.eq_of_pairUp_eq hS hm'.2 hn'.2 ?_ ?_ h)
      · exact H.nodup_level hS hm'.1 hxs le_rfl
      · exact H.nodup_level hS hn'.1 hys le_rfl

end Hashing

end OpenRisk.Merkle
