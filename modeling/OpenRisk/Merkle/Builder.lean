import OpenRisk.Merkle.Tree

/-!
# Building a Merkle tree with its proofs

A builder of the tree of `OpenRisk.Merkle.Tree` that works level by level and keeps,
for every node of the current level, the indices of the leaves below it. In each round
it pushes a node's sibling to the proofs of these leaves.

Results:
* `LoopState.step`: one round keeps the loop invariant `LoopState`.
* `buildLevels_spec`: the loop ends in the state of the top level.
* `buildTree_spec`: the construction gives the root and the path of every leaf.
-/

namespace OpenRisk.Merkle

/-- A node of the current level and the indices of the leaves below it. -/
structure TreeNode (D : Type*) where
  hash : D
  descendants : List ℕ

/-! ## The loop -/

section Builder

variable {D : Type*} (node : D → D → D)

/-- `for descendant of descendants: proofs[descendant].push(step)`. -/
def pushAll (proofs : List (List (Side × D))) (descendants : List ℕ) (step : Side × D) :
    List (List (Side × D)) :=
  descendants.foldl (fun ps d => ps.modify d (· ++ [step])) proofs

/-- One round: the next level and the extended proofs. The last node of an odd level has
    no right neighbour and is paired with itself. -/
def mergeLevel :
    List (TreeNode D) → List (List (Side × D)) → List (TreeNode D) × List (List (Side × D))
  | [], proofs => ([], proofs)
  | [left], proofs =>
    ([⟨node left.hash left.hash, left.descendants⟩],
      pushAll proofs left.descendants (.right, left.hash))
  | left :: right :: rest, proofs =>
    let proofs := pushAll proofs left.descendants (.right, right.hash)
    let proofs := pushAll proofs right.descendants (.left, left.hash)
    let (next, proofs) := mergeLevel rest proofs
    (⟨node left.hash right.hash, left.descendants ++ right.descendants⟩ :: next, proofs)

/-- `while level.length > 1`. A round halves the level, so `fuel = level.length` is
    enough (`buildLevels_spec`). -/
def buildLevels :
    ℕ → List (TreeNode D) → List (List (Side × D)) → List (TreeNode D) × List (List (Side × D))
  | 0, level, proofs => (level, proofs)
  | fuel + 1, level, proofs =>
    if 1 < level.length then
      let (next, proofs) := mergeLevel node level proofs
      buildLevels fuel next proofs
    else (level, proofs)

/-- The whole construction: every leaf starts as a node of its own with an empty proof. -/
def buildTree (leaves : List D) : List (TreeNode D) × List (List (Side × D)) :=
  buildLevels node leaves.length (leaves.mapIdx fun index hash => ⟨hash, [index]⟩)
    (leaves.map fun _ => [])

end Builder

open Hashing

/-! ## One round of the loop -/

section Round

variable {C M D : Type*} {H : Hashing C M D}

theorem length_pushAll (proofs : List (List (Side × D))) (ds : List ℕ) (step : Side × D) :
    (pushAll proofs ds step).length = proofs.length := by
  unfold pushAll
  induction ds generalizing proofs with
  | nil => rfl
  | cons d ds ih => rw [List.foldl_cons, ih, List.length_modify]

/-- `push` reaches exactly the listed proofs. -/
theorem getElem?_pushAll (proofs : List (List (Side × D))) (ds : List ℕ) (step : Side × D)
    (hds : ds.Nodup) (i : ℕ) :
    (pushAll proofs ds step)[i]? =
      if i ∈ ds then proofs[i]?.map (· ++ [step]) else proofs[i]? := by
  unfold pushAll
  induction ds generalizing proofs with
  | nil => simp
  | cons d ds ih =>
    rw [List.nodup_cons] at hds
    rw [List.foldl_cons, ih _ hds.2, List.getElem?_modify]
    by_cases hid : i = d
    · subst hid
      simp [hds.1]
    · have hdi : ¬ d = i := fun h => hid h.symm
      simp [hid, hdi]

/-- The nodes of level `j` from position `k` on: node `k + t` lies above the leaves `i`
    with `i / 2^j = k + t`. -/
def Covers (n j k : ℕ) (nodes : List (TreeNode D)) : Prop :=
  ∀ t nd, nodes[t]? = some nd →
    nd.descendants.Nodup ∧ ∀ i, i ∈ nd.descendants ↔ i < n ∧ i / 2 ^ j = k + t

theorem Covers.head {n j k : ℕ} {nd : TreeNode D} {nodes : List (TreeNode D)}
    (h : Covers n j k (nd :: nodes)) :
    nd.descendants.Nodup ∧ ∀ i, i ∈ nd.descendants ↔ i < n ∧ i / 2 ^ j = k := by
  simpa using h 0 nd rfl

theorem Covers.tail {n j k : ℕ} {nd : TreeNode D} {nodes : List (TreeNode D)}
    (h : Covers n j k (nd :: nodes)) : Covers n j (k + 1) nodes := by
  intro t x hx
  have := h (t + 1) x (by simpa using hx)
  rwa [show k + (t + 1) = k + 1 + t by ring] at this

theorem covers_cons {n j k : ℕ} {nd : TreeNode D} {nodes : List (TreeNode D)}
    (hnd : nd.descendants.Nodup) (hmem : ∀ i, i ∈ nd.descendants ↔ i < n ∧ i / 2 ^ j = k)
    (h : Covers n j (k + 1) nodes) : Covers n j k (nd :: nodes) := by
  intro t x hx
  cases t with
  | zero =>
    simp only [List.getElem?_cons_zero, Option.some.injEq] at hx
    subst hx
    exact ⟨hnd, by simpa using hmem⟩
  | succ t =>
    have := h t x (by simpa using hx)
    rwa [show k + 1 + t = k + (t + 1) by ring] at this

theorem map_hash_mergeLevel (nodes : List (TreeNode D)) (proofs : List (List (Side × D))) :
    ((mergeLevel H.nodeHash nodes proofs).1.map TreeNode.hash) =
      H.pairUp (nodes.map TreeNode.hash) := by
  fun_induction mergeLevel H.nodeHash nodes proofs with
  | case1 => rfl
  | case2 left proofs => rfl
  | case3 left right rest proofs p1 p2 next p3 heq ih =>
    rw [heq] at ih
    simp only [List.map_cons, pairUp, ← ih]

/-- The positions above: half of those below. -/
theorem covers_mergeLevel {n j k : ℕ} (nodes : List (TreeNode D)) (proofs : List (List (Side × D)))
    (h : Covers n j (2 * k) nodes)
    (hlast : ∀ i, i < n → 2 * k ≤ i / 2 ^ j → i / 2 ^ j < 2 * k + nodes.length) :
    Covers n (j + 1) k (mergeLevel H.nodeHash nodes proofs).1 := by
  have hdiv : ∀ i : ℕ, i / 2 ^ (j + 1) = i / 2 ^ j / 2 := by
    intro i
    rw [pow_succ, Nat.div_div_eq_div_mul]
  fun_induction mergeLevel H.nodeHash nodes proofs generalizing k with
  | case1 => intro t nd hnd; simp at hnd
  | case2 left proofs =>
    obtain ⟨hnd, hmem⟩ := h.head
    refine covers_cons hnd ?_ (by intro t x hx; simp at hx)
    intro i
    rw [hmem, hdiv]
    have := hlast i
    simp only [List.length_singleton] at this
    constructor
    · rintro ⟨hi, h2⟩; exact ⟨hi, by omega⟩
    · rintro ⟨hi, h2⟩; exact ⟨hi, by have := this hi (by omega); omega⟩
  | case3 left right rest proofs p1 p2 next p3 heq =>
    rename_i ih
    obtain ⟨hnd, hmem⟩ := h.head
    obtain ⟨hnd', hmem'⟩ := h.tail.head
    rw [heq] at ih
    have hrest : Covers n j (2 * (k + 1)) rest := by
      rw [show 2 * (k + 1) = 2 * k + 1 + 1 by ring]
      exact h.tail.tail
    refine covers_cons ?_ ?_ (ih hrest ?_)
    · refine List.nodup_append.mpr ⟨hnd, hnd', ?_⟩
      rintro a ha b hb rfl
      have := (hmem a).mp ha
      have := (hmem' a).mp hb
      omega
    · intro i
      rw [List.mem_append, hmem, hmem', hdiv]
      constructor
      · rintro (⟨hi, h2⟩ | ⟨hi, h2⟩)
        · exact ⟨hi, by omega⟩
        · exact ⟨hi, by omega⟩
      · rintro ⟨hi, h2⟩
        have : i / 2 ^ j = 2 * k ∨ i / 2 ^ j = 2 * k + 1 := by omega
        rcases this with h | h
        · exact .inl ⟨hi, h⟩
        · exact .inr ⟨hi, h⟩
    · intro i hi h2
      have := hlast i hi (by omega)
      simp only [List.length_cons] at this
      omega

/-- A round pushes to every proof the neighbour of its node. -/
theorem getElem?_mergeLevel {n j k : ℕ} (nodes : List (TreeNode D)) (proofs : List (List (Side × D)))
    (h : Covers n j (2 * k) nodes)
    (hlast : ∀ i, i < n → 2 * k ≤ i / 2 ^ j → i / 2 ^ j < 2 * k + nodes.length)
    {i : ℕ} (hi : i < n) :
    (mergeLevel H.nodeHash nodes proofs).2[i]? =
      if 2 * k ≤ i / 2 ^ j then
        proofs[i]?.map
          (· ++ (neighbour (nodes.map TreeNode.hash) (i / 2 ^ j - 2 * k)).toList)
      else proofs[i]? := by
  fun_induction mergeLevel H.nodeHash nodes proofs generalizing k with
  | case1 proofs =>
    have := hlast i hi
    rw [if_neg (by intro hle; have := this hle; simp at this; omega)]
  | case2 left proofs =>
    obtain ⟨hnd, hmem⟩ := h.head
    rw [getElem?_pushAll _ _ _ hnd]
    simp only [hmem]
    have hone := hlast i hi
    simp only [List.length_singleton] at hone
    by_cases hle : 2 * k ≤ i / 2 ^ j
    · have heq : i / 2 ^ j = 2 * k := by have := hone hle; omega
      rw [if_pos ⟨hi, heq⟩, if_pos hle, heq, Nat.sub_self]
      rfl
    · rw [if_neg (by omega), if_neg hle]
  | case3 left right rest proofs p1 p2 next p3 heq =>
    rename_i ih
    obtain ⟨hnd, hmem⟩ := h.head
    obtain ⟨hnd', hmem'⟩ := h.tail.head
    rw [heq] at ih
    have hrest : Covers n j (2 * (k + 1)) rest := by
      rw [show 2 * (k + 1) = 2 * k + 1 + 1 by ring]
      exact h.tail.tail
    have hlast' : ∀ i, i < n → 2 * (k + 1) ≤ i / 2 ^ j →
        i / 2 ^ j < 2 * (k + 1) + rest.length := by
      intro i hi h2
      have := hlast i hi (by omega)
      simp only [List.length_cons] at this
      omega
    show p3[i]? = _
    rw [ih hrest hlast']
    show (if _ then (pushAll (pushAll proofs _ _) _ _)[i]?.map _
      else (pushAll (pushAll proofs _ _) _ _)[i]?) = _
    rw [getElem?_pushAll _ _ _ hnd', getElem?_pushAll _ _ _ hnd]
    simp only [hmem, hmem']
    -- before the pair, in it on either side, or after it
    by_cases hlt : i / 2 ^ j < 2 * k
    · rw [if_neg (by omega), if_neg (by omega), if_neg (by omega), if_neg (by omega)]
    by_cases hleft : i / 2 ^ j = 2 * k
    · rw [if_neg (by omega), if_neg (by omega), if_pos ⟨hi, hleft⟩, if_pos (by omega), hleft,
        Nat.sub_self]
      rfl
    by_cases hright : i / 2 ^ j = 2 * k + 1
    · rw [if_neg (by omega), if_pos ⟨hi, hright⟩, if_neg (by omega), if_pos (by omega), hright,
        show 2 * k + 1 - 2 * k = 1 by omega]
      rfl
    · rw [if_pos (by omega), if_neg (by omega), if_neg (by omega), if_pos (by omega),
        show i / 2 ^ j - 2 * k = i / 2 ^ j - 2 * (k + 1) + 2 by omega, List.map_cons, List.map_cons,
        neighbour_cons_cons]

theorem length_mergeLevel_proofs (nodes : List (TreeNode D)) (proofs : List (List (Side × D))) :
    (mergeLevel H.nodeHash nodes proofs).2.length = proofs.length := by
  fun_induction mergeLevel H.nodeHash nodes proofs with
  | case1 => rfl
  | case2 left proofs => exact length_pushAll _ _ _
  | case3 left right rest proofs p1 p2 next p3 heq ih =>
    rw [heq] at ih
    rw [show (p3 : List _).length = _ from ih, length_pushAll, length_pushAll]

end Round

/-! ## The whole loop -/

section Loop

variable {C M D : Type*} {H : Hashing C M D}

/-- The state of the loop after `j` rounds over the leaf hashes `xs`. -/
structure LoopState (H : Hashing C M D) (xs : List D) (j : ℕ) (level : List (TreeNode D))
    (proofs : List (List (Side × D))) : Prop where
  hashes : level.map TreeNode.hash = H.level xs j
  covers : Covers xs.length j 0 level
  length : proofs.length = xs.length
  paths : ∀ i, i < xs.length → proofs[i]? = some (H.path xs i j)

theorem LoopState.length_level {xs : List D} {j : ℕ} {level : List (TreeNode D)}
    {proofs : List (List (Side × D))} (h : LoopState H xs j level proofs) :
    level.length = (H.level xs j).length := by
  rw [← h.hashes, List.length_map]

/-- One round of the loop. -/
theorem LoopState.step {xs : List D} {j : ℕ} {level : List (TreeNode D)}
    {proofs : List (List (Side × D))} (h : LoopState H xs j level proofs) :
    LoopState H xs (j + 1) (mergeLevel H.nodeHash level proofs).1 (mergeLevel H.nodeHash level proofs).2 := by
  have hlast : ∀ i, i < xs.length → 2 * 0 ≤ i / 2 ^ j → i / 2 ^ j < 2 * 0 + level.length := by
    intro i hi _
    have := Nat.div_mul_le_self i (2 ^ j)
    rw [h.length_level, Nat.mul_zero, Nat.zero_add, lt_length_level_iff]
    omega
  constructor
  · rw [map_hash_mergeLevel, h.hashes]
    rfl
  · exact covers_mergeLevel level proofs h.covers hlast
  · rw [length_mergeLevel_proofs, h.length]
  · intro i hi
    rw [getElem?_mergeLevel level proofs h.covers hlast hi, if_pos (by simp), h.paths i hi,
      h.hashes]
    rfl

/-- Before the first round. -/
theorem loopState_zero (xs : List D) :
    LoopState H xs 0 (xs.mapIdx fun index hash => ⟨hash, [index]⟩) (xs.map fun _ => []) := by
  constructor
  · apply List.ext_getElem?
    intro i
    simp [level, Function.comp_def]
  · intro t nd hnd
    rw [List.getElem?_mapIdx] at hnd
    obtain ⟨x, hx, rfl⟩ := Option.map_eq_some_iff.mp hnd
    have := (List.getElem?_eq_some_iff.mp hx).1
    refine ⟨List.nodup_singleton _, fun i => ?_⟩
    simp only [List.mem_singleton, pow_zero, Nat.div_one, Nat.zero_add]
    omega
  · rw [List.length_map]
  · intro i hi
    rw [List.getElem?_map, List.getElem?_eq_getElem hi]
    rfl

/-- The loop ends after `⌈log₂ n⌉` rounds, in the state of the top level. -/
theorem buildLevels_spec {xs : List D} {fuel j : ℕ} {level : List (TreeNode D)}
    {proofs : List (List (Side × D))} (h : LoopState H xs j level proofs)
    (hj : j ≤ Nat.clog 2 xs.length) (hfuel : Nat.clog 2 xs.length ≤ j + fuel) :
    LoopState H xs (Nat.clog 2 xs.length) (buildLevels H.nodeHash fuel level proofs).1
      (buildLevels H.nodeHash fuel level proofs).2 := by
  induction fuel generalizing j level proofs with
  | zero =>
    have : j = Nat.clog 2 xs.length := by omega
    subst this
    exact h
  | succ fuel ih =>
    rw [buildLevels]
    have hlen : 1 < level.length ↔ j < Nat.clog 2 xs.length := by
      rw [h.length_level, lt_length_level_iff, one_mul,
        Nat.lt_clog_iff_pow_lt (by norm_num)]
    split_ifs with hlt
    · exact ih h.step (by have := hlen.mp hlt; omega) (by omega)
    · have : j = Nat.clog 2 xs.length := by
        have := hlen.not.mp hlt
        omega
      subst this
      exact h

theorem clog_le_self (n : ℕ) : Nat.clog 2 n ≤ n := Nat.clog_le_of_le_pow Nat.lt_two_pow_self.le

/-- The construction gives the root and, for every leaf, its path. -/
theorem buildTree_spec (H : Hashing C M D) {xs : List D} (hne : xs ≠ []) :
    ∃ root proofs, buildTree H.nodeHash xs = ([root], proofs) ∧
      H.level xs (Nat.clog 2 xs.length) = [root.hash] ∧
      ∀ i, i < xs.length → proofs[i]? = some (H.path xs i (Nat.clog 2 xs.length)) := by
  have hspec := buildLevels_spec (loopState_zero (H := H) xs) (Nat.zero_le _)
    (show Nat.clog 2 xs.length ≤ 0 + xs.length by have := clog_le_self xs.length; omega)
  change LoopState H xs _ (buildTree H.nodeHash xs).1 (buildTree H.nodeHash xs).2 at hspec
  obtain ⟨r, hr⟩ := List.length_eq_one_iff.mp (H.length_level_clog xs hne)
  have h := hspec.hashes
  rw [hr] at h
  obtain ⟨nd, rest, hlevel, hhash, hrest⟩ := List.map_eq_cons_iff.mp h
  rw [List.map_eq_nil_iff] at hrest
  refine ⟨nd, (buildTree H.nodeHash xs).2, ?_, by rw [hr, hhash], hspec.paths⟩
  rw [← hrest, ← hlevel]

end Loop

/-! ## Renaming digests -/

section Map

variable {D E : Type*} {node : D → D → D} {node' : E → E → E} (f : D → E)

def TreeNode.map (nd : TreeNode D) : TreeNode E := ⟨f nd.hash, nd.descendants⟩

def mapProofs (proofs : List (List (Side × D))) : List (List (Side × E)) :=
  proofs.map fun p => p.map (Prod.map id f)

theorem mapProofs_pushAll (proofs : List (List (Side × D))) (ds : List ℕ) (step : Side × D) :
    mapProofs f (pushAll proofs ds step) = pushAll (mapProofs f proofs) ds (Prod.map id f step) := by
  unfold pushAll
  induction ds generalizing proofs with
  | nil => rfl
  | cons d ds ih =>
    have hmodify : mapProofs f (proofs.modify d (· ++ [step])) =
        (mapProofs f proofs).modify d (· ++ [Prod.map id f step]) := by
      apply List.ext_getElem?
      intro i
      simp only [mapProofs, List.getElem?_map, List.getElem?_modify]
      by_cases hi : d = i
      · cases proofs[i]? <;> simp [hi]
      · cases proofs[i]? <;> simp [hi]
    rw [List.foldl_cons, List.foldl_cons, ih, hmodify]

theorem mergeLevel_map (hf : ∀ a b, f (node a b) = node' (f a) (f b))
    (nodes : List (TreeNode D)) (proofs : List (List (Side × D))) :
    mergeLevel node' (nodes.map (TreeNode.map f)) (mapProofs f proofs) =
      ((mergeLevel node nodes proofs).1.map (TreeNode.map f),
        mapProofs f (mergeLevel node nodes proofs).2) := by
  fun_induction mergeLevel node nodes proofs with
  | case1 => rfl
  | case2 left proofs =>
    simp only [List.map_cons, List.map_nil, mergeLevel, TreeNode.map, hf, mapProofs_pushAll]
    rfl
  | case3 left right rest proofs p1 p2 next p3 heq ih =>
    have hp2 : mapProofs f p2 = pushAll (pushAll (mapProofs f proofs) left.descendants
        (.right, f right.hash)) right.descendants (.left, f left.hash) := by
      show mapProofs f (pushAll (pushAll proofs _ _) _ _) = _
      rw [mapProofs_pushAll, mapProofs_pushAll]
      rfl
    rw [heq, hp2] at ih
    simp only [List.map_cons, mergeLevel, TreeNode.map, hf] at ih ⊢
    rw [ih]

theorem buildLevels_map (hf : ∀ a b, f (node a b) = node' (f a) (f b)) (fuel : ℕ)
    (level : List (TreeNode D)) (proofs : List (List (Side × D))) :
    buildLevels node' fuel (level.map (TreeNode.map f)) (mapProofs f proofs) =
      ((buildLevels node fuel level proofs).1.map (TreeNode.map f),
        mapProofs f (buildLevels node fuel level proofs).2) := by
  induction fuel generalizing level proofs with
  | zero => rfl
  | succ fuel ih =>
    rw [buildLevels, buildLevels, List.length_map]
    split_ifs
    · rw [mergeLevel_map f hf]
      exact ih _ _
    · rfl

/-- The construction commutes with a renaming of digests that respects node hashing. -/
theorem buildTree_map (hf : ∀ a b, f (node a b) = node' (f a) (f b)) (leaves : List D) :
    buildTree node' (leaves.map f) =
      ((buildTree node leaves).1.map (TreeNode.map f), mapProofs f (buildTree node leaves).2) := by
  have hnodes : (leaves.map f).mapIdx (fun index hash => (⟨hash, [index]⟩ : TreeNode E)) =
      (leaves.mapIdx fun index hash => (⟨hash, [index]⟩ : TreeNode D)).map (TreeNode.map f) := by
    apply List.ext_getElem?
    intro i
    simp [TreeNode.map, Function.comp_def]
  have hproofs : (leaves.map f).map (fun _ => ([] : List (Side × E))) =
      mapProofs f (leaves.map fun _ => []) := by
    rw [mapProofs, List.map_map, List.map_map]
    rfl
  rw [buildTree, hnodes, hproofs, List.length_map, buildLevels_map f hf]
  rfl

end Map

end OpenRisk.Merkle
