import OpenRisk.Core.PlainData

/-!
# What `captureReferencePlainData` accepts

The budget is what is left of the node count: a capture takes as many nodes as the value has,
so that the tests of the remaining budget before the elements are read reject only what the
total count rejects.

Results:
* `captureValue_eq_ok_iff`: what is captured with a number of levels and a budget.
* `captureReferencePlainData_exact`: which plain data is captured, and what is returned.
-/

namespace OpenRisk.Core

open Text Sdk

mutual

/-- Every string is short, every number a safe integer and every key safe. -/
def Bounded : JsValue → Prop
  | .number x => x.isSafeInteger = true
  | .string s => s.length ≤ maxStringLength
  | .array xs => BoundedItems xs
  | .object es => BoundedEntries es
  | _ => True

def BoundedItems : List JsValue → Prop
  | [] => True
  | x :: xs => Bounded x ∧ BoundedItems xs

def BoundedEntries : List (JsString × JsValue) → Prop
  | [] => True
  | (key, x) :: es => isSafeKey key = true ∧ Bounded x ∧ BoundedEntries es

end

theorem nodeCount_pos (v : JsValue) : 0 < nodeCount v := by
  cases v <;> exact Nat.succ_pos _

theorem length_le_nodeCountItems (xs : List JsValue) : xs.length ≤ nodeCountItems xs := by
  induction xs with
  | nil => exact Nat.zero_le _
  | cons x xs ih =>
    have hx := nodeCount_pos x
    rw [List.length_cons, nodeCountItems]
    omega

theorem length_le_nodeCountEntries (es : List (JsString × JsValue)) :
    es.length ≤ nodeCountEntries es := by
  induction es with
  | nil => exact Nat.zero_le _
  | cons e es ih =>
    obtain ⟨key, x⟩ := e
    have hx := nodeCount_pos x
    rw [List.length_cons, nodeCountEntries]
    omega

section Loops

variable {capture : HostValue → JsString → ℕ → Except PlainDataError (JsValue × ℕ)} {room : ℕ}

/-- The captures with this number of levels accept what fits, and take its nodes. -/
def Exact (capture : HostValue → JsString → ℕ → Except PlainDataError (JsValue × ℕ)) (room : ℕ)
    (x : JsValue) : Prop :=
  ∀ label budget r, budget ≤ maxNodes →
    (capture (.ofData x) label budget = .ok r ↔
      (height x < room ∧ Bounded x) ∧ nodeCount x ≤ budget ∧ r = (x, budget - nodeCount x))

theorem captureElements_eq_ok_iff {properties : List (JsString × Property HostValue)}
    {label : JsString} {xs : List JsValue} {i budget : ℕ} {r : List JsValue × ℕ}
    (hitem : ∀ x ∈ xs, Exact capture room x)
    (hlookup : ∀ j x, xs[j]? = some x →
      properties.lookup (Json.decimal (i + j)) = some (.data true (.ofData x)))
    (hbudget : budget ≤ maxNodes) :
    captureElements capture properties label (List.range' i xs.length) budget = .ok r ↔
      (heightItems xs ≤ room ∧ BoundedItems xs) ∧ nodeCountItems xs ≤ budget ∧
        r = (xs, budget - nodeCountItems xs) := by
  induction xs generalizing i budget r with
  | nil =>
    simp only [List.length_nil, List.range'_zero, captureElements, Except.ok.injEq, heightItems,
      BoundedItems, nodeCountItems, Nat.zero_le, true_and, Nat.sub_zero]
    exact eq_comm
  | cons x xs ih =>
    have hx := hlookup 0 x rfl
    rw [Nat.add_zero] at hx
    have hrest : ∀ j y, xs[j]? = some y →
        properties.lookup (Json.decimal (i + 1 + j)) = some (.data true (.ofData y)) := by
      intro j y hy
      rw [Nat.add_right_comm, Nat.add_assoc]
      exact hlookup (j + 1) y hy
    have hhead := hitem x List.mem_cons_self
    have htail := fun y hy => hitem y (List.mem_cons_of_mem x hy)
    rw [List.length_cons, List.range'_succ, captureElements, hx]
    simp only [Property.enumerableData, bind_eq_ok, heightItems, BoundedItems, nodeCountItems]
    constructor
    · rintro ⟨⟨y, c⟩, hy, ⟨zs, d⟩, hzs, h⟩
      obtain ⟨⟨hheight, hbounded⟩, hcount, heq⟩ := (hhead _ _ _ hbudget).mp hy
      obtain ⟨rfl, rfl⟩ := Prod.mk.inj heq
      obtain ⟨⟨hheights, hboundeds⟩, hcounts, heq⟩ := (ih htail hrest (by omega)).mp hzs
      obtain ⟨rfl, rfl⟩ := Prod.mk.inj heq
      cases h
      refine ⟨⟨by omega, hbounded, hboundeds⟩, by omega, ?_⟩
      rw [Nat.sub_sub]
    · rintro ⟨⟨hheight, hbounded, hboundeds⟩, hcount, rfl⟩
      refine ⟨_, (hhead _ _ _ hbudget).mpr ⟨⟨by omega, hbounded⟩, by omega, rfl⟩, ?_⟩
      refine ⟨_, (ih htail hrest (by omega)).mpr ⟨⟨by omega, hboundeds⟩, by omega, rfl⟩, ?_⟩
      rw [Nat.sub_sub]

theorem captureMembers_eq_ok_iff {label : JsString} {es : List (JsString × JsValue)} {budget : ℕ}
    {r : List (JsString × JsValue) × ℕ} (hmember : ∀ e ∈ es, Exact capture room e.2)
    (hbudget : budget ≤ maxNodes) :
    captureMembers capture label (HostValue.ofEntries es) budget = .ok r ↔
      (heightEntries es ≤ room ∧ BoundedEntries es) ∧ nodeCountEntries es ≤ budget ∧
        r = (es, budget - nodeCountEntries es) := by
  induction es generalizing budget r with
  | nil =>
    simp only [HostValue.ofEntries, captureMembers, Except.ok.injEq, heightEntries,
      BoundedEntries, nodeCountEntries, Nat.zero_le, true_and, Nat.sub_zero]
    exact eq_comm
  | cons e es ih =>
    obtain ⟨key, x⟩ := e
    have hhead : Exact capture room x := hmember (key, x) List.mem_cons_self
    have htail := fun e he => hmember e (List.mem_cons_of_mem (key, x) he)
    rw [HostValue.ofEntries, captureMembers]
    by_cases hkey : isSafeKey key = true
    · rw [if_pos hkey]
      simp only [Property.enumerableData, bind_eq_ok, heightEntries, BoundedEntries,
        nodeCountEntries, hkey, true_and]
      constructor
      · rintro ⟨⟨y, c⟩, hy, ⟨zs, d⟩, hzs, h⟩
        obtain ⟨⟨hheight, hbounded⟩, hcount, heq⟩ := (hhead _ _ _ hbudget).mp hy
        obtain ⟨rfl, rfl⟩ := Prod.mk.inj heq
        obtain ⟨⟨hheights, hboundeds⟩, hcounts, heq⟩ := (ih htail (by omega)).mp hzs
        obtain ⟨rfl, rfl⟩ := Prod.mk.inj heq
        cases h
        refine ⟨⟨by omega, hbounded, hboundeds⟩, by omega, ?_⟩
        rw [Nat.sub_sub]
      · rintro ⟨⟨hheight, hbounded, hboundeds⟩, hcount, rfl⟩
        refine ⟨_, (hhead _ _ _ hbudget).mpr ⟨⟨by omega, hbounded⟩, by omega, rfl⟩, ?_⟩
        refine ⟨_, (ih htail (by omega)).mpr ⟨⟨by omega, hboundeds⟩, by omega, rfl⟩, ?_⟩
        rw [Nat.sub_sub]
    · rw [if_neg hkey]
      refine iff_of_false (fun h => ?_) (fun h => ?_)
      · cases h
      · exact hkey h.1.2.1

end Loops

/-- What a capture with a number of levels and a budget accepts, and what it takes of the
    budget. -/
theorem captureValue_eq_ok_iff (room : ℕ) (v : JsValue) : Exact (captureValue room) room v := by
  induction room generalizing v with
  | zero =>
    intro label budget r _
    refine iff_of_false (fun h => ?_) (fun h => ?_)
    · cases h
    · exact absurd h.1.1 (Nat.not_lt_zero _)
  | succ room ih =>
    intro label budget r hbudget
    by_cases hzero : budget = 0
    · have hpos := nodeCount_pos v
      refine iff_of_false (fun h => ?_) (fun h => ?_)
      · unfold captureValue at h
        rw [if_pos hzero] at h
        cases h
      · have hcount := h.2.1
        omega
    cases v with
    | null =>
      simp only [HostValue.ofData, captureValue, if_neg hzero, Except.ok.injEq, height, Bounded,
        nodeCount, Nat.succ_pos, true_and]
      rw [eq_comm, and_iff_right (Nat.one_le_iff_ne_zero.mpr hzero)]
    | bool b =>
      simp only [HostValue.ofData, captureValue, if_neg hzero, Except.ok.injEq, height, Bounded,
        nodeCount, Nat.succ_pos, true_and]
      rw [eq_comm, and_iff_right (Nat.one_le_iff_ne_zero.mpr hzero)]
    | number x =>
      simp only [HostValue.ofData, captureValue, if_neg hzero, height, Bounded, nodeCount,
        Nat.succ_pos, true_and]
      by_cases hsafe : x.isSafeInteger = true
      · rw [if_pos hsafe, Except.ok.injEq, eq_comm, and_iff_right hsafe,
          and_iff_right (Nat.one_le_iff_ne_zero.mpr hzero)]
      · rw [if_neg hsafe]
        refine iff_of_false (fun h => ?_) (fun h => hsafe h.1)
        cases h
    | string s =>
      simp only [HostValue.ofData, captureValue, if_neg hzero, height, Bounded, nodeCount,
        Nat.succ_pos, true_and]
      by_cases hlong : maxStringLength < s.length
      · rw [if_pos hlong]
        refine iff_of_false (fun h => ?_) (fun h => absurd h.1 (not_le.mpr hlong))
        cases h
      · rw [if_neg hlong, Except.ok.injEq, eq_comm, and_iff_right (not_lt.mp hlong),
          and_iff_right (Nat.one_le_iff_ne_zero.mpr hzero)]
    | array xs =>
      have hlength := length_le_nodeCountItems xs
      have helements : ∀ q, captureElements (captureValue room) (HostValue.ofItems 0 xs) label
          (List.range xs.length) (budget - 1) = .ok q ↔
          (heightItems xs ≤ room ∧ BoundedItems xs) ∧ nodeCountItems xs ≤ budget - 1 ∧
            q = (xs, budget - 1 - nodeCountItems xs) := by
        intro q
        rw [List.range_eq_range']
        exact captureElements_eq_ok_iff (fun x _ => ih x) (fun j x hx => lookup_ofItems hx)
          (by omega)
      have hnames : (Reflection.names (α := HostValue)
          ⟨.array xs.length, .array, false, HostValue.ofItems 0 xs⟩).length = xs.length := by
        rw [Reflection.names, HostValue.map_fst_ofItems, List.length_map, List.length_range']
      simp only [HostValue.ofData, captureValue, if_neg hzero, captureArray, ne_eq,
        not_true_eq_false, if_false, Bool.false_eq_true, hnames, height, Bounded, nodeCount]
      by_cases hlong : maxArrayLength < xs.length
      · rw [if_pos hlong]
        refine iff_of_false (fun h => ?_) (fun h => ?_)
        · cases h
        · have hcount := h.2.1
          have hmax : maxArrayLength = maxNodes := rfl
          omega
      rw [if_neg hlong]
      by_cases hbefore : budget - 1 < xs.length
      · -- the look-ahead rejects no more than the total count
        rw [if_pos hbefore]
        refine iff_of_false (fun h => ?_) (fun h => ?_)
        · cases h
        · have hcount := h.2.1
          omega
      rw [if_neg hbefore]
      simp only [bind_eq_ok, helements]
      constructor
      · rintro ⟨q, ⟨⟨hheight, hbounded⟩, hcount, rfl⟩, h⟩
        cases h
        refine ⟨⟨by omega, hbounded⟩, by omega, ?_⟩
        rw [Nat.sub_sub, Nat.add_comm]
      · rintro ⟨⟨hheight, hbounded⟩, hcount, rfl⟩
        refine ⟨_, ⟨⟨by omega, hbounded⟩, by omega, rfl⟩, ?_⟩
        rw [Nat.sub_sub, Nat.add_comm]
    | object es =>
      have hlength := length_le_nodeCountEntries es
      have hmembers : ∀ q, captureMembers (captureValue room) label (HostValue.ofEntries es)
          (budget - 1) = .ok q ↔
          (heightEntries es ≤ room ∧ BoundedEntries es) ∧ nodeCountEntries es ≤ budget - 1 ∧
            q = (es, budget - 1 - nodeCountEntries es) := by
        intro q
        exact captureMembers_eq_ok_iff (fun e _ => ih e.2) (by omega)
      have hnames : (Reflection.names (α := HostValue)
          ⟨.record, .plain, false, HostValue.ofEntries es⟩).length = es.length := by
        rw [Reflection.names, HostValue.ofEntries_eq, List.length_map, List.length_map]
      simp only [HostValue.ofData, captureValue, if_neg hzero, captureObject, ne_eq,
        not_true_eq_false, if_false, Bool.false_eq_true, hnames, height, Bounded, nodeCount]
      by_cases hbefore : budget - 1 < es.length
      · rw [if_pos hbefore]
        refine iff_of_false (fun h => ?_) (fun h => ?_)
        · cases h
        · have hcount := h.2.1
          omega
      rw [if_neg hbefore]
      simp only [bind_eq_ok, hmembers]
      constructor
      · rintro ⟨q, ⟨⟨hheight, hbounded⟩, hcount, rfl⟩, h⟩
        cases h
        refine ⟨⟨by omega, hbounded⟩, by omega, ?_⟩
        rw [Nat.sub_sub, Nat.add_comm]
      · rintro ⟨⟨hheight, hbounded⟩, hcount, rfl⟩
        refine ⟨_, ⟨⟨by omega, hbounded⟩, by omega, rfl⟩, ?_⟩
        rw [Nat.sub_sub, Nat.add_comm]

/-- Plain data is captured exactly when it is at most 8 levels deep, has at most 1000 nodes and is
    bounded; the copy is the same data, and is captured again. -/
theorem captureReferencePlainData_exact (v : JsValue) (label : JsString) :
    ((∃ w, captureReferencePlainData (.ofData v) label = .ok w) ↔
      height v ≤ maxDepth ∧ nodeCount v ≤ maxNodes ∧ Bounded v) ∧
    ∀ w, captureReferencePlainData (.ofData v) label = .ok w →
      w = v ∧ ∀ label', captureReferencePlainData (.ofData w) label' = .ok w := by
  have hiff : ∀ l w, captureReferencePlainData (.ofData v) l = .ok w ↔
      (height v ≤ maxDepth ∧ nodeCount v ≤ maxNodes ∧ Bounded v) ∧ w = v := by
    intro l w
    rw [captureReferencePlainData, map_eq_ok]
    constructor
    · rintro ⟨r, hr, rfl⟩
      obtain ⟨⟨hheight, hbounded⟩, hcount, rfl⟩ :=
        (captureValue_eq_ok_iff _ v l _ _ (le_refl _)).mp hr
      exact ⟨⟨Nat.lt_succ_iff.mp hheight, hcount, hbounded⟩, rfl⟩
    · rintro ⟨⟨hheight, hcount, hbounded⟩, rfl⟩
      exact ⟨_, (captureValue_eq_ok_iff _ w l _ _ (le_refl _)).mpr
        ⟨⟨Nat.lt_succ_iff.mpr hheight, hbounded⟩, hcount, rfl⟩, rfl⟩
  constructor
  · constructor
    · rintro ⟨w, hw⟩
      exact ((hiff label w).mp hw).1
    · intro h
      exact ⟨v, (hiff label v).mpr ⟨h, rfl⟩⟩
  · intro w hw
    obtain ⟨h, rfl⟩ := (hiff label w).mp hw
    exact ⟨rfl, fun label' => (hiff label' w).mpr ⟨h, rfl⟩⟩

end OpenRisk.Core
