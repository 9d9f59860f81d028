import OpenRisk.Sorting.Comparator
import OpenRisk.Sdk.Canonical

/-!
# The canonical form of a payload

The text `canonicalizePayload` returns is the compact JSON text of one value,
`canonicalJson`: strings in NFC, members sorted by name, numbers without `-0`.
The reader of `OpenRisk.Json` inverts the writer, so the text determines that value.

Results:
* `canonicalizeValue_eq_print`: the canonical text is the text of `canonicalJson`.
* `canonicalizePayload_eq_iff`: two accepted payloads have the same text exactly
  when they are equal up to the order of properties, NFC and the sign of zero.
* `canonicalizePayload_reread_iff`: the text, read back with `JSON.parse`, is
  accepted and has the same text exactly when the NFC form of every string is
  within the limit that the source checks before normalization.
-/

namespace OpenRisk.Sdk

open Text Sorting

section Form

variable (N : Normalization)

/-! ## The value behind the canonical text -/

/-- An integer as a JSON number. -/
def intToken (n : ℤ) : NumberToken := ⟨n < 0, n.natAbs, none, none⟩

mutual

/-- The canonical form: normalized strings and members sorted by name. -/
def canonicalJson : JsValue → Json
  | .null => .null
  | .bool b => .bool b
  | .number x => .number (intToken x.toInt)
  | .string s => .string (N.normalizeNfc s)
  | .array xs => .array (canonicalElements xs)
  | .object es => .object ((canonicalMembers es).insertionSort keyLE)

def canonicalElements : List JsValue → List Json
  | [] => []
  | x :: xs => canonicalJson x :: canonicalElements xs

def canonicalMembers : List (JsString × JsValue) → List (JsString × Json)
  | [] => []
  | (key, x) :: es => (key, canonicalJson x) :: canonicalMembers es

end

theorem canonicalElements_eq (xs : List JsValue) :
    canonicalElements N xs = xs.map (canonicalJson N) := by
  induction xs with
  | nil => rfl
  | cons x xs ih => rw [canonicalElements, ih]; rfl

theorem canonicalMembers_eq (es : List (JsString × JsValue)) :
    canonicalMembers N es = es.map fun e => (e.1, canonicalJson N e.2) := by
  induction es with
  | nil => rfl
  | cons e es ih => rw [canonicalMembers, ih]; rfl

theorem canonicalizeItems_eq (xs : List JsValue) :
    canonicalizeItems N xs = xs.map (canonicalizeValue N) := by
  induction xs with
  | nil => rfl
  | cons x xs ih => rw [canonicalizeItems, ih]; rfl

theorem canonicalizeEntries_eq (es : List (JsString × JsValue)) :
    canonicalizeEntries N es = es.map fun e => (e.1, canonicalizeValue N e.2) := by
  induction es with
  | nil => rfl
  | cons e es ih => rw [canonicalizeEntries, ih]; rfl

theorem printNumber_intToken (n : ℤ) : Json.printNumber (intToken n) = Json.decimalInt n := by
  by_cases h : n < 0 <;> simp [Json.printNumber, intToken, Json.decimalInt, h]

theorem joinComma_print (xs : List Json) : joinComma (xs.map Json.print) = Json.printElements xs := by
  induction xs with
  | nil => simp [joinComma, Json.printElements]
  | cons x xs ih =>
    cases xs with
    | nil => simp [joinComma, Json.printElements]
    | cons y ys =>
      rw [List.map_cons, List.map_cons, joinComma, Json.printElements, ← ih]
      rfl

theorem joinComma_printMembers (ms : List (JsString × Json)) :
    joinComma (ms.map fun m => Json.quote m.1 ++ 0x3A :: Json.print m.2) =
      Json.printMembers ms := by
  induction ms with
  | nil => simp [joinComma, Json.printMembers]
  | cons m ms ih =>
    cases ms with
    | nil => simp [joinComma, Json.printMembers]
    | cons y ys =>
      rw [List.map_cons, List.map_cons, joinComma, Json.printMembers, ← ih]
      simp

/-- The canonical text is the compact text of the canonical form. -/
theorem canonicalizeValue_eq_print (v : JsValue) :
    canonicalizeValue N v = Json.print (canonicalJson N v) := by
  induction v using JsValue.induct with
  | null => simp [canonicalizeValue, canonicalJson, Json.print]
  | bool b => cases b <;> simp [canonicalizeValue, canonicalJson, Json.print]
  | number x =>
    rw [canonicalizeValue, canonicalJson, Json.print, printNumber_intToken]
    rfl
  | string s => simp [canonicalizeValue, canonicalJson, Json.print]
  | array xs ih =>
    have hitems : canonicalizeItems N xs = (canonicalElements N xs).map Json.print := by
      rw [canonicalizeItems_eq, canonicalElements_eq, List.map_map]
      exact List.map_congr_left ih
    rw [canonicalizeValue, canonicalJson, Json.print, hitems, joinComma_print]
  | object es ih =>
    have hentries : canonicalizeEntries N es =
        (canonicalMembers N es).map fun m => (m.1, Json.print m.2) := by
      rw [canonicalizeEntries_eq, canonicalMembers_eq, List.map_map]
      refine List.map_congr_left fun e he => ?_
      rw [ih e he]
      rfl
    -- rendering the values does not change the keys, so it commutes with the sort
    have hsort : (canonicalizeEntries N es).insertionSort keyLE =
        ((canonicalMembers N es).insertionSort keyLE).map fun m => (m.1, Json.print m.2) := by
      rw [hentries]
      exact (List.map_insertionSort keyLE keyLE (fun m : JsString × Json => (m.1, Json.print m.2))
        _ fun a _ b _ => Iff.rfl).symm
    rw [canonicalizeValue, canonicalJson, Json.print, hsort, List.map_map, ← joinComma_printMembers]
    rfl

theorem integralElements_iff {xs : List Json} :
    Json.IntegralElements xs ↔ ∀ x ∈ xs, Json.Integral x := by
  induction xs with
  | nil => simp [Json.IntegralElements]
  | cons x xs ih => simp [Json.IntegralElements, ih]

theorem integralMembers_iff {ms : List (JsString × Json)} :
    Json.IntegralMembers ms ↔ ∀ m ∈ ms, Json.Integral m.2 := by
  induction ms with
  | nil => simp [Json.IntegralMembers]
  | cons m ms ih => simp [Json.IntegralMembers, ih]

/-- The canonical form has integers only. -/
theorem integral_canonicalJson (v : JsValue) : Json.Integral (canonicalJson N v) := by
  induction v using JsValue.induct with
  | null => simp [canonicalJson, Json.Integral]
  | bool b => simp [canonicalJson, Json.Integral]
  | number x => simp [canonicalJson, Json.Integral, NumberToken.isInteger, intToken]
  | string s => simp [canonicalJson, Json.Integral]
  | array xs ih =>
    rw [canonicalJson, Json.Integral, integralElements_iff, canonicalElements_eq]
    intro x hx
    obtain ⟨y, hy, rfl⟩ := List.mem_map.mp hx
    exact ih y hy
  | object es ih =>
    rw [canonicalJson, Json.Integral, integralMembers_iff]
    intro m hm
    rw [List.mem_insertionSort, canonicalMembers_eq] at hm
    obtain ⟨e, he, rfl⟩ := List.mem_map.mp hm
    exact ih e he

/-- The canonical text determines the canonical form. -/
theorem canonicalizeValue_eq_iff (a b : JsValue) :
    canonicalizeValue N a = canonicalizeValue N b ↔ canonicalJson N a = canonicalJson N b := by
  rw [canonicalizeValue_eq_print, canonicalizeValue_eq_print]
  constructor
  · exact Json.print_injective (integral_canonicalJson N a) (integral_canonicalJson N b)
  · exact fun h => by rw [h]

/-! ## Sorting by name -/

theorem keyLE_antisymm {α : Type} {a b : JsString × α} (h : keyLE a b) (h' : keyLE b a) :
    a.1 = b.1 := by
  have := transCmp_on (compare : JsString → JsString → Ordering) (Prod.fst : JsString × α → JsString)
  have hab : NotAfter (fun a b : JsString × α => compare a.1 b.1) a b := h
  exact Std.LawfulEqOrd.eq_of_compare (hab.antisymm h')

instance {α : Type} : Std.Total (keyLE (α := α)) :=
  have := transCmp_on (compare : JsString → JsString → Ordering) (Prod.fst : JsString × α → JsString)
  inferInstanceAs (Std.Total (NotAfter fun a b : JsString × α => compare a.1 b.1))

instance {α : Type} : IsTrans (JsString × α) keyLE :=
  have := transCmp_on (compare : JsString → JsString → Ordering) (Prod.fst : JsString × α → JsString)
  inferInstanceAs (IsTrans _ (NotAfter fun a b : JsString × α => compare a.1 b.1))

/-- The sorted list does not depend on the order of the input, as names are unique. -/
theorem insertionSort_keyLE_eq {α : Type} {l m : List (JsString × α)} (h : l.Perm m)
    (hl : (l.map Prod.fst).Nodup) : l.insertionSort keyLE = m.insertionSort keyLE := by
  have hperm : (l.insertionSort keyLE).Perm (m.insertionSort keyLE) :=
    ((List.perm_insertionSort keyLE l).trans h).trans (List.perm_insertionSort keyLE m).symm
  refine hperm.eq_of_pairwise ?_ (List.pairwise_insertionSort keyLE l)
    (List.pairwise_insertionSort keyLE m)
  intro a b ha hb hab hba
  have ha' : a ∈ l := (List.mem_insertionSort keyLE).mp ha
  have hb' : b ∈ l := h.mem_iff.mpr ((List.mem_insertionSort keyLE).mp hb)
  exact List.inj_on_of_nodup_map hl ha' hb' (keyLE_antisymm hab hba)

end Form

/-! ## Equality of payloads -/

/-- Equal numbers, with `-0` and `0` the same. -/
def SameNumber (x y : JsNumber) : Prop :=
  x = y ∨ (x = .negativeZero ∧ y = .finite 0) ∨ (x = .finite 0 ∧ y = .negativeZero)

mutual

/-- Equality up to the order of properties, the NFC form of string values and the
    sign of zero. -/
def PayloadEq (N : Normalization) : JsValue → JsValue → Prop
  | .null, .null => True
  | .bool a, .bool b => a = b
  | .number x, .number y => SameNumber x y
  | .string s, .string t => N.normalizeNfc s = N.normalizeNfc t
  | .array xs, .array ys => ElementsEq N xs ys
  | .object es, .object fs => ∃ gs : List (JsString × JsValue), gs.Perm fs ∧ EntriesEq N es gs
  | _, _ => False

def ElementsEq (N : Normalization) : List JsValue → List JsValue → Prop
  | [], [] => True
  | x :: xs, y :: ys => PayloadEq N x y ∧ ElementsEq N xs ys
  | _, _ => False

def EntriesEq (N : Normalization) :
    List (JsString × JsValue) → List (JsString × JsValue) → Prop
  | [], [] => True
  | (k, x) :: es, (l, y) :: fs => k = l ∧ PayloadEq N x y ∧ EntriesEq N es fs
  | _, _ => False

end

section Equality

variable {N : Normalization}

theorem cleanItems_iff {xs : List JsValue} : CleanItems N xs ↔ ∀ x ∈ xs, Clean N x := by
  induction xs with
  | nil => simp [CleanItems]
  | cons x xs ih => simp [CleanItems, ih]

theorem cleanEntries_iff {es : List (JsString × JsValue)} :
    CleanEntries N es ↔ ∀ e ∈ es, SafeKey N e.1 ∧ Clean N e.2 := by
  induction es with
  | nil => simp [CleanEntries]
  | cons e es ih => simp [CleanEntries, ih, and_assoc]

theorem intToken_injective {m n : ℤ} (h : intToken m = intToken n) : m = n := by
  simp only [intToken, NumberToken.mk.injEq, decide_eq_decide, and_true] at h
  omega

theorem sameNumber_iff {x y : JsNumber} (hx : x.isSafeInteger = true) (hy : y.isSafeInteger = true) :
    x.toInt = y.toInt ↔ SameNumber x y := by
  rcases JsNumber.eq_of_isSafeInteger hx with hx | rfl <;>
    rcases JsNumber.eq_of_isSafeInteger hy with hy | rfl
  · generalize x.toInt = m at hx
    generalize y.toInt = n at hy
    simp [SameNumber, JsNumber.ofInt, hx, hy]
  · generalize x.toInt = m at hx
    simp [SameNumber, JsNumber.ofInt, JsNumber.toInt, hx]
  · generalize y.toInt = n at hy
    simp [SameNumber, JsNumber.ofInt, JsNumber.toInt, hy, eq_comm]
  · simp [SameNumber]

/-- A list that permutes an image is the image of a permutation. -/
theorem exists_perm_map_eq {α β : Type} {f : α → β} {l : List β} {m : List α}
    (h : l.Perm (m.map f)) : ∃ m' : List α, m'.Perm m ∧ m'.map f = l := by
  generalize hb : m.map f = b at h
  induction h generalizing m with
  | nil => exact ⟨[], by simp [List.map_eq_nil_iff.mp hb], rfl⟩
  | cons x _ ih =>
    obtain ⟨a, t, rfl, rfl, rfl⟩ := List.map_eq_cons_iff.mp hb
    obtain ⟨m', hp, rfl⟩ := ih rfl
    exact ⟨a :: m', hp.cons a, rfl⟩
  | swap x y l =>
    obtain ⟨a, t, rfl, rfl, ht⟩ := List.map_eq_cons_iff.mp hb
    obtain ⟨c, t, rfl, rfl, rfl⟩ := List.map_eq_cons_iff.mp ht
    exact ⟨c :: a :: t, .swap a c t, rfl⟩
  | trans _ _ ih₁ ih₂ =>
    obtain ⟨m₂, hp₂, h₂⟩ := ih₂ hb
    obtain ⟨m₁, hp₁, h₁⟩ := ih₁ h₂
    exact ⟨m₁, hp₁.trans hp₂, h₁⟩

theorem canonicalElements_eq_iff {xs ys : List JsValue}
    (ih : ∀ x ∈ xs, ∀ y ∈ ys, canonicalJson N x = canonicalJson N y ↔ PayloadEq N x y) :
    canonicalElements N xs = canonicalElements N ys ↔ ElementsEq N xs ys := by
  induction xs generalizing ys with
  | nil => cases ys <;> simp [canonicalElements, ElementsEq]
  | cons x xs ihs =>
    cases ys with
    | nil => simp [canonicalElements, ElementsEq]
    | cons y ys =>
      rw [canonicalElements, canonicalElements, ElementsEq, List.cons.injEq,
        ih x (by simp) y (by simp), ihs fun x hx y hy => ih x (by simp [hx]) y (by simp [hy])]

theorem canonicalMembers_eq_iff {es fs : List (JsString × JsValue)}
    (ih : ∀ e ∈ es, ∀ f ∈ fs, canonicalJson N e.2 = canonicalJson N f.2 ↔ PayloadEq N e.2 f.2) :
    canonicalMembers N es = canonicalMembers N fs ↔ EntriesEq N es fs := by
  induction es generalizing fs with
  | nil => cases fs <;> simp [canonicalMembers, EntriesEq]
  | cons e es ihs =>
    cases fs with
    | nil => simp [canonicalMembers, EntriesEq]
    | cons f fs =>
      rw [canonicalMembers, canonicalMembers, EntriesEq, List.cons.injEq, Prod.mk.injEq,
        ih e (by simp) f (by simp), ihs fun e he f hf => ih e (by simp [he]) f (by simp [hf]),
        and_assoc]

theorem map_fst_canonicalMembers (es : List (JsString × JsValue)) :
    (canonicalMembers N es).map Prod.fst = es.map Prod.fst := by
  rw [canonicalMembers_eq, List.map_map]
  rfl

/-- Sorted members are equal exactly when one object's members are a rearrangement of
    the other's. -/
theorem sorted_canonicalMembers_eq_iff {es fs : List (JsString × JsValue)}
    (hes : (es.map Prod.fst).Nodup) :
    (canonicalMembers N es).insertionSort keyLE = (canonicalMembers N fs).insertionSort keyLE ↔
      ∃ gs : List (JsString × JsValue), gs.Perm fs ∧
        canonicalMembers N es = canonicalMembers N gs := by
  constructor
  · intro h
    have hperm : (canonicalMembers N es).Perm (canonicalMembers N fs) := by
      refine (List.perm_insertionSort keyLE _).symm.trans ?_
      rw [h]
      exact List.perm_insertionSort keyLE _
    rw [canonicalMembers_eq N fs] at hperm
    obtain ⟨gs, hgs, heq⟩ := exists_perm_map_eq hperm
    exact ⟨gs, hgs, by rw [canonicalMembers_eq N gs, heq]⟩
  · rintro ⟨gs, hgs, heq⟩
    have hperm : (canonicalMembers N es).Perm (canonicalMembers N fs) := by
      rw [heq, canonicalMembers_eq, canonicalMembers_eq]
      exact hgs.map _
    exact insertionSort_keyLE_eq hperm (by rwa [map_fst_canonicalMembers])

/-- Canonical forms agree exactly on equal payloads. -/
theorem canonicalJson_eq_iff {a b : JsValue} (ha : Clean N a) (hb : Clean N b)
    (ua : a.UniqueKeys) : canonicalJson N a = canonicalJson N b ↔ PayloadEq N a b := by
  induction a using JsValue.induct generalizing b with
  | null => cases b <;> simp [canonicalJson, PayloadEq]
  | bool _ => cases b <;> simp [canonicalJson, PayloadEq]
  | number x =>
    cases b with
    | number y =>
      rw [Clean] at ha hb
      rw [canonicalJson, canonicalJson, PayloadEq, ← sameNumber_iff ha hb, Json.number.injEq]
      exact ⟨intToken_injective, fun h => by rw [h]⟩
    | _ => simp [canonicalJson, PayloadEq]
  | string s => cases b <;> simp [canonicalJson, PayloadEq]
  | array xs ih =>
    cases b with
    | array ys =>
      rw [Clean, cleanItems_iff] at ha hb
      rw [JsValue.UniqueKeys, JsValue.uniqueElements_iff] at ua
      rw [canonicalJson, canonicalJson, PayloadEq, Json.array.injEq]
      exact canonicalElements_eq_iff fun x hx y hy => ih x hx (ha x hx) (hb y hy) (ua x hx)
    | _ => simp [canonicalJson, PayloadEq]
  | object es ih =>
    cases b with
    | object fs =>
      rw [Clean, cleanEntries_iff] at ha hb
      rw [JsValue.UniqueKeys, JsValue.uniqueEntries_iff] at ua
      rw [canonicalJson, canonicalJson, PayloadEq, Json.object.injEq,
        sorted_canonicalMembers_eq_iff ua.1]
      refine exists_congr fun gs => and_congr_right fun hgs => canonicalMembers_eq_iff ?_
      intro e he f hf
      exact ih e he (ha e he).2 (hb f (hgs.mem_iff.mp hf)).2 (ua.2 e he)
    | _ => simp [canonicalJson, PayloadEq]

end Equality

/-- Two accepted payloads have the same canonical text exactly when they are equal up to
    the order of properties, NFC and the sign of zero. -/
theorem canonicalizePayload_eq_iff (N : Normalization) (a b : JsData) (s t : JsString)
    (ha : canonicalizePayload N a.value = .ok s) (hb : canonicalizePayload N b.value = .ok t) :
    s = t ↔ PayloadEq N a.value b.value := by
  obtain ⟨-, -, hca, -, -, rfl⟩ := (canonicalizePayload_eq_ok_iff _ _).mp ha
  obtain ⟨-, -, hcb, -, -, rfl⟩ := (canonicalizePayload_eq_ok_iff _ _).mp hb
  rw [canonicalizeValue_eq_iff, canonicalJson_eq_iff hca hcb a.unique]

/-- `{"n": -0, "s": "\u0958"}`. -/
def composedPayload : JsData where
  value := .object [(js "n", .number .negativeZero), (js "s", .string [0x0958])]
  unique := ⟨by decide, trivial, trivial, trivial⟩

/-- `{"s": "\u0915\u093C", "n": 0}`. -/
def decomposedPayload : JsData where
  value := .object [(js "s", .string [0x0915, 0x093C]), (js "n", .number (.finite 0))]
  unique := ⟨by decide, trivial, trivial, trivial⟩

theorem canonicalizePayload_eq_iff_composed :
    canonicalizePayload devanagari composedPayload.value =
        canonicalizePayload devanagari decomposedPayload.value ∧
      PayloadEq devanagari composedPayload.value decomposedPayload.value := by
  have ha : canonicalizePayload devanagari composedPayload.value =
      .ok (js "\x7b\"n\":0,\"s\":\"" ++ [0x0915, 0x093C] ++ js "\"\x7d") := by decide +kernel
  have hb : canonicalizePayload devanagari decomposedPayload.value =
      .ok (js "\x7b\"n\":0,\"s\":\"" ++ [0x0915, 0x093C] ++ js "\"\x7d") := by decide +kernel
  exact ⟨ha.trans hb.symm, (canonicalizePayload_eq_iff devanagari _ _ _ _ ha hb).mp rfl⟩

/-! ## Reading the canonical text back -/

section Reread

variable {N : Normalization}

mutual

/-- The NFC form of every string value is within the limit on strings. -/
def ShortNfc (N : Normalization) : JsValue → Prop
  | .string s => (N.normalizeNfc s).length ≤ MAX_STRING_LENGTH
  | .array xs => ShortNfcItems N xs
  | .object es => ShortNfcEntries N es
  | _ => True

def ShortNfcItems (N : Normalization) : List JsValue → Prop
  | [] => True
  | x :: xs => ShortNfc N x ∧ ShortNfcItems N xs

def ShortNfcEntries (N : Normalization) : List (JsString × JsValue) → Prop
  | [] => True
  | (_, x) :: es => ShortNfc N x ∧ ShortNfcEntries N es

end

theorem shortNfcItems_iff {xs : List JsValue} : ShortNfcItems N xs ↔ ∀ x ∈ xs, ShortNfc N x := by
  induction xs with
  | nil => simp [ShortNfcItems]
  | cons x xs ih => simp [ShortNfcItems, ih]

theorem shortNfcEntries_iff {es : List (JsString × JsValue)} :
    ShortNfcEntries N es ↔ ∀ e ∈ es, ShortNfc N e.2 := by
  induction es with
  | nil => simp [ShortNfcEntries]
  | cons e es ih => simp [ShortNfcEntries, ih]

/-- The value `JSON.parse` gives for the canonical text. -/
def reread (N : Normalization) (v : JsValue) : JsValue := (canonicalJson N v).toJs

theorem jsonParse_canonicalizeValue (v : JsValue) :
    jsonParse (canonicalizeValue N v) = some (reread N v) := by
  rw [jsonParse, canonicalizeValue_eq_print, Json.parse_print _ (integral_canonicalJson N v)]
  rfl

theorem numberOfToken_intToken {x : JsNumber} (hx : x.isSafeInteger = true) :
    JsNumber.numberOfToken (intToken x.toInt) = JsNumber.ofInt x.toInt := by
  have hbound : x.toInt.natAbs ≤ JsNumber.maxSafeInteger := by
    rcases JsNumber.eq_of_isSafeInteger hx with h | rfl
    · rw [h] at hx
      exact (JsNumber.isSafeInteger_ofInt _).mp hx
    · exact Nat.zero_le _
  have hlt : x.toInt.natAbs < 2 ^ 53 := by unfold JsNumber.maxSafeInteger at hbound; omega
  rw [JsNumber.numberOfToken, JsNumber.tokenMagnitude_integer rfl]
  generalize x.toInt = n at hlt
  rw [intToken, JsNumber.roundBinary64_of_lt _ hlt, JsNumber.ofInt]
  by_cases hn : n < 0
  · have h0 : n ≠ 0 := by omega
    have hcast : ((n.natAbs : ℕ) : ℚ) = -n := by
      rw [Nat.cast_natAbs, abs_of_neg hn, Int.cast_neg]
    simp [hn, h0, hcast]
  · have hcast : ((n.natAbs : ℕ) : ℚ) = n := by rw [Nat.cast_natAbs, abs_of_nonneg (by omega)]
    simp only [hn, decide_false, Bool.false_eq_true, if_false, hcast]
    split_ifs with h0
    · have : n = 0 := by omega
      simp [this]
    · rfl

/-- The entries of a reread object are the reread entries, in some order. -/
theorem reread_entries_perm {es : List (JsString × JsValue)} (h : (es.map Prod.fst).Nodup) :
    (ownProperties (membersToJs ((canonicalMembers N es).insertionSort keyLE))).Perm
      (es.map fun e => (e.1, reread N e.2)) := by
  have hsort := List.perm_insertionSort keyLE (canonicalMembers N es)
  have hkeys : ((canonicalMembers N es).insertionSort keyLE).map Prod.fst |>.Nodup := by
    rw [(hsort.map Prod.fst).nodup_iff, map_fst_canonicalMembers]
    exact h
  refine (ownProperties_perm (by rwa [map_fst_membersToJs])).trans ?_
  rw [membersToJs_eq]
  refine (hsort.map _).trans ?_
  rw [canonicalMembers_eq, List.map_map]
  exact .refl _

theorem heightEntries_perm {es fs : List (JsString × JsValue)} (h : es.Perm fs) :
    heightEntries es = heightEntries fs := by
  induction h with
  | nil => rfl
  | cons e _ ih => rw [heightEntries, heightEntries, ih]
  | swap e f l => simp only [heightEntries]; omega
  | trans _ _ ih₁ ih₂ => exact ih₁.trans ih₂

theorem nodeCountEntries_perm {es fs : List (JsString × JsValue)} (h : es.Perm fs) :
    nodeCountEntries es = nodeCountEntries fs := by
  induction h with
  | nil => rfl
  | cons e _ ih => rw [nodeCountEntries, nodeCountEntries, ih]
  | swap e f l => simp only [nodeCountEntries]; omega
  | trans _ _ ih₁ ih₂ => exact ih₁.trans ih₂

theorem reread_object (es : List (JsString × JsValue)) :
    reread N (.object es) =
      .object (ownProperties (membersToJs ((canonicalMembers N es).insertionSort keyLE))) := by
  rw [reread, canonicalJson, Json.toJs]

theorem reread_array (xs : List JsValue) : reread N (.array xs) = .array (xs.map (reread N)) := by
  rw [reread, canonicalJson, Json.toJs, elementsToJs_eq, canonicalElements_eq, List.map_map]
  rfl

/-- Reading back keeps the height of a value. -/
theorem height_reread {v : JsValue} (hv : v.UniqueKeys) : height (reread N v) = height v := by
  induction v using JsValue.induct with
  | null | bool _ | number _ | string _ => simp [reread, canonicalJson, Json.toJs, height]
  | array xs ih =>
    rw [JsValue.UniqueKeys, JsValue.uniqueElements_iff] at hv
    rw [reread_array, height, height]
    induction xs with
    | nil => rfl
    | cons x xs ihs =>
      rw [List.map_cons, heightItems, heightItems, ih x (by simp) (hv x (by simp)),
        ihs (fun x hx => ih x (by simp [hx])) fun x hx => hv x (by simp [hx])]
  | object es ih =>
    rw [JsValue.UniqueKeys, JsValue.uniqueEntries_iff] at hv
    rw [reread_object, height, height, heightEntries_perm (reread_entries_perm hv.1)]
    replace hv := hv.2
    induction es with
    | nil => rfl
    | cons e es ihs =>
      rw [List.map_cons, heightEntries, heightEntries, ih e (by simp) (hv e (by simp)),
        ihs (fun x hx => ih x (by simp [hx])) fun x hx => hv x (by simp [hx])]

/-- Reading back keeps the number of nodes. -/
theorem nodeCount_reread {v : JsValue} (hv : v.UniqueKeys) :
    nodeCount (reread N v) = nodeCount v := by
  induction v using JsValue.induct with
  | null | bool _ | number _ | string _ => simp [reread, canonicalJson, Json.toJs, nodeCount]
  | array xs ih =>
    rw [JsValue.UniqueKeys, JsValue.uniqueElements_iff] at hv
    rw [reread_array, nodeCount, nodeCount]
    congr 1
    induction xs with
    | nil => rfl
    | cons x xs ihs =>
      rw [List.map_cons, nodeCountItems, nodeCountItems, ih x (by simp) (hv x (by simp)),
        ihs (fun x hx => ih x (by simp [hx])) fun x hx => hv x (by simp [hx])]
  | object es ih =>
    rw [JsValue.UniqueKeys, JsValue.uniqueEntries_iff] at hv
    rw [reread_object, nodeCount, nodeCount, nodeCountEntries_perm (reread_entries_perm hv.1)]
    congr 1
    replace hv := hv.2
    induction es with
    | nil => rfl
    | cons e es ihs =>
      rw [List.map_cons, nodeCountEntries, nodeCountEntries, ih e (by simp) (hv e (by simp)),
        ihs (fun x hx => ih x (by simp [hx])) fun x hx => hv x (by simp [hx])]

/-- The strings of a reread value are the NFC forms, so the validator now sees their
    lengths. -/
theorem clean_reread_iff {v : JsValue} (hv : v.UniqueKeys) (hc : Clean N v) :
    Clean N (reread N v) ↔ ShortNfc N v := by
  induction v using JsValue.induct with
  | null | bool _ => simp [reread, canonicalJson, Json.toJs, Clean, ShortNfc]
  | number x =>
    rw [Clean] at hc
    rw [reread, canonicalJson, Json.toJs, Clean, ShortNfc, numberOfToken_intToken hc]
    · rcases JsNumber.eq_of_isSafeInteger hc with h | rfl
      · rw [← h]; simp [hc]
      · simp only [iff_true]; decide
    all_goals simp
  | string s => simp [reread, canonicalJson, Json.toJs, Clean, ShortNfc]
  | array xs ih =>
    rw [JsValue.UniqueKeys, JsValue.uniqueElements_iff] at hv
    rw [Clean, cleanItems_iff] at hc
    rw [reread_array, Clean, ShortNfc, cleanItems_iff, shortNfcItems_iff, List.forall_mem_map]
    exact forall₂_congr fun x hx => ih x hx (hv x hx) (hc x hx)
  | object es ih =>
    rw [JsValue.UniqueKeys, JsValue.uniqueEntries_iff] at hv
    rw [Clean, cleanEntries_iff] at hc
    rw [reread_object, Clean, ShortNfc, cleanEntries_iff, shortNfcEntries_iff]
    have hmem := fun e => (reread_entries_perm (N := N) hv.1).mem_iff (a := e)
    simp only [hmem, List.forall_mem_map]
    refine forall₂_congr fun e he => ?_
    rw [and_iff_right (hc e he).1]
    exact ih e he (hv.2 e he) (hc e he).2

mutual

/-- Every number of the value is a safe integer. -/
def SafeNumbers : JsValue → Prop
  | .number x => x.isSafeInteger = true
  | .array xs => SafeElements xs
  | .object es => SafeEntries es
  | _ => True

def SafeElements : List JsValue → Prop
  | [] => True
  | x :: xs => SafeNumbers x ∧ SafeElements xs

def SafeEntries : List (JsString × JsValue) → Prop
  | [] => True
  | (_, x) :: es => SafeNumbers x ∧ SafeEntries es

end

theorem safeElements_iff {xs : List JsValue} : SafeElements xs ↔ ∀ x ∈ xs, SafeNumbers x := by
  induction xs with
  | nil => simp [SafeElements]
  | cons x xs ih => simp [SafeElements, ih]

theorem safeEntries_iff {es : List (JsString × JsValue)} :
    SafeEntries es ↔ ∀ e ∈ es, SafeNumbers e.2 := by
  induction es with
  | nil => simp [SafeEntries]
  | cons e es ih => simp [SafeEntries, ih]

theorem safeNumbers_of_clean {v : JsValue} (hc : Clean N v) : SafeNumbers v := by
  induction v using JsValue.induct with
  | null | bool _ | string _ => trivial
  | number x => exact hc
  | array xs ih =>
    rw [Clean, cleanItems_iff] at hc
    rw [SafeNumbers, safeElements_iff]
    exact fun x hx => ih x hx (hc x hx)
  | object es ih =>
    rw [Clean, cleanEntries_iff] at hc
    rw [SafeNumbers, safeEntries_iff]
    exact fun e he => ih e he (hc e he).2

/-- Reading back does not change the canonical form. -/
theorem canonicalJson_reread {v : JsValue} (hv : v.UniqueKeys) (hc : SafeNumbers v) :
    canonicalJson N (reread N v) = canonicalJson N v := by
  induction v using JsValue.induct with
  | null | bool _ => simp [reread, canonicalJson, Json.toJs]
  | number x =>
    rw [SafeNumbers] at hc
    rw [reread, canonicalJson, Json.toJs, numberOfToken_intToken hc, canonicalJson,
      JsNumber.toInt_ofInt]
  | string s => simp [reread, canonicalJson, Json.toJs]
  | array xs ih =>
    rw [JsValue.UniqueKeys, JsValue.uniqueElements_iff] at hv
    rw [SafeNumbers, safeElements_iff] at hc
    rw [reread_array, canonicalJson, canonicalJson, canonicalElements_eq, canonicalElements_eq,
      List.map_map]
    congr 1
    exact List.map_congr_left fun x hx => ih x hx (hv x hx) (hc x hx)
  | object es ih =>
    rw [JsValue.UniqueKeys, JsValue.uniqueEntries_iff] at hv
    rw [SafeNumbers, safeEntries_iff] at hc
    rw [reread_object, canonicalJson, canonicalJson]
    congr 1
    have hperm := reread_entries_perm (N := N) hv.1
    generalize ownProperties (membersToJs _) = fs at hperm ⊢
    refine insertionSort_keyLE_eq ?_ ?_
    · rw [canonicalMembers_eq, canonicalMembers_eq]
      refine (hperm.map _).trans (.of_eq ?_)
      rw [List.map_map]
      refine List.map_congr_left fun e he => ?_
      rw [Function.comp_apply, ih e he (hv.2 e he) (hc e he)]
    · rw [map_fst_canonicalMembers, (hperm.map Prod.fst).nodup_iff, List.map_map]
      exact hv.1

/-- The value read back has the same text, and is accepted as far as its strings are. -/
theorem canonicalizePayload_reread {v : JsValue} (hv : v.UniqueKeys) {t : JsString}
    (h : canonicalizePayload N v = .ok t) :
    canonicalizePayload N (reread N v) = .ok t ↔ ShortNfc N v := by
  obtain ⟨⟨es, hes⟩, hheight, hclean, hnodes, hbytes, rfl⟩ := (canonicalizePayload_eq_ok_iff _ _).mp h
  have htext : canonicalizeValue N (reread N v) = canonicalizeValue N v :=
    (canonicalizeValue_eq_iff N _ _).mpr (canonicalJson_reread hv (safeNumbers_of_clean hclean))
  have hobject : ∃ fs, reread N v = .object fs := ⟨_, by rw [hes, reread_object]⟩
  rw [canonicalizePayload_eq_ok_iff, htext, height_reread hv, nodeCount_reread hv,
    clean_reread_iff hv hclean]
  exact ⟨fun h => h.2.2.1, fun h => ⟨hobject, hheight, h, hnodes, hbytes, rfl⟩⟩

end Reread

/-- The canonical text of an accepted payload reads back to an accepted payload with
    the same text exactly when the NFC form of every string is within the limit. -/
theorem canonicalizePayload_reread_iff (N : Normalization) (v : JsData) (t : JsString)
    (h : canonicalizePayload N v.value = .ok t) :
    (∃ w, jsonParse t = some w ∧ canonicalizePayload N w = .ok t) ↔ ShortNfc N v.value := by
  have ht : t = canonicalizeValue N v.value :=
    ((canonicalizePayload_eq_ok_iff _ _).mp h).2.2.2.2.2
  have hparse : jsonParse t = some (reread N v.value) := by rw [ht, jsonParse_canonicalizeValue]
  rw [← canonicalizePayload_reread v.unique h, hparse]
  simp

theorem canonicalizePayload_reread_composed :
    ∃ t, canonicalizePayload devanagari composedPayload.value = .ok t ∧
      ∃ w, jsonParse t = some w ∧ canonicalizePayload devanagari w = .ok t := by
  have h : canonicalizePayload devanagari composedPayload.value =
      .ok (js "\x7b\"n\":0,\"s\":\"" ++ [0x0915, 0x093C] ++ js "\"\x7d") := by decide +kernel
  have hshort : ShortNfc devanagari composedPayload.value :=
    ⟨trivial, by rw [ShortNfc]; decide +kernel, trivial⟩
  exact ⟨_, h, (canonicalizePayload_reread_iff devanagari composedPayload _ h).mpr hshort⟩

/-- `{"s": "\u0958…"}` with 1,025 copies of U+0958, which become 2,050 code units. -/
def nuktaPayload : JsData where
  value := .object [(js "s", .string (List.replicate 1025 0x0958))]
  unique := ⟨by decide, trivial, trivial⟩

/-- The string passes the limit before normalization and fails it after. -/
theorem canonicalizePayload_not_reread :
    ∃ t, canonicalizePayload devanagari nuktaPayload.value = .ok t ∧
      ¬ ∃ w, jsonParse t = some w ∧ canonicalizePayload devanagari w = .ok t := by
  have h : canonicalizePayload devanagari nuktaPayload.value =
      .ok (canonicalizeValue devanagari nuktaPayload.value) := by
    rw [canonicalizePayload_eq_ok_iff]
    refine ⟨⟨_, rfl⟩, by decide +kernel, ?_, by decide +kernel, by decide +kernel, rfl⟩
    exact ⟨⟨by decide +kernel, by decide +kernel⟩, by rw [Clean]; decide +kernel, trivial⟩
  have hlong : ¬ ShortNfc devanagari nuktaPayload.value := by
    rintro ⟨hs, -⟩
    rw [ShortNfc] at hs
    exact absurd hs (by decide +kernel)
  refine ⟨_, h, ?_⟩
  rw [jsonParse_canonicalizeValue]
  rintro ⟨w, hw, hok⟩
  rw [← Option.some.inj hw] at hok
  exact hlong ((canonicalizePayload_reread nuktaPayload.unique h).mp hok)

end OpenRisk.Sdk
