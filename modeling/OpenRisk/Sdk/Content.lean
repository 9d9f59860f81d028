import OpenRisk.Json.Data
import OpenRisk.Sdk.CanonicalForm
import OpenRisk.Sdk.Checks
import OpenRisk.Sorting.Comparator

/-!
# What two payloads with one canonical text differ in

`canonicalizePayload` gives two payloads the same text when they are equal up to the
order of properties, the sign of zero and the NFC form of their strings. A program that
receives the payloads themselves sees the strings as they are.

Results:
* `sameContent_iff`: payloads with one canonical text have the same content exactly when
  no two different strings with one NFC form stand at the same place.
* `jsonParse_uniqueKeys`: no object that `JSON.parse` builds repeats a name.
-/

namespace OpenRisk.Sdk

open Text Sorting

/-! ## Places -/

/-- One step into a value. -/
inductive Step where
  | key (name : JsString)
  | index (i : ℕ)

/-- What one step leads to. -/
def child : Step → JsValue → Option JsValue
  | .key k, .object es => es.lookup k
  | .index i, .array xs => xs[i]?
  | _, _ => none

/-- What stands at a place of a value. -/
def place : List Step → JsValue → Option JsValue
  | [], v => some v
  | step :: path, v => (child step v).bind (place path)

/-! ## Content -/

/-- The normalization that changes nothing. -/
def verbatim : Normalization where
  nfc l := l
  nfkc l := l
  nfc_idem _ := rfl
  nfc_ascii l _ := id_eq l
  nfkc_ascii l _ := id_eq l
  nfc_surrogates _ := rfl
  nfc_noSplitPair _ h := h

@[simp] theorem verbatim_normalizeNfc (s : JsString) : verbatim.normalizeNfc s = s :=
  flatMap_utf16_codePoints s

/-- Equal values: objects without regard to the order of properties, numbers as `===`
    compares them, strings unit by unit. -/
def SameContent (a b : JsValue) : Prop := PayloadEq verbatim a b

/-- Different strings at the same place of the two values have different NFC forms. -/
def NfcTellsApart (N : Normalization) (a b : JsValue) : Prop :=
  ∀ path s t, place path a = some (.string s) → place path b = some (.string t) →
    N.normalizeNfc s = N.normalizeNfc t → s = t

section Objects

variable {α : Type} {es : List (JsString × α)} {k : JsString} {x : α}

theorem mem_of_lookup (h : es.lookup k = some x) : (k, x) ∈ es := by
  obtain ⟨l, m, rfl, -⟩ := List.lookup_eq_some_iff.mp h
  simp

theorem lookup_of_mem (hes : (es.map Prod.fst).Nodup) (h : (k, x) ∈ es) : es.lookup k = some x := by
  induction es with
  | nil => cases h
  | cons e es ih =>
    rw [List.map_cons, List.nodup_cons] at hes
    rcases List.mem_cons.mp h with h | h
    · rw [← h, List.lookup_cons_self]
    · have hne : k ≠ e.1 := by
        intro heq
        exact hes.1 (heq ▸ List.mem_map_of_mem h)
      rw [List.lookup_cons, beq_false_of_ne hne]
      exact ih hes.2 h

end Objects

/-! ## Names -/

/-- Sorting forgets the order of the names and nothing else. -/
theorem sortNames_eq_iff {names expected : List JsString} :
    sortNames names = sortNames expected ↔ names.Perm expected := by
  have hnames := List.perm_insertionSort (NotAfter compare) names
  have hexpected := List.perm_insertionSort (NotAfter compare) expected
  constructor
  · intro h
    exact hnames.symm.trans ((List.Perm.of_eq h).trans hexpected)
  · intro h
    refine ((hnames.trans h).trans hexpected.symm).eq_of_pairwise ?_
      (List.pairwise_insertionSort (NotAfter compare) names)
      (List.pairwise_insertionSort (NotAfter compare) expected)
    intro a b _ _ hab hba
    exact Std.LawfulEqOrd.eq_of_compare (hab.antisymm hba)

section Relation

variable {N : Normalization}

theorem forall₂_imp_of_mem {α β : Type} {R S : α → β → Prop} {l : List α} {m : List β}
    (h : List.Forall₂ R l m) (himp : ∀ a ∈ l, ∀ b ∈ m, R a b → S a b) : List.Forall₂ S l m := by
  induction h with
  | nil => exact .nil
  | cons hab _ ih =>
    refine .cons (himp _ List.mem_cons_self _ List.mem_cons_self hab) (ih ?_)
    intro a ha b hb
    exact himp a (List.mem_cons_of_mem _ ha) b (List.mem_cons_of_mem _ hb)

theorem elementsEq_iff {xs ys : List JsValue} :
    ElementsEq N xs ys ↔ List.Forall₂ (PayloadEq N) xs ys := by
  induction xs generalizing ys with
  | nil => cases ys <;> simp [ElementsEq]
  | cons x xs ih => cases ys <;> simp [ElementsEq, ih]

theorem entriesEq_iff {es fs : List (JsString × JsValue)} :
    EntriesEq N es fs ↔ List.Forall₂ (fun e f => e.1 = f.1 ∧ PayloadEq N e.2 f.2) es fs := by
  induction es generalizing fs with
  | nil => cases fs <;> simp [EntriesEq]
  | cons e es ih => cases fs <;> simp [EntriesEq, ih, and_assoc]

theorem uniqueKeys_child {v x : JsValue} {step : Step} (hv : v.UniqueKeys)
    (h : child step v = some x) : x.UniqueKeys := by
  unfold child at h
  split at h
  · rw [JsValue.UniqueKeys, JsValue.uniqueEntries_iff] at hv
    exact hv.2 _ (mem_of_lookup h)
  · rw [JsValue.UniqueKeys, JsValue.uniqueElements_iff] at hv
    exact hv _ (List.mem_of_getElem? h)
  · cases h

/-- Equal arrays have equal elements. -/
theorem payloadEq_getElem {xs ys : List JsValue} (h : PayloadEq N (.array xs) (.array ys)) {i : ℕ}
    {x y : JsValue} (hx : xs[i]? = some x) (hy : ys[i]? = some y) : PayloadEq N x y := by
  rw [PayloadEq, elementsEq_iff, List.forall₂_iff_get] at h
  obtain ⟨hi, rfl⟩ := List.getElem?_eq_some_iff.mp hx
  obtain ⟨hj, rfl⟩ := List.getElem?_eq_some_iff.mp hy
  exact h.2 i hi hj

/-- Equal objects have equal properties. -/
theorem payloadEq_lookup {es fs : List (JsString × JsValue)} (hfs : (fs.map Prod.fst).Nodup)
    (h : PayloadEq N (.object es) (.object fs)) {k : JsString} {x y : JsValue}
    (hx : es.lookup k = some x) (hy : fs.lookup k = some y) : PayloadEq N x y := by
  obtain ⟨gs, hperm, hentries⟩ := h
  obtain ⟨⟨k', y'⟩, hmem, rfl, heq⟩ := exists_of_forall₂ (entriesEq_iff.mp hentries) (mem_of_lookup hx)
  rw [lookup_of_mem hfs (hperm.mem_iff.mp hmem)] at hy
  rw [← Option.some.inj hy]
  exact heq

/-- One step from equal values leads to equal values. -/
theorem payloadEq_child {a b x y : JsValue} {step : Step} (hb : b.UniqueKeys)
    (h : PayloadEq N a b) (hx : child step a = some x) (hy : child step b = some y) :
    PayloadEq N x y := by
  unfold child at hx hy
  split at hx
  · split at hy
    · rename_i hstep
      cases hstep
      rw [JsValue.UniqueKeys] at hb
      exact payloadEq_lookup hb.1 h hx hy
    · rename_i hstep
      cases hstep
    · cases hy
  · split at hy
    · rename_i hstep
      cases hstep
    · rename_i hstep
      cases hstep
      exact payloadEq_getElem h hx hy
    · cases hy
  · cases hx

/-- At a place where both values have a string, equal values have the same NFC form. -/
theorem nfc_at_place {a b : JsValue} (hb : b.UniqueKeys) (h : PayloadEq N a b)
    {path : List Step} {s t : JsString} (hs : place path a = some (.string s))
    (ht : place path b = some (.string t)) : N.normalizeNfc s = N.normalizeNfc t := by
  induction path generalizing a b with
  | nil =>
    cases hs
    cases ht
    exact h
  | cons step path ih =>
    obtain ⟨x, hx, hs⟩ := Option.bind_eq_some_iff.mp hs
    obtain ⟨y, hy, ht⟩ := Option.bind_eq_some_iff.mp ht
    exact ih (uniqueKeys_child hb hy) (payloadEq_child hb h hx hy) hs ht

theorem NfcTellsApart.child {a b x y : JsValue} (h : NfcTellsApart N a b) {step : Step}
    (hx : child step a = some x) (hy : child step b = some y) : NfcTellsApart N x y := by
  intro path s t hs ht
  apply h (step :: path)
  · rw [place, hx]
    exact hs
  · rw [place, hy]
    exact ht

/-- Payloads that NFC tells apart wherever they differ have the same content as soon as
    they have the same canonical text. -/
theorem sameContent_of_payloadEq {a b : JsValue} (ha : a.UniqueKeys) (hb : b.UniqueKeys)
    (h : PayloadEq N a b) (hapart : NfcTellsApart N a b) : SameContent a b := by
  unfold SameContent
  induction a using JsValue.induct generalizing b with
  | null => cases b <;> exact h
  | bool _ => cases b <;> exact h
  | number _ => cases b <;> exact h
  | string s =>
    cases b with
    | string t =>
      have hst := hapart [] s t rfl rfl h
      rw [hst]
      rfl
    | _ => exact h
  | array xs ih =>
    cases b with
    | array ys =>
      rw [JsValue.UniqueKeys, JsValue.uniqueElements_iff] at ha hb
      rw [PayloadEq, elementsEq_iff, List.forall₂_iff_get]
      have hget := h
      rw [PayloadEq, elementsEq_iff, List.forall₂_iff_get] at hget
      refine ⟨hget.1, fun i hi hj => ?_⟩
      have hx : child (.index i) (.array xs) = some (xs.get ⟨i, hi⟩) := List.getElem?_eq_getElem hi
      have hy : child (.index i) (.array ys) = some (ys.get ⟨i, hj⟩) := List.getElem?_eq_getElem hj
      exact ih _ (List.get_mem _ _) (ha _ (List.get_mem _ _)) (hb _ (List.get_mem _ _))
        (hget.2 i hi hj) (hapart.child hx hy)
    | _ => exact h
  | object es ih =>
    cases b with
    | object fs =>
      rw [JsValue.UniqueKeys, JsValue.uniqueEntries_iff] at ha hb
      obtain ⟨gs, hperm, hentries⟩ := h
      refine ⟨gs, hperm, entriesEq_iff.mpr (forall₂_imp_of_mem (entriesEq_iff.mp hentries) ?_)⟩
      rintro ⟨k, x⟩ he ⟨l, y⟩ hf ⟨hkey, heq⟩
      have hmem := hperm.mem_iff.mp hf
      have hx : child (.key k) (.object es) = some x := lookup_of_mem ha.1 he
      have hy : child (.key k) (.object fs) = some y := by
        rw [show k = l from hkey]
        exact lookup_of_mem hb.1 hmem
      exact ⟨hkey, ih _ he (ha.2 _ he) (hb.2 _ hmem) heq (hapart.child hx hy)⟩
    | _ => exact h

/-- Payloads with one canonical text have the same content exactly when no two different
    strings with one NFC form stand at the same place. -/
theorem sameContent_iff {a b : JsValue} (ha : a.UniqueKeys) (hb : b.UniqueKeys)
    (h : PayloadEq N a b) : SameContent a b ↔ NfcTellsApart N a b := by
  constructor
  · intro hsame path s t hs ht _
    have := nfc_at_place hb hsame hs ht
    rwa [verbatim_normalizeNfc, verbatim_normalizeNfc] at this
  · exact sameContent_of_payloadEq ha hb h

end Relation

/-! ## Parsed values -/

theorem nodup_putProperty {α : Type} {es : List (JsString × α)} (k : JsString) (v : α)
    (h : (es.map Prod.fst).Nodup) : ((putProperty es k v).map Prod.fst).Nodup := by
  by_cases hk : k ∈ es.map Prod.fst
  · have hnames : (es.map fun e => if e.1 = k then (k, v) else e).map Prod.fst = es.map Prod.fst := by
      rw [List.map_map]
      refine List.map_congr_left fun e _ => ?_
      by_cases he : e.1 = k <;> simp [he]
    rw [putProperty, if_pos hk, hnames]
    exact h
  · rw [((putProperty_perm v hk).map Prod.fst).nodup_iff, List.map_append, List.nodup_append]
    refine ⟨h, by simp, ?_⟩
    intro a ha b hb hab
    rw [hab, List.mem_singleton.mp hb] at ha
    exact hk ha

theorem mem_putProperty {α : Type} {es : List (JsString × α)} {k : JsString} {v : α}
    {e : JsString × α} (h : e ∈ putProperty es k v) : e ∈ es ∨ e = (k, v) := by
  by_cases hk : k ∈ es.map Prod.fst
  · rw [putProperty, if_pos hk] at h
    obtain ⟨e', he', rfl⟩ := List.mem_map.mp h
    by_cases heq : e'.1 = k
    · exact .inr (if_pos heq)
    · rw [if_neg heq]
      exact .inl he'
  · simpa using (putProperty_perm v hk).mem_iff.mp h

/-- Properties are created one after another: names stay distinct, and every value comes
    from a member. -/
theorem ownProperties_spec {α : Type} (ms : List (JsString × α)) :
    ((ownProperties ms).map Prod.fst).Nodup ∧ ∀ e ∈ ownProperties ms, e ∈ ms := by
  have hfold : ∀ (ms es : List (JsString × α)), (es.map Prod.fst).Nodup →
      (((ms.foldl (fun es m => putProperty es m.1 m.2) es).map Prod.fst).Nodup ∧
        ∀ e ∈ ms.foldl (fun es m => putProperty es m.1 m.2) es, e ∈ es ∨ e ∈ ms) := by
    intro ms
    induction ms with
    | nil => exact fun es hes => ⟨hes, fun e he => .inl he⟩
    | cons m ms ih =>
      intro es hes
      obtain ⟨hnodup, hmem⟩ := ih (putProperty es m.1 m.2) (nodup_putProperty m.1 m.2 hes)
      refine ⟨hnodup, fun e he => ?_⟩
      rcases hmem e he with h | h
      · rcases mem_putProperty h with h | h
        · exact .inl h
        · exact .inr (h ▸ List.mem_cons_self)
      · exact .inr (List.mem_cons_of_mem _ h)
  obtain ⟨hnodup, hmem⟩ := hfold ms [] List.nodup_nil
  exact ⟨hnodup, fun e he => (hmem e he).resolve_left List.not_mem_nil⟩

theorem uniqueKeys_toJs (j : Json) : j.toJs.UniqueKeys := by
  induction j using Json.induct with
  | null | bool _ | number _ | string _ => simp [Json.toJs, JsValue.UniqueKeys]
  | array xs ih =>
    rw [Json.toJs, JsValue.UniqueKeys, JsValue.uniqueElements_iff, elementsToJs_eq,
      List.forall_mem_map]
    exact ih
  | object ms ih =>
    rw [Json.toJs, JsValue.UniqueKeys, JsValue.uniqueEntries_iff]
    obtain ⟨hnodup, hmem⟩ := ownProperties_spec (membersToJs ms)
    refine ⟨hnodup, fun e he => ?_⟩
    have he := hmem e he
    rw [membersToJs_eq] at he
    obtain ⟨m, hm, rfl⟩ := List.mem_map.mp he
    exact ih m hm

/-- No object that `JSON.parse` builds repeats a name. -/
theorem jsonParse_uniqueKeys {text : JsString} {v : JsValue} (h : jsonParse text = some v) :
    v.UniqueKeys := by
  obtain ⟨j, -, rfl⟩ := Option.map_eq_some_iff.mp h
  exact uniqueKeys_toJs j

end OpenRisk.Sdk
