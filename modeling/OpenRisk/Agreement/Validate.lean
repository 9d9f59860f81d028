import OpenRisk.Json.Bytes
import OpenRisk.PySdk.Canonical
import OpenRisk.Sdk.CanonicalForm

/-!
# What the validators of the two SDKs accept

`validateSafeValue` (JavaScript) and `_validate_safe_value` (Python) on the values
that `JSON.parse` and `json.loads` read from the same JSON value. The limits on
depth and nodes are the same; the checks on strings and numbers differ.

Results:
* `validateKey_codePoints`: both SDKs accept the same property names.
* `clean_toJs_iff`, `validateSafeValue_toPy`: what each validator accepts.
-/

namespace OpenRisk.Agreement

open Text Sdk

/-! ## Property names are ASCII -/

theorem isKeyUnit_lt {u : UInt16} (h : isKeyUnit u = true) : u.toNat < 0x80 := by
  simp only [isKeyUnit, isAlphaNumeric, isLowerAlpha, isUpperAlpha, Json.isDigit, Bool.or_eq_true,
    Bool.and_eq_true, decide_eq_true_eq] at h
  rcases h with ((((h | h) | h) | rfl) | rfl) | rfl
  · omega
  · omega
  · omega
  all_goals decide

theorem payloadKey_ascii {key : JsString} (h : PAYLOAD_KEY_PATTERN key = true) :
    ∀ u ∈ key, u.toNat < 0x80 := by
  simp only [PAYLOAD_KEY_PATTERN, Bool.and_eq_true, List.all_eq_true] at h
  exact fun u hu => isKeyUnit_lt (h.2 u hu)

theorem inClass_unitPoint (p : UInt16 → Bool) {u : UInt16} (h : u.toNat < 0x80) :
    PySdk.inClass p (unitPoint u) = p u := by
  simp [PySdk.inClass, h]

theorem payloadKeyPattern_codePoints (key : JsString) :
    PySdk.PAYLOAD_KEY_PATTERN (codePoints key) = PAYLOAD_KEY_PATTERN key := by
  by_cases hascii : ∀ u ∈ key, u.toNat < 0x80
  · have hall : (key.map unitPoint).all (PySdk.inClass isKeyUnit) = key.all isKeyUnit := by
      rw [List.all_map, Bool.eq_iff_iff, List.all_eq_true, List.all_eq_true]
      refine forall₂_congr fun u hu => ?_
      rw [Function.comp_apply, inClass_unitPoint _ (hascii u hu)]
    rw [PySdk.PAYLOAD_KEY_PATTERN, codePoints_of_ascii hascii, List.length_map, hall]
    rfl
  · have hjs : PAYLOAD_KEY_PATTERN key = false := by
      by_contra h
      exact hascii (payloadKey_ascii (by simpa using h))
    rw [hjs]
    by_contra h
    simp only [PySdk.PAYLOAD_KEY_PATTERN, Bool.not_eq_false, Bool.and_eq_true, List.all_eq_true] at h
    refine hascii fun u hu => ?_
    -- every unit of the key comes from an ASCII code point
    rw [← flatMap_utf16_codePoints key] at hu
    obtain ⟨c, hc, hu⟩ := List.mem_flatMap.mp hu
    have hc := h.2 c hc
    simp only [PySdk.inClass, Bool.and_eq_true, decide_eq_true_eq] at hc
    rw [utf16, if_pos (by omega), List.mem_singleton] at hu
    rw [hu]
    simp
    omega

theorem toLowerAscii_lt {u : UInt16} (h : u.toNat < 0x80) :
    (if isUpperAlpha u then u + 0x20 else u).toNat < 0x80 := by
  split_ifs with hu
  · simp only [isUpperAlpha, Bool.and_eq_true, decide_eq_true_eq] at hu
    have : (u + 0x20).toNat = u.toNat + 0x20 := by simp; omega
    omega
  · exact h

theorem normalisedSensitiveKey_codePoints (N : Normalization) {key : JsString}
    (h : ∀ u ∈ key, u.toNat < 0x80) :
    PySdk.normalisedSensitiveKey N (codePoints key) = codePoints (normalizedSensitiveKey N key) := by
  have hpoints := codePoints_of_ascii h
  have hnfkc : N.nfkc (codePoints key) = codePoints key := by
    refine N.nfkc_ascii _ fun c hc => ?_
    rw [hpoints] at hc
    obtain ⟨u, hu, rfl⟩ := List.mem_map.mp hc
    exact h u hu
  have hjs : N.normalizeNfkc key = key := by
    rw [Normalization.normalizeNfkc, hnfkc, flatMap_utf16_codePoints]
  have hlower : PySdk.lowerAscii (key.map unitPoint) = (toLowerAscii key).map unitPoint := by
    rw [PySdk.lowerAscii, toLowerAscii, List.map_map, List.map_map]
    refine List.map_congr_left fun u hu => ?_
    have hu := h u hu
    rw [Function.comp_apply, Function.comp_apply, inClass_unitPoint _ hu]
    split_ifs with hup
    · refine Fin.ext ?_
      simp only [isUpperAlpha, Bool.and_eq_true, decide_eq_true_eq] at hup
      simp
      omega
    · rfl
  have hlt : ∀ u ∈ toLowerAscii key, u.toNat < 0x80 := by
    intro u hu
    obtain ⟨v, hv, rfl⟩ := List.mem_map.mp hu
    exact toLowerAscii_lt (h v hv)
  rw [PySdk.normalisedSensitiveKey, hnfkc, hpoints, hlower, normalizedSensitiveKey, hjs,
    codePoints_of_ascii fun u hu => hlt u (List.mem_filter.mp hu).1, List.filter_map]
  congr 1
  refine List.filter_congr fun u hu => ?_
  exact inClass_unitPoint _ (hlt u hu)

theorem assert_eq_ok {condition : Bool} {message : PyString} {u : Unit} :
    PySdk.assert condition message = .ok u ↔ condition = true := by
  cases condition <;> simp [PySdk.assert]

/-- Both SDKs accept the same property names. -/
theorem validateKey_codePoints {N : Normalization} {key : JsString} {u : Unit} :
    PySdk.validateKey N (codePoints key) = .ok u ↔ SafeKey N key := by
  simp only [PySdk.validateKey, bind_eq_ok, assert_eq_ok, exists_const,
    payloadKeyPattern_codePoints, SafeKey]
  refine and_congr_right fun hk => ?_
  rw [normalisedSensitiveKey_codePoints N (payloadKey_ascii hk),
    show PySdk.SENSITIVE_PAYLOAD_KEYS = sensitivePayloadKeys.map codePoints from by
      rw [sensitivePayloadKeys, List.map_map]; rfl]
  simp [List.mem_map_of_injective codePoints_injective]

/-! ## What the validators accept -/

section Validators

variable {N : Normalization}

/-- The JavaScript checks on strings, numbers and names. -/
def JsClean (N : Normalization) (j : Json) : Prop :=
  j.All (fun s => s.length ≤ MAX_STRING_LENGTH)
    (fun t => (JsNumber.numberOfToken t).isSafeInteger = true) (SafeKey N)

/-- The Python checks on strings, numbers and names. -/
def PyClean (N : Normalization) (j : Json) : Prop :=
  j.All (fun s => (codePoints s).length ≤ MAX_STRING_LENGTH)
    (fun t => t.isInteger = true ∧ t.integer ≤ JsNumber.maxSafeInteger) (SafeKey N)

theorem ownProperties_membersToJs_perm {ms : List (JsString × Json)}
    (h : (ms.map Prod.fst).Nodup) : (ownProperties (membersToJs ms)).Perm (membersToJs ms) :=
  ownProperties_perm (by rwa [map_fst_membersToJs])

theorem height_toJs_object {ms : List (JsString × Json)} (h : (ms.map Prod.fst).Nodup) :
    height (Json.object ms).toJs = heightEntries (membersToJs ms) := by
  rw [Json.toJs, height, heightEntries_perm (ownProperties_membersToJs_perm h)]

theorem nodeCount_toJs_object {ms : List (JsString × Json)} (h : (ms.map Prod.fst).Nodup) :
    nodeCount (Json.object ms).toJs = nodeCountEntries (membersToJs ms) + 1 := by
  rw [Json.toJs, nodeCount, nodeCountEntries_perm (ownProperties_membersToJs_perm h)]

theorem clean_toJs_iff {j : Json} (hj : j.UniqueNames) : Clean N j.toJs ↔ JsClean N j := by
  unfold JsClean
  induction j using Json.induct with
  | null | bool _ | number _ | string _ => simp [Json.toJs, Clean, Json.All]
  | array xs ih =>
    rw [Json.UniqueNames, Json.uniqueNamesElements_iff] at hj
    rw [Json.toJs, Clean, cleanItems_iff, elementsToJs_eq, List.forall_mem_map, Json.All,
      Json.allElements_iff]
    exact forall₂_congr fun x hx => ih x hx (hj x hx)
  | object ms ih =>
    rw [Json.UniqueNames, Json.uniqueNamesMembers_iff] at hj
    rw [Json.toJs, Clean, cleanEntries_iff, Json.All, Json.allMembers_iff]
    simp only [(ownProperties_membersToJs_perm hj.1).mem_iff]
    rw [membersToJs_eq, List.forall_mem_map]
    exact forall₂_congr fun m hm => and_congr_right fun _ => ih m hm (hj.2 m hm)

theorem natAbs_tokenInt (t : NumberToken) : (JsNumber.tokenInt t).natAbs = t.integer := by
  unfold JsNumber.tokenInt
  split_ifs <;> simp

theorem enterNode_py_eq_ok {depth budget r : ℕ} :
    PySdk.enterNode depth budget = .ok r ↔ depth ≤ MAX_DEPTH ∧ r + 1 = budget := by
  simp only [PySdk.enterNode, bind_eq_ok, assert_eq_ok, decide_eq_true_eq, exists_const,
    Except.ok.injEq]
  have hdepth : PySdk.MAX_DEPTH = MAX_DEPTH := rfl
  rw [hdepth]
  omega

mutual

/-- What `_validate_safe_value` accepts, and the budget it leaves, in the measures of
    the JavaScript value. -/
theorem validateSafeValue_toPy (depth budget r : ℕ) (j : Json) (hj : j.UniqueNames) :
    PySdk.validateSafeValue N depth budget j.toPy = .ok r ↔
      depth + height j.toJs ≤ MAX_DEPTH ∧ PyClean N j ∧ r + nodeCount j.toJs = budget := by
  match j, hj with
  | .null, _ | .bool _, _ =>
    simp [Json.toPy, PySdk.validateSafeValue, enterNode_py_eq_ok, Json.toJs, height, PyClean,
      Json.All, nodeCount]
  | .string s, _ =>
    simp only [Json.toPy, PySdk.validateSafeValue, bind_eq_ok, enterNode_py_eq_ok, assert_eq_ok,
      exists_const, Json.toJs, height, PyClean, Json.All, nodeCount, decide_eq_true_eq,
      Except.ok.injEq, Nat.add_zero]
    constructor
    · rintro ⟨a, ⟨h1, h2⟩, h3, rfl⟩; exact ⟨h1, h3, h2⟩
    · rintro ⟨h1, h2, h3⟩; exact ⟨r, ⟨h1, h3⟩, h2, rfl⟩
  | .number t, _ =>
    simp only [Json.toJs, height, PyClean, Json.All, nodeCount, Nat.add_zero]
    rw [Json.toPy]
    split_ifs with ht
    · simp only [PySdk.validateSafeValue, bind_eq_ok, enterNode_py_eq_ok, assert_eq_ok,
        exists_const, decide_eq_true_eq, Except.ok.injEq, natAbs_tokenInt, ht, true_and]
      constructor
      · rintro ⟨a, ⟨h1, h2⟩, h3, rfl⟩; exact ⟨h1, h3, h2⟩
      · rintro ⟨h1, h2, h3⟩; exact ⟨r, ⟨h1, h3⟩, h2, rfl⟩
    · simp only [PySdk.validateSafeValue, bind_eq_ok, assert_eq_ok, Bool.false_eq_true, false_and,
        and_false, exists_false, ht]
  | .array xs, hj =>
    rw [Json.UniqueNames] at hj
    simp only [Json.toPy, PySdk.validateSafeValue, bind_eq_ok, enterNode_py_eq_ok,
      validateItems_toPy _ _ _ xs hj, Json.toJs, height, PyClean, Json.All, nodeCount]
    constructor
    · rintro ⟨a, ⟨h1, h2⟩, h3, h4, h5⟩; exact ⟨by omega, h4, by omega⟩
    · rintro ⟨h1, h2, h3⟩; exact ⟨_, ⟨by omega, by omega⟩, by omega, h2, rfl⟩
  | .object ms, hj =>
    rw [Json.UniqueNames] at hj
    rw [height_toJs_object hj.1, nodeCount_toJs_object hj.1]
    simp only [Json.toPy, dictOf_membersToPy hj.1, PySdk.validateSafeValue, bind_eq_ok,
      enterNode_py_eq_ok, validateEntries_toPy _ _ _ ms hj.2, PyClean, Json.All]
    constructor
    · rintro ⟨a, ⟨h1, h2⟩, h3, h4, h5⟩; exact ⟨by omega, h4, by omega⟩
    · rintro ⟨h1, h2, h3⟩; exact ⟨_, ⟨by omega, by omega⟩, by omega, h2, rfl⟩

theorem validateItems_toPy (depth budget r : ℕ) (xs : List Json)
    (hxs : Json.UniqueNamesElements xs) :
    PySdk.validateItems N (depth + 1) budget (elementsToPy xs) = .ok r ↔
      (0 < heightItems (elementsToJs xs) → depth + heightItems (elementsToJs xs) ≤ MAX_DEPTH) ∧
        Json.AllElements (fun s => (codePoints s).length ≤ MAX_STRING_LENGTH)
          (fun t => t.isInteger = true ∧ t.integer ≤ JsNumber.maxSafeInteger) (SafeKey N) xs ∧
        r + nodeCountItems (elementsToJs xs) = budget := by
  match xs, hxs with
  | [], _ =>
    simp [elementsToPy, PySdk.validateItems, elementsToJs, heightItems, Json.AllElements,
      nodeCountItems, eq_comm]
  | x :: xs, hxs =>
    simp only [elementsToPy, PySdk.validateItems, bind_eq_ok, validateSafeValue_toPy _ _ _ x hxs.1,
      validateItems_toPy _ _ _ xs hxs.2, elementsToJs, heightItems, Json.AllElements,
      nodeCountItems]
    constructor
    · rintro ⟨a, ⟨h1, h2, h3⟩, h4, h5, h6⟩; exact ⟨by omega, ⟨h2, h5⟩, by omega⟩
    · rintro ⟨h1, ⟨h2, h3⟩, h4⟩; exact ⟨_, ⟨by omega, h2, by omega⟩, by omega, h3, rfl⟩

theorem validateEntries_toPy (depth budget r : ℕ) (ms : List (JsString × Json))
    (hms : Json.UniqueNamesMembers ms) :
    PySdk.validateEntries N (depth + 1) budget (membersToPy ms) = .ok r ↔
      (0 < heightEntries (membersToJs ms) → depth + heightEntries (membersToJs ms) ≤ MAX_DEPTH) ∧
        Json.AllMembers (fun s => (codePoints s).length ≤ MAX_STRING_LENGTH)
          (fun t => t.isInteger = true ∧ t.integer ≤ JsNumber.maxSafeInteger) (SafeKey N) ms ∧
        r + nodeCountEntries (membersToJs ms) = budget := by
  match ms, hms with
  | [], _ =>
    simp [membersToPy, PySdk.validateEntries, membersToJs, heightEntries, Json.AllMembers,
      nodeCountEntries, eq_comm]
  | (k, x) :: ms, hms =>
    simp only [membersToPy, PySdk.validateEntries, bind_eq_ok, validateKey_codePoints, exists_const,
      validateSafeValue_toPy _ _ _ x hms.1, validateEntries_toPy _ _ _ ms hms.2, membersToJs,
      heightEntries, Json.AllMembers, nodeCountEntries]
    constructor
    · rintro ⟨hk, a, ⟨h1, h2, h3⟩, h4, h5, h6⟩; exact ⟨by omega, ⟨hk, h2, h5⟩, by omega⟩
    · rintro ⟨h1, ⟨hk, h2, h3⟩, h4⟩
      exact ⟨hk, _, ⟨by omega, h2, by omega⟩, by omega, h3, rfl⟩

end

end Validators

end OpenRisk.Agreement
