import OpenRisk.Agreement.Text

/-!
# Agreement of the two SDKs on payloads

`canonicalizePayload` (JavaScript) and `canonicalize_payload` (Python) share their
limits on shape, names and size. They count the length of a string differently (in
UTF-16 code units and in code points), read a number such as `1.0` differently, and
only Python rejects a lone surrogate.

Results:
* `canonicalizePayload_toJs_ok_iff`, `canonicalizePayload_toPy_ok_iff`: what each SDK
  accepts.
* `canonicalizePayload_agree_iff`: exactly when the two SDKs agree.
-/

namespace OpenRisk.Agreement

open Text Sdk

/-- Both reject, or both accept with the same text. -/
def SameOutcome : Except PayloadError JsString → Except PySdk.PyError PyString → Prop
  | .error _, .error _ => True
  | .ok t, .ok u => codePoints t = u
  | _, _ => False

/-- The limits that both SDKs check, on a string in code points. -/
structure SharedLimits (N : Normalization) (j : Json) : Prop where
  object : ∃ ms, j = .object ms
  depth : height j.toJs ≤ MAX_DEPTH
  nodes : nodeCount j.toJs ≤ MAX_NODES
  names : j.Names (SafeKey N)
  strings : j.Strings fun s => (codePoints s).length ≤ MAX_STRING_LENGTH
  numbers : j.Numbers fun t => (JsNumber.numberOfToken t).isSafeInteger = true
  size : canonicalSize N j ≤ MAX_CANONICAL_BYTES

/-- Every string value has at most 2,048 UTF-16 code units. -/
def ShortUnits (j : Json) : Prop := j.Strings fun s => s.length ≤ MAX_STRING_LENGTH

/-- Every number is spelled as an integer. -/
def IntegerSpelled (j : Json) : Prop := j.Numbers fun t => t.isInteger = true

section Outcomes

variable {N : Normalization} {j : Json}

theorem length_codePoints_le (s : JsString) : (codePoints s).length ≤ s.length := by
  fun_induction codePoints s with
  | case1 => simp
  | case2 => simp
  | case3 u v rest _ ih => simp only [List.length_cons]; omega
  | case4 u v rest _ ih => simp only [List.length_cons] at ih ⊢; omega

/-- What the JavaScript SDK accepts. -/
theorem canonicalizePayload_toJs_ok_iff (hj : j.UniqueNames) (t : JsString) :
    canonicalizePayload N j.toJs = .ok t ↔
      (SharedLimits N j ∧ ShortUnits j) ∧ t = canonicalizeValue N j.toJs := by
  have hobject : (∃ es, j.toJs = .object es) ↔ ∃ ms, j = .object ms := by
    cases j <;> simp [Json.toJs]
  rw [canonicalizePayload_eq_ok_iff, hobject, clean_toJs_iff hj, JsClean, Json.all_iff]
  constructor
  · rintro ⟨h1, h2, ⟨h3, h4, h5⟩, h6, h7, h8⟩
    rw [byteLength_canonicalizeValue hj h5] at h7
    have hcount := h3.imp (fun s hs => (length_codePoints_le s).trans hs) (fun _ h => h) fun _ h => h
    exact ⟨⟨⟨h1, h2, h6, h5, hcount, h4, h7⟩, h3⟩, h8⟩
  · rintro ⟨⟨h, hshort⟩, ht⟩
    refine ⟨h.object, h.depth, ⟨hshort, h.numbers, h.names⟩, h.nodes, ?_, ht⟩
    rw [byteLength_canonicalizeValue hj h.names]
    exact h.size

theorem encode_eq_ok {s : PyString} {b : List UInt8} :
    PySdk.encode s = .ok b ↔ Scalar s ∧ b = s.flatMap utf8 := by
  have hany : s.any isSurrogate = true ↔ ¬ Scalar s := by simp [Scalar]
  rw [PySdk.encode]
  split_ifs with h
  · simp [hany.mp h]
  · have hs : Scalar s := by simpa [hany] using h
    simp [hs, eq_comm]

theorem numbers_py_iff :
    j.Numbers (fun t => t.isInteger = true ∧ t.integer ≤ JsNumber.maxSafeInteger) ↔
      IntegerSpelled j ∧ j.Numbers fun t => (JsNumber.numberOfToken t).isSafeInteger = true := by
  rw [IntegerSpelled, Json.Numbers, Json.Numbers, Json.Numbers, ← Json.all_and]
  constructor
  · refine Json.All.imp (fun _ _ => ⟨trivial, trivial⟩) ?_ fun _ _ => ⟨trivial, trivial⟩
    exact fun t ht => ⟨ht.1, (JsNumber.numberOfToken_isSafeInteger ht.1).mpr ht.2⟩
  · refine Json.All.imp (fun _ _ => trivial) ?_ fun _ _ => trivial
    exact fun t ht => ⟨ht.1, (JsNumber.numberOfToken_isSafeInteger ht.1).mp ht.2⟩

/-- On what Python accepts, the text is that of JavaScript. -/
theorem canonicalizeValue_toPy_of_limits (hj : j.UniqueNames) (h : SharedLimits N j)
    (hint : IntegerSpelled j) (hpaired : j.Strings Paired) :
    PySdk.canonicalizeValue N j.toPy = codePoints (canonicalizeValue N j.toJs) :=
  canonicalizeValue_toPy hj (Json.all_iff.mpr ⟨hpaired, numbers_py_iff.mpr ⟨hint, h.numbers⟩, h.names⟩)

/-- What the Python SDK accepts. -/
theorem canonicalizePayload_toPy_ok_iff (hj : j.UniqueNames) (u : PyString) :
    PySdk.canonicalizePayload N j.toPy = .ok u ↔
      (SharedLimits N j ∧ IntegerSpelled j ∧ j.Strings Paired) ∧
        u = codePoints (canonicalizeValue N j.toJs) := by
  have hdict : PySdk.isDict j.toPy = true ↔ ∃ ms, j = .object ms := by
    cases j with
    | number t => simp only [Json.toPy]; split_ifs <;> simp [PySdk.isDict]
    | _ => simp [Json.toPy, PySdk.isDict]
  -- the encoded text has the size of the JavaScript text
  have hbytes : ∀ s : JsString, ((codePoints s).flatMap utf8).length = byteLength s := fun s =>
    (byteLength_eq s).symm
  simp only [PySdk.canonicalizePayload, bind_eq_ok, assert_eq_ok, exists_const, hdict,
    validateSafeValue_toPy _ _ _ j hj, Nat.zero_add, encode_eq_ok, decide_eq_true_eq,
    Except.ok.injEq, PyClean, Json.all_iff, numbers_py_iff]
  constructor
  · rintro ⟨hobj, r, ⟨hdepth, ⟨hstr, ⟨hint, hnum⟩, hnames⟩, hnodes⟩, b, ⟨hscalar, rfl⟩, hsize, rfl⟩
    have hpaired := (scalar_canonicalizeValue_iff hj hnames).mp hscalar
    have htext := canonicalizeValue_toPy hj
      (Json.all_iff.mpr ⟨hpaired, numbers_py_iff.mpr ⟨hint, hnum⟩, hnames⟩)
    rw [htext, hbytes, byteLength_canonicalizeValue hj hnames] at hsize
    refine ⟨⟨⟨hobj, hdepth, ?_, hnames, hstr, hnum, hsize⟩, hint, hpaired⟩, htext⟩
    unfold MAX_NODES
    omega
  · rintro ⟨⟨h, hint, hpaired⟩, rfl⟩
    have htext := canonicalizeValue_toPy_of_limits hj h hint hpaired
    have hnodes := h.nodes
    unfold MAX_NODES at hnodes
    refine ⟨h.object, 1000 - nodeCount j.toJs, ⟨h.depth, ⟨h.strings, ⟨hint, h.numbers⟩, h.names⟩, by omega⟩,
      _, ⟨(scalar_canonicalizeValue_iff hj h.names).mpr hpaired, rfl⟩, ?_, htext⟩
    rw [htext, hbytes, byteLength_canonicalizeValue hj h.names]
    exact h.size

end Outcomes

theorem sameOutcome_iff {x : Except PayloadError JsString} {y : Except PySdk.PyError PyString}
    {p q : Prop} {t : JsString} (hx : ∀ s, x = .ok s ↔ p ∧ s = t)
    (hy : ∀ u, y = .ok u ↔ q ∧ u = codePoints t) : SameOutcome x y ↔ (p ↔ q) := by
  cases x with
  | ok s =>
    obtain ⟨hp, rfl⟩ := (hx s).mp rfl
    cases y with
    | ok u =>
      obtain ⟨hq, rfl⟩ := (hy u).mp rfl
      simp [SameOutcome, hp, hq]
    | error e =>
      have hq : ¬ q := fun hq => by simpa using (hy _).mpr ⟨hq, rfl⟩
      simp [SameOutcome, hp, hq]
  | error e =>
    have hp : ¬ p := fun hp => by simpa using (hx _).mpr ⟨hp, rfl⟩
    cases y with
    | ok u =>
      obtain ⟨hq, rfl⟩ := (hy u).mp rfl
      simp [SameOutcome, hp, hq]
    | error e =>
      have hq : ¬ q := fun hq => by simpa using (hy _).mpr ⟨hq, rfl⟩
      simp [SameOutcome, hp, hq]

/-- The SDKs agree on every JSON value outside the shared limits, which both reject.
    Inside them they agree exactly when strings that are short in code units come with
    integers and paired surrogates throughout, or neither does. -/
theorem canonicalizePayload_agree_iff (N : Normalization) (j : JsonValue) :
    SameOutcome (canonicalizePayload N j.json.toJs) (PySdk.canonicalizePayload N j.json.toPy) ↔
      (SharedLimits N j.json →
        (ShortUnits j.json ↔ IntegerSpelled j.json ∧ j.json.Strings Paired)) := by
  rw [sameOutcome_iff (canonicalizePayload_toJs_ok_iff j.unique)
    (canonicalizePayload_toPy_ok_iff j.unique)]
  by_cases h : SharedLimits N j.json
  · simp [h]
  · simp [h]

/-- `{"s": "\u{1F600}…"}` with 1,025 copies of U+1F600, which are 2,050 code units. -/
def emojiPayload : JsonValue where
  json := .object [(js "s", .string ((List.replicate 1025 [0xD83D, 0xDE00]).flatten))]
  unique := ⟨by decide, trivial, trivial⟩

/-- Python counts 1,025 characters and accepts; JavaScript counts 2,050 and rejects. -/
theorem canonicalizePayload_emoji_disagree :
    ¬ SameOutcome (canonicalizePayload devanagari emojiPayload.json.toJs)
      (PySdk.canonicalizePayload devanagari emojiPayload.json.toPy) := by
  have hjs : canonicalizePayload devanagari emojiPayload.json.toJs =
      .error ⟨.string, js "Payload string is too long"⟩ := by decide +kernel
  have hpy : ∃ u, PySdk.canonicalizePayload devanagari emojiPayload.json.toPy = .ok u := by
    cases h : PySdk.canonicalizePayload devanagari emojiPayload.json.toPy with
    | ok u => exact ⟨u, rfl⟩
    | error e =>
      have : (PySdk.canonicalizePayload devanagari emojiPayload.json.toPy).isOk = true := by
        decide +kernel
      rw [h] at this
      cases this
  obtain ⟨u, hu⟩ := hpy
  rw [hjs, hu]
  exact id

end OpenRisk.Agreement
