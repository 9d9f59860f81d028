import OpenRisk.PomRx.ReceiptIdentity

/-!
# Which receipts fit the canonical payload

`commitPomRxReceipt` passes the normalized receipt to `canonicalizePayload`, which bounds
depth, number of values, names, strings and the size of the canonical text.

Results:
* `canonicalBytes_receipt`: the size of the canonical text of a normalized receipt.
* `receipt_clean`: the other bounds hold for every normalized receipt.
* `commitPomRxReceipt_size`: a validated receipt is committed when its canonical text
  has at most 16 KiB, and is rejected for its size otherwise.
-/

namespace OpenRisk.PomRx

open Text Sdk

/-! ## Sizes -/

/-- The text of a property. -/
def textOf (v : JsValue) (key : JsString) : JsString :=
  match v.get key with
  | some (.string s) => s
  | _ => []

theorem textOf_eq {v : JsValue} {key s : JsString} (h : v.get key = some (.string s)) :
    textOf v key = s := by
  rw [textOf, h]

/-- The bytes of a canonical assertion. -/
def assertionSize (a : JsValue) : ℕ :=
  204 + (textOf a (js "rule_id")).length + (textOf a (js "result")).length +
    (textOf a (js "proof_mode")).length

/-- The bytes of the canonical assertions, and a comma after each. -/
def assertionsSize (v : JsValue) : ℕ :=
  match v.get (js "assertions") with
  | some (.array xs) => (xs.map assertionSize).sum + xs.length
  | _ => 0

/-- The bytes of a canonical reference. -/
def referenceSize (N : Normalization) (v : JsValue) (key : JsString) : ℕ :=
  byteLength (Json.quote (N.normalizeNfc (textOf v key)))

/-- The bytes of the hash of the previous receipt, or of `null`. -/
def previousSize (v : JsValue) : ℕ :=
  match v.get (js "previous_receipt_hash") with
  | some (.string _) => 66
  | _ => 4

/-- The length of the normalized time. -/
def timeSize (P : DateParser) (v : JsValue) : ℕ :=
  match P.parse (textOf v (js "occurred_at")) with
  | some t => (Date.toISOString t).length
  | none => 0

/-- The bytes of the canonical text of a receipt, by its properties. -/
def receiptSize (N : Normalization) (P : DateParser) (v : JsValue) : ℕ :=
  522 + (textOf v (js "receipt_id")).length + (textOf v (js "run_id")).length +
    (textOf v (js "phase")).length + (textOf v (js "outcome")).length +
    (textOf v (js "source_key_id")).length + referenceSize N v (js "agent_ref") +
    referenceSize N v (js "subject_ref") + assertionsSize v + previousSize v + timeSize P v

section Size

variable {N : Normalization} {R : Runtime}

theorem isPlainKey_of_mem_ASSERTION_KEYS : ∀ key ∈ ASSERTION_KEYS, isPlainKey key = true :=
  List.all_eq_true.mp rfl

theorem isPlainKey_of_mem_RECEIPT_KEYS : ∀ key ∈ RECEIPT_KEYS, isPlainKey key = true :=
  List.all_eq_true.mp rfl

/-- An object takes its names, its values, the commas and two braces. -/
theorem canonicalBytes_object {es : List (JsString × JsValue)} {names : List JsString}
    (hkeys : ∀ key ∈ names, isPlainKey key = true) (hnames : es.map Prod.fst = names) :
    canonicalBytes N (.object es) = (names.map fun key => key.length + 3).sum +
      (es.map fun e => canonicalBytes N e.2).sum + (names.length - 1) + 2 := by
  subst hnames
  rw [canonicalBytes, entriesBytes_eq, List.length_map, List.map_map, ← List.sum_map_add]
  have hentry : ∀ e ∈ es, byteLength (Json.quote e.1) + 1 + canonicalBytes N e.2 =
      ((fun key : JsString => key.length + 3) ∘ Prod.fst) e + canonicalBytes N e.2 := by
    intro e he
    rw [byteLength_quote_key (hkeys _ (List.mem_map_of_mem he)), Function.comp_apply]
  rw [List.map_congr_left hentry]

theorem canonicalBytes_hash (h : HashText) : canonicalBytes N (.string h.val) = 66 := by
  rw [canonicalBytes_plain (plainWithin_hash h).1, h.length]

theorem canonicalBytes_assertion (a : Assertion) : canonicalBytes N a.toJs =
    204 + a.ruleId.val.length + a.result.text.length + a.proofMode.text.length := by
  have hnames : (ASSERTION_KEYS.map fun key => key.length + 3).sum + (ASSERTION_KEYS.length - 1) = 64 :=
    rfl
  rw [Assertion.toJs, canonicalBytes_object isPlainKey_of_mem_ASSERTION_KEYS rfl]
  simp only [List.map_cons, List.map_nil, List.sum_cons, List.sum_nil, canonicalBytes_hash,
    canonicalBytes_plain (plainWithin_ruleId _).1, canonicalBytes_plain (plainWithin_result _).1,
    canonicalBytes_plain (plainWithin_proofMode _).1]
  omega

theorem canonicalBytes_assertions (l : AssertionList) : canonicalBytes N l.toJs =
    (l.val.map fun a => 204 + a.ruleId.val.length + a.result.text.length +
      a.proofMode.text.length).sum + l.val.length + 1 := by
  have hpos := l.property.1.1
  rw [AssertionList.toJs, canonicalBytes, itemsBytes_eq, List.map_map, List.length_map]
  simp only [Function.comp_def, canonicalBytes_assertion]
  omega

theorem canonicalBytes_previous (previous : Option HashText) :
    canonicalBytes N (nullableHash previous) = if previous = none then 4 else 66 := by
  cases previous with
  | none => rfl
  | some h => exact canonicalBytes_hash h

/-- The size of the canonical text of a normalized receipt. -/
theorem canonicalBytes_receipt (r : Receipt) : canonicalBytes N r.toJs =
    521 + r.receiptId.val.length + r.runId.val.length + r.phase.text.length +
      r.outcome.text.length + r.sourceKeyId.val.length + canonicalBytes N (.string r.agentRef) +
      canonicalBytes N (.string r.subjectRef) + canonicalBytes N r.assertions.toJs +
      canonicalBytes N (nullableHash r.previousReceiptHash) + r.occurredAt.text.length := by
  have hnames : (RECEIPT_KEYS.map fun key => key.length + 3).sum + (RECEIPT_KEYS.length - 1) = 231 :=
    rfl
  have hversion : canonicalBytes N (.string POM_RX_SCHEMA_VERSION) = 12 := by
    rw [canonicalBytes_plain (List.all_eq_true.mp rfl)]
    rfl
  rw [Receipt.toJs, canonicalBytes_object isPlainKey_of_mem_RECEIPT_KEYS rfl]
  simp only [List.map_cons, List.map_nil, List.sum_cons, List.sum_nil, hversion, canonicalBytes_hash,
    canonicalBytes_plain (plainWithin_identifier _).1, canonicalBytes_plain (plainWithin_phase _).1,
    canonicalBytes_plain (plainWithin_outcome _).1, canonicalBytes_plain (plainWithin_isoDate _).1,
    canonicalBytes_plain (plainWithin_sourceKeyId _).1]
  omega

/-! ## The other bounds -/

theorem clean_object {es : List (JsString × JsValue)} {names : List JsString}
    (hkeys : ∀ key ∈ names, isPlainKey key = true) (hnames : es.map Prod.fst = names)
    (hvalues : ∀ e ∈ es, Clean N e.2) : Clean N (.object es) := by
  subst hnames
  rw [Clean, cleanEntries_iff]
  exact fun e he => ⟨safeKey_of_isPlainKey (hkeys e.1 (List.mem_map_of_mem he)), hvalues e he⟩

theorem clean_plain {n : ℕ} {s : JsString} (h : PlainWithin n s) (hn : n ≤ MAX_STRING_LENGTH) :
    Clean N (.string s) := h.2.trans hn

theorem clean_hash (h : HashText) : Clean N (.string h.val) :=
  clean_plain (plainWithin_hash h) (by decide)

theorem clean_assertion (a : Assertion) : Clean N a.toJs := by
  refine clean_object isPlainKey_of_mem_ASSERTION_KEYS rfl ?_
  simp only [List.forall_mem_cons, List.not_mem_nil, false_imp_iff, implies_true, and_true]
  exact ⟨clean_plain (plainWithin_ruleId _) (by decide), clean_hash _,
    clean_plain (plainWithin_result _) (by decide), clean_plain (plainWithin_proofMode _) (by decide),
    clean_hash _⟩

/-- Each assertion is an object of five strings. -/
theorem items_assertions (as : List Assertion) :
    heightItems (as.map Assertion.toJs) ≤ 2 ∧ CleanItems N (as.map Assertion.toJs) ∧
      nodeCountItems (as.map Assertion.toJs) = 6 * as.length := by
  induction as with
  | nil => exact ⟨Nat.zero_le _, trivial, rfl⟩
  | cons a as ih =>
    obtain ⟨hheight, hclean, hnodes⟩ := ih
    refine ⟨max_le (le_refl 2) hheight, ⟨clean_assertion a, hclean⟩, ?_⟩
    rw [List.map_cons, nodeCountItems, hnodes, List.length_cons]
    show 6 + 6 * as.length = 6 * (as.length + 1)
    omega

theorem nullableHash_flat (previous : Option HashText) : Clean N (nullableHash previous) ∧
    height (nullableHash previous) = 0 ∧ nodeCount (nullableHash previous) = 1 := by
  cases previous with
  | none => exact ⟨trivial, rfl, rfl⟩
  | some h => exact ⟨clean_hash h, rfl, rfl⟩

/-- Depth, number of values, names and strings of a normalized receipt whose references are
    short enough. -/
theorem receipt_clean (r : Receipt) (hagent : r.agentRef.length ≤ MAX_STRING_LENGTH)
    (hsubject : r.subjectRef.length ≤ MAX_STRING_LENGTH) :
    height r.toJs ≤ MAX_DEPTH ∧ Clean N r.toJs ∧ nodeCount r.toJs ≤ MAX_NODES := by
  obtain ⟨hheight, hclean, hnodes⟩ := items_assertions (N := N) r.assertions.val
  obtain ⟨hprevClean, hprevHeight, hprevNodes⟩ := nullableHash_flat (N := N) r.previousReceiptHash
  have hcount := r.assertions.property.1.2
  refine ⟨?_, ?_, ?_⟩
  · simp only [Receipt.toJs, AssertionList.toJs, height, heightEntries, hprevHeight, MAX_DEPTH]
    omega
  · refine clean_object isPlainKey_of_mem_RECEIPT_KEYS rfl ?_
    simp only [List.forall_mem_cons, List.not_mem_nil, false_imp_iff, implies_true, and_true]
    exact ⟨clean_plain (n := 10) ⟨List.all_eq_true.mp rfl, by decide⟩ (by decide),
      clean_plain (plainWithin_identifier _) (by decide),
      clean_plain (plainWithin_identifier _) (by decide), clean_plain (plainWithin_phase _) (by decide),
      clean_plain (plainWithin_outcome _) (by decide), hagent, hsubject, clean_hash _, clean_hash _,
      clean_hash _, clean_hash _, hclean, hprevClean, clean_plain (plainWithin_isoDate _) (by decide),
      clean_plain (plainWithin_sourceKeyId _) (by decide)⟩
  · simp only [Receipt.toJs, AssertionList.toJs, nodeCount, nodeCountEntries, hnodes, hprevNodes,
      MAX_NODES]
    omega

/-! ## The size by the properties of the receipt -/

theorem assertionsSize_eq {v : JsValue} {l : AssertionList}
    (h : validateAssertions R (v.get (js "assertions")) = .ok l) :
    assertionsSize v + 1 = canonicalBytes N l.toJs := by
  obtain ⟨xs, as, hxs, -, hmap, -, hl⟩ := validateAssertions_eq_ok.mp h
  have hperm : l.val.Perm as := hl ▸ sortAssertions_perm R as
  have hsizes : xs.map assertionSize = as.map fun a => 204 + a.ruleId.val.length +
      a.result.text.length + a.proofMode.text.length := by
    rw [← List.forall₂_eq_eq_eq, List.forall₂_map_left_iff, List.forall₂_map_right_iff]
    refine (mapM_eq_ok_iff.mp hmap).imp fun x a hx => ?_
    have hget := (validateAssertion_eq_ok_iff.mp hx).2
    simp only [ASSERTION_KEYS, List.map_cons, List.map_nil, List.forall_mem_cons, List.not_mem_nil,
      false_imp_iff, implies_true, and_true] at hget
    obtain ⟨hrule, -, hresult, hmode, -⟩ := hget
    rw [assertionSize, textOf_eq hrule, textOf_eq hresult, textOf_eq hmode]
  rw [assertionsSize, hxs]
  dsimp only
  rw [hsizes, canonicalBytes_assertions, (hperm.map _).sum_eq, hperm.length_eq,
    (mapM_eq_ok_iff.mp hmap).length_eq]

theorem referenceSize_eq {v : JsValue} {key s : JsString} (h : v.get key = some (.string s)) :
    referenceSize N v key = canonicalBytes N (.string (N.normalizeNfc s)) := by
  rw [referenceSize, textOf_eq h, canonicalBytes, N.normalizeNfc_idem]

/-- The canonical text of the normalized receipt has the size that the properties tell. -/
theorem receiptSize_eq {v : JsValue} {r : Receipt} (h : ReadAs N R v r) :
    receiptSize N R.date v = canonicalBytes N r.toJs := by
  obtain ⟨agent, hagent, -, hagentNfc⟩ := h.agentRef
  obtain ⟨subject, hsubject, -, hsubjectNfc⟩ := h.subjectRef
  obtain ⟨time, htime, -, hparse⟩ := h.occurredAt
  have hassertions : assertionsSize v + 1 = canonicalBytes N r.assertions.toJs :=
    assertionsSize_eq h.assertions
  have hprevious : previousSize v = canonicalBytes N (nullableHash r.previousReceiptHash) := by
    rw [previousSize, h.previous]
    cases r.previousReceiptHash with
    | none => rfl
    | some hash => exact (canonicalBytes_hash hash).symm
  have hsize : timeSize R.date v = r.occurredAt.text.length := by
    rw [timeSize, textOf_eq htime, hparse]
    rfl
  rw [receiptSize, textOf_eq h.receiptId, textOf_eq h.runId, textOf_eq h.phase, textOf_eq h.outcome,
    textOf_eq h.sourceKeyId, referenceSize_eq hagent, referenceSize_eq hsubject, hprevious, hsize,
    canonicalBytes_receipt, hagentNfc, hsubjectNfc]
  omega

end Size

/-- A payload within the other bounds is rejected for its size only. -/
theorem canonicalizePayload_oversized {N : Normalization} {v : JsValue} (hobject : v.isObject = true)
    (hheight : height v ≤ MAX_DEPTH) (hclean : Clean N v) (hnodes : nodeCount v ≤ MAX_NODES)
    (hsize : MAX_CANONICAL_BYTES < byteLength (canonicalizeValue N v)) :
    canonicalizePayload N v =
      .error ⟨.canonicalBytes, js "Canonical payload exceeds 16 KiB"⟩ := by
  have hsafe : validateSafeValue N 0 MAX_NODES v = .ok (MAX_NODES - nodeCount v) :=
    (validateSafeValue_eq_ok_iff _ _ _ _).mpr
      ⟨by rwa [Nat.zero_add], hclean, Nat.sub_add_cancel hnodes⟩
  have hbytes : decide (byteLength (canonicalizeValue N v) ≤ MAX_CANONICAL_BYTES) = false :=
    decide_eq_false (Nat.not_le.mpr hsize)
  simp only [canonicalizePayload, payloadAssert, hobject, hsafe, hbytes, if_true]
  rfl

theorem length_of_isReference {s : JsString} (h : isReference s = true) : s.length ≤ 256 := by
  simp only [isReference, Bool.and_eq_true, decide_eq_true_eq] at h
  exact h.1.2

/-- A validated receipt is committed when its canonical text has at most 16 KiB, and is
    rejected for the size of this text otherwise. -/
theorem commitPomRxReceipt_size (N : Normalization)
    (hN : ∀ s, (N.normalizeNfc s).length ≤ 3 * s.length) (R : Runtime) (v : JsValue) (r : Receipt)
    (h : validatePomRxReceipt N R v = .ok r) :
    (receiptSize N R.date v ≤ MAX_CANONICAL_BYTES → ∃ c, commitPomRxReceipt N R v = .ok c) ∧
      (MAX_CANONICAL_BYTES < receiptSize N R.date v → commitPomRxReceipt N R v =
        .error (.payload ⟨.canonicalBytes, js "Canonical payload exceeds 16 KiB"⟩)) := by
  have hread := validatePomRxReceipt_eq_ok_iff.mp h
  -- normalization lengthens a reference by a factor of 3 at most, which leaves it below 2048 units
  have hshort : ∀ s, isReference s = true → (N.normalizeNfc s).length ≤ MAX_STRING_LENGTH := by
    intro s hs
    have hnfc := hN s
    have hlength := length_of_isReference hs
    have hmax : MAX_STRING_LENGTH = 2048 := rfl
    omega
  obtain ⟨agent, -, hagent, hagentNfc⟩ := hread.agentRef
  obtain ⟨subject, -, hsubject, hsubjectNfc⟩ := hread.subjectRef
  obtain ⟨hheight, hclean, hnodes⟩ := receipt_clean (N := N) r (hagentNfc ▸ hshort agent hagent)
    (hsubjectNfc ▸ hshort subject hsubject)
  rw [receiptSize_eq hread, ← byteLength_canonicalizeValue_eq]
  constructor
  · intro hsize
    have hcanonical := (canonicalizePayload_eq_ok_iff r.toJs (canonicalizeValue N r.toJs)).mpr
      ⟨⟨_, rfl⟩, hheight, hclean, hnodes, hsize, rfl⟩
    exact ⟨⟨r, canonicalizeValue N r.toJs, sha256Hex R.hash (js "swisstokint:pom-rx:v1:" ++
      canonicalizeValue N r.toJs)⟩, commitPomRxReceipt_eq_ok.mpr ⟨h, hcanonical, rfl⟩⟩
  · intro hsize
    have hcanonical := canonicalizePayload_oversized rfl hheight hclean hnodes hsize
    rw [commitPomRxReceipt, h]
    show ((canonicalizePayload N r.toJs).mapError ReceiptError.payload >>= _) = _
    rw [hcanonical]
    rfl

/-! ## A receipt that is too long -/

/-- A letter becomes at most two letters. -/
theorem length_devanagari (s : JsString) : (devanagari.normalizeNfc s).length ≤ 3 * s.length := by
  have hpoints : ∀ l : List CodePoint,
      ((l.flatMap devanagariNfc).flatMap utf16).length ≤ 2 * (l.flatMap utf16).length := by
    intro l
    induction l with
    | nil => exact le_refl 0
    | cons c l ih =>
      have hone : ((devanagariNfc c).flatMap utf16).length ≤ 2 * (utf16 c).length := by
        obtain h | ⟨-, hc, d, e, h, -, -, hd, he⟩ := devanagariNfc_cases c
        · rw [h, List.flatMap_singleton]
          omega
        · rw [h]
          simp [utf16, show d.val < 0x10000 by omega, show e.val < 0x10000 by omega,
            show c.val < 0x10000 by omega]
      rw [List.flatMap_cons, List.flatMap_append, List.flatMap_cons, List.length_append,
        List.length_append]
      omega
  have hle := hpoints (codePoints s)
  rw [flatMap_utf16_codePoints] at hle
  rw [Normalization.normalizeNfc]
  show ((codePoints s).flatMap devanagariNfc |>.flatMap utf16).length ≤ _
  omega

/-- A rule identifier of 64 characters. -/
def longRule (i : ℕ) : JsString :=
  List.replicate 62 0x61 ++ [Json.hexDigit (i / 8), Json.hexDigit (i % 8)]

theorem longRule_pattern : ∀ i < 64, RULE_ID_PATTERN (longRule i) = true := by decide +kernel

/-- A text of 64 equal digits. -/
def repeatedDigest : HashText := ⟨List.replicate 64 0x61, rfl⟩

def longAssertion (i : Fin 64) : Assertion where
  ruleId := ⟨longRule i, longRule_pattern i i.isLt⟩
  ruleHash := repeatedDigest
  result := .pass
  proofMode := .commitment
  evidenceHash := repeatedDigest

theorem hexDigit_injective {m n : ℕ} (hm : m < 16) (hn : n < 16)
    (h : Json.hexDigit m = Json.hexDigit n) : m = n := by
  have hvalue := Json.hexValue_hexDigit m hm
  rw [h, Json.hexValue_hexDigit n hn] at hvalue
  exact (Option.some.inj hvalue).symm

theorem longAssertion_injective : Function.Injective (Assertion.ruleId ∘ longAssertion) := by
  intro i j h
  have htext := List.append_cancel_left (congrArg Subtype.val h)
  rw [List.cons.injEq, List.cons.injEq] at htext
  have hhigh := hexDigit_injective (by omega) (by omega) htext.1
  have hlow := hexDigit_injective (by omega) (by omega) htext.2.1
  apply Fin.ext
  omega

def longAssertions : AssertionList :=
  ⟨(List.finRange 64).map longAssertion, by simp, by
    rw [List.map_map]
    exact (List.nodup_finRange 64).map longAssertion_injective⟩

/-- The order of the assertions of a valid list. -/
def AssertionList.sorted (R : Runtime) (l : AssertionList) : AssertionList :=
  ⟨sortAssertions R l.val, by rw [(sortAssertions_perm R l.val).length_eq]; exact l.property.1,
    ((sortAssertions_perm R l.val).map _).nodup_iff.mpr l.property.2⟩

/-- An allow preflight receipt with these assertions. -/
def receiptOf (l : AssertionList) (h : ∀ a ∈ l.val, a.result = .pass) : Receipt where
  receiptId := ⟨js "receipt-preflight-0001", rfl⟩
  runId := ⟨js "run-2026-06-01-0001", rfl⟩
  phase := .preflight
  outcome := .allow
  agentRef := js "agent"
  subjectRef := js "subject"
  methodHash := repeatedDigest
  policyHash := repeatedDigest
  inputCommitment := repeatedDigest
  actionCommitment := repeatedDigest
  assertions := l
  previousReceiptHash := none
  occurredAt := ⟨0, Nat.zero_le _⟩
  sourceKeyId := ⟨js "source", rfl⟩
  outcome_mem := by decide
  rules := ⟨by simp, fun _ _ => h, by simp⟩

theorem AssertionList.sorted_pass {R : Runtime} {l : AssertionList}
    (h : ∀ a ∈ l.val, a.result = .pass) : ∀ a ∈ (l.sorted R).val, a.result = .pass :=
  fun a ha => h a ((sortAssertions_perm R l.val).mem_iff.mp ha)

theorem normalizeNfc_plain {N : Normalization} {s : JsString} (h : s.all isPlainUnit = true) :
    N.normalizeNfc s = s :=
  normalizeNfc_ascii (ascii_of_plain (List.all_eq_true.mp h))

/-- The receipt is valid; its assertions are sorted. -/
theorem readAs_receiptOf {N : Normalization} {R : Runtime} (hdate : R.date.ReadsIso)
    (l : AssertionList) (h : ∀ a ∈ l.val, a.result = .pass) :
    ReadAs N R (receiptOf l h).toJs (receiptOf (l.sorted R) (AssertionList.sorted_pass h)) where
  keys := exactKeys_object rfl
  schemaVersion := rfl
  receiptId := rfl
  runId := rfl
  phase := rfl
  outcome := rfl
  agentRef := ⟨js "agent", rfl, rfl,
    (normalizeNfc_plain (s := js "agent") rfl).symm⟩
  subjectRef := ⟨js "subject", rfl, rfl,
    (normalizeNfc_plain (s := js "subject") rfl).symm⟩
  methodHash := rfl
  policyHash := rfl
  inputCommitment := rfl
  actionCommitment := rfl
  assertions := validateAssertions_eq_ok.mpr ⟨_, l.val, rfl,
    by rw [List.length_map]; exact l.property.1, mapM_validateAssertion_toJs _, l.property.2, rfl⟩
  previous := rfl
  sourceKeyId := rfl
  occurredAt := ⟨_, rfl, hasOffset_toISOString _, hdate 0 (by decide)⟩

theorem longAssertions_pass : ∀ a ∈ longAssertions.val, a.result = .pass := by
  intro a ha
  obtain ⟨i, -, rfl⟩ := List.mem_map.mp ha
  rfl

/-- A receipt with 64 assertions of 282 bytes. -/
def longReceipt : JsValue := (receiptOf longAssertions longAssertions_pass).toJs

theorem longReceipt_size (N : Normalization) {R : Runtime} (hdate : R.date.ReadsIso) :
    MAX_CANONICAL_BYTES < receiptSize N R.date longReceipt := by
  have hassertion : ∀ i, 204 + (longAssertion i).ruleId.val.length +
      (longAssertion i).result.text.length + (longAssertion i).proofMode.text.length = 282 := by
    intro i
    have hrule : (longRule i).length = 64 := by simp [longRule]
    have hpass : AssertionResult.pass.text.length = 4 := rfl
    have hmode : ProofMode.commitment.text.length = 10 := rfl
    show 204 + (longRule i).length + AssertionResult.pass.text.length +
      ProofMode.commitment.text.length = 282
    omega
  have hsum : canonicalBytes N (longAssertions.sorted R).toJs = 64 * 282 + 65 := by
    have hperm := sortAssertions_perm R longAssertions.val
    rw [canonicalBytes_assertions, AssertionList.sorted, (hperm.map _).sum_eq, hperm.length_eq,
      longAssertions, List.map_map]
    simp only [Function.comp_def, hassertion, List.map_const', List.sum_replicate,
      List.length_finRange, List.length_map, smul_eq_mul]
  have hsize := canonicalBytes_receipt (N := N)
    (receiptOf (longAssertions.sorted R) (AssertionList.sorted_pass longAssertions_pass))
  have hassertions : (receiptOf (longAssertions.sorted R)
    (AssertionList.sorted_pass longAssertions_pass)).assertions = longAssertions.sorted R := rfl
  have hmax : MAX_CANONICAL_BYTES = 16384 := rfl
  rw [hassertions, hsum] at hsize
  rw [longReceipt, receiptSize_eq (readAs_receiptOf hdate longAssertions longAssertions_pass), hsize]
  omega

theorem validate_longReceipt (N : Normalization) {R : Runtime} (hdate : R.date.ReadsIso) :
    ∃ r, validatePomRxReceipt N R longReceipt = .ok r :=
  ⟨_, validatePomRxReceipt_eq_ok_iff.mpr (readAs_receiptOf hdate longAssertions longAssertions_pass)⟩

theorem commitPomRxReceipt_size_long :
    commitPomRxReceipt devanagari sampleRuntime longReceipt =
      .error (.payload ⟨.canonicalBytes, js "Canonical payload exceeds 16 KiB"⟩) := by
  obtain ⟨r, hr⟩ := validate_longReceipt devanagari sampleRuntime_readsIso
  exact (commitPomRxReceipt_size devanagari length_devanagari sampleRuntime longReceipt r hr).2
    (longReceipt_size devanagari sampleRuntime_readsIso)

/-- The receipt with 64 assertions is valid and is not committed. -/
theorem not_commitPomRxReceipt_long :
    ¬ ∀ v r, validatePomRxReceipt devanagari sampleRuntime v = .ok r →
      ∃ c, commitPomRxReceipt devanagari sampleRuntime v = .ok c := by
  intro hall
  obtain ⟨r, hr⟩ := validate_longReceipt devanagari sampleRuntime_readsIso
  obtain ⟨c, hc⟩ := hall longReceipt r hr
  obtain ⟨hvalid, hcanonical, -⟩ := commitPomRxReceipt_eq_ok.mp hc
  have hsize := longReceipt_size devanagari sampleRuntime_readsIso
  obtain ⟨-, -, -, -, hbytes, -⟩ := (canonicalizePayload_eq_ok_iff _ _).mp hcanonical
  rw [receiptSize_eq (validatePomRxReceipt_eq_ok_iff.mp hvalid), ← byteLength_canonicalizeValue_eq]
    at hsize
  omega

end OpenRisk.PomRx
