import OpenRisk.Js.Calendar
import OpenRisk.Sdk.Merkle
import OpenRisk.Sorting.Comparator

/-!
# POM-RX receipts

Model of `validatePomRxReceipt` and `commitPomRxReceipt` of `sdk/typescript/pom-rx.mjs`
(lines 1–149). A validated receipt is a `Receipt`: its texts have the formats that the
source checks, and the rules that tie outcome, assertions and previous hash to the phase
are fields.

The source returns the caller's object with four properties replaced, so the order of
its properties is the caller's. `Receipt.toJs` lists them in a fixed order; the receipt is
only read by name or through `canonicalizePayload`, which sorts the names.

Results:
* `validatePomRxReceipt_eq_ok_iff`: what is accepted, and what is returned.
* `validatePomRxReceipt_toJs`: a validated receipt is valid again, and unchanged, exactly
  when its two references still have the format after normalization.
-/

namespace OpenRisk.PomRx

open Text Sdk Sorting

/-! ## Checks -/

/-- `assert(condition, message)`, with the proof of the condition. -/
def ensure (p : Prop) [Decidable p] (message : JsString) : Except TypeError (PLift p) :=
  if h : p then .ok ⟨h⟩ else .error ⟨message⟩

theorem ensure_eq_ok {p : Prop} [Decidable p] {message : JsString} {x : PLift p} :
    ensure p message = .ok x ↔ p := by
  constructor
  · intro _
    exact x.down
  · intro h
    rw [ensure, dif_pos h]

/-- `assertExactKeys(record, expected, label)`. -/
def assertExactKeys (record : JsValue) (expected : List JsString) (label : JsString) :
    Except TypeError Unit := do
  assert record.isObject (label ++ js " must be an object")
  assert (hasExactKeys record expected) (label ++ js " has missing or unknown fields")

/-- The record is an object with exactly these property names. -/
def ExactKeys (record : JsValue) (expected : List JsString) : Prop :=
  record.isObject = true ∧ hasExactKeys record expected = true

theorem assertExactKeys_eq_ok {record : JsValue} {expected : List JsString} {label : JsString}
    {u : Unit} : assertExactKeys record expected label = .ok u ↔ ExactKeys record expected := by
  simp [assertExactKeys, ExactKeys, bind_eq_ok, assert_eq_ok]

/-- A first character of one class, then `lo` to `hi` characters of another. -/
def headAndRest (first rest : UInt16 → Bool) (lo hi : ℕ) (s : JsString) : Bool :=
  match s with
  | [] => false
  | u :: us => first u && us.all rest && lo ≤ us.length && us.length ≤ hi

/-- The class `[a-z0-9._-]`. -/
def isRuleUnit (u : UInt16) : Bool :=
  isLowerAlpha u || Json.isDigit u || u = 0x5F || u = 0x2E || u = 0x2D

/-- `RULE_ID_PATTERN = /^[a-z0-9][a-z0-9._-]{2,63}$/`. -/
def RULE_ID_PATTERN : JsString → Bool :=
  headAndRest (fun u => isLowerAlpha u || Json.isDigit u) isRuleUnit 2 63

/-- `SOURCE_KEY_ID_PATTERN = /^[A-Za-z0-9][A-Za-z0-9._-]{0,63}$/`. -/
def SOURCE_KEY_ID_PATTERN : JsString → Bool := headAndRest isAlphaNumeric isKeyUnit 0 63

/-- A string that matches a pattern. -/
abbrev Matching (pattern : JsString → Bool) := { s : JsString // pattern s = true }

/-- `assertIdentifier(value, field, pattern)`. -/
def assertIdentifier (value : Option JsValue) (field : JsString) (pattern : JsString → Bool) :
    Except TypeError (Matching pattern) :=
  match value with
  | some (.string s) =>
    if h : pattern s = true then .ok ⟨s, h⟩ else .error ⟨field ++ js " has an invalid format"⟩
  | _ => .error ⟨field ++ js " has an invalid format"⟩

theorem assertIdentifier_eq_ok {value : Option JsValue} {field : JsString}
    {pattern : JsString → Bool} {i : Matching pattern} :
    assertIdentifier value field pattern = .ok i ↔ value = some (.string i.val) := by
  constructor
  · intro hok
    unfold assertIdentifier at hok
    split at hok
    · split_ifs at hok
      cases hok
      rfl
    · cases hok
  · rintro rfl
    rw [assertIdentifier, dif_pos i.property]

/-- `value === text`. -/
def isText (value : Option JsValue) (text : JsString) : Bool :=
  match value with
  | some (.string s) => s = text
  | _ => false

theorem isText_eq_true {value : Option JsValue} {text : JsString} :
    isText value text = true ↔ value = some (.string text) := by
  unfold isText
  split
  · simp
  · rename_i h
    constructor
    · intro hfalse
      cases hfalse
    · rintro rfl
      exact absurd rfl (h text)

/-! ## Enumerations -/

/-- The element of a list of alternatives that is written as `value`. -/
def readText {α : Type} (text : α → JsString) (alternatives : List α) (value : Option JsValue) :
    Option α :=
  alternatives.find? fun a => isText value (text a)

theorem readText_eq_some {α : Type} {text : α → JsString} {alternatives : List α}
    (hinj : ∀ a ∈ alternatives, ∀ b ∈ alternatives, text a = text b → a = b)
    {value : Option JsValue} {a : α} :
    readText text alternatives value = some a ↔ a ∈ alternatives ∧ value = some (.string (text a)) := by
  constructor
  · intro h
    unfold readText at h
    have htext := List.find?_some h
    exact ⟨List.mem_of_find?_eq_some h, isText_eq_true.mp htext⟩
  · rintro ⟨hmem, rfl⟩
    have hfound : (alternatives.find? fun b => isText (some (.string (text a))) (text b)).isSome := by
      rw [List.find?_isSome]
      exact ⟨a, hmem, isText_eq_true.mpr rfl⟩
    obtain ⟨b, hb⟩ := Option.isSome_iff_exists.mp hfound
    have hfits := List.find?_some hb
    have htext := isText_eq_true.mp hfits
    simp only [Option.some.injEq, JsValue.string.injEq] at htext
    rw [readText, hb, hinj b (List.mem_of_find?_eq_some hb) a hmem htext.symm]

/-- `assert(ALTERNATIVES.has(value), message)`. -/
def assertOneOf {α : Type} (text : α → JsString) (alternatives : List α) (value : Option JsValue)
    (message : JsString) : Except TypeError { a : α // a ∈ alternatives } :=
  match h : readText text alternatives value with
  | some a => .ok ⟨a, List.mem_of_find?_eq_some h⟩
  | none => .error ⟨message⟩

theorem assertOneOf_eq_ok {α : Type} {text : α → JsString} {alternatives : List α}
    (hinj : ∀ a ∈ alternatives, ∀ b ∈ alternatives, text a = text b → a = b)
    {value : Option JsValue} {message : JsString} {a : { a : α // a ∈ alternatives }} :
    assertOneOf text alternatives value message = .ok a ↔ value = some (.string (text a.val)) := by
  have hread : readText text alternatives value = some a.val ↔
      a.val ∈ alternatives ∧ value = some (.string (text a.val)) := readText_eq_some hinj
  unfold assertOneOf
  split
  · rename_i b hb
    have hval := (readText_eq_some hinj).mp hb
    rw [Except.ok.injEq, ← Subtype.val_inj]
    constructor
    · intro h
      rw [← h]
      exact hval.2
    · intro h
      exact hinj b hval.1 a.val a.property (by simpa using hval.2.symm.trans h)
  · rename_i hnone
    rw [hnone] at hread
    constructor
    · intro h
      cases h
    · intro h
      cases hread.mpr ⟨a.property, h⟩

/-- The phases, in the order of `PHASES`. -/
inductive Phase where
  | preflight
  | execution
  | reconciliation
  deriving DecidableEq

def PHASES : List Phase := [.preflight, .execution, .reconciliation]

def Phase.text : Phase → JsString
  | .preflight => js "preflight"
  | .execution => js "execution"
  | .reconciliation => js "reconciliation"

/-- `PHASES.indexOf(phase)`. -/
def Phase.index : Phase → ℕ
  | .preflight => 0
  | .execution => 1
  | .reconciliation => 2

theorem Phase.index_injective {p q : Phase} (h : p.index = q.index) : p = q := by
  cases p <;> cases q <;> first | rfl | cases h

theorem Phase.text_injective : ∀ p ∈ PHASES, ∀ q ∈ PHASES, p.text = q.text → p = q := by
  decide +kernel

inductive Outcome where
  | allow
  | deny
  | accepted
  | rejected
  | unresolved
  | matched
  | mismatched
  deriving DecidableEq

def Outcome.text : Outcome → JsString
  | .allow => js "allow"
  | .deny => js "deny"
  | .accepted => js "accepted"
  | .rejected => js "rejected"
  | .unresolved => js "unresolved"
  | .matched => js "matched"
  | .mismatched => js "mismatched"

/-- `PHASE_OUTCOMES`. -/
def PHASE_OUTCOMES : Phase → List Outcome
  | .preflight => [.allow, .deny]
  | .execution => [.accepted, .rejected, .unresolved]
  | .reconciliation => [.matched, .mismatched, .unresolved]

theorem Outcome.text_injective (p : Phase) :
    ∀ a ∈ PHASE_OUTCOMES p, ∀ b ∈ PHASE_OUTCOMES p, a.text = b.text → a = b := by
  cases p <;> decide +kernel

inductive AssertionResult where
  | pass
  | fail
  | notEvaluated
  deriving DecidableEq

def AssertionResult.text : AssertionResult → JsString
  | .pass => js "pass"
  | .fail => js "fail"
  | .notEvaluated => js "not_evaluated"

def ASSERTION_RESULTS : List AssertionResult := [.pass, .fail, .notEvaluated]

theorem AssertionResult.text_injective :
    ∀ a ∈ ASSERTION_RESULTS, ∀ b ∈ ASSERTION_RESULTS, a.text = b.text → a = b := by
  decide +kernel

inductive ProofMode where
  | commitment
  | publicProof
  | zk
  deriving DecidableEq

def ProofMode.text : ProofMode → JsString
  | .commitment => js "commitment"
  | .publicProof => js "public"
  | .zk => js "zk"

def PROOF_MODES : List ProofMode := [.commitment, .publicProof, .zk]

theorem ProofMode.text_injective :
    ∀ a ∈ PROOF_MODES, ∀ b ∈ PROOF_MODES, a.text = b.text → a = b := by
  decide +kernel

/-! ## Texts and times -/

/-- `WhiteSpace` and `LineTerminator` of ECMAScript. -/
def isSpaceUnit (u : UInt16) : Bool :=
  (0x09 ≤ u.toNat && u.toNat ≤ 0x0D) || u = 0x20 || u = 0xA0 || u = 0x1680 ||
    (0x2000 ≤ u.toNat && u.toNat ≤ 0x200A) || u = 0x2028 || u = 0x2029 || u = 0x202F ||
    u = 0x205F || u = 0x3000 || u = 0xFEFF

/-- `String.prototype.trim`. -/
def trim (s : JsString) : JsString :=
  ((s.dropWhile isSpaceUnit).reverse.dropWhile isSpaceUnit).reverse

/-- The class `[\u0000-\u001f\u007f]`. -/
def isControlUnit (u : UInt16) : Bool := u.toNat ≤ 0x1F || u = 0x7F

/-- The format of `agent_ref` and `subject_ref`. -/
def isReference (s : JsString) : Bool :=
  1 ≤ (trim s).length && s.length ≤ 256 && !s.any isControlUnit

/-- The check of `agent_ref` and `subject_ref`. -/
def assertReference (value : Option JsValue) (field : JsString) :
    Except TypeError (Matching isReference) :=
  assertIdentifier value field isReference

/-- `/(Z|[+-]\d{2}:\d{2})$/.test(text)`. -/
def hasOffset (text : JsString) : Bool :=
  match text.reverse with
  | 0x5A :: _ => true
  | m :: m' :: 0x3A :: h :: h' :: sign :: _ =>
    Json.isDigit m && Json.isDigit m' && Json.isDigit h && Json.isDigit h' &&
      (sign = 0x2B || sign = 0x2D)
  | _ => false

/-- A text that `toISOString` gives, by its time value. -/
structure IsoDate where
  ms : ℤ
  bounded : ms.natAbs ≤ maxTimeValue
  deriving DecidableEq

def IsoDate.text (d : IsoDate) : JsString := Date.toISOString d.ms

/-- `normalizeDateTime(value, field)`. -/
def normalizeDateTime (P : DateParser) (value : Option JsValue) (field : JsString) :
    Except TypeError IsoDate :=
  match value with
  | some (.string s) =>
    if hasOffset s then
      match h : P.parse s with
      | some t => .ok ⟨t, P.bounded s t h⟩
      | none => .error ⟨field ++ js " must be an ISO date-time"⟩
    else .error ⟨field ++ js " must include an offset"⟩
  | _ => .error ⟨field ++ js " must include an offset"⟩

theorem normalizeDateTime_eq_ok {P : DateParser} {value : Option JsValue} {field : JsString}
    {d : IsoDate} : normalizeDateTime P value field = .ok d ↔
      ∃ s, value = some (.string s) ∧ hasOffset s = true ∧ P.parse s = some d.ms := by
  constructor
  · intro hok
    unfold normalizeDateTime at hok
    split at hok
    · rename_i s
      split_ifs at hok with hoffset
      split at hok
      · rename_i t ht
        cases hok
        exact ⟨s, rfl, hoffset, ht⟩
      · cases hok
    · cases hok
  · rintro ⟨s, rfl, hoffset, hparse⟩
    simp only [normalizeDateTime, hoffset, if_true]
    split
    · rename_i t ht
      rw [hparse] at ht
      cases ht
      rfl
    · rename_i hnone
      rw [hparse] at hnone
      cases hnone

theorem hasOffset_toISOString (t : ℤ) : hasOffset (Date.toISOString t) = true := by
  obtain ⟨s, hs⟩ : ∃ s, Date.toISOString t = s ++ [0x5A] := ⟨_, rfl⟩
  rw [hs, hasOffset, List.reverse_append]
  rfl

/-- A normalized text is normalized again to itself. -/
theorem normalizeDateTime_text {P : DateParser} (hP : P.ReadsIso) (d : IsoDate) (field : JsString) :
    normalizeDateTime P (some (.string d.text)) field = .ok d :=
  normalizeDateTime_eq_ok.mpr
    ⟨d.text, rfl, hasOffset_toISOString d.ms, hP d.ms d.bounded⟩

/-! ## Assertions -/

abbrev RuleId := Matching RULE_ID_PATTERN

/-- A validated risk assertion. -/
structure Assertion where
  ruleId : RuleId
  ruleHash : HashText
  result : AssertionResult
  proofMode : ProofMode
  evidenceHash : HashText
  deriving DecidableEq

def ASSERTION_KEYS : List JsString :=
  ["rule_id", "rule_hash", "result", "proof_mode", "evidence_hash"].map js

def Assertion.toJs (a : Assertion) : JsValue :=
  .object [(js "rule_id", .string a.ruleId.val), (js "rule_hash", .string a.ruleHash.val),
    (js "result", .string a.result.text), (js "proof_mode", .string a.proofMode.text),
    (js "evidence_hash", .string a.evidenceHash.val)]

/-- `validateAssertion(assertion)`. -/
def validateAssertion (assertion : JsValue) : Except TypeError Assertion := do
  assertExactKeys assertion ASSERTION_KEYS (js "Risk assertion")
  let ruleId ← assertIdentifier (assertion.get (js "rule_id")) (js "rule_id") RULE_ID_PATTERN
  let ruleHash ← assertHash (assertion.get (js "rule_hash")) (js "rule_hash")
  let result ← assertOneOf AssertionResult.text ASSERTION_RESULTS (assertion.get (js "result"))
    (js "Unsupported assertion result")
  let proofMode ← assertOneOf ProofMode.text PROOF_MODES (assertion.get (js "proof_mode"))
    (js "Unsupported proof_mode")
  let evidenceHash ← assertHash (assertion.get (js "evidence_hash")) (js "evidence_hash")
  .ok ⟨ruleId, ruleHash, result.val, proofMode.val, evidenceHash⟩

theorem exactKeys_object {es : List (JsString × JsValue)} {expected : List JsString}
    (h : es.map Prod.fst = expected) : ExactKeys (.object es) expected := by
  refine ⟨rfl, ?_⟩
  rw [hasExactKeys, objectKeys, h]
  exact decide_eq_true rfl

theorem validateAssertion_toJs (a : Assertion) : validateAssertion a.toJs = .ok a := by
  have hkeys : ExactKeys a.toJs ASSERTION_KEYS := exactKeys_object rfl
  have hresult : a.result ∈ ASSERTION_RESULTS := by cases a.result <;> decide
  have hmode : a.proofMode ∈ PROOF_MODES := by cases a.proofMode <;> decide
  simp only [validateAssertion, bind_eq_ok]
  exact ⟨(), assertExactKeys_eq_ok.mpr hkeys, a.ruleId, assertIdentifier_eq_ok.mpr rfl,
    a.ruleHash, assertHash_eq_ok.mpr rfl,
    ⟨a.result, hresult⟩, (assertOneOf_eq_ok AssertionResult.text_injective).mpr rfl,
    ⟨a.proofMode, hmode⟩, (assertOneOf_eq_ok ProofMode.text_injective).mpr rfl,
    a.evidenceHash, assertHash_eq_ok.mpr rfl, rfl⟩

/-- Between 1 and 64 assertions, no two with the same `rule_id`. -/
def AssertionList :=
  { l : List Assertion // (1 ≤ l.length ∧ l.length ≤ 64) ∧ (l.map Assertion.ruleId).Nodup }

section Runtime

variable (N : Normalization) (R : Runtime)

/-- The comparator `left.rule_id.localeCompare(right.rule_id)`. -/
def compareRules (left right : Assertion) : Ordering :=
  R.localeCompare left.ruleId.val right.ruleId.val

/-- `assertions.sort(...)`: stable. -/
def sortAssertions (assertions : List Assertion) : List Assertion :=
  assertions.insertionSort (NotAfter (compareRules R))

theorem sortAssertions_perm (assertions : List Assertion) :
    (sortAssertions R assertions).Perm assertions :=
  List.perm_insertionSort _ assertions

theorem sortAssertions_idem [Std.TransCmp R.localeCompare] (assertions : List Assertion) :
    sortAssertions R (sortAssertions R assertions) = sortAssertions R assertions := by
  have : Std.TransCmp (compareRules R) :=
    transCmp_on R.localeCompare fun a : Assertion => a.ruleId.val
  apply List.Pairwise.insertionSort_eq
  exact List.pairwise_insertionSort (NotAfter (compareRules R)) assertions

theorem assertionList_sort {xs : List JsValue} {assertions : List Assertion}
    (hlen : 1 ≤ xs.length ∧ xs.length ≤ 64) (h : xs.mapM validateAssertion = .ok assertions)
    (hset : (assertions.map Assertion.ruleId).dedup.length = assertions.length) :
    (1 ≤ (sortAssertions R assertions).length ∧ (sortAssertions R assertions).length ≤ 64) ∧
      ((sortAssertions R assertions).map Assertion.ruleId).Nodup := by
  have hperm := sortAssertions_perm R assertions
  have hmap := (mapM_eq_ok_iff.mp h).length_eq.symm
  rw [hperm.length_eq, hmap, (hperm.map _).nodup_iff, ← dedup_length_eq_iff, List.length_map]
  exact ⟨hlen, hset⟩

/-- The checks of `receipt.assertions`, and the sorting. -/
def validateAssertions (value : Option JsValue) : Except TypeError AssertionList :=
  match value with
  | some (.array xs) =>
    if hlen : 1 ≤ xs.length ∧ xs.length ≤ 64 then
      match h : xs.mapM validateAssertion with
      | .ok assertions =>
        if hset : (assertions.map Assertion.ruleId).dedup.length = assertions.length then
          .ok ⟨sortAssertions R assertions, assertionList_sort R hlen h hset⟩
        else .error ⟨js "assertions cannot repeat a rule_id"⟩
      | .error e => .error e
    else .error ⟨js "assertions must contain between 1 and 64 entries"⟩
  | _ => .error ⟨js "assertions must contain between 1 and 64 entries"⟩

theorem validateAssertions_eq_ok {R : Runtime} {value : Option JsValue} {l : AssertionList} :
    validateAssertions R value = .ok l ↔
      ∃ xs assertions, value = some (.array xs) ∧ (1 ≤ xs.length ∧ xs.length ≤ 64) ∧
        xs.mapM validateAssertion = .ok assertions ∧ (assertions.map Assertion.ruleId).Nodup ∧
        l.val = sortAssertions R assertions := by
  have hset : ∀ assertions : List Assertion,
      (assertions.map Assertion.ruleId).dedup.length = assertions.length ↔
        (assertions.map Assertion.ruleId).Nodup := by
    intro assertions
    rw [← dedup_length_eq_iff, List.length_map]
  constructor
  · intro hok
    unfold validateAssertions at hok
    split at hok
    · rename_i xs
      split_ifs at hok with hlen
      split at hok
      · rename_i assertions hmap
        split_ifs at hok with hdup
        cases hok
        exact ⟨xs, assertions, rfl, hlen, hmap, (hset _).mp hdup, rfl⟩
      · cases hok
    · cases hok
  · rintro ⟨xs, assertions, rfl, hlen, hmap, hnodup, hl⟩
    simp only [validateAssertions, hlen, and_self, dite_true]
    split
    · rename_i assertions' hmap'
      rw [hmap] at hmap'
      cases hmap'
      rw [dif_pos ((hset _).mpr hnodup)]
      exact congrArg Except.ok (Subtype.ext hl.symm)
    · rename_i e he
      rw [hmap] at he
      cases he

theorem mapM_validateAssertion_toJs (assertions : List Assertion) :
    (assertions.map Assertion.toJs).mapM validateAssertion = .ok assertions := by
  induction assertions with
  | nil => rfl
  | cons a assertions ih =>
    rw [List.map_cons, List.mapM_cons, validateAssertion_toJs, ih]
    rfl

/-- The list as it is written in a receipt. -/
def AssertionList.toJs (l : AssertionList) : JsValue := .array (l.val.map Assertion.toJs)

/-- A sorted list of assertions is valid, and unchanged. -/
theorem validateAssertions_toJs {R : Runtime} {l : AssertionList}
    (hsorted : sortAssertions R l.val = l.val) :
    validateAssertions R (some l.toJs) = .ok l := by
  refine validateAssertions_eq_ok.mpr ⟨_, l.val, rfl, ?_, mapM_validateAssertion_toJs l.val,
    l.property.2, hsorted.symm⟩
  rw [List.length_map]
  exact l.property.1

/-! ## Receipts -/

/-- `POM_RX_SCHEMA_VERSION`. -/
def POM_RX_SCHEMA_VERSION : JsString := js "pom-rx/0.1"

def RECEIPT_KEYS : List JsString :=
  ["schema_version", "receipt_id", "run_id", "phase", "outcome", "agent_ref", "subject_ref",
    "method_hash", "policy_hash", "input_commitment", "action_commitment", "assertions",
    "previous_receipt_hash", "occurred_at", "source_key_id"].map js

/-- The rules for a preflight receipt, and that only such a receipt has no predecessor. -/
structure PhaseRules (phase : Phase) (outcome : Outcome) (assertions : List Assertion)
    (previous : Option HashText) : Prop where
  previous_eq_none : previous = none ↔ phase = .preflight
  allow : phase = .preflight → outcome = .allow → ∀ a ∈ assertions, a.result = .pass
  deny : phase = .preflight → outcome ≠ .allow → ∃ a ∈ assertions, a.result = .fail

/-- A validated receipt. -/
structure Receipt where
  receiptId : Identifier
  runId : Identifier
  phase : Phase
  outcome : Outcome
  agentRef : JsString
  subjectRef : JsString
  methodHash : HashText
  policyHash : HashText
  inputCommitment : HashText
  actionCommitment : HashText
  assertions : AssertionList
  previousReceiptHash : Option HashText
  occurredAt : IsoDate
  sourceKeyId : Matching SOURCE_KEY_ID_PATTERN
  outcome_mem : outcome ∈ PHASE_OUTCOMES phase
  rules : PhaseRules phase outcome assertions.val previousReceiptHash

/-- A hash or `null`. -/
def nullableHash : Option HashText → JsValue
  | some h => .string h.val
  | none => .null

def Receipt.toJs (r : Receipt) : JsValue :=
  .object [(js "schema_version", .string POM_RX_SCHEMA_VERSION),
    (js "receipt_id", .string r.receiptId.val), (js "run_id", .string r.runId.val),
    (js "phase", .string r.phase.text), (js "outcome", .string r.outcome.text),
    (js "agent_ref", .string r.agentRef), (js "subject_ref", .string r.subjectRef),
    (js "method_hash", .string r.methodHash.val), (js "policy_hash", .string r.policyHash.val),
    (js "input_commitment", .string r.inputCommitment.val),
    (js "action_commitment", .string r.actionCommitment.val), (js "assertions", r.assertions.toJs),
    (js "previous_receipt_hash", nullableHash r.previousReceiptHash),
    (js "occurred_at", .string r.occurredAt.text), (js "source_key_id", .string r.sourceKeyId.val)]

/-- The checks of `previous_receipt_hash` and of the assertions of a preflight receipt. -/
def validatePrevious (phase : Phase) (outcome : Outcome) (assertions : List Assertion)
    (value : Option JsValue) :
    Except TypeError { p : Option HashText // PhaseRules phase outcome assertions p } :=
  if hphase : phase = .preflight then
    match value with
    | some .null =>
      if hout : outcome = .allow then do
        let ⟨hall⟩ ← ensure (∀ a ∈ assertions, a.result = .pass)
          (js "An allow preflight requires every assertion to pass")
        .ok ⟨none, by simp [hphase], fun _ _ => hall, fun _ h => absurd hout h⟩
      else do
        let ⟨hfail⟩ ← ensure (∃ a ∈ assertions, a.result = .fail)
          (js "A deny preflight requires at least one failed assertion")
        .ok ⟨none, by simp [hphase], fun _ h => absurd h hout, fun _ _ => hfail⟩
    | _ => .error ⟨js "A preflight receipt cannot have a previous receipt"⟩
  else do
    let previous ← assertHash value (js "previous_receipt_hash")
    .ok ⟨some previous, by simp [hphase], fun h => absurd h hphase, fun h => absurd h hphase⟩

/-- `validatePomRxReceipt(receipt)`. -/
def validatePomRxReceipt (receipt : JsValue) : Except TypeError Receipt := do
  assertExactKeys receipt RECEIPT_KEYS (js "POM-RX receipt")
  assert (isText (receipt.get (js "schema_version")) POM_RX_SCHEMA_VERSION)
    (js "Unsupported POM-RX schema version")
  let receiptId ← assertIdentifier (receipt.get (js "receipt_id")) (js "receipt_id") ID_PATTERN
  let runId ← assertIdentifier (receipt.get (js "run_id")) (js "run_id") ID_PATTERN
  let phase ← assertOneOf Phase.text PHASES (receipt.get (js "phase"))
    (js "Unsupported POM-RX phase")
  let outcome ← assertOneOf Outcome.text (PHASE_OUTCOMES phase.val) (receipt.get (js "outcome"))
    (js "Outcome is invalid for this POM-RX phase")
  let agentRef ← assertReference (receipt.get (js "agent_ref")) (js "agent_ref")
  let subjectRef ← assertReference (receipt.get (js "subject_ref")) (js "subject_ref")
  let methodHash ← assertHash (receipt.get (js "method_hash")) (js "method_hash")
  let policyHash ← assertHash (receipt.get (js "policy_hash")) (js "policy_hash")
  let inputCommitment ← assertHash (receipt.get (js "input_commitment")) (js "input_commitment")
  let actionCommitment ← assertHash (receipt.get (js "action_commitment")) (js "action_commitment")
  let assertions ← validateAssertions R (receipt.get (js "assertions"))
  let previous ← validatePrevious phase.val outcome.val assertions.val
    (receipt.get (js "previous_receipt_hash"))
  let sourceKeyId ← assertIdentifier (receipt.get (js "source_key_id")) (js "source_key_id")
    SOURCE_KEY_ID_PATTERN
  let occurredAt ← normalizeDateTime R.date (receipt.get (js "occurred_at")) (js "occurred_at")
  .ok {
    receiptId, runId, phase := phase.val, outcome := outcome.val
    agentRef := N.normalizeNfc agentRef.val, subjectRef := N.normalizeNfc subjectRef.val
    methodHash, policyHash, inputCommitment, actionCommitment, assertions
    previousReceiptHash := previous.val, occurredAt, sourceKeyId
    outcome_mem := outcome.property, rules := previous.property }

/-- The value has the properties of a receipt, and `r` is what they are normalized to. -/
structure ReadAs (v : JsValue) (r : Receipt) : Prop where
  keys : ExactKeys v RECEIPT_KEYS
  schemaVersion : v.get (js "schema_version") = some (.string POM_RX_SCHEMA_VERSION)
  receiptId : v.get (js "receipt_id") = some (.string r.receiptId.val)
  runId : v.get (js "run_id") = some (.string r.runId.val)
  phase : v.get (js "phase") = some (.string r.phase.text)
  outcome : v.get (js "outcome") = some (.string r.outcome.text)
  agentRef : ∃ s, v.get (js "agent_ref") = some (.string s) ∧ isReference s = true ∧
    r.agentRef = N.normalizeNfc s
  subjectRef : ∃ s, v.get (js "subject_ref") = some (.string s) ∧ isReference s = true ∧
    r.subjectRef = N.normalizeNfc s
  methodHash : v.get (js "method_hash") = some (.string r.methodHash.val)
  policyHash : v.get (js "policy_hash") = some (.string r.policyHash.val)
  inputCommitment : v.get (js "input_commitment") = some (.string r.inputCommitment.val)
  actionCommitment : v.get (js "action_commitment") = some (.string r.actionCommitment.val)
  assertions : validateAssertions R (v.get (js "assertions")) = .ok r.assertions
  previous : v.get (js "previous_receipt_hash") = some (nullableHash r.previousReceiptHash)
  sourceKeyId : v.get (js "source_key_id") = some (.string r.sourceKeyId.val)
  occurredAt : ∃ s, v.get (js "occurred_at") = some (.string s) ∧ hasOffset s = true ∧
    R.date.parse s = some r.occurredAt.ms

variable {N R}

theorem validatePrevious_eq_ok {phase : Phase} {outcome : Outcome} {assertions : List Assertion}
    {value : Option JsValue} {p : { p : Option HashText // PhaseRules phase outcome assertions p }} :
    validatePrevious phase outcome assertions value = .ok p ↔ value = some (nullableHash p.val) := by
  obtain ⟨previous, rules⟩ := p
  unfold validatePrevious
  by_cases hphase : phase = .preflight
  · obtain rfl : previous = none := rules.previous_eq_none.mpr hphase
    rw [dif_pos hphase]
    split
    · by_cases hout : outcome = .allow
      · rw [dif_pos hout, ensure, dif_pos (rules.allow hphase hout)]
        exact iff_of_true rfl rfl
      · rw [dif_neg hout, ensure, dif_pos (rules.deny hphase hout)]
        exact iff_of_true rfl rfl
    · rename_i hne
      constructor
      · intro h
        cases h
      · intro h
        exact absurd h hne
  · obtain ⟨hash, rfl⟩ : ∃ hash, previous = some hash := by
      cases previous with
      | none => exact absurd (rules.previous_eq_none.mp rfl) hphase
      | some hash => exact ⟨hash, rfl⟩
    rw [dif_neg hphase]
    simp only [bind_eq_ok, assertHash_eq_ok, Except.ok.injEq, Subtype.mk.injEq, Option.some.injEq]
    constructor
    · rintro ⟨a, ha, rfl⟩
      exact ha
    · intro h
      exact ⟨hash, h, rfl⟩

theorem assertReference_eq_ok {value : Option JsValue} {field : JsString}
    {i : Matching isReference} :
    assertReference value field = .ok i ↔ value = some (.string i.val) :=
  assertIdentifier_eq_ok

/-- What `validatePomRxReceipt` accepts, and what it returns. -/
theorem validatePomRxReceipt_eq_ok_iff {v : JsValue} {r : Receipt} :
    validatePomRxReceipt N R v = .ok r ↔ ReadAs N R v r := by
  constructor
  · intro h
    simp only [validatePomRxReceipt, bind_eq_ok] at h
    obtain ⟨_, hkeys, _, hschema, receiptId, hreceiptId, runId, hrunId, phase, hphase, outcome,
      houtcome, agentRef, hagentRef, subjectRef, hsubjectRef, methodHash, hmethodHash, policyHash,
      hpolicyHash, inputCommitment, hinput, actionCommitment, haction, assertions, hassertions,
      previous, hprevious, sourceKeyId, hsource, occurredAt, hoccurredAt, h⟩ := h
    cases h
    exact {
      keys := assertExactKeys_eq_ok.mp hkeys
      schemaVersion := isText_eq_true.mp (assert_eq_ok.mp hschema)
      receiptId := assertIdentifier_eq_ok.mp hreceiptId
      runId := assertIdentifier_eq_ok.mp hrunId
      phase := (assertOneOf_eq_ok Phase.text_injective).mp hphase
      outcome := (assertOneOf_eq_ok (Outcome.text_injective _)).mp houtcome
      agentRef := ⟨agentRef.val, assertReference_eq_ok.mp hagentRef, agentRef.property, rfl⟩
      subjectRef := ⟨subjectRef.val, assertReference_eq_ok.mp hsubjectRef, subjectRef.property, rfl⟩
      methodHash := assertHash_eq_ok.mp hmethodHash
      policyHash := assertHash_eq_ok.mp hpolicyHash
      inputCommitment := assertHash_eq_ok.mp hinput
      actionCommitment := assertHash_eq_ok.mp haction
      assertions := hassertions
      previous := validatePrevious_eq_ok.mp hprevious
      sourceKeyId := assertIdentifier_eq_ok.mp hsource
      occurredAt := normalizeDateTime_eq_ok.mp hoccurredAt }
  · intro h
    obtain ⟨agent, hagent, hagentRef, hagentNfc⟩ := h.agentRef
    obtain ⟨subject, hsubject, hsubjectRef, hsubjectNfc⟩ := h.subjectRef
    have hphase : r.phase ∈ PHASES := by cases r.phase <;> decide
    simp only [validatePomRxReceipt, bind_eq_ok]
    refine ⟨(), assertExactKeys_eq_ok.mpr h.keys,
      (), assert_eq_ok.mpr (isText_eq_true.mpr h.schemaVersion),
      r.receiptId, assertIdentifier_eq_ok.mpr h.receiptId,
      r.runId, assertIdentifier_eq_ok.mpr h.runId,
      ⟨r.phase, hphase⟩, (assertOneOf_eq_ok Phase.text_injective).mpr h.phase,
      ⟨r.outcome, r.outcome_mem⟩, (assertOneOf_eq_ok (Outcome.text_injective _)).mpr h.outcome,
      ⟨agent, hagentRef⟩, assertReference_eq_ok.mpr hagent,
      ⟨subject, hsubjectRef⟩, assertReference_eq_ok.mpr hsubject,
      r.methodHash, assertHash_eq_ok.mpr h.methodHash,
      r.policyHash, assertHash_eq_ok.mpr h.policyHash,
      r.inputCommitment, assertHash_eq_ok.mpr h.inputCommitment,
      r.actionCommitment, assertHash_eq_ok.mpr h.actionCommitment,
      r.assertions, h.assertions,
      ⟨r.previousReceiptHash, r.rules⟩, validatePrevious_eq_ok.mpr h.previous,
      r.sourceKeyId, assertIdentifier_eq_ok.mpr h.sourceKeyId,
      r.occurredAt, normalizeDateTime_eq_ok.mpr h.occurredAt, ?_⟩
    dsimp only
    rw [← hagentNfc, ← hsubjectNfc]

/-- A validated receipt is valid again, and unchanged, exactly when its normalized
    references have the format of a reference. -/
theorem validatePomRxReceipt_toJs [Std.TransCmp R.localeCompare] (hdate : R.date.ReadsIso)
    {v : JsValue} {r : Receipt} (h : validatePomRxReceipt N R v = .ok r) :
    validatePomRxReceipt N R r.toJs = .ok r ↔
      isReference r.agentRef = true ∧ isReference r.subjectRef = true := by
  have hread := validatePomRxReceipt_eq_ok_iff.mp h
  obtain ⟨agent, -, -, hagent⟩ := hread.agentRef
  obtain ⟨subject, -, -, hsubject⟩ := hread.subjectRef
  obtain ⟨xs, assertions, -, -, -, -, hsorted⟩ := validateAssertions_eq_ok.mp hread.assertions
  rw [validatePomRxReceipt_eq_ok_iff]
  constructor
  · intro h'
    obtain ⟨s, hs, hs', -⟩ := h'.agentRef
    obtain ⟨t, ht, ht', -⟩ := h'.subjectRef
    cases hs
    cases ht
    exact ⟨hs', ht'⟩
  · rintro ⟨hagentRef, hsubjectRef⟩
    exact {
      keys := exactKeys_object rfl
      schemaVersion := rfl
      receiptId := rfl
      runId := rfl
      phase := rfl
      outcome := rfl
      agentRef := ⟨r.agentRef, rfl, hagentRef, by rw [hagent, N.normalizeNfc_idem]⟩
      subjectRef := ⟨r.subjectRef, rfl, hsubjectRef, by rw [hsubject, N.normalizeNfc_idem]⟩
      methodHash := rfl
      policyHash := rfl
      inputCommitment := rfl
      actionCommitment := rfl
      assertions := by
        refine validateAssertions_toJs ?_
        rw [hsorted, sortAssertions_idem]
      previous := rfl
      sourceKeyId := rfl
      occurredAt := ⟨r.occurredAt.text, rfl, hasOffset_toISOString _, hdate _ r.occurredAt.bounded⟩ }

/-! ## Commitments -/

/-- What a receipt can be rejected with. -/
inductive ReceiptError where
  | type (e : TypeError)
  | payload (e : PayloadError)
  deriving DecidableEq

/-- `error.message`. -/
def ReceiptError.message : ReceiptError → JsString
  | .type e => e.message
  | .payload e => e.message

/-- The result of `commitPomRxReceipt`. -/
structure Committed where
  receipt : Receipt
  canonicalReceipt : JsString
  receiptHash : HashText

variable (N R)

/-- `commitPomRxReceipt(receipt)`. -/
def commitPomRxReceipt (receipt : JsValue) : Except ReceiptError Committed := do
  let normalized ← (validatePomRxReceipt N R receipt).mapError .type
  let canonicalReceipt ← (canonicalizePayload N normalized.toJs).mapError .payload
  .ok ⟨normalized, canonicalReceipt,
    sha256Hex R.hash (js "swisstokint:pom-rx:v1:" ++ canonicalReceipt)⟩

variable {N R}

theorem commitPomRxReceipt_eq_ok {v : JsValue} {c : Committed} :
    commitPomRxReceipt N R v = .ok c ↔
      validatePomRxReceipt N R v = .ok c.receipt ∧
        canonicalizePayload N c.receipt.toJs = .ok c.canonicalReceipt ∧
        c.receiptHash = sha256Hex R.hash (js "swisstokint:pom-rx:v1:" ++ c.canonicalReceipt) := by
  simp only [commitPomRxReceipt, bind_eq_ok, mapError_eq_ok, Except.ok.injEq]
  constructor
  · rintro ⟨r, hr, t, ht, rfl⟩
    exact ⟨hr, ht, rfl⟩
  · rintro ⟨hr, ht, hhash⟩
    refine ⟨_, hr, _, ht, ?_⟩
    rw [← hhash]

/-- A committed receipt has the same commitment again exactly when its normalized
    references have the format of a reference. -/
theorem commitPomRxReceipt_toJs [Std.TransCmp R.localeCompare] (hdate : R.date.ReadsIso)
    {v : JsValue} {c : Committed} (h : commitPomRxReceipt N R v = .ok c) :
    commitPomRxReceipt N R c.receipt.toJs = .ok c ↔
      isReference c.receipt.agentRef = true ∧ isReference c.receipt.subjectRef = true := by
  obtain ⟨hvalid, hcanonical, hhash⟩ := commitPomRxReceipt_eq_ok.mp h
  rw [commitPomRxReceipt_eq_ok, validatePomRxReceipt_toJs hdate hvalid]
  exact and_iff_left ⟨hcanonical, hhash⟩

end Runtime

end OpenRisk.PomRx
