import OpenRisk.PomRx.Envelope
import OpenRisk.Sdk.Commitment
import OpenRisk.Sdk.PlainText

/-!
# What the hash of a receipt identifies

`commitPomRxReceipt` hashes the normalized receipt: assertions in the order of their rule
identifiers, references in NFC, `occurred_at` as `toISOString` writes it.

Results:
* `readAs_eq_iff`: two values are normalized to one receipt exactly when they are the
  same up to these three normalizations.
* `receipt_eq_of_payloadEq`: the canonical payload determines the normalized receipt.
* `commitPomRxReceipt_hash_iff`: so the hashes are equal exactly then, up to an explicit
  collision.
-/

namespace OpenRisk.PomRx

open Text Sdk Sorting

/-! ## The same receipt -/

/-- Two assertions with the same properties. -/
def SameAssertion (a b : JsValue) : Prop := ∀ key ∈ ASSERTION_KEYS, a.get key = b.get key

/-- The properties of a receipt that are committed as they are. -/
def PLAIN_KEYS : List JsString :=
  ["schema_version", "receipt_id", "run_id", "phase", "outcome", "method_hash", "policy_hash",
    "input_commitment", "action_commitment", "previous_receipt_hash", "source_key_id"].map js

/-- Two receipts that agree up to the order of their properties and of their assertions, the
    NFC form of their references and the text of one instant. -/
structure SameReceipt (N : Normalization) (P : DateParser) (v w : JsValue) : Prop where
  plain : ∀ key ∈ PLAIN_KEYS, v.get key = w.get key
  references : ∀ key ∈ [js "agent_ref", js "subject_ref"], ∃ s t, v.get key = some (.string s) ∧
    w.get key = some (.string t) ∧ N.normalizeNfc s = N.normalizeNfc t
  assertions : ∃ xs ys zs, v.get (js "assertions") = some (.array xs) ∧
    w.get (js "assertions") = some (.array ys) ∧ xs.Perm zs ∧ List.Forall₂ SameAssertion zs ys
  occurredAt : ∃ s t, v.get (js "occurred_at") = some (.string s) ∧
    w.get (js "occurred_at") = some (.string t) ∧ P.parse s = P.parse t

/-! ## Assertions -/

theorem Assertion.exactKeys (a : Assertion) : ExactKeys a.toJs ASSERTION_KEYS := exactKeys_object rfl

/-- What `validateAssertion` accepts, and what it returns. -/
theorem validateAssertion_eq_ok_iff {x : JsValue} {a : Assertion} :
    validateAssertion x = .ok a ↔
      ExactKeys x ASSERTION_KEYS ∧ ∀ key ∈ ASSERTION_KEYS, x.get key = a.toJs.get key := by
  constructor
  · intro h
    simp only [validateAssertion, bind_eq_ok] at h
    obtain ⟨_, hkeys, ruleId, hruleId, ruleHash, hruleHash, result, hresult, mode, hmode, evidence,
      hevidence, h⟩ := h
    cases h
    refine ⟨assertExactKeys_eq_ok.mp hkeys, ?_⟩
    simp only [ASSERTION_KEYS, List.map_cons, List.map_nil, List.forall_mem_cons, List.not_mem_nil,
      false_imp_iff, implies_true, and_true]
    exact ⟨assertIdentifier_eq_ok.mp hruleId, assertHash_eq_ok.mp hruleHash,
      (assertOneOf_eq_ok AssertionResult.text_injective).mp hresult,
      (assertOneOf_eq_ok ProofMode.text_injective).mp hmode, assertHash_eq_ok.mp hevidence⟩
  · rintro ⟨hkeys, hget⟩
    have hread : assertExactKeys x ASSERTION_KEYS (js "Risk assertion") =
        assertExactKeys a.toJs ASSERTION_KEYS (js "Risk assertion") :=
      ((assertExactKeys_eq_ok (u := ())).mpr hkeys).trans (assertExactKeys_eq_ok.mpr a.exactKeys).symm
    simp only [ASSERTION_KEYS, List.map_cons, List.map_nil, List.forall_mem_cons, List.not_mem_nil,
      false_imp_iff, implies_true, and_true] at hget
    obtain ⟨hrule, hruleHash, hresult, hmode, hevidence⟩ := hget
    have ha := validateAssertion_toJs a
    rw [validateAssertion, ← hread, ← hrule, ← hruleHash, ← hresult, ← hmode, ← hevidence] at ha
    exact ha

/-- The properties of an assertion determine it. -/
theorem assertion_eq_of_get {a b : Assertion}
    (h : ∀ key ∈ ASSERTION_KEYS, a.toJs.get key = b.toJs.get key) : a = b :=
  Except.ok.inj ((validateAssertion_toJs a).symm.trans
    (validateAssertion_eq_ok_iff.mpr ⟨a.exactKeys, h⟩))

/-- Lists that are read as one list are related element by element. -/
theorem forall₂_of_common {α β : Type} {V : α → β → Prop} {S : α → α → Prop}
    (h : ∀ x y z, V x z → V y z → S x y) {xs ys : List α} {zs : List β} (hxs : List.Forall₂ V xs zs)
    (hys : List.Forall₂ V ys zs) : List.Forall₂ S xs ys := by
  induction hxs generalizing ys with
  | nil =>
    cases hys
    exact .nil
  | cons hx _ ih =>
    cases hys with
    | cons hy hys => exact .cons (h _ _ _ hx hy) (ih hys)

theorem eq_of_forall₂_sameAssertion {xs ys : List JsValue} {as bs : List Assertion}
    (h : List.Forall₂ SameAssertion xs ys)
    (hxs : List.Forall₂ (fun x a => validateAssertion x = .ok a) xs as)
    (hys : List.Forall₂ (fun x a => validateAssertion x = .ok a) ys bs) : as = bs := by
  induction h generalizing as bs with
  | nil =>
    cases hxs
    cases hys
    rfl
  | cons hsame _ ih =>
    cases hxs with
    | cons hx hxs =>
      cases hys with
      | cons hy hys =>
        have hhead := assertion_eq_of_get fun key hkey =>
          ((validateAssertion_eq_ok_iff.mp hx).2 key hkey).symm.trans
            ((hsame key hkey).trans ((validateAssertion_eq_ok_iff.mp hy).2 key hkey))
        rw [hhead, ih hxs hys]

section Sorted

variable {R : Runtime} [Std.TransCmp fun a b : RuleId => R.localeCompare a.val b.val]
  [Std.LawfulEqCmp fun a b : RuleId => R.localeCompare a.val b.val]

/-- Assertions without a repeated rule have one order. -/
theorem sortAssertions_eq_of_perm {as bs : List Assertion} (h : as.Perm bs)
    (hnodup : (as.map Assertion.ruleId).Nodup) : sortAssertions R as = sortAssertions R bs := by
  have : Std.TransCmp fun a b : { _a : Assertion // True } => compareRules R a.val b.val :=
    transCmp_on (fun a b : RuleId => R.localeCompare a.val b.val) fun a : { _a : Assertion // True } =>
      a.val.ruleId
  have heq : ∀ i j : RuleId, R.localeCompare i.val j.val = .eq → i = j := fun _ _ hij =>
    (‹Std.LawfulEqCmp fun a b : RuleId => R.localeCompare a.val b.val›).eq_of_compare hij
  exact insertionSort_eq_of_perm (P := fun _ => True) (fun _ _ => trivial)
    (fun a ha b hb hab => List.inj_on_of_nodup_map hnodup ha hb (heq _ _ hab)) h

/-- Two lists of assertions are read as one list exactly when they agree up to their order. -/
theorem validateAssertions_eq_iff {v w : Option JsValue} {l m : AssertionList}
    (hl : validateAssertions R v = .ok l) (hm : validateAssertions R w = .ok m) :
    l = m ↔ ∃ xs ys zs, v = some (.array xs) ∧ w = some (.array ys) ∧ xs.Perm zs ∧
      List.Forall₂ SameAssertion zs ys := by
  obtain ⟨xs, as, rfl, -, hxs, hnodup, hlas⟩ := validateAssertions_eq_ok.mp hl
  obtain ⟨ys, bs, rfl, -, hys, -, hmbs⟩ := validateAssertions_eq_ok.mp hm
  rw [mapM_eq_ok_iff] at hxs hys
  constructor
  · rintro rfl
    have hperm : as.Perm bs := (sortAssertions_perm R as).symm.trans
      ((hlas.symm.trans hmbs) ▸ sortAssertions_perm R bs)
    obtain ⟨zs, hperm', hzs⟩ : Relation.Comp List.Perm (List.Forall₂ _) xs bs := by
      rw [← List.forall₂_comp_perm_eq_perm_comp_forall₂]
      exact ⟨as, hxs, hperm⟩
    refine ⟨xs, ys, zs, rfl, rfl, hperm', forall₂_of_common (fun x y a hx hy key hkey => ?_) hzs hys⟩
    rw [(validateAssertion_eq_ok_iff.mp hx).2 key hkey, (validateAssertion_eq_ok_iff.mp hy).2 key hkey]
  · rintro ⟨_, _, zs, hv, hw, hperm, hsame⟩
    cases hv
    cases hw
    obtain ⟨cs, hcs, hperm'⟩ := List.perm_comp_forall₂ hperm.symm hxs
    obtain rfl := eq_of_forall₂_sameAssertion hsame hcs hys
    refine Subtype.ext ?_
    rw [hlas, hmbs, sortAssertions_eq_of_perm hperm'.symm hnodup]

end Sorted

/-! ## Receipts -/

attribute [ext] Assertion Receipt IsoDate

theorem AssertionResult.mem_ASSERTION_RESULTS (r : AssertionResult) : r ∈ ASSERTION_RESULTS := by
  cases r <;> decide

theorem ProofMode.mem_PROOF_MODES (m : ProofMode) : m ∈ PROOF_MODES := by
  cases m <;> decide

theorem Phase.mem_PHASES (p : Phase) : p ∈ PHASES := by
  cases p <;> decide

theorem string_eq_of_get {x y : Option JsValue} {s t : JsString} (h : x = y)
    (hx : x = some (.string s)) (hy : y = some (.string t)) : s = t :=
  JsValue.string.inj (Option.some.inj (hx.symm.trans (h.trans hy)))

section Receipts

variable {N : Normalization} {R : Runtime}

theorem ReadAs.get_plain {v w : JsValue} {r : Receipt} (hv : ReadAs N R v r) (hw : ReadAs N R w r) :
    ∀ key ∈ PLAIN_KEYS, v.get key = w.get key := by
  simp only [PLAIN_KEYS, List.map_cons, List.map_nil, List.forall_mem_cons, List.not_mem_nil,
    false_imp_iff, implies_true, and_true]
  exact ⟨hv.schemaVersion.trans hw.schemaVersion.symm, hv.receiptId.trans hw.receiptId.symm,
    hv.runId.trans hw.runId.symm, hv.phase.trans hw.phase.symm, hv.outcome.trans hw.outcome.symm,
    hv.methodHash.trans hw.methodHash.symm, hv.policyHash.trans hw.policyHash.symm,
    hv.inputCommitment.trans hw.inputCommitment.symm,
    hv.actionCommitment.trans hw.actionCommitment.symm, hv.previous.trans hw.previous.symm,
    hv.sourceKeyId.trans hw.sourceKeyId.symm⟩

theorem nullableHash_injective : Function.Injective nullableHash := by
  intro a b h
  cases a with
  | none =>
    cases b with
    | none => rfl
    | some hash => cases h
  | some hash =>
    cases b with
    | none => cases h
    | some hash' => exact congrArg some (Subtype.ext (JsValue.string.inj h))

/-- Two values are normalized to one receipt exactly when they are the same receipt. -/
theorem readAs_eq_iff [Std.TransCmp fun a b : RuleId => R.localeCompare a.val b.val]
    [Std.LawfulEqCmp fun a b : RuleId => R.localeCompare a.val b.val] {v w : JsValue}
    {r r' : Receipt} (hv : ReadAs N R v r) (hw : ReadAs N R w r') :
    r = r' ↔ SameReceipt N R.date v w := by
  obtain ⟨agent, hagent, -, hagentNfc⟩ := hv.agentRef
  obtain ⟨agent', hagent', -, hagentNfc'⟩ := hw.agentRef
  obtain ⟨subject, hsubject, -, hsubjectNfc⟩ := hv.subjectRef
  obtain ⟨subject', hsubject', -, hsubjectNfc'⟩ := hw.subjectRef
  obtain ⟨time, htime, -, hparse⟩ := hv.occurredAt
  obtain ⟨time', htime', -, hparse'⟩ := hw.occurredAt
  constructor
  · rintro rfl
    refine ⟨hv.get_plain hw, ?_, (validateAssertions_eq_iff hv.assertions hw.assertions).mp rfl,
      time, time', htime, htime', hparse.trans hparse'.symm⟩
    simp only [List.forall_mem_cons, List.not_mem_nil, false_imp_iff, implies_true, and_true]
    exact ⟨⟨agent, agent', hagent, hagent', hagentNfc.symm.trans hagentNfc'⟩,
      subject, subject', hsubject, hsubject', hsubjectNfc.symm.trans hsubjectNfc'⟩
  · intro h
    have hplain := h.plain
    have hrefs := h.references
    simp only [PLAIN_KEYS, List.map_cons, List.map_nil, List.forall_mem_cons, List.not_mem_nil,
      false_imp_iff, implies_true, and_true] at hplain hrefs
    obtain ⟨-, hreceiptId, hrunId, hphase, houtcome, hmethod, hpolicy, hinput, haction, hprevious,
      hsource⟩ := hplain
    obtain ⟨⟨_, _, ha, ha', hagentEq⟩, _, _, hs, hs', hsubjectEq⟩ := hrefs
    obtain ⟨_, _, ht, ht', hparseEq⟩ := h.occurredAt
    cases hagent.symm.trans ha
    cases hagent'.symm.trans ha'
    cases hsubject.symm.trans hs
    cases hsubject'.symm.trans hs'
    cases htime.symm.trans ht
    cases htime'.symm.trans ht'
    have hphaseEq : r.phase = r'.phase :=
      Phase.text_injective _ r.phase.mem_PHASES _ r'.phase.mem_PHASES
        (string_eq_of_get hphase hv.phase hw.phase)
    have hinstant : r.occurredAt.ms = r'.occurredAt.ms :=
      Option.some.inj (hparse.symm.trans (hparseEq.trans hparse'))
    apply Receipt.ext
    · exact Subtype.ext (string_eq_of_get hreceiptId hv.receiptId hw.receiptId)
    · exact Subtype.ext (string_eq_of_get hrunId hv.runId hw.runId)
    · exact hphaseEq
    · exact Outcome.text_injective r.phase _ r.outcome_mem _ (hphaseEq ▸ r'.outcome_mem)
        (string_eq_of_get houtcome hv.outcome hw.outcome)
    · rw [hagentNfc, hagentNfc', hagentEq]
    · rw [hsubjectNfc, hsubjectNfc', hsubjectEq]
    · exact Subtype.ext (string_eq_of_get hmethod hv.methodHash hw.methodHash)
    · exact Subtype.ext (string_eq_of_get hpolicy hv.policyHash hw.policyHash)
    · exact Subtype.ext (string_eq_of_get hinput hv.inputCommitment hw.inputCommitment)
    · exact Subtype.ext (string_eq_of_get haction hv.actionCommitment hw.actionCommitment)
    · exact (validateAssertions_eq_iff hv.assertions hw.assertions).mpr h.assertions
    · exact nullableHash_injective (Option.some.inj (hv.previous.symm.trans (hprevious.trans hw.previous)))
    · exact IsoDate.ext hinstant
    · exact Subtype.ext (string_eq_of_get hsource hv.sourceKeyId hw.sourceKeyId)

end Receipts

/-! ## Canonical payloads -/

theorem plainWithin_of_all {n : ℕ} {s : JsString}
    (h : (s.all isPlainUnit && decide (s.length ≤ n)) = true) : PlainWithin n s := by
  rw [Bool.and_eq_true, List.all_eq_true, decide_eq_true_eq] at h
  exact h

theorem plainWithin_headAndRest {first rest : UInt16 → Bool} {lo hi : ℕ} {s : JsString}
    (hfirst : ∀ u, first u = true → isPlainUnit u = true)
    (hrest : ∀ u, rest u = true → isPlainUnit u = true) (h : headAndRest first rest lo hi s = true) :
    PlainWithin (hi + 1) s := by
  cases s with
  | nil => cases h
  | cons u us =>
    simp only [headAndRest, Bool.and_eq_true, List.all_eq_true, decide_eq_true_eq] at h
    obtain ⟨⟨⟨hu, hus⟩, -⟩, hlen⟩ := h
    exact PlainWithin.cons (hfirst u hu) ⟨fun v hv => hrest v (hus v hv), hlen⟩

theorem isKeyUnit_of_isRuleUnit {u : UInt16} (h : isRuleUnit u = true) : isKeyUnit u = true := by
  simp only [isRuleUnit, Bool.or_eq_true] at h
  simp only [isKeyUnit, isAlphaNumeric, Bool.or_eq_true]
  tauto

theorem plainWithin_ruleId (i : RuleId) : PlainWithin 64 i.val := by
  refine plainWithin_headAndRest (fun u hu => isPlainUnit_of_isKeyUnit ?_)
    (fun u hu => isPlainUnit_of_isKeyUnit (isKeyUnit_of_isRuleUnit hu)) i.property
  rw [isKeyUnit, isAlphaNumeric, Bool.or_right_comm (isLowerAlpha u), hu]
  rfl

theorem plainWithin_sourceKeyId (i : Matching SOURCE_KEY_ID_PATTERN) : PlainWithin 64 i.val := by
  refine plainWithin_headAndRest (fun u hu => isPlainUnit_of_isKeyUnit ?_)
    (fun u hu => isPlainUnit_of_isKeyUnit hu) i.property
  rw [isKeyUnit, hu]
  rfl

theorem plainWithin_phase (p : Phase) : PlainWithin 14 p.text := by
  cases p <;> exact plainWithin_of_all rfl

theorem plainWithin_outcome (o : Outcome) : PlainWithin 10 o.text := by
  cases o <;> exact plainWithin_of_all rfl

theorem plainWithin_result (r : AssertionResult) : PlainWithin 13 r.text := by
  cases r <;> exact plainWithin_of_all rfl

theorem plainWithin_proofMode (m : ProofMode) : PlainWithin 10 m.text := by
  cases m <;> exact plainWithin_of_all rfl

theorem IsoDate.text_injective {d d' : IsoDate} (h : d.text = d'.text) : d = d' := by
  apply IsoDate.ext
  rw [← Date.isoTime_toISOString d.bounded, ← Date.isoTime_toISOString d'.bounded]
  exact congrArg Date.isoTime h

theorem plainWithin_isoDate (d : IsoDate) : PlainWithin 27 d.text :=
  plainWithin_toISOString d.bounded

section Payload

variable {N : Normalization}

theorem nodup_ASSERTION_KEYS : ASSERTION_KEYS.Nodup := by decide

theorem nodup_RECEIPT_KEYS : RECEIPT_KEYS.Nodup := by decide

/-- Assertions with one canonical form are equal. -/
theorem assertion_eq_of_payloadEq {a b : Assertion} (h : PayloadEq N a.toJs b.toJs) : a = b := by
  rw [Assertion.toJs, Assertion.toJs] at h
  have hfields := (fun hnames hnodup => forall₂_of_payloadEq hnames hnodup h) rfl nodup_ASSERTION_KEYS
  simp only [List.forall₂_cons, List.forall₂_nil_left_iff, and_true] at hfields
  obtain ⟨hrule, hruleHash, hresult, hmode, hevidence⟩ := hfields
  apply Assertion.ext
  · exact Subtype.ext (hrule.string_eq (plainWithin_ruleId _) (plainWithin_ruleId _))
  · exact Subtype.ext (hruleHash.string_eq (plainWithin_hash _) (plainWithin_hash _))
  · exact AssertionResult.text_injective _ a.result.mem_ASSERTION_RESULTS _
      b.result.mem_ASSERTION_RESULTS
      (hresult.string_eq (plainWithin_result _) (plainWithin_result _))
  · exact ProofMode.text_injective _ a.proofMode.mem_PROOF_MODES _ b.proofMode.mem_PROOF_MODES
      (hmode.string_eq (plainWithin_proofMode _) (plainWithin_proofMode _))
  · exact Subtype.ext (hevidence.string_eq (plainWithin_hash _) (plainWithin_hash _))

theorem assertions_eq_of_payloadEq {l m : AssertionList} (h : PayloadEq N l.toJs m.toJs) : l = m := by
  rw [AssertionList.toJs, AssertionList.toJs, PayloadEq, elementsEq_iff, List.forall₂_map_left_iff,
    List.forall₂_map_right_iff] at h
  have heq := h.imp fun _ _ hab => assertion_eq_of_payloadEq hab
  rw [List.forall₂_eq_eq_eq] at heq
  exact Subtype.ext heq

theorem nullableHash_eq_of_payloadEq {x y : Option HashText}
    (h : PayloadEq N (nullableHash x) (nullableHash y)) : x = y := by
  cases x with
  | none =>
    cases y with
    | none => rfl
    | some hash => cases h
  | some hash =>
    cases y with
    | none => cases h
    | some hash' =>
      exact congrArg some (Subtype.ext (PayloadEq.string_eq (plainWithin_hash _) (plainWithin_hash _) h))

/-- Receipts in normal form with one canonical payload are equal. -/
theorem receipt_eq_of_payloadEq {r r' : Receipt} (h : PayloadEq N r.toJs r'.toJs)
    (hagent : N.normalizeNfc r.agentRef = r.agentRef)
    (hagent' : N.normalizeNfc r'.agentRef = r'.agentRef)
    (hsubject : N.normalizeNfc r.subjectRef = r.subjectRef)
    (hsubject' : N.normalizeNfc r'.subjectRef = r'.subjectRef) : r = r' := by
  rw [Receipt.toJs, Receipt.toJs] at h
  have hfields := (fun hnames hnodup => forall₂_of_payloadEq hnames hnodup h) rfl nodup_RECEIPT_KEYS
  simp only [List.forall₂_cons, List.forall₂_nil_left_iff, and_true] at hfields
  obtain ⟨-, hreceiptId, hrunId, hphase, houtcome, hagentEq, hsubjectEq, hmethod, hpolicy, hinput,
    haction, hassertions, hprevious, htime, hsource⟩ := hfields
  have hphaseEq : r.phase = r'.phase :=
    Phase.text_injective _ r.phase.mem_PHASES _ r'.phase.mem_PHASES
      (hphase.string_eq (plainWithin_phase _) (plainWithin_phase _))
  apply Receipt.ext
  · exact Subtype.ext (hreceiptId.string_eq (plainWithin_identifier _) (plainWithin_identifier _))
  · exact Subtype.ext (hrunId.string_eq (plainWithin_identifier _) (plainWithin_identifier _))
  · exact hphaseEq
  · exact Outcome.text_injective r.phase _ r.outcome_mem _ (hphaseEq ▸ r'.outcome_mem)
      (houtcome.string_eq (plainWithin_outcome _) (plainWithin_outcome _))
  · rw [PayloadEq, hagent, hagent'] at hagentEq
    exact hagentEq
  · rw [PayloadEq, hsubject, hsubject'] at hsubjectEq
    exact hsubjectEq
  · exact Subtype.ext (hmethod.string_eq (plainWithin_hash _) (plainWithin_hash _))
  · exact Subtype.ext (hpolicy.string_eq (plainWithin_hash _) (plainWithin_hash _))
  · exact Subtype.ext (hinput.string_eq (plainWithin_hash _) (plainWithin_hash _))
  · exact Subtype.ext (haction.string_eq (plainWithin_hash _) (plainWithin_hash _))
  · exact assertions_eq_of_payloadEq hassertions
  · exact nullableHash_eq_of_payloadEq hprevious
  · exact IsoDate.text_injective (htime.string_eq (plainWithin_isoDate _) (plainWithin_isoDate _))
  · exact Subtype.ext (hsource.string_eq (plainWithin_sourceKeyId _) (plainWithin_sourceKeyId _))

theorem Assertion.uniqueKeys (a : Assertion) : a.toJs.UniqueKeys :=
  ⟨nodup_ASSERTION_KEYS, by simp [JsValue.UniqueEntries, JsValue.UniqueKeys]⟩

theorem Receipt.uniqueKeys (r : Receipt) : r.toJs.UniqueKeys := by
  have hassertions : r.assertions.toJs.UniqueKeys := by
    rw [AssertionList.toJs, JsValue.UniqueKeys, JsValue.uniqueElements_iff, List.forall_mem_map]
    exact fun a _ => a.uniqueKeys
  have hprevious : (nullableHash r.previousReceiptHash).UniqueKeys := by
    cases r.previousReceiptHash <;> simp [nullableHash, JsValue.UniqueKeys]
  refine ⟨nodup_RECEIPT_KEYS, ?_⟩
  simp only [JsValue.UniqueEntries, JsValue.UniqueKeys, hassertions, hprevious, and_self]

theorem ReadAs.nfc_agentRef {R : Runtime} {v : JsValue} {r : Receipt} (h : ReadAs N R v r) :
    N.normalizeNfc r.agentRef = r.agentRef := by
  obtain ⟨s, -, -, hs⟩ := h.agentRef
  rw [hs, N.normalizeNfc_idem]

theorem ReadAs.nfc_subjectRef {R : Runtime} {v : JsValue} {r : Receipt} (h : ReadAs N R v r) :
    N.normalizeNfc r.subjectRef = r.subjectRef := by
  obtain ⟨s, -, -, hs⟩ := h.subjectRef
  rw [hs, N.normalizeNfc_idem]

end Payload

/-- The bytes that are hashed for a normalized receipt. -/
def receiptBytes (N : Normalization) (r : Receipt) : List UInt8 :=
  utf8Encode (js "swisstokint:pom-rx:v1:" ++ canonicalizeValue N r.toJs)

/-- Two accepted receipts have one hash exactly when they are the same receipt, up to a
    collision of what is hashed for them. -/
theorem commitPomRxReceipt_hash_iff (N : Normalization) (R : Runtime)
    [Std.TransCmp fun a b : RuleId => R.localeCompare a.val b.val]
    [Std.LawfulEqCmp fun a b : RuleId => R.localeCompare a.val b.val] (v w : JsValue)
    (c d : Committed) (hv : commitPomRxReceipt N R v = .ok c) (hw : commitPomRxReceipt N R w = .ok d) :
    (SameReceipt N R.date v w → c.receiptHash = d.receiptHash) ∧
      (c.receiptHash = d.receiptHash → SameReceipt N R.date v w ∨
        R.hash.Collides (receiptBytes N c.receipt) (receiptBytes N d.receipt)) := by
  obtain ⟨hvalid, hcanonical, hhash⟩ := commitPomRxReceipt_eq_ok.mp hv
  obtain ⟨hvalid', hcanonical', hhash'⟩ := commitPomRxReceipt_eq_ok.mp hw
  have hread := validatePomRxReceipt_eq_ok_iff.mp hvalid
  have hread' := validatePomRxReceipt_eq_ok_iff.mp hvalid'
  constructor
  · intro h
    rw [← readAs_eq_iff hread hread'] at h
    rw [h, hcanonical'] at hcanonical
    rw [hhash, hhash', Except.ok.inj hcanonical]
  · intro h
    rw [hhash, hhash'] at h
    have hdomain : ∀ u ∈ js "swisstokint:pom-rx:v1:", u.toNat < 0x80 :=
      ascii_of_plain (List.all_eq_true.mp rfl)
    refine (payloadEq_or_collides hdomain c.receipt.uniqueKeys hcanonical hcanonical' h).imp_left
      fun hpayload => ?_
    rw [← readAs_eq_iff hread hread']
    exact receipt_eq_of_payloadEq hpayload hread.nfc_agentRef hread'.nfc_agentRef
      hread.nfc_subjectRef hread'.nfc_subjectRef

instance instTransCmpRuleId : Std.TransCmp fun a b : RuleId => sampleRuntime.localeCompare a.val b.val :=
  transCmp_on rootCompare Subtype.val

instance instLawfulEqCmpRuleId :
    Std.LawfulEqCmp fun a b : RuleId => sampleRuntime.localeCompare a.val b.val where
  eq_of_compare h := Subtype.ext ((rootCompare_eq_iff _ _).mp h)

/-- What a receipt is read as depends on its properties, not on their order. -/
theorem ReadAs.of_get {N : Normalization} {R : Runtime} {v w : JsValue} {r : Receipt}
    (h : ReadAs N R v r) (hkeys : ExactKeys w RECEIPT_KEYS)
    (hget : ∀ key ∈ RECEIPT_KEYS, v.get key = w.get key) : ReadAs N R w r := by
  obtain ⟨-, hschema, hreceiptId, hrunId, hphase, houtcome, hagent, hsubject, hmethod, hpolicy,
    hinput, haction, hassertions, hprevious, hsource, htime⟩ := h
  simp only [RECEIPT_KEYS, List.map_cons, List.map_nil, List.forall_mem_cons, List.not_mem_nil,
    false_imp_iff, implies_true, and_true] at hget
  obtain ⟨gschema, greceiptId, grunId, gphase, goutcome, gagent, gsubject, gmethod, gpolicy, ginput,
    gaction, gassertions, gprevious, gtime, gsource⟩ := hget
  rw [gagent] at hagent
  rw [gsubject] at hsubject
  rw [gassertions] at hassertions
  rw [gtime] at htime
  exact ⟨hkeys, gschema.symm.trans hschema, greceiptId.symm.trans hreceiptId,
    grunId.symm.trans hrunId, gphase.symm.trans hphase, goutcome.symm.trans houtcome, hagent,
    hsubject, gmethod.symm.trans hmethod, gpolicy.symm.trans hpolicy, ginput.symm.trans hinput,
    gaction.symm.trans haction, hassertions, gprevious.symm.trans hprevious,
    gsource.symm.trans hsource, htime⟩

/-- A receipt with its properties in the opposite order. -/
def reversed : JsValue → JsValue
  | .object es => .object es.reverse
  | v => v

theorem get_reversed {es : List (JsString × JsValue)} (hnodup : (es.map Prod.fst).Nodup)
    {key : JsString} (hkey : key ∈ es.map Prod.fst) :
    (JsValue.object es).get key = (reversed (.object es)).get key := by
  obtain ⟨⟨k, x⟩, hmem, rfl⟩ := List.mem_map.mp hkey
  have hnodup' : (es.reverse.map Prod.fst).Nodup := by
    rwa [List.map_reverse, List.nodup_reverse]
  rw [JsValue.get, reversed, JsValue.get, lookup_of_mem hnodup hmem,
    lookup_of_mem hnodup' (List.mem_reverse.mpr hmem)]

theorem commitPomRxReceipt_hash_reversed :
    ∃ c d, commitPomRxReceipt devanagari sampleRuntime
          (samplePreflight (js "agent") (js "2026-06-01T10:00:00.000Z")) = .ok c ∧
      commitPomRxReceipt devanagari sampleRuntime
          (reversed (samplePreflight (js "agent") (js "2026-06-01T10:00:00.000Z"))) = .ok d ∧
      c.receiptHash = d.receiptHash := by
  obtain ⟨envelope, h⟩ := isOk_iff.mp createPomRxSourceEnvelope_samples.1
  obtain ⟨c, _, _, hc, -⟩ := createPomRxSourceEnvelope_eq_ok h
  obtain ⟨hvalid, hcanonical, hhash⟩ := commitPomRxReceipt_eq_ok.mp hc
  have hread := validatePomRxReceipt_eq_ok_iff.mp hvalid
  have hread' : ReadAs devanagari sampleRuntime
      (reversed (samplePreflight (js "agent") (js "2026-06-01T10:00:00.000Z"))) c.receipt := by
    refine hread.of_get ⟨rfl, by decide +kernel⟩ fun key hkey => ?_
    refine get_reversed ?_ hkey
    exact nodup_RECEIPT_KEYS
  have hd := commitPomRxReceipt_eq_ok.mpr
    ⟨validatePomRxReceipt_eq_ok_iff.mpr hread', hcanonical, hhash⟩
  exact ⟨c, c, hc, hd, (commitPomRxReceipt_hash_iff devanagari sampleRuntime _ _ c c hc hd).1
    ((readAs_eq_iff hread hread').mp rfl)⟩

end OpenRisk.PomRx
