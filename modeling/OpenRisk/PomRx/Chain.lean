import OpenRisk.PomRx.Envelope

/-!
# Chains of receipts

Model of `assertPomRxChain` and `verifyPomRxChain` of `sdk/typescript/pom-rx.mjs`
(lines 151–217).

The time of a receipt is compared with that of its predecessor as text. That is the order
of the instants only where the years are written with four digits: a year above 9999
starts with `+`, which is below every digit, and years before 0 are written with the
digits of their absolute value.

Results:
* `assertCommitted_eq_ok_iff`: when the checks of a list of committed receipts pass,
  stated without the order in which they are made.
* `verifyPomRxChain_eq_ok`: what a chain that is `ok` looks like.
* `verifyPomRxChain_chronological_iff`: its instants are in order exactly when no year
  drops in the sense of `Date.YearDrop`.
-/

namespace OpenRisk.PomRx

open Text Sdk

/-! ## Model -/

/-- `sharedFields`. -/
def SHARED_FIELDS : List (JsString × (Receipt → JsString)) :=
  [(js "run_id", fun r => r.runId.val), (js "agent_ref", fun r => r.agentRef),
    (js "subject_ref", fun r => r.subjectRef), (js "method_hash", fun r => r.methodHash.val),
    (js "policy_hash", fun r => r.policyHash.val)]

/-- The loop over `sharedFields`. -/
def assertShared (first current : Receipt) :
    List (JsString × (Receipt → JsString)) → Except TypeError Unit
  | [] => .ok ()
  | (field, read) :: fields => do
    assert (read current = read first) (field ++ js " changed within the POM-RX chain")
    assertShared first current fields

/-- The loop over the receipts after the first. -/
def assertLinks (first : Receipt) : Committed → List Committed → Except TypeError Unit
  | _, [] => .ok ()
  | previous, current :: rest => do
    assert (current.receipt.phase.index = previous.receipt.phase.index + 1)
      (js "POM-RX phases must be contiguous and ordered")
    assert (current.receipt.previousReceiptHash = some previous.receiptHash)
      (js "POM-RX previous_receipt_hash does not match")
    assert (compare current.receipt.occurredAt.text previous.receipt.occurredAt.text ≠ .lt)
      (js "POM-RX receipt time cannot move backwards")
    assertShared first current.receipt SHARED_FIELDS
    assertLinks first current rest

/-- `committed.find(({ receipt }) => receipt.phase === phase)?.receipt`. -/
def receiptIn (phase : Phase) (committed : List Committed) : Option Receipt :=
  (committed.find? fun c => c.receipt.phase = phase).map Committed.receipt

/-- The part of `assertPomRxChain` after the receipts are committed. -/
def assertCommitted (allowPartial : Bool) (committed : List Committed) :
    Except TypeError (List Committed) :=
  match committed with
  | [] => .error ⟨js "Cannot read properties of undefined (reading 'receipt')"⟩
  | first :: rest => do
    assert (first.receipt.phase = .preflight) (js "A POM-RX chain must start with preflight")
    assertLinks first.receipt first rest
    if first.receipt.outcome = .deny then
      assert (committed.length = 1) (js "A denied preflight cannot be followed by execution")
      .ok committed
    else
      assert (allowPartial || 2 ≤ committed.length)
        (js "An allowed preflight requires an execution receipt")
      let execution := (receiptIn .execution committed).map Receipt.outcome
      let reconciled := (receiptIn .reconciliation committed).isSome
      assert (execution ≠ some .accepted || allowPartial || reconciled)
        (js "An accepted execution requires reconciliation")
      assert (execution ≠ some .rejected || !reconciled)
        (js "A rejected execution cannot be marked as reconciled")
      .ok committed

/-- The result of `verifyPomRxChain` for a chain that is `ok`. -/
structure ChainReport where
  status : JsString
  receiptHashes : List HashText

section Model

variable (N : Normalization) (R : Runtime)

/-- `assertPomRxChain(receipts, allowPartial)`. -/
def assertPomRxChain (receipts : JsValue) (allowPartial : Bool) :
    Except ReceiptError (List Committed) :=
  match receipts with
  | .array xs => do
    (assert (1 ≤ xs.length) (js "A POM-RX chain requires at least one receipt")).mapError .type
    (assert (xs.length ≤ PHASES.length)
      (js "A POM-RX chain cannot exceed three receipts")).mapError .type
    let committed ← xs.mapM (commitPomRxReceipt N R)
    (assertCommitted allowPartial committed).mapError .type
  | _ => .error (.type ⟨js "A POM-RX chain requires at least one receipt"⟩)

/-- `${last.phase}:${last.outcome}` of the last receipt. -/
def statusOf (committed : List Committed) : JsString :=
  match committed.getLast? with
  | some last => last.receipt.phase.text ++ 0x3A :: last.receipt.outcome.text
  | none => []

/-- `verifyPomRxChain(receipts, { allowPartial })`: `.error` is the message of
    `{ ok: false, error }`. -/
def verifyPomRxChain (receipts : JsValue) (allowPartial : Bool) : Except JsString ChainReport :=
  match assertPomRxChain N R receipts allowPartial with
  | .ok committed => .ok ⟨statusOf committed, committed.map Committed.receiptHash⟩
  | .error e => .error e.message

end Model

/-! ## What is accepted -/

/-- `current` may follow `previous` in a chain that starts with `first`. -/
structure Follows (first : Receipt) (previous current : Committed) : Prop where
  phase : current.receipt.phase.index = previous.receipt.phase.index + 1
  link : current.receipt.previousReceiptHash = some previous.receiptHash
  time : compare current.receipt.occurredAt.text previous.receipt.occurredAt.text ≠ .lt
  shared : ∀ f ∈ SHARED_FIELDS, f.2 current.receipt = f.2 first

theorem assertShared_eq_ok {first current : Receipt} {fields : List (JsString × (Receipt → JsString))}
    {u : Unit} : assertShared first current fields = .ok u ↔ ∀ f ∈ fields, f.2 current = f.2 first := by
  induction fields with
  | nil => simp [assertShared]
  | cons f fields ih =>
    simp only [assertShared, bind_eq_ok, assert_eq_ok, decide_eq_true_eq, exists_const, ih,
      List.forall_mem_cons]

theorem assertLinks_eq_ok {first : Receipt} {previous : Committed} {rest : List Committed} {u : Unit} :
    assertLinks first previous rest = .ok u ↔ (previous :: rest).IsChain (Follows first) := by
  induction rest generalizing previous with
  | nil => simp [assertLinks]
  | cons current rest ih =>
    simp only [assertLinks, bind_eq_ok, assert_eq_ok, assertShared_eq_ok, decide_eq_true_eq,
      exists_const, ih, List.isChain_cons_cons]
    constructor
    · rintro ⟨hphase, hlink, htime, hshared, hrest⟩
      exact ⟨⟨hphase, hlink, htime, hshared⟩, hrest⟩
    · rintro ⟨h, hrest⟩
      exact ⟨h.phase, h.link, h.time, h.shared, hrest⟩

/-- The rules of a chain. -/
structure Chained (allowPartial : Bool) (first : Committed) (rest : List Committed) : Prop where
  start : first.receipt.phase = .preflight
  links : (first :: rest).IsChain (Follows first.receipt)
  denied : first.receipt.outcome = .deny → rest = []
  partialChain : first.receipt.outcome = .allow → allowPartial = true ∨ rest ≠ []
  accepted : (receiptIn .execution (first :: rest)).map Receipt.outcome = some .accepted →
    allowPartial = true ∨ (receiptIn .reconciliation (first :: rest)).isSome = true
  rejected : (receiptIn .execution (first :: rest)).map Receipt.outcome = some .rejected →
    (receiptIn .reconciliation (first :: rest)).isSome = false

/-- A preflight receipt that is not denied is allowed. -/
theorem outcome_eq_allow {r : Receipt} (hphase : r.phase = .preflight) (h : r.outcome ≠ .deny) :
    r.outcome = .allow := by
  have hmem := r.outcome_mem
  rw [hphase, PHASE_OUTCOMES] at hmem
  simpa [h] using hmem

theorem receiptIn_singleton {phase : Phase} {c : Committed} (h : c.receipt.phase ≠ phase) :
    receiptIn phase [c] = none := by
  simp [receiptIn, h]

/-- When the checks of a list of committed receipts pass. -/
theorem assertCommitted_eq_ok_iff {allowPartial : Bool} {first : Committed} {rest chain : List Committed} :
    assertCommitted allowPartial (first :: rest) = .ok chain ↔
      Chained allowPartial first rest ∧ chain = first :: rest := by
  simp only [assertCommitted, bind_eq_ok, assert_eq_ok, assertLinks_eq_ok, decide_eq_true_eq,
    exists_const]
  by_cases hdeny : first.receipt.outcome = .deny
  · simp only [hdeny, if_true, bind_eq_ok, assert_eq_ok, decide_eq_true_eq, exists_const,
      Except.ok.injEq, List.length_cons, Nat.add_eq_right, List.length_eq_zero_iff]
    constructor
    · rintro ⟨hstart, hlinks, rfl, rfl⟩
      have hexec : receiptIn .execution [first] = none :=
        receiptIn_singleton (by rw [hstart]; decide)
      refine ⟨⟨hstart, hlinks, fun _ => rfl, fun h => ?_, fun h => ?_, fun h => ?_⟩, rfl⟩
      · rw [hdeny] at h
        cases h
      · rw [hexec] at h
        cases h
      · rw [hexec] at h
        cases h
    · rintro ⟨h, rfl⟩
      exact ⟨h.start, h.links, h.denied hdeny, rfl⟩
  · simp only [hdeny, if_false, bind_eq_ok, assert_eq_ok, exists_const, Except.ok.injEq,
      Bool.or_eq_true, decide_eq_true_eq, List.length_cons, Bool.not_eq_true', ne_eq]
    constructor
    · rintro ⟨hstart, hlinks, hpartial, haccepted, hrejected, rfl⟩
      refine ⟨⟨hstart, hlinks, fun h => absurd h hdeny, fun _ => ?_, fun h => ?_, fun h => ?_⟩, rfl⟩
      · rcases hpartial with h | h
        · exact .inl h
        · right
          rintro rfl
          simp at h
      · rcases haccepted with (h' | h') | h'
        · exact absurd h h'
        · exact .inl h'
        · exact .inr h'
      · rcases hrejected with h' | h'
        · exact absurd h h'
        · exact h'
    · rintro ⟨h, rfl⟩
      refine ⟨h.start, h.links, ?_, ?_, ?_, rfl⟩
      · rcases h.partialChain (outcome_eq_allow h.start hdeny) with h' | h'
        · exact .inl h'
        · right
          have := List.length_pos_iff.mpr h'
          omega
      · by_cases hx : (receiptIn .execution (first :: rest)).map Receipt.outcome = some .accepted
        · rcases h.accepted hx with h' | h'
          · exact .inl (.inr h')
          · exact .inr h'
        · exact .inl (.inl hx)
      · by_cases hx : (receiptIn .execution (first :: rest)).map Receipt.outcome = some .rejected
        · exact .inr (h.rejected hx)
        · exact .inl hx

section Accepted

variable {N : Normalization} {R : Runtime}

/-- When `assertPomRxChain` does not throw, and what it returns. -/
theorem assertPomRxChain_eq_ok_iff {receipts : JsValue} {allowPartial : Bool} {chain : List Committed} :
    assertPomRxChain N R receipts allowPartial = .ok chain ↔
      ∃ xs, receipts = .array xs ∧ xs.length ≤ PHASES.length ∧
        List.Forall₂ (fun x c => commitPomRxReceipt N R x = .ok c) xs chain ∧
        ∃ first rest, chain = first :: rest ∧ Chained allowPartial first rest := by
  constructor
  · intro h
    unfold assertPomRxChain at h
    split at h
    · rename_i xs
      simp only [bind_eq_ok, mapError_eq_ok, assert_eq_ok, decide_eq_true_eq, exists_const,
        mapM_eq_ok_iff] at h
      obtain ⟨hpos, hlen, committed, hcommit, h⟩ := h
      cases committed with
      | nil =>
        have := hcommit.length_eq
        rw [this] at hpos
        cases hpos
      | cons first rest =>
        obtain ⟨hchained, rfl⟩ := assertCommitted_eq_ok_iff.mp h
        exact ⟨xs, rfl, hlen, hcommit, first, rest, rfl, hchained⟩
    · cases h
  · rintro ⟨xs, rfl, hlen, hcommit, first, rest, rfl, hchained⟩
    simp only [assertPomRxChain, bind_eq_ok, mapError_eq_ok, assert_eq_ok, decide_eq_true_eq,
      exists_const, mapM_eq_ok_iff]
    refine ⟨?_, hlen, first :: rest, hcommit, assertCommitted_eq_ok_iff.mpr ⟨hchained, rfl⟩⟩
    rw [hcommit.length_eq]
    exact Nat.succ_pos _

theorem verifyPomRxChain_eq_ok {receipts : JsValue} {allowPartial : Bool} {report : ChainReport} :
    verifyPomRxChain N R receipts allowPartial = .ok report ↔
      ∃ chain, assertPomRxChain N R receipts allowPartial = .ok chain ∧
        report = ⟨statusOf chain, chain.map Committed.receiptHash⟩ := by
  unfold verifyPomRxChain
  cases hassert : assertPomRxChain N R receipts allowPartial with
  | ok chain =>
    simp only [Except.ok.injEq]
    constructor
    · rintro rfl
      exact ⟨chain, rfl, rfl⟩
    · rintro ⟨chain', rfl, rfl⟩
      rfl
  | error e => simp

/-- The phases of a chain are the first phases, in their order. -/
theorem phases_of_follows {first : Receipt} {previous : Committed} {rest : List Committed}
    (h : (previous :: rest).IsChain (Follows first)) :
    (previous :: rest).map (·.receipt.phase) <+: PHASES.drop previous.receipt.phase.index := by
  have hdrop : ∀ p : Phase, PHASES.drop p.index = p :: PHASES.drop (p.index + 1) := by
    intro p
    cases p <;> rfl
  induction rest generalizing previous with
  | nil =>
    rw [hdrop]
    simp
  | cons current rest ih =>
    obtain ⟨hfollows, hrest⟩ := List.isChain_cons_cons.mp h
    have htail := ih hrest
    rw [hfollows.phase] at htail
    rw [hdrop, List.map_cons, List.cons_prefix_cons]
    exact ⟨rfl, htail⟩

theorem follows_of_mem {first : Receipt} {previous : Committed} {rest : List Committed}
    (h : (previous :: rest).IsChain (Follows first)) {c : Committed} (hc : c ∈ rest) :
    ∃ p, Follows first p c := by
  induction rest generalizing previous with
  | nil => cases hc
  | cons current rest ih =>
    obtain ⟨hfollows, hrest⟩ := List.isChain_cons_cons.mp h
    rcases List.mem_cons.mp hc with rfl | hc
    · exact ⟨previous, hfollows⟩
    · exact ih hrest hc

/-- All receipts of a chain have the run of the first. -/
theorem runId_of_follows {first : Committed} {rest : List Committed}
    (h : (first :: rest).IsChain (Follows first.receipt)) {c : Committed} (hc : c ∈ first :: rest) :
    c.receipt.runId = first.receipt.runId := by
  rcases List.mem_cons.mp hc with rfl | hc
  · rfl
  · obtain ⟨p, hp⟩ := follows_of_mem h hc
    exact Subtype.ext (hp.shared (js "run_id", fun r => r.runId.val) List.mem_cons_self)

/-- Relations that agree between neighbours make the same lists chains. -/
theorem isChain_congr {α : Type} {P Q : α → α → Prop} {l : List α}
    (h : l.IsChain fun a b => (P a b ↔ Q a b)) : l.IsChain P ↔ l.IsChain Q := by
  induction l with
  | nil => simp
  | cons a l ih =>
    cases l with
    | nil => simp
    | cons b l =>
      obtain ⟨hab, hl⟩ := List.isChain_cons_cons.mp h
      rw [List.isChain_cons_cons, List.isChain_cons_cons, hab, ih hl]

/-- The instant that the runtime reads in the `occurred_at` of a receipt. -/
def InstantOf (R : Runtime) (receipt : JsValue) (t : ℤ) : Prop :=
  ∃ s, receipt.get (js "occurred_at") = some (.string s) ∧ R.date.parse s = some t

theorem instantOf_commit {v : JsValue} {c : Committed} (h : commitPomRxReceipt N R v = .ok c) :
    InstantOf R v c.receipt.occurredAt.ms := by
  have hread := validatePomRxReceipt_eq_ok_iff.mp (commitPomRxReceipt_eq_ok.mp h).1
  obtain ⟨s, hs, -, hparse⟩ := hread.occurredAt
  exact ⟨s, hs, hparse⟩

/-- In a chain that is `ok` all receipts share one run, the phases are the first ones in
    their order, and each receipt has the commitment of its predecessor. Its instants do not
    decrease exactly when no year drops. -/
theorem verifyPomRxChain_chronological_iff (N : Normalization) (R : Runtime) (receipts : JsValue)
    (allowPartial : Bool) (report : ChainReport)
    (h : verifyPomRxChain N R receipts allowPartial = .ok report) :
    ∃ xs chain instants, receipts = .array xs ∧
      List.Forall₂ (fun x c => commitPomRxReceipt N R x = .ok c) xs chain ∧
      List.Forall₂ (InstantOf R) xs instants ∧
      report.receiptHashes = chain.map Committed.receiptHash ∧
      (∀ c ∈ chain, ∀ d ∈ chain, c.receipt.runId = d.receipt.runId) ∧
      chain.map (·.receipt.phase) <+: PHASES ∧
      (chain.IsChain fun p c => c.receipt.previousReceiptHash = some p.receiptHash) ∧
      ((instants.IsChain fun t t' => t ≤ t') ↔
        instants.IsChain fun t t' => ¬ Date.YearDrop (Date.yearOf t) (Date.yearOf t')) := by
  obtain ⟨chain, hassert, rfl⟩ := verifyPomRxChain_eq_ok.mp h
  obtain ⟨xs, rfl, -, hcommit, first, rest, rfl, hchained⟩ := assertPomRxChain_eq_ok_iff.mp hassert
  have hrun := fun c hc => runId_of_follows (c := c) hchained.links hc
  have hphases := phases_of_follows hchained.links
  rw [hchained.start] at hphases
  refine ⟨xs, first :: rest, (first :: rest).map (·.receipt.occurredAt.ms), rfl, hcommit, ?_, rfl,
    ?_, hphases, hchained.links.imp fun _ _ hf => hf.link, ?_⟩
  · rw [List.forall₂_map_right_iff]
    exact hcommit.imp fun _ _ hc => instantOf_commit hc
  · intro c hc d hd
    rw [hrun c hc, hrun d hd]
  · rw [List.isChain_map, List.isChain_map]
    apply isChain_congr
    refine hchained.links.imp ?_
    intro p c hf
    exact Date.le_iff_of_text_le p.receipt.occurredAt.bounded c.receipt.occurredAt.bounded hf.time

end Accepted

/-! ## Two chains -/

/-- A preflight receipt and a rejected execution with the given times. -/
def sampleChain (occurredAt previousHash occurredAt' : JsString) : List JsValue :=
  [samplePreflight (js "agent") occurredAt,
    .object [(js "schema_version", .string POM_RX_SCHEMA_VERSION),
      (js "receipt_id", .string (js "receipt-execution-0001")),
      (js "run_id", .string (js "run-2026-06-01-0001")),
      (js "phase", .string (js "execution")), (js "outcome", .string (js "rejected")),
      (js "agent_ref", .string (js "agent")), (js "subject_ref", .string (js "subject")),
      (js "method_hash", hashOf 0x61), (js "policy_hash", hashOf 0x62),
      (js "input_commitment", hashOf 0x63), (js "action_commitment", hashOf 0x64),
      (js "assertions", .array [.object [(js "rule_id", .string (js "limits.daily")),
        (js "rule_hash", hashOf 0x65), (js "result", .string (js "pass")),
        (js "proof_mode", .string (js "commitment")), (js "evidence_hash", hashOf 0x66)]]),
      (js "previous_receipt_hash", .string previousHash), (js "occurred_at", .string occurredAt'),
      (js "source_key_id", .string (js "ed25519-a050837d85070582ccf7394b0988847c"))]]

/-- Ten in the morning, and five minutes later. -/
def orderedChain : List JsValue :=
  sampleChain (js "2026-06-01T10:00:00.000Z")
    (js "8af5543bbae8b894833e01951b7b6a12c3a809cfbc97d73b3f856aa800ada4ec")
    (js "2026-06-01T10:05:00.000Z")

/-- The first instant of the year 10000, and a morning of 2026. -/
def reversedChain : List JsValue :=
  sampleChain (js "+010000-01-01T00:00:00.000Z")
    (js "e24f350bfecc1be9c281ff7bde1ce7265ee3ac218f74c56306537b01c144d607")
    (js "2026-06-01T10:00:00.000Z")

/-- Both are accepted. They are evaluated together, since they differ in two fields only. -/
theorem sampleChains_isOk :
    (verifyPomRxChain devanagari sampleRuntime (.array orderedChain) false).isOk = true ∧
      (verifyPomRxChain devanagari sampleRuntime (.array reversedChain) false).isOk = true := by
  decide +kernel

/-- The instant of a text that `isoReader` reads. -/
theorem instantOf_sample {receipt : JsValue} {s : JsString} {t u : ℤ}
    (h : InstantOf sampleRuntime receipt t) (hs : receipt.get (js "occurred_at") = some (.string s))
    (hu : Date.isoReader.parse s = some u) : t = u := by
  obtain ⟨s', hs', ht⟩ := h
  rw [hs] at hs'
  cases hs'
  exact Option.some.inj (ht.symm.trans hu)

theorem verifyPomRxChain_chronological_ordered :
    ∃ chain, List.Forall₂ (fun x c => commitPomRxReceipt devanagari sampleRuntime x = .ok c)
        orderedChain chain ∧
      chain.map (·.receipt.phase) <+: PHASES ∧
      (chain.IsChain fun p c => c.receipt.previousReceiptHash = some p.receiptHash) ∧
      ∃ instants, List.Forall₂ (InstantOf sampleRuntime) orderedChain instants ∧
        instants.IsChain fun t t' => t ≤ t' := by
  obtain ⟨report, h⟩ := isOk_iff.mp sampleChains_isOk.1
  obtain ⟨xs, chain, instants, hxs, hcommit, hinstants, -, -, hphases, hlinks, hiff⟩ :=
    verifyPomRxChain_chronological_iff devanagari sampleRuntime _ _ report h
  cases hxs
  refine ⟨chain, hcommit, hphases, hlinks, instants, hinstants, hiff.mpr ?_⟩
  obtain ⟨t, ts, ht, hts, rfl⟩ := List.forall₂_cons_left_iff.mp hinstants
  obtain ⟨u, us, hu, hus, rfl⟩ := List.forall₂_cons_left_iff.mp hts
  obtain rfl := List.forall₂_nil_left_iff.mp hus
  rw [instantOf_sample (u := 1780308000000) ht rfl (by decide),
    instantOf_sample (u := 1780308300000) hu rfl (by decide)]
  simp only [List.isChain_cons_cons, List.isChain_singleton, and_true, Date.YearDrop]
  decide

/-- The year 10000 may come before 2026. -/
theorem not_verifyPomRxChain_chronological :
    (verifyPomRxChain devanagari sampleRuntime (.array reversedChain) false).isOk = true ∧
      ¬ ∃ instants, List.Forall₂ (InstantOf sampleRuntime) reversedChain instants ∧
        instants.IsChain fun t t' => t ≤ t' := by
  refine ⟨sampleChains_isOk.2, ?_⟩
  rintro ⟨instants, hinstants, hchain⟩
  obtain ⟨t, ts, ht, hts, rfl⟩ := List.forall₂_cons_left_iff.mp hinstants
  obtain ⟨u, us, hu, hus, rfl⟩ := List.forall₂_cons_left_iff.mp hts
  have hle := (List.isChain_cons_cons.mp hchain).1
  rw [instantOf_sample (u := 253402300800000) ht rfl (by decide),
    instantOf_sample (u := 1780308000000) hu rfl (by decide)] at hle
  exact absurd hle (by decide)

end OpenRisk.PomRx
