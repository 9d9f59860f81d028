import OpenRisk.Strict.Invariants

/-!
# The profiled verifier

Model of `core/strict-verification/pom-rx-v01-profiled-verifier.mjs`. The step
`bindVerifier`, which measures the runtime and the artifact and consumes the policy
capability, is an argument: what it returns, or what it throws. An `Except.error` of the
model is an exception that leaves `verifyPomRxChainProfiled`.

Results:
* `checkBaseChain_eq_nil_iff`: the collecting checker reports nothing exactly when the
  rules of a chain hold.
* `verifyPomRxChainProfiled_refines`: the strict verifier and `verifyPomRxChain` agree.
* `verifyPomRxChainProfiled_wellFormed`: every input gives a verdict that is accepted.
-/

namespace OpenRisk.Strict

open Text Sdk PomRx

/-! ## The binding step -/

/-- `POM_RX_V01_STRICT_PROFILE`. -/
def POM_RX_V01_STRICT_PROFILE : JsString := js "pom-rx-v0.1/strict-errata-1"

/-- `POM_RX_V01_STRICT_VERIFIER_VERSION`. -/
def POM_RX_V01_STRICT_VERIFIER_VERSION : JsString := js "pom-rx-v0.1-strict-verifier/1"

/-- What `bindVerifier` returns. The artifact check compares the observed digest with the
    expected one and returns the observed one; the policy has checked its id, its version and
    the measured environment. -/
structure Binding where
  implementationArtifactSha256 : HashText
  expectedImplementationArtifactSha256 : HashText
  observedImplementationArtifactSha256 : HashText
  executionEnvironment : Environment
  effectivePolicyId : JsString
  effectivePolicyVersion : JsString
  effectivePolicySha256 : HashText
  expected_eq : expectedImplementationArtifactSha256 = implementationArtifactSha256
  observed_eq : observedImplementationArtifactSha256 = implementationArtifactSha256
  environment_ne : ∀ entry ∈ executionEnvironment.entries, entry.2 ≠ []
  policyId_ne : effectivePolicyId ≠ []
  policyVersion_ne : effectivePolicyVersion ≠ []

/-- A thrown value: a `PomRxV01StrictError`, another `Error`, or anything else. -/
inductive Thrown where
  | strict (e : StrictError)
  | error (message : JsString)
  | other

/-- What `bindVerifier` can throw. The codes of its strict errors are those of the runtime,
    the artifact, the capability and the policy; none is structural. -/
structure BindingError where
  thrown : Thrown
  code_error : ∀ e, thrown = .strict e → e.code.severity = .error ∧ e.code.isStructural = false

/-! ## Diagnostics -/

/-- The `details` of a diagnostic. -/
structure Place where
  phase : Option Phase := none
  receiptIndex : Option ℕ := none
  field : Option JsString := none

/-- The diagnostic of a code, a message and a place. -/
def diagnosticAt (code : DiagnosticCode) (message : JsString) (place : Place) : Diagnostic where
  diagnosticCode := code
  phase := place.phase
  receiptIndex := place.receiptIndex
  field := place.field
  message := safeMessage (some message) (js "POM-RX strict verification failed")

/-- `diagnostic(code, message, details)`. -/
def diagnostic (code : DiagnosticCode) (message : JsString) (place : Place := {}) :
    Except StrictError Diagnostic :=
  makePomRxV01Diagnostic (diagnosticAt code message place)

/-- `if (condition) diagnostics.push(diagnostic(code, message, details))`. -/
def flag (condition : Bool) (code : DiagnosticCode) (message : JsString) (place : Place) :
    Except StrictError (List Diagnostic) :=
  if condition then report (diagnosticAt code message place) else .ok []

/-- `diagnosticFromError(error)`. -/
def diagnosticFromError : Thrown → Except StrictError Diagnostic
  | .strict e =>
    diagnostic (if e.code = .profileIncomplete then .internalVerifierError else e.code) e.message
  | .error message => diagnostic .internalVerifierError message
  | .other => diagnostic .internalVerifierError (js "Unknown POM-RX strict verification error")

/-! ## Verdicts -/

/-- The identities of a verdict whose binding is known; `receiptHashes` are those of
    validated receipts. -/
def Binding.identity (b : Binding) (receiptHashes : Option (List HashText)) : Identity where
  receiptSchemaVersion := receiptHashes.map fun _ => POM_RX_SCHEMA_VERSION
  receiptHashes := (receiptHashes.getD []).map Subtype.val
  verifierProfile := some POM_RX_V01_STRICT_PROFILE
  verifierVersion := some POM_RX_V01_STRICT_VERIFIER_VERSION
  implementationArtifactSha256 := some b.implementationArtifactSha256.val
  expectedImplementationArtifactSha256 := some b.expectedImplementationArtifactSha256.val
  observedImplementationArtifactSha256 := some b.observedImplementationArtifactSha256.val
  executionEnvironment := some b.executionEnvironment
  effectivePolicyId := some b.effectivePolicyId
  effectivePolicyVersion := some b.effectivePolicyVersion
  effectivePolicySha256 := some b.effectivePolicySha256.val

/-- `indeterminate(diagnostics, binding)`. -/
def indeterminate (diagnostics : List Diagnostic) (binding : Option Binding) :
    Except StrictError Verdict :=
  buildPomRxV01StrictVerdict ((binding.map fun b => b.identity none).getD {}) .indeterminate
    diagnostics

/-- `validateOptions(options)`. -/
def validateOptions (options : Option JsValue) : Except StrictError (Option Diagnostic) :=
  match options with
  | some (.object es) =>
    if es.any fun e => e.1 ∉ [js "allowPartial", js "verificationProfile"] then
      (diagnostic .profileUnsupported
        (js "Strict verification options contain unknown fields")).map some
    else if es.lookup (js "verificationProfile") |>.isNone then
      (diagnostic .profileRequired (js "verificationProfile is required")).map some
    else if isText (es.lookup (js "verificationProfile")) POM_RX_SCHEMA_VERSION ||
        isText (es.lookup (js "verificationProfile")) (js "legacy") then
      (diagnostic .downgradeForbidden
        (js "Legacy verification cannot be selected through the strict API")).map some
    else if !isText (es.lookup (js "verificationProfile")) POM_RX_V01_STRICT_PROFILE then
      (diagnostic .profileUnsupported (js "verificationProfile is unsupported")).map some
    else
      match es.lookup (js "allowPartial") with
      | none => .ok none
      | some (.bool _) => .ok none
      | some _ => (diagnostic .profileUnsupported (js "allowPartial must be boolean")).map some
  | _ => (diagnostic .profileRequired (js "verificationProfile is required")).map some

/-- `options.allowPartial ?? false`. -/
def allowPartialOf (options : Option JsValue) : Bool :=
  match options.bind fun o => o.get (js "allowPartial") with
  | some (.bool b) => b
  | _ => false

/-! ## Receipts -/

section Receipts

variable (N : Normalization) (R : Runtime)

/-- The loop of `commitStrictReceipts`: the first receipt that is rejected, with its index. -/
def commitLoop : ℕ → List JsValue → Except (ℕ × ReceiptError) (List Committed)
  | _, [] => .ok []
  | index, receipt :: receipts =>
    match commitPomRxReceipt N R receipt with
    | .error e => .error (index, e)
    | .ok c => (commitLoop (index + 1) receipts).map (c :: ·)

/-- `commitStrictReceipts(receipts)`: the committed receipts, or the diagnostics. -/
def commitStrictReceipts (receipts : JsValue) :
    Except StrictError (Except (List Diagnostic) (List Committed)) :=
  match receipts with
  | .array xs =>
    if 1 ≤ xs.length ∧ xs.length ≤ PHASES.length then
      match commitLoop N R 0 xs with
      | .ok committed => .ok (.ok committed)
      | .error (index, e) => do
        let d ← diagnostic .schemaInvalid e.message { receiptIndex := some index }
        .ok (.error [d])
    else do
      let d ← diagnostic .schemaInvalid
        (js "A strict POM-RX chain requires between one and three receipts")
      .ok (.error [d])
  | _ => do
    let d ← diagnostic .schemaInvalid
      (js "A strict POM-RX chain requires between one and three receipts")
    .ok (.error [d])

end Receipts

/-! ## The chain -/

/-- The loop over `SHARED_FIELDS`. -/
def checkShared (first : Receipt) (index : ℕ) (current : Receipt) :
    Except StrictError (List Diagnostic) :=
  collect (SHARED_FIELDS.map fun (field, read) =>
    flag (read current ≠ read first) .chainSharedFieldChanged
      (field ++ js " changed within the POM-RX chain") ⟨some current.phase, some index, some field⟩)

/-- One iteration of the loop over the receipts after the first. -/
def checkLink (first : Receipt) (index : ℕ) (previous current : Committed) :
    Except StrictError (List Diagnostic) :=
  collect [
    flag (current.receipt.phase.index ≠ previous.receipt.phase.index + 1)
      .chainPhaseInvalid (js "POM-RX phases must be contiguous and ordered")
      ⟨some current.receipt.phase, some index, some (js "phase")⟩,
    flag (current.receipt.previousReceiptHash ≠ some previous.receiptHash)
      .receiptHashLinkInvalid (js "POM-RX previous_receipt_hash does not match")
      ⟨some current.receipt.phase, some index, some (js "previous_receipt_hash")⟩,
    flag (compare current.receipt.occurredAt.text previous.receipt.occurredAt.text = .lt)
      .chainTimestampInvalid (js "POM-RX receipt time cannot move backwards")
      ⟨some current.receipt.phase, some index, some (js "occurred_at")⟩,
    checkShared first index current.receipt]

/-- The loop over the receipts after the first. -/
def checkLinks (first : Receipt) : ℕ → Committed → List Committed →
    Except StrictError (List Diagnostic)
  | _, _, [] => .ok []
  | index, previous, current :: rest => do
    let here ← checkLink first index previous current
    let later ← checkLinks first (index + 1) current rest
    .ok (here ++ later)

/-- `committed.findIndex(({ receipt }) => receipt.phase === phase)`. -/
def indexIn (phase : Phase) (committed : List Committed) : Option ℕ :=
  committed.findIdx? fun c => c.receipt.phase = phase

/-- `checkBaseChain(committed, allowPartial)`. -/
def checkBaseChain (committed : List Committed) (allowPartial : Bool) :
    Except StrictError (List Diagnostic) :=
  match committed with
  | [] => fail (js "Cannot read properties of undefined (reading 'receipt')")
  | first :: rest =>
    if first.receipt.phase ≠ .preflight then
      report (diagnosticAt .chainPhaseInvalid (js "A POM-RX chain must start with preflight")
        ⟨some first.receipt.phase, some 0, some (js "phase")⟩)
    else
      let execution := (receiptIn .execution committed).map Receipt.outcome
      let reconciliation := indexIn .reconciliation committed
      collect [
        checkLinks first.receipt 1 first rest,
        flag (first.receipt.outcome = .deny && committed.length ≠ 1) .chainPhaseInvalid
          (js "A denied preflight cannot be followed by execution")
          ⟨rest.head?.map fun c => c.receipt.phase, some 1, some (js "phase")⟩,
        flag (first.receipt.outcome = .allow && !allowPartial && committed.length < 2)
          .partialChainForbidden (js "An allowed preflight requires an execution receipt")
          ⟨some .preflight, some 0, none⟩,
        flag (execution = some .accepted && !allowPartial && reconciliation.isNone)
          .partialChainForbidden (js "An accepted execution requires reconciliation")
          ⟨some .execution, indexIn .execution committed, none⟩,
        flag (execution = some .rejected && reconciliation.isSome) .chainPhaseInvalid
          (js "A rejected execution cannot be marked as reconciled")
          ⟨some .reconciliation, reconciliation, some (js "phase")⟩]

/-! ## The verifier -/

section Verifier

variable (N : Normalization) (R : Runtime)

/-- The part of `verifyPomRxChainProfiled` after the receipts are committed. -/
def verifyCommitted (binding : Binding) (allowPartial : Bool) (committed : List Committed) :
    Except StrictError Verdict := do
  let baseDiagnostics ← checkBaseChain committed allowPartial
  let identity := binding.identity (some (committed.map Committed.receiptHash))
  if baseDiagnostics.length > 0 then
    buildPomRxV01StrictVerdict identity .nonconformant baseDiagnostics
  else
    match runStrictInvariants (committed.map fun c => c.receipt.toJs) with
    | .error e => do
      let d ← diagnosticFromError (.strict e)
      indeterminate [d] (some binding)
    | .ok invariantDiagnostics =>
      buildPomRxV01StrictVerdict identity
        (if invariantDiagnostics.length = 0 then .conformant else .nonconformant)
        invariantDiagnostics

/-- `verifyPomRxChainProfiled(receipts, options, trustedPolicyCapability)`, where `binding` is
    the outcome of `bindVerifier(trustedPolicyCapability)`. -/
def verifyPomRxChainProfiled (receipts : JsValue) (options : Option JsValue)
    (binding : Except BindingError Binding) : Except StrictError Verdict := do
  match ← validateOptions options with
  | some optionDiagnostic => indeterminate [optionDiagnostic] none
  | none =>
    match binding with
    | .error e => do
      let d ← diagnosticFromError e.thrown
      indeterminate [d] none
    | .ok binding => do
      match ← commitStrictReceipts N R receipts with
      | .error diagnostics => indeterminate diagnostics (some binding)
      | .ok committed => verifyCommitted binding (allowPartialOf options) committed

end Verifier

/-! ## Diagnostics are well formed -/

/-- The index and the field of a place pass the checks of a diagnostic. -/
structure Place.WellFormed (place : Place) : Prop where
  receiptIndex : ∀ index ∈ place.receiptIndex, index ≤ maxSafeInteger
  field : ∀ s ∈ place.field, isPlainText MAX_DIAGNOSTIC_FIELD_LENGTH s = true

theorem isPlainText_fallback : isPlainText MAX_DIAGNOSTIC_MESSAGE_LENGTH
    (js "POM-RX strict verification failed") = true := by decide +kernel

theorem diagnosticAt_wellFormed {code : DiagnosticCode} {message : JsString} {place : Place}
    (h : place.WellFormed) : (diagnosticAt code message place).WellFormed where
  severity := rfl
  defectId := by
    intro defect hdefect
    cases hdefect
  receiptIndex := h.receiptIndex
  field := h.field
  message := isPlainText_safeMessage isPlainText_fallback

theorem diagnostic_eq_ok {code : DiagnosticCode} {message : JsString} {place : Place}
    (h : place.WellFormed) :
    diagnostic code message place = .ok (diagnosticAt code message place) :=
  makePomRxV01Diagnostic_eq_ok_iff.mpr ⟨diagnosticAt_wellFormed h, rfl⟩

theorem place_empty_wellFormed : ({} : Place).WellFormed where
  receiptIndex := by
    intro index h
    cases h
  field := by
    intro s h
    cases h

theorem flag_reports {condition : Bool} {code : DiagnosticCode} {message : JsString} {place : Place}
    (hcode : code.isStructural = true) (hplace : place.WellFormed) :
    Reports (flag condition code message place) := by
  unfold flag
  split_ifs
  · exact reports_report ⟨diagnosticAt_wellFormed hplace, hcode⟩
  · exact reports_nil

theorem flag_eq_nil {condition : Bool} {code : DiagnosticCode} {message : JsString} {place : Place} :
    flag condition code message place = .ok [] ↔ condition = false := by
  unfold flag
  cases condition with
  | false => simp
  | true => simp [report, bind_eq_ok]

/-- The fields that a diagnostic of the chain names. -/
theorem isPlainText_fields : ∀ s ∈ [js "phase", js "previous_receipt_hash", js "occurred_at"] ++
    SHARED_FIELDS.map Prod.fst, isPlainText MAX_DIAGNOSTIC_FIELD_LENGTH s = true := by
  decide +kernel

theorem place_wellFormed {phase : Option Phase} {index : Option ℕ} {field : Option JsString}
    (hindex : ∀ i ∈ index, i ≤ 3)
    (hfield : ∀ s ∈ field, s ∈ [js "phase", js "previous_receipt_hash", js "occurred_at"] ++
      SHARED_FIELDS.map Prod.fst) : Place.WellFormed ⟨phase, index, field⟩ where
  receiptIndex := by
    intro i hi
    have := hindex i hi
    unfold maxSafeInteger
    omega
  field s hs := isPlainText_fields s (hfield s hs)

/-! ## The collecting checker of a chain -/

theorem checkShared_eq_nil {first current : Receipt} {index : ℕ} :
    checkShared first index current = .ok [] ↔
      ∀ f ∈ SHARED_FIELDS, f.2 current = f.2 first := by
  rw [checkShared, collect_eq_nil, List.forall_mem_map]
  refine forall₂_congr fun f _ => ?_
  rw [flag_eq_nil]
  simp

theorem checkLink_eq_nil {first : Receipt} {index : ℕ} {previous current : Committed} :
    checkLink first index previous current = .ok [] ↔ Follows first previous current := by
  simp only [checkLink, collect_eq_nil, List.forall_mem_cons, flag_eq_nil, checkShared_eq_nil,
    decide_eq_false_iff_not, not_not, List.not_mem_nil, false_implies, implies_true, and_true]
  constructor
  · rintro ⟨hphase, hlink, htime, hshared⟩
    exact ⟨hphase, hlink, htime, hshared⟩
  · intro h
    exact ⟨h.phase, h.link, h.time, h.shared⟩

theorem checkLink_reports {first : Receipt} {index : ℕ} (hindex : index ≤ 3)
    (previous current : Committed) : Reports (checkLink first index previous current) := by
  have hplace : ∀ field, field ∈ [js "phase", js "previous_receipt_hash", js "occurred_at"] ++
      SHARED_FIELDS.map Prod.fst →
      Place.WellFormed ⟨some current.receipt.phase, some index, some field⟩ := by
    intro field hfield
    apply place_wellFormed
    · intro i hi
      cases hi
      exact hindex
    · intro s hs
      cases hs
      exact hfield
  apply reports_collect
  simp only [List.forall_mem_cons, List.not_mem_nil, false_implies, implies_true, and_true]
  refine ⟨flag_reports rfl (hplace _ (by simp)), flag_reports rfl (hplace _ (by simp)),
    flag_reports rfl (hplace _ (by simp)), ?_⟩
  apply reports_collect
  rw [List.forall_mem_map]
  intro f hf
  exact flag_reports rfl (hplace _ (List.mem_append_right _ (List.mem_map_of_mem hf)))

theorem checkLinks_eq_nil {first : Receipt} {index : ℕ} {previous : Committed} {rest : List Committed} :
    checkLinks first index previous rest = .ok [] ↔ (previous :: rest).IsChain (Follows first) := by
  induction rest generalizing index previous with
  | nil => simp [checkLinks]
  | cons current rest ih =>
    have hlink := @checkLink_eq_nil first index previous current
    have hrest := @ih (index + 1) current
    rw [List.isChain_cons_cons, ← hlink, ← hrest]
    simp only [checkLinks, bind_eq_ok, Except.ok.injEq, List.append_eq_nil_iff]
    constructor
    · rintro ⟨here, hhere, later, hlater, rfl, rfl⟩
      exact ⟨hhere, hlater⟩
    · rintro ⟨hhere, hlater⟩
      exact ⟨[], hhere, [], hlater, rfl, rfl⟩

theorem checkLinks_reports {first : Receipt} {index : ℕ} {previous : Committed} {rest : List Committed}
    (hindex : index + rest.length ≤ 3) : Reports (checkLinks first index previous rest) := by
  induction rest generalizing index previous with
  | nil => exact reports_nil
  | cons current rest ih =>
    rw [List.length_cons] at hindex
    have hlater : Reports (checkLinks first (index + 1) current rest) := ih (by omega)
    exact (checkLink_reports (by omega) previous current).append hlater

theorem isSome_indexIn {phase : Phase} {committed : List Committed} :
    (indexIn phase committed).isSome = (receiptIn phase committed).isSome := by
  rw [indexIn, List.findIdx?_isSome, receiptIn, Option.isSome_map, Bool.eq_iff_iff,
    List.find?_isSome, List.any_eq_true]

/-- The collecting checker reports nothing exactly when the rules of a chain hold. -/
theorem checkBaseChain_eq_nil_iff {first : Committed} {rest : List Committed} {allowPartial : Bool} :
    checkBaseChain (first :: rest) allowPartial = .ok [] ↔ Chained allowPartial first rest := by
  unfold checkBaseChain
  by_cases hstart : first.receipt.phase = .preflight
  · simp only [hstart, ne_eq, not_true_eq_false, if_false, collect_eq_nil, List.forall_mem_cons,
      flag_eq_nil, checkLinks_eq_nil, List.not_mem_nil, false_implies, implies_true, and_true,
      ← Option.not_isSome, isSome_indexIn, Bool.and_eq_false_iff, decide_eq_false_iff_not,
      Bool.not_eq_false', not_not, List.length_cons]
    constructor
    · rintro ⟨hlinks, hdenied, hpartial, haccepted, hrejected⟩
      refine ⟨hstart, hlinks, fun h => ?_, fun h => ?_, fun h => ?_, fun h => ?_⟩
      · rcases hdenied with hd | hd
        · exact absurd h hd
        · exact List.length_eq_zero_iff.mp (by omega)
      · rcases hpartial with (hp | hp) | hp
        · exact absurd h hp
        · exact .inl hp
        · right
          rintro rfl
          exact hp (by decide)
      · rcases haccepted with (ha | ha) | ha
        · exact absurd h ha
        · exact .inl ha
        · exact .inr ha
      · rcases hrejected with hr | hr
        · exact absurd h hr
        · exact hr
    · intro h
      refine ⟨h.links, ?_, ?_, ?_, ?_⟩
      · by_cases hd : first.receipt.outcome = .deny
        · right
          rw [h.denied hd]
          rfl
        · exact .inl hd
      · by_cases ha : first.receipt.outcome = .allow
        · rcases h.partialChain ha with hp | hp
          · exact .inl (.inr hp)
          · right
            have := List.length_pos_iff.mpr hp
            omega
        · exact .inl (.inl ha)
      · by_cases hx : (receiptIn .execution (first :: rest)).map Receipt.outcome = some .accepted
        · rcases h.accepted hx with hp | hp
          · exact .inl (.inr hp)
          · exact .inr hp
        · exact .inl (.inl hx)
      · by_cases hx : (receiptIn .execution (first :: rest)).map Receipt.outcome = some .rejected
        · exact .inr (h.rejected hx)
        · exact .inl hx
  · simp only [hstart, ne_eq, not_false_eq_true, if_true]
    constructor
    · intro h
      simp only [report, bind_eq_ok] at h
      obtain ⟨d, -, h⟩ := h
      cases h
    · intro h
      exact absurd h.start hstart

theorem indexIn_le {phase : Phase} {committed : List Committed} (hlen : committed.length ≤ 3) :
    ∀ i ∈ indexIn phase committed, i ≤ 3 := by
  intro i hi
  have := (List.findIdx?_eq_some_iff_findIdx_eq.mp hi).1
  omega

/-- The collecting checker does not throw on one to three receipts. -/
theorem checkBaseChain_reports {first : Committed} {rest : List Committed} (allowPartial : Bool)
    (hlen : (first :: rest).length ≤ 3) : Reports (checkBaseChain (first :: rest) allowPartial) := by
  have hphase : ∀ s ∈ some (js "phase"), s ∈ [js "phase", js "previous_receipt_hash",
      js "occurred_at"] ++ SHARED_FIELDS.map Prod.fst := by
    intro s hs
    cases hs
    simp
  have hnone : ∀ s ∈ (none : Option JsString), s ∈ [js "phase", js "previous_receipt_hash",
      js "occurred_at"] ++ SHARED_FIELDS.map Prod.fst := by
    intro s hs
    cases hs
  have hsome : ∀ n ≤ 3, ∀ i ∈ some n, i ≤ 3 := by
    intro n hn i hi
    cases hi
    exact hn
  unfold checkBaseChain
  dsimp only
  split_ifs
  · exact reports_report
      ⟨diagnosticAt_wellFormed (place_wellFormed (hsome 0 (by decide)) hphase), rfl⟩
  · apply reports_collect
    simp only [List.forall_mem_cons, List.not_mem_nil, false_implies, implies_true, and_true]
    refine ⟨checkLinks_reports ?_, flag_reports rfl (place_wellFormed (hsome 1 (by decide)) hphase),
      flag_reports rfl (place_wellFormed (hsome 0 (by decide)) hnone),
      flag_reports rfl (place_wellFormed (indexIn_le hlen) hnone),
      flag_reports rfl (place_wellFormed (indexIn_le hlen) hphase)⟩
    rw [List.length_cons] at hlen
    omega

/-! ## Verdicts are well formed -/

/-- What is asked of a verdict: it is accepted, its status fits its errors, its identities
    are bound together, and its diagnostics are in order without duplicates. -/
structure Verdict.WellFormed (v : Verdict) : Prop where
  accepted : validatePomRxV01StrictVerdict v = .ok v
  conformant : v.structuralStatus = .conformant ↔ errorsOf v.diagnostics = []
  nonconformant : v.structuralStatus = .nonconformant ↔ errorsOf v.diagnostics ≠ [] ∧
    ∀ d ∈ errorsOf v.diagnostics, d.diagnosticCode.isStructural = true
  nullability : Nullability v.toIdentity v.structuralStatus
  ordered : Ordered v.diagnostics

theorem requiredStatus_eq_conformant {ds : List Diagnostic} :
    requiredStatus ds = .conformant ↔ errorsOf ds = [] := by
  unfold requiredStatus
  split_ifs <;> simp_all

theorem requiredStatus_eq_nonconformant {ds : List Diagnostic} :
    requiredStatus ds = .nonconformant ↔ errorsOf ds ≠ [] ∧
      ∀ d ∈ errorsOf ds, d.diagnosticCode.isStructural = true := by
  unfold requiredStatus
  split_ifs <;> simp_all

/-- A verdict that is built is well formed. -/
theorem buildPomRxV01StrictVerdict_wellFormed {identity : Identity} {status : Status}
    {ds : List Diagnostic} (hrules : IdentityRules identity status) (hw : ∀ d ∈ ds, d.WellFormed)
    (hready : ∀ d ∈ ds, d.diagnosticCode ≠ .profileIncomplete)
    (hstatus : status = requiredStatus (dedupe [] (sortDiagnostics ds))) :
    ∃ v, buildPomRxV01StrictVerdict identity status ds = .ok v ∧ v.WellFormed ∧
      v.structuralStatus = status ∧ v.toIdentity = identity ∧ ∀ d ∈ v.diagnostics, d ∈ ds := by
  obtain ⟨hbuild, hvalid⟩ := buildPomRxV01StrictVerdict_eq_ok hrules hw hready hstatus
  obtain ⟨hordered, hmem, -, -⟩ :=
    ordered_diagnostics (orderPomRxV01Diagnostics_eq_ok_iff.mpr ⟨hw, rfl⟩)
  refine ⟨_, hbuild, ⟨hvalid, ?_, ?_, hrules.nullability, hordered⟩, rfl, rfl, hmem⟩
  · show status = .conformant ↔ _
    rw [hstatus]
    exact requiredStatus_eq_conformant
  · show status = .nonconformant ↔ _
    rw [hstatus]
    exact requiredStatus_eq_nonconformant

theorem identityRules_empty : IdentityRules {} .indeterminate where
  strings := by simp
  hashes := by simp
  environment := by simp
  receiptHashes := by simp
  nullability := by constructor <;> simp [Identity.somePolicy]

theorem profile_ne_nil : POM_RX_V01_STRICT_PROFILE ≠ [] ∧ POM_RX_V01_STRICT_VERIFIER_VERSION ≠ [] ∧
    POM_RX_SCHEMA_VERSION ≠ [] := by decide +kernel

/-- The identities of a binding satisfy the rules. -/
theorem Binding.identityRules (b : Binding) {hashes : Option (List HashText)} {status : Status}
    (hhashes : ∀ hs ∈ hashes, hs ≠ []) (hstatus : status ≠ .indeterminate → hashes ≠ none) :
    IdentityRules (b.identity hashes) status where
  strings := by
    obtain ⟨hprofile, hversion, hschema⟩ := profile_ne_nil
    simp only [Binding.identity, List.forall_mem_cons, Option.mem_def, Option.some.injEq, forall_eq',
      List.not_mem_nil, false_implies, implies_true, and_true]
    refine ⟨?_, hprofile, hversion, b.policyId_ne, b.policyVersion_ne⟩
    intro s hs
    obtain ⟨_, -, rfl⟩ := Option.map_eq_some_iff.mp hs
    exact hschema
  hashes := by
    simp only [Binding.identity, List.forall_mem_cons, Option.mem_def, Option.some.injEq, forall_eq',
      List.not_mem_nil, false_implies, implies_true, and_true]
    exact ⟨b.implementationArtifactSha256.property, b.expectedImplementationArtifactSha256.property,
      b.observedImplementationArtifactSha256.property, b.effectivePolicySha256.property⟩
  environment := by
    intro e he
    cases he
    exact b.environment_ne
  receiptHashes := by
    intro s hs
    obtain ⟨h, -, rfl⟩ := List.mem_map.mp hs
    exact h.property
  nullability := by
    have himpl : ∀ h : JsString, h = b.implementationArtifactSha256.val →
        b.expectedImplementationArtifactSha256.val = h ∧
          b.observedImplementationArtifactSha256.val = h := by
      rintro h rfl
      exact ⟨congrArg Subtype.val b.expected_eq, congrArg Subtype.val b.observed_eq⟩
    constructor
    · simp only [Binding.identity, Option.mem_def, Option.some.injEq, forall_eq']
      rfl
    · simp [Binding.identity, Identity.policyBound]
    · simp [Binding.identity, Identity.policyBound]
    · simp [Binding.identity]
    · intro h hh
      obtain ⟨h1, h2⟩ := himpl h (Option.some.inj hh).symm
      exact ⟨congrArg some h1, congrArg some h2, Option.some_ne_none _⟩
    · simp [Binding.identity]
    · simp [Binding.identity, Identity.policyBound]
    · intro s hs
      obtain ⟨hs', hmem, rfl⟩ := Option.map_eq_some_iff.mp hs
      refine ⟨rfl, rfl, ?_⟩
      intro hnil
      have hmap : (hashes.getD []).map Subtype.val = [] := hnil
      rw [hmem, Option.getD_some] at hmap
      exact hhashes hs' hmem (List.map_eq_nil_iff.mp hmap)
    · intro hnone
      obtain rfl : hashes = none := by simpa [Binding.identity] using hnone
      rfl
    · intro hs
      simpa [Binding.identity] using hstatus hs

/-- A well-formed error that is not structural and may enter a verdict. -/
structure Inconclusive (d : Diagnostic) : Prop where
  wellFormed : d.WellFormed
  severity : d.severity = .error
  structural : d.diagnosticCode.isStructural = false
  ready : d.diagnosticCode ≠ .profileIncomplete

theorem diagnosticAt_inconclusive {code : DiagnosticCode} {message : JsString} {place : Place}
    (hplace : place.WellFormed) (hseverity : code.severity = .error)
    (hstructural : code.isStructural = false) (hready : code ≠ .profileIncomplete) :
    Inconclusive (diagnosticAt code message place) :=
  ⟨diagnosticAt_wellFormed hplace, hseverity, hstructural, hready⟩

theorem dedupe_sort_singleton (d : Diagnostic) : dedupe [] (sortDiagnostics [d]) = [d] := by
  simp [sortDiagnostics, dedupe]

/-- One inconclusive diagnostic makes an indeterminate verdict. -/
theorem indeterminate_wellFormed {d : Diagnostic} (hd : Inconclusive d) (binding : Option Binding) :
    ∃ v, indeterminate [d] binding = .ok v ∧ v.WellFormed ∧ v.structuralStatus = .indeterminate ∧
      v.diagnostics ⊆ [d] := by
  have hrules : IdentityRules ((binding.map fun b => b.identity none).getD {}) .indeterminate := by
    cases binding with
    | none => exact identityRules_empty
    | some b => exact b.identityRules (by simp) (fun h => absurd rfl h)
  have hstatus : Status.indeterminate = requiredStatus (dedupe [] (sortDiagnostics [d])) := by
    rw [dedupe_sort_singleton, requiredStatus, errorsOf]
    simp [hd.severity, hd.structural]
  obtain ⟨v, hbuild, hv, hvs, -, hmem⟩ := buildPomRxV01StrictVerdict_wellFormed hrules
    (by simpa using hd.wellFormed) (by simpa using hd.ready) hstatus
  exact ⟨v, hbuild, hv, hvs, hmem⟩

/-- Structural diagnostics make a verdict: conformant when there are none, otherwise
    nonconformant. -/
theorem completed_wellFormed {ds : List Diagnostic} (hds : ∀ d ∈ ds, Structural d) (b : Binding)
    {hashes : List HashText} (hhashes : hashes ≠ []) :
    ∃ v, buildPomRxV01StrictVerdict (b.identity (some hashes))
        (if ds.length = 0 then .conformant else .nonconformant) ds = .ok v ∧ v.WellFormed ∧
      v.structuralStatus = (if ds.length = 0 then .conformant else .nonconformant) ∧
      v.toIdentity = b.identity (some hashes) ∧ ∀ d ∈ v.diagnostics, d ∈ ds := by
  have horder := orderPomRxV01Diagnostics_eq_ok_iff.mpr ⟨fun d hd => (hds d hd).1, rfl⟩
  obtain ⟨-, hmem, -, hne⟩ := ordered_diagnostics horder
  have herror : errorsOf (dedupe [] (sortDiagnostics ds)) = dedupe [] (sortDiagnostics ds) := by
    rw [errorsOf, List.filter_eq_self]
    intro d hd
    obtain ⟨hw, hcode⟩ := hds d (hmem d hd)
    rw [hw.severity, ← severity_of_structural hcode]
    rfl
  have hstatus : (if ds.length = 0 then Status.conformant else .nonconformant) =
      requiredStatus (dedupe [] (sortDiagnostics ds)) := by
    split_ifs with hlen
    · rw [List.length_eq_zero_iff.mp hlen]
      rfl
    · have hnil : ds ≠ [] := fun h => hlen (by rw [h]; rfl)
      symm
      rw [requiredStatus_eq_nonconformant, herror]
      exact ⟨hne hnil, fun d hd => (hds d (hmem d hd)).2⟩
  refine buildPomRxV01StrictVerdict_wellFormed ?_ (fun d hd => (hds d hd).1) ?_ hstatus
  · apply b.identityRules
    · intro hs hmem
      cases hmem
      exact hhashes
    · simp
  · intro d hd hcode
    have := (hds d hd).2
    rw [hcode] at this
    cases this

/-! ## The exits before the chain -/

theorem diagnostic_inconclusive {code : DiagnosticCode} {message : JsString} {place : Place}
    (hplace : place.WellFormed) (hseverity : code.severity = .error)
    (hstructural : code.isStructural = false) (hready : code ≠ .profileIncomplete) :
    ∃ d, diagnostic code message place = .ok d ∧ Inconclusive d ∧ d.diagnosticCode = code :=
  ⟨_, diagnostic_eq_ok hplace, diagnosticAt_inconclusive hplace hseverity hstructural hready, rfl⟩

/-- The codes of `validateOptions`. -/
theorem validateOptions_cases (options : Option JsValue) :
    validateOptions options = .ok none ∨
      ∃ d, validateOptions options = .ok (some d) ∧ Inconclusive d ∧
        d.diagnosticCode ≠ .internalVerifierError := by
  have hsome : ∀ {code : DiagnosticCode} {message : JsString}, code.severity = .error →
      code.isStructural = false → code ≠ .profileIncomplete → code ≠ .internalVerifierError →
      (diagnostic code message).map some = .ok none ∨
        ∃ d, (diagnostic code message).map some = .ok (some d) ∧ Inconclusive d ∧
          d.diagnosticCode ≠ .internalVerifierError := by
    intro code message hseverity hstructural hready hinternal
    obtain ⟨d, hd, hinc, hcode⟩ :=
      diagnostic_inconclusive place_empty_wellFormed hseverity hstructural hready
    right
    refine ⟨d, ?_, hinc, hcode.symm ▸ hinternal⟩
    rw [hd]
    rfl
  unfold validateOptions
  split
  · split_ifs
    · exact hsome rfl rfl (by decide) (by decide)
    · exact hsome rfl rfl (by decide) (by decide)
    · exact hsome rfl rfl (by decide) (by decide)
    · exact hsome rfl rfl (by decide) (by decide)
    · split
      · exact .inl rfl
      · exact .inl rfl
      · exact hsome rfl rfl (by decide) (by decide)
  · exact hsome rfl rfl (by decide) (by decide)

/-- What `bindVerifier` throws becomes one inconclusive diagnostic. -/
theorem diagnosticFromError_binding (e : BindingError) :
    ∃ d, diagnosticFromError e.thrown = .ok d ∧ Inconclusive d := by
  have hinternal : ∀ message, ∃ d, diagnostic .internalVerifierError message = .ok d ∧ Inconclusive d := by
    intro message
    obtain ⟨d, hd, hinc, -⟩ := @diagnostic_inconclusive .internalVerifierError message {}
      place_empty_wellFormed rfl rfl (by decide)
    exact ⟨d, hd, hinc⟩
  obtain ⟨thrown, hcode⟩ := e
  cases thrown with
  | strict e =>
    by_cases hready : e.code = .profileIncomplete
    · simp only [diagnosticFromError, hready, if_true]
      exact hinternal _
    · obtain ⟨hseverity, hstructural⟩ := hcode e rfl
      obtain ⟨d, hd, hinc, -⟩ := @diagnostic_inconclusive e.code e.message {}
        place_empty_wellFormed hseverity hstructural hready
      simp only [diagnosticFromError, hready, if_false]
      exact ⟨d, hd, hinc⟩
  | error message => exact hinternal message
  | other => exact hinternal _

section Exits

variable {N : Normalization} {R : Runtime}

theorem commitLoop_eq_ok_iff {index : ℕ} {xs : List JsValue} {committed : List Committed} :
    commitLoop N R index xs = .ok committed ↔
      List.Forall₂ (fun x c => commitPomRxReceipt N R x = .ok c) xs committed := by
  induction xs generalizing index committed with
  | nil => simp [commitLoop, eq_comm]
  | cons x xs ih =>
    rw [List.forall₂_cons_left_iff, commitLoop]
    cases hx : commitPomRxReceipt N R x with
    | error e => simp
    | ok c =>
      simp only [map_eq_ok, ih, Except.ok.injEq]
      constructor
      · rintro ⟨cs, hcs, rfl⟩
        exact ⟨c, cs, rfl, hcs, rfl⟩
      · rintro ⟨_, cs, rfl, hcs, rfl⟩
        exact ⟨cs, hcs, rfl⟩

/-- The index of a rejected receipt is one of the list. -/
theorem commitLoop_eq_error {index i : ℕ} {xs : List JsValue} {e : ReceiptError}
    (h : commitLoop N R index xs = .error (i, e)) : i < index + xs.length := by
  induction xs generalizing index with
  | nil => cases h
  | cons x xs ih =>
    rw [commitLoop] at h
    rw [List.length_cons]
    split at h
    · cases h
      omega
    · cases hrest : commitLoop N R (index + 1) xs with
      | ok cs =>
        rw [hrest] at h
        cases h
      | error e' =>
        rw [hrest] at h
        cases h
        have := ih hrest
        omega

/-- When the receipts are committed. -/
theorem commitStrictReceipts_eq_ok_iff {receipts : JsValue} {committed : List Committed} :
    commitStrictReceipts N R receipts = .ok (.ok committed) ↔
      ∃ xs, receipts = .array xs ∧ 1 ≤ xs.length ∧ xs.length ≤ PHASES.length ∧
        List.Forall₂ (fun x c => commitPomRxReceipt N R x = .ok c) xs committed := by
  unfold commitStrictReceipts
  constructor
  · intro h
    split at h
    · rename_i xs
      split_ifs at h with hlen
      · split at h
        · rename_i cs hcs
          cases h
          exact ⟨xs, rfl, hlen.1, hlen.2, commitLoop_eq_ok_iff.mp hcs⟩
        · obtain ⟨d, -, h⟩ := bind_eq_ok.mp h
          cases h
      · obtain ⟨d, -, h⟩ := bind_eq_ok.mp h
        cases h
    · obtain ⟨d, -, h⟩ := bind_eq_ok.mp h
      cases h
  · rintro ⟨xs, rfl, hpos, hlen, hcommit⟩
    simp only [hpos, hlen, and_self, if_true, commitLoop_eq_ok_iff.mpr hcommit]

/-- Receipts that are not committed give one inconclusive diagnostic. -/
theorem commitStrictReceipts_cases (receipts : JsValue) :
    (∃ committed, commitStrictReceipts N R receipts = .ok (.ok committed)) ∨
      ∃ d, commitStrictReceipts N R receipts = .ok (.error [d]) ∧ Inconclusive d ∧
        d.diagnosticCode = .schemaInvalid := by
  have hfail : ∀ message place, Place.WellFormed place →
      ∃ d, (do
        let d ← diagnostic .schemaInvalid message place
        .ok (.error [d]) : Except StrictError (Except (List Diagnostic) (List Committed))) =
          .ok (.error [d]) ∧ Inconclusive d ∧ d.diagnosticCode = .schemaInvalid := by
    intro message place hplace
    obtain ⟨d, hd, hinc, hcode⟩ := @diagnostic_inconclusive .schemaInvalid message place hplace
      rfl rfl (by decide)
    refine ⟨d, ?_, hinc, hcode⟩
    rw [hd]
    rfl
  unfold commitStrictReceipts
  split
  · split_ifs with hlen
    · split
      · exact .inl ⟨_, rfl⟩
      · rename_i index e herror
        have hindex := commitLoop_eq_error herror
        have hlen := hlen.2
        rw [show PHASES.length = 3 from rfl] at hlen
        exact .inr (hfail _ _ (place_wellFormed (by simp; omega) (by simp)))
    · exact .inr (hfail _ _ place_empty_wellFormed)
  · exact .inr (hfail _ _ place_empty_wellFormed)

/-- Receipts that follow one another are in order. -/
theorem inOrder_of_chained {allowPartial : Bool} {first : Committed} {rest : List Committed}
    (h : Chained allowPartial first rest) : InOrder ((first :: rest).map Committed.receipt) where
  ne_nil := by simp
  phases := by
    have hphases := phases_of_follows h.links
    rw [h.start] at hphases
    rw [List.map_map]
    exact hphases

/-- A chain without base diagnostics does not make an invariant checker throw. -/
theorem runStrictInvariants_of_checkBaseChain {committed : List Committed} {allowPartial : Bool}
    (h : checkBaseChain committed allowPartial = .ok []) :
    Reports (runStrictInvariants (committed.map fun c => c.receipt.toJs)) := by
  cases committed with
  | nil => cases h
  | cons first rest =>
    have hreports := runStrictInvariants_toJs (inOrder_of_chained (checkBaseChain_eq_nil_iff.mp h))
    rw [List.map_map] at hreports
    exact hreports

theorem Binding.receiptHashes_identity (binding : Binding) (committed : List Committed) :
    (binding.identity (some (committed.map Committed.receiptHash))).receiptHashes =
      committed.map (·.receiptHash.val) :=
  List.map_map

/-- The verdict on committed receipts. -/
theorem verifyCommitted_spec (binding : Binding) (allowPartial : Bool) {committed : List Committed}
    (hne : committed ≠ []) (hlen : committed.length ≤ 3) :
    ∃ v, verifyCommitted binding allowPartial committed = .ok v ∧ v.WellFormed ∧
      v.receiptHashes = committed.map (·.receiptHash.val) ∧
      (v.structuralStatus = .conformant ↔ checkBaseChain committed allowPartial = .ok [] ∧
        runStrictInvariants (committed.map fun c => c.receipt.toJs) = .ok []) ∧
      ∀ d ∈ v.diagnostics, d.diagnosticCode.isStructural = true := by
  have hbase : Reports (checkBaseChain committed allowPartial) := by
    obtain ⟨first, rest, rfl⟩ := List.exists_cons_of_ne_nil hne
    exact checkBaseChain_reports allowPartial hlen
  obtain ⟨base, hbase, hstructural⟩ := hbase
  have hhashes : committed.map Committed.receiptHash ≠ [] := by simpa using hne
  by_cases hnil : base = []
  · subst hnil
    obtain ⟨ds, hds, hall⟩ := runStrictInvariants_of_checkBaseChain hbase
    obtain ⟨v, hbuild, hv, hstatus, hidentity, hmem⟩ := completed_wellFormed hall binding hhashes
    refine ⟨v, bind_eq_ok.mpr ⟨[], hbase, ?_⟩, hv, ?_, ?_, fun d hd => (hall d (hmem d hd)).2⟩
    · rw [List.length_nil, if_neg (Nat.not_lt_zero 0), hds]
      exact hbuild
    · rw [hidentity]
      exact binding.receiptHashes_identity committed
    · rw [hstatus, hbase, hds]
      simp
  · obtain ⟨v, hbuild, hv, hstatus, hidentity, hmem⟩ := completed_wellFormed hstructural binding hhashes
    have hpos : 0 < base.length := List.length_pos_iff.mpr hnil
    rw [if_neg (by omega)] at hbuild hstatus
    refine ⟨v, bind_eq_ok.mpr ⟨base, hbase, ?_⟩, hv, ?_, ?_, fun d hd => (hstructural d (hmem d hd)).2⟩
    · rw [if_pos hpos]
      exact hbuild
    · rw [hidentity]
      exact binding.receiptHashes_identity committed
    · rw [hstatus, hbase]
      simp [hnil]

end Exits

/-! ## Main results -/

section Main

variable (N : Normalization) (R : Runtime)

theorem verifyPomRxChainProfiled_of_committed {receipts : JsValue} {options : Option JsValue}
    {binding : Binding} {committed : List Committed} (hoptions : validateOptions options = .ok none)
    (hcommitted : commitStrictReceipts N R receipts = .ok (.ok committed)) :
    verifyPomRxChainProfiled N R receipts options (.ok binding) =
      verifyCommitted binding (allowPartialOf options) committed := by
  rw [verifyPomRxChainProfiled, hoptions]
  show (commitStrictReceipts N R receipts >>= _) = _
  rw [hcommitted]
  rfl

theorem verifyPomRxChainProfiled_of_rejected {receipts : JsValue} {options : Option JsValue}
    {binding : Binding} {ds : List Diagnostic} (hoptions : validateOptions options = .ok none)
    (hrejected : commitStrictReceipts N R receipts = .ok (.error ds)) :
    verifyPomRxChainProfiled N R receipts options (.ok binding) = indeterminate ds (some binding) := by
  rw [verifyPomRxChainProfiled, hoptions]
  show (commitStrictReceipts N R receipts >>= _) = _
  rw [hrejected]
  rfl

/-- The lengths of a list of receipts that is committed. -/
theorem length_of_committed {receipts : JsValue} {committed : List Committed}
    (h : commitStrictReceipts N R receipts = .ok (.ok committed)) :
    committed ≠ [] ∧ committed.length ≤ 3 := by
  obtain ⟨xs, -, hpos, hlen, hcommit⟩ := commitStrictReceipts_eq_ok_iff.mp h
  have hlength := hcommit.length_eq
  rw [show PHASES.length = 3 from rfl] at hlen
  refine ⟨?_, by omega⟩
  rintro rfl
  rw [List.length_nil] at hlength
  omega

/-- Every input gives a verdict, and it is well formed. An invariant checker does not throw
    on receipts without base diagnostics, and an internal error comes from the binding step. -/
theorem verifyPomRxChainProfiled_wellFormed (receipts : JsValue) (options : Option JsValue)
    (binding : Except BindingError Binding) :
    ∃ v, verifyPomRxChainProfiled N R receipts options binding = .ok v ∧ v.WellFormed ∧
      (∀ committed, commitStrictReceipts N R receipts = .ok (.ok committed) →
        checkBaseChain committed (allowPartialOf options) = .ok [] →
        ∃ ds, runStrictInvariants (committed.map fun c => c.receipt.toJs) = .ok ds) ∧
      ((∃ d ∈ v.diagnostics, d.diagnosticCode = .internalVerifierError) → ∃ e, binding = .error e) := by
  have hinvariants : ∀ committed, commitStrictReceipts N R receipts = .ok (.ok committed) →
      checkBaseChain committed (allowPartialOf options) = .ok [] →
      ∃ ds, runStrictInvariants (committed.map fun c => c.receipt.toJs) = .ok ds := by
    intro committed _ hbase
    obtain ⟨ds, hds, -⟩ := runStrictInvariants_of_checkBaseChain hbase
    exact ⟨ds, hds⟩
  rcases validateOptions_cases options with hoptions | ⟨d, hoptions, hd, hcode⟩
  · cases binding with
    | error e =>
      obtain ⟨d, hdiagnostic, hd⟩ := diagnosticFromError_binding e
      obtain ⟨v, hv, hwell, -, -⟩ := indeterminate_wellFormed hd none
      refine ⟨v, ?_, hwell, hinvariants, fun _ => ⟨e, rfl⟩⟩
      rw [verifyPomRxChainProfiled, hoptions]
      show (diagnosticFromError e.thrown >>= fun d => indeterminate [d] none) = _
      rw [hdiagnostic]
      exact hv
    | ok b =>
      rcases commitStrictReceipts_cases (N := N) (R := R) receipts with
        ⟨committed, hcommitted⟩ | ⟨d, hrejected, hd, hcode⟩
      · obtain ⟨hne, hlen⟩ := length_of_committed N R hcommitted
        obtain ⟨v, hv, hwell, -, -, hcodes⟩ :=
          verifyCommitted_spec b (allowPartialOf options) hne hlen
        refine ⟨v, ?_, hwell, hinvariants, ?_⟩
        · rw [verifyPomRxChainProfiled_of_committed N R hoptions hcommitted, hv]
        · rintro ⟨d, hd, hcode⟩
          have := hcodes d hd
          rw [hcode] at this
          cases this
      · obtain ⟨v, hv, hwell, -, hsub⟩ := indeterminate_wellFormed hd (some b)
        refine ⟨v, ?_, hwell, hinvariants, ?_⟩
        · rw [verifyPomRxChainProfiled_of_rejected N R hoptions hrejected, hv]
        · rintro ⟨d', hd', hcode'⟩
          rw [List.mem_singleton.mp (hsub hd'), hcode] at hcode'
          cases hcode'
  · obtain ⟨v, hv, hwell, -, hsub⟩ := indeterminate_wellFormed hd none
    refine ⟨v, ?_, hwell, hinvariants, ?_⟩
    · unfold verifyPomRxChainProfiled
      rw [hoptions]
      exact hv
    · rintro ⟨d', hd', hcode'⟩
      rw [List.mem_singleton.mp (hsub hd')] at hcode'
      exact absurd hcode' hcode

/-- On committed receipts the collecting checker and the throwing one agree. -/
theorem checkBaseChain_eq_nil_iff_assert {receipts : JsValue} {committed : List Committed}
    {allowPartial : Bool} (h : commitStrictReceipts N R receipts = .ok (.ok committed)) :
    checkBaseChain committed allowPartial = .ok [] ↔
      assertPomRxChain N R receipts allowPartial = .ok committed := by
  obtain ⟨xs, rfl, -, hlen, hcommit⟩ := commitStrictReceipts_eq_ok_iff.mp h
  obtain ⟨first, rest, rfl⟩ := List.exists_cons_of_ne_nil (length_of_committed N R h).1
  rw [checkBaseChain_eq_nil_iff, assertPomRxChain_eq_ok_iff]
  constructor
  · intro hchained
    exact ⟨xs, rfl, hlen, hcommit, first, rest, rfl, hchained⟩
  · rintro ⟨_, -, -, -, _, _, heq, hchained⟩
    cases heq
    exact hchained

theorem isOk_verifyPomRxChain {receipts : JsValue} {allowPartial : Bool} :
    (verifyPomRxChain N R receipts allowPartial).isOk = (assertPomRxChain N R receipts allowPartial).isOk := by
  unfold verifyPomRxChain
  cases assertPomRxChain N R receipts allowPartial <;> rfl

/-- A list that `assertPomRxChain` accepts is committed by the strict verifier too. -/
theorem commitStrictReceipts_of_assert {receipts : JsValue} {allowPartial : Bool} {chain : List Committed}
    (h : assertPomRxChain N R receipts allowPartial = .ok chain) :
    commitStrictReceipts N R receipts = .ok (.ok chain) := by
  obtain ⟨xs, rfl, hlen, hcommit, first, rest, rfl, -⟩ := assertPomRxChain_eq_ok_iff.mp h
  refine commitStrictReceipts_eq_ok_iff.mpr ⟨xs, rfl, ?_, hlen, hcommit⟩
  rw [hcommit.length_eq]
  exact Nat.succ_pos _

/-- Once the binding step succeeds, the verdict is `conformant` exactly when
    `verifyPomRxChain` is `ok` and the invariant checkers report nothing; both then have the
    same receipt hashes. -/
theorem verifyPomRxChainProfiled_refines (receipts : JsValue) (options : Option JsValue)
    (binding : Binding) (hoptions : validateOptions options = .ok none) :
    ∃ v, verifyPomRxChainProfiled N R receipts options (.ok binding) = .ok v ∧
      (v.structuralStatus = .conformant ↔
        (verifyPomRxChain N R receipts (allowPartialOf options)).isOk = true ∧
        ∃ committed, commitStrictReceipts N R receipts = .ok (.ok committed) ∧
          runStrictInvariants (committed.map fun c => c.receipt.toJs) = .ok []) ∧
      (v.structuralStatus = .conformant → ∃ report,
        verifyPomRxChain N R receipts (allowPartialOf options) = .ok report ∧
        v.receiptHashes = report.receiptHashes.map Subtype.val) ∧
      ∀ committed, commitStrictReceipts N R receipts = .ok (.ok committed) →
        (checkBaseChain committed (allowPartialOf options) = .ok [] ↔
          (assertPomRxChain N R receipts (allowPartialOf options)).isOk = true) := by
  have hagree : ∀ committed, commitStrictReceipts N R receipts = .ok (.ok committed) →
      (checkBaseChain committed (allowPartialOf options) = .ok [] ↔
        (assertPomRxChain N R receipts (allowPartialOf options)).isOk = true) := by
    intro committed hcommitted
    rw [checkBaseChain_eq_nil_iff_assert N R hcommitted, isOk_iff]
    constructor
    · intro h
      exact ⟨committed, h⟩
    · rintro ⟨chain, h⟩
      have := commitStrictReceipts_of_assert N R h
      rw [hcommitted] at this
      cases this
      exact h
  rcases commitStrictReceipts_cases (N := N) (R := R) receipts with
    ⟨committed, hcommitted⟩ | ⟨d, hrejected, hd, -⟩
  · obtain ⟨hne, hlen⟩ := length_of_committed N R hcommitted
    obtain ⟨v, hv, -, hhashes, hconformant, -⟩ :=
      verifyCommitted_spec binding (allowPartialOf options) hne hlen
    refine ⟨v, ?_, ?_, ?_, hagree⟩
    · rw [verifyPomRxChainProfiled_of_committed N R hoptions hcommitted, hv]
    · rw [hconformant, hagree committed hcommitted, isOk_verifyPomRxChain]
      constructor
      · rintro ⟨hbase, hinvariants⟩
        exact ⟨hbase, committed, hcommitted, hinvariants⟩
      · rintro ⟨hbase, chain, hchain, hinvariants⟩
        rw [hcommitted] at hchain
        cases hchain
        exact ⟨hbase, hinvariants⟩
    · intro hstatus
      have hassert := (checkBaseChain_eq_nil_iff_assert N R hcommitted).mp (hconformant.mp hstatus).1
      refine ⟨_, verifyPomRxChain_eq_ok.mpr ⟨committed, hassert, rfl⟩, ?_⟩
      rw [hhashes]
      exact List.map_map.symm
  · obtain ⟨v, hv, -, hstatus, -⟩ := indeterminate_wellFormed hd (some binding)
    refine ⟨v, ?_, ?_, ?_, hagree⟩
    · rw [verifyPomRxChainProfiled_of_rejected N R hoptions hrejected, hv]
    · rw [hstatus, hrejected]
      simp
    · intro h
      rw [hstatus] at h
      cases h

end Main

/-! ## A conformant chain -/

/-- The digest of sixty-four equal digits. -/
theorem sampleDigest_pattern : HASH_PATTERN (List.replicate 64 0x61) = true := by decide

def sampleDigest : HashText := ⟨List.replicate 64 0x61, sampleDigest_pattern⟩

def sampleEnvironment : Environment where
  nodeVersion := js "24.3.0"
  icuVersion := js "77.1"
  unicodeVersion := js "16.0"
  locale := js "en-US"
  platform := js "linux"
  arch := js "x64"

def sampleBinding : Binding where
  implementationArtifactSha256 := sampleDigest
  expectedImplementationArtifactSha256 := sampleDigest
  observedImplementationArtifactSha256 := sampleDigest
  executionEnvironment := sampleEnvironment
  effectivePolicyId := js "policy"
  effectivePolicyVersion := js "1"
  effectivePolicySha256 := sampleDigest
  expected_eq := rfl
  observed_eq := rfl
  environment_ne := by decide
  policyId_ne := by decide
  policyVersion_ne := by decide

/-- The strict profile, with partial chains allowed. -/
def partialOptions : JsValue :=
  .object [(js "verificationProfile", .string POM_RX_V01_STRICT_PROFILE),
    (js "allowPartial", .bool true)]

theorem validateOptions_partialOptions : validateOptions (some partialOptions) = .ok none := by
  rfl

/-- A preflight receipt alone. -/
def preflightChain : JsValue :=
  .array [samplePreflight (js "agent") (js "2026-06-01T10:00:00.000Z")]

theorem preflightChain_conforms :
    ((assertPomRxChain devanagari sampleRuntime preflightChain true).toOption.any fun committed =>
      (runStrictInvariants (committed.map fun c => c.receipt.toJs)).toOption == some []) = true := by
  decide +kernel

theorem verifyPomRxChainProfiled_refines_preflight :
    ∃ v, verifyPomRxChainProfiled devanagari sampleRuntime preflightChain (some partialOptions)
        (.ok sampleBinding) = .ok v ∧ v.structuralStatus = .conformant := by
  obtain ⟨v, hv, hconformant, -⟩ := verifyPomRxChainProfiled_refines devanagari sampleRuntime
    preflightChain (some partialOptions) sampleBinding validateOptions_partialOptions
  have hconforms := preflightChain_conforms
  rw [Option.any_eq_true] at hconforms
  obtain ⟨committed, hassert, hinvariants⟩ := hconforms
  have hassert := toOption_eq_some.mp hassert
  have hinvariants := toOption_eq_some.mp (beq_iff_eq.mp hinvariants)
  refine ⟨v, hv, hconformant.mpr ⟨?_, committed, ?_, hinvariants⟩⟩
  · rw [isOk_verifyPomRxChain]
    exact isOk_iff.mpr ⟨committed, hassert⟩
  · exact commitStrictReceipts_of_assert _ _ hassert

end OpenRisk.Strict
