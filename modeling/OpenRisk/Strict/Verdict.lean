import OpenRisk.Strict.Diagnostics

/-!
# Verdicts of the strict verifier

Model of `sdk/typescript/internal/pom-rx-v01-verdict.mjs`. A verdict is a record with the
properties of `TOP_LEVEL_KEYS`, and an execution environment one with its six properties,
in their order: the tests of the property names are absent.

Results:
* `validateBindingNullability_eq_ok_iff`: the nullability rules as a proposition.
* `buildPomRxV01StrictVerdict_eq_ok`: identities that satisfy `IdentityRules` and
  well-formed diagnostics that fit the status give a verdict, which is accepted again.
-/

namespace OpenRisk.Strict

open Text Sdk PomRx

/-! ## Model -/

/-- `STRICT_PROFILE`. -/
def STRICT_PROFILE : JsString := js "pom-rx-v0.1/strict-errata-1"

/-- `STRUCTURAL_ERROR_CODES.has(code)`. -/
def DiagnosticCode.isStructural : DiagnosticCode → Bool
  | .receiptHashLinkInvalid => true
  | .chainPhaseInvalid => true
  | .chainTimestampInvalid => true
  | .chainSharedFieldChanged => true
  | .partialChainForbidden => true
  | .actionContinuity => true
  | .inputContinuity => true
  | .executionAssertionConflict => true
  | .reconciliationAssertionConflict => true
  | .duplicateReceiptId => true
  | _ => false

inductive Status where
  | conformant
  | nonconformant
  | indeterminate
  deriving DecidableEq

/-- `qualificationFor(status)`. -/
def qualificationFor : Status → JsString
  | .conformant => js "STRICT_STRUCTURAL_CONFORMANCE_OBSERVED"
  | .nonconformant => js "STRICT_STRUCTURAL_NONCONFORMANCE_OBSERVED"
  | .indeterminate => js "STRICT_VERIFICATION_INDETERMINATE"

/-- The measured runtime. -/
structure Environment where
  nodeVersion : JsString
  icuVersion : JsString
  unicodeVersion : JsString
  locale : JsString
  platform : JsString
  arch : JsString
  deriving DecidableEq

def Environment.entries (e : Environment) : List (JsString × JsString) :=
  [(js "node_version", e.nodeVersion), (js "icu_version", e.icuVersion),
    (js "unicode_version", e.unicodeVersion), (js "locale", e.locale), (js "platform", e.platform),
    (js "arch", e.arch)]

/-- The identities of a verdict, `null` where they are not bound. -/
structure Identity where
  receiptSchemaVersion : Option JsString := none
  receiptHashes : List JsString := []
  verifierProfile : Option JsString := none
  verifierVersion : Option JsString := none
  implementationArtifactSha256 : Option JsString := none
  expectedImplementationArtifactSha256 : Option JsString := none
  observedImplementationArtifactSha256 : Option JsString := none
  executionEnvironment : Option Environment := none
  effectivePolicyId : Option JsString := none
  effectivePolicyVersion : Option JsString := none
  effectivePolicySha256 : Option JsString := none

/-- A verdict. -/
structure Verdict extends Identity where
  verdictSchemaVersion : JsString
  qualification : JsString
  assurance : Option JsString
  authorizationEligible : Bool
  authorizationProved : Bool
  structuralStatus : Status
  structuralPrerequisiteSatisfied : Bool
  diagnostics : List Diagnostic
  warnings : List JsString
  limitations : List JsString

/-- `nullableString(value, label)`. -/
def nullableString (value : Option JsString) (label : JsString) : Except StrictError Unit :=
  require (value.all fun s => s.length ≠ 0) (label ++ js " must be null or non-empty string")

/-- `nullableHash(value, label)`. -/
def nullableHash (value : Option JsString) (label : JsString) : Except StrictError Unit :=
  require (value.all HASH_PATTERN) (label ++ js " must be null or lowercase SHA-256")

/-- The loop over the properties of an environment. -/
def validateEntries : List (JsString × JsString) → Except StrictError Unit
  | [] => .ok ()
  | (key, value) :: entries => do
    require (value.length ≠ 0) (js "execution_environment." ++ key ++ js " is invalid")
    validateEntries entries

/-- `validateEnvironment(environment)`. -/
def validateEnvironment : Option Environment → Except StrictError Unit
  | none => .ok ()
  | some environment => validateEntries environment.entries

/-- The errors among the diagnostics. -/
def errorsOf (diagnostics : List Diagnostic) : List Diagnostic :=
  diagnostics.filter fun d => d.severity = .error

/-- `requiredStatus`. -/
def requiredStatus (diagnostics : List Diagnostic) : Status :=
  if errorsOf diagnostics = [] then .conformant
  else if (errorsOf diagnostics).any fun d => !d.diagnosticCode.isStructural then .indeterminate
  else .nonconformant

/-- `validateTruthTable(status, diagnostics)`. -/
def validateTruthTable (status : Status) (diagnostics : List Diagnostic) : Except StrictError Unit :=
  require (status = requiredStatus diagnostics) (js "Strict verdict truth table is invalid")

/-- `policyFields.every((value) => value !== null)`. -/
def Identity.policyBound (v : Identity) : Bool :=
  v.effectivePolicyId.isSome && v.effectivePolicyVersion.isSome && v.effectivePolicySha256.isSome

/-- `policyFields.some((value) => value !== null)`. -/
def Identity.somePolicy (v : Identity) : Bool :=
  v.effectivePolicyId.isSome || v.effectivePolicyVersion.isSome || v.effectivePolicySha256.isSome

/-- The test of the three artifact digests and `verifier_version`. -/
def validateArtifact (v : Identity) : Except StrictError Unit :=
  if v.implementationArtifactSha256.isSome then
    require (v.expectedImplementationArtifactSha256 = v.implementationArtifactSha256 &&
        v.observedImplementationArtifactSha256 = v.implementationArtifactSha256 &&
        v.verifierVersion.isSome)
      (js "Bound artifact identity requires equal expected and observed digests plus verifier version")
  else
    require v.verifierVersion.isNone (js "verifier_version requires a bound artifact identity")

/-- The test of `receipt_schema_version` and `receipt_hashes`. -/
def validateReceiptIdentity (v : Identity) : Except StrictError Unit :=
  if v.receiptSchemaVersion.isSome then
    require (v.receiptSchemaVersion = some (js "pom-rx/0.1") &&
        v.verifierProfile = some STRICT_PROFILE && v.receiptHashes.length ≠ 0)
      (js "Receipt identity requires the selected strict profile and complete receipt hashes")
  else
    require (v.receiptHashes.length = 0)
      (js "receipt_hashes must be empty until receipt schema binding completes")

/-- `validateBindingNullability(verdict)`. -/
def validateBindingNullability (v : Identity) (status : Status) : Except StrictError Unit := do
  require (v.verifierProfile.isNone || v.verifierProfile = some STRICT_PROFILE)
    (js "verifier_profile is unsupported")
  require (v.policyBound || !v.somePolicy) (js "Policy identity fields must populate together")
  require (v.expectedImplementationArtifactSha256.isNone || v.policyBound)
    (js "Expected artifact identity requires policy binding")
  require (v.observedImplementationArtifactSha256.isNone ||
      (v.expectedImplementationArtifactSha256.isSome && v.executionEnvironment.isSome))
    (js "Observed artifact identity requires expected identity and measured environment")
  validateArtifact v
  require (v.verifierProfile.isNone || (v.policyBound && v.implementationArtifactSha256.isSome))
    (js "verifier_profile requires policy and artifact binding")
  validateReceiptIdentity v
  require (status = .indeterminate || v.receiptSchemaVersion.isSome)
    (js "Completed structural status requires validated receipt identity")

/-- The codes of the warnings, each once, in their order. -/
def warningsOf (diagnostics : List Diagnostic) : List JsString :=
  diagnostics.foldl (fun warnings d =>
    if d.severity = .warning ∧ d.diagnosticCode.text ∉ warnings then
      warnings ++ [d.diagnosticCode.text]
    else warnings) []

/-- A diagnostic as it is written. -/
def Diagnostic.toJson (d : Diagnostic) : Json :=
  .object [(js "defect_id", jsonText (d.defectId.map DefectId.text)),
    (js "diagnostic_code", .string d.diagnosticCode.text), (js "severity", .string d.severity.text),
    (js "phase", jsonText (d.phase.map Phase.text)), (js "receipt_index", jsonIndex d.receiptIndex),
    (js "field", jsonText d.field), (js "message", .string d.message)]

/-- `JSON.stringify(diagnostics)`. -/
def stringifyDiagnostics (ds : List Diagnostic) : JsString :=
  Json.print (.array (ds.map Diagnostic.toJson))

/-- The verdict of a status: the assurance is that of a completed verification. -/
def assuranceFor (status : Status) : Option JsString :=
  if status = .indeterminate then none else some (js "frozen-v0.1-structural-verification")

/-- `validatePomRxV01StrictVerdict(verdict)`. The result is a copy of the verdict. -/
def validatePomRxV01StrictVerdict (v : Verdict) : Except StrictError Verdict := do
  require (v.verdictSchemaVersion = js "pom-rx-verification-verdict/1")
    (js "verdict_schema_version is invalid")
  nullableString v.receiptSchemaVersion (js "receipt_schema_version")
  nullableString v.verifierProfile (js "verifier_profile")
  nullableString v.verifierVersion (js "verifier_version")
  nullableHash v.implementationArtifactSha256 (js "implementation_artifact_sha256")
  nullableHash v.expectedImplementationArtifactSha256 (js "expected_implementation_artifact_sha256")
  nullableHash v.observedImplementationArtifactSha256 (js "observed_implementation_artifact_sha256")
  nullableString v.effectivePolicyId (js "effective_policy_id")
  nullableString v.effectivePolicyVersion (js "effective_policy_version")
  nullableHash v.effectivePolicySha256 (js "effective_policy_sha256")
  validateEnvironment v.executionEnvironment
  require (v.receiptHashes.all HASH_PATTERN) (js "receipt_hashes is invalid")
  validateBindingNullability v.toIdentity v.structuralStatus
  require (!v.authorizationEligible && !v.authorizationProved)
    (js "Strict verdict can never authorize")
  require (v.qualification = qualificationFor v.structuralStatus)
    (js "Strict verdict qualification does not match status")
  require (v.structuralPrerequisiteSatisfied = decide (v.structuralStatus = .conformant))
    (js "Strict prerequisite flag does not match status")
  require (v.assurance = assuranceFor v.structuralStatus) (js "Strict assurance does not match status")
  let ordered ← orderPomRxV01Diagnostics v.diagnostics
  require (stringifyDiagnostics ordered = stringifyDiagnostics v.diagnostics)
    (js "Strict diagnostics are not ordered and deduplicated")
  require (!ordered.any fun d => d.diagnosticCode = .profileIncomplete)
    (js "Internal readiness diagnostic leaked into strict verdict")
  validateTruthTable v.structuralStatus ordered
  require (stringifyNames v.warnings = stringifyNames (warningsOf ordered))
    (js "Strict verdict warnings projection is invalid")
  require (stringifyNames v.limitations = stringifyNames PROFILE_LIMITATIONS)
    (js "Strict verdict limitations are invalid")
  .ok { v with diagnostics := ordered, limitations := PROFILE_LIMITATIONS }

/-- The verdict that `buildPomRxV01StrictVerdict` assembles. -/
def assembleVerdict (identity : Identity) (status : Status) (ordered : List Diagnostic) : Verdict where
  toIdentity := identity
  verdictSchemaVersion := js "pom-rx-verification-verdict/1"
  qualification := qualificationFor status
  assurance := assuranceFor status
  authorizationEligible := false
  authorizationProved := false
  structuralStatus := status
  structuralPrerequisiteSatisfied := decide (status = .conformant)
  diagnostics := ordered
  warnings := warningsOf ordered
  limitations := PROFILE_LIMITATIONS

/-- `buildPomRxV01StrictVerdict({ ... })`; no caller passes `limitations`. -/
def buildPomRxV01StrictVerdict (identity : Identity) (status : Status) (diagnostics : List Diagnostic) :
    Except StrictError Verdict := do
  let ordered ← orderPomRxV01Diagnostics diagnostics
  require (!ordered.any fun d => d.diagnosticCode = .profileIncomplete)
    (js "Internal readiness diagnostics cannot enter a strict verdict envelope")
  validateTruthTable status ordered
  require (identity.receiptHashes.all HASH_PATTERN) (js "receipt_hashes is invalid")
  require (stringifyNames PROFILE_LIMITATIONS = stringifyNames PROFILE_LIMITATIONS)
    (js "limitations must equal the stable profile registry")
  validateEnvironment identity.executionEnvironment
  validateBindingNullability identity status
  validatePomRxV01StrictVerdict (assembleVerdict identity status ordered)

/-! ## Rules -/

/-- The rules of `validateBindingNullability`: which identities are bound together. -/
structure Nullability (v : Identity) (status : Status) : Prop where
  profile : ∀ p ∈ v.verifierProfile, p = STRICT_PROFILE
  policy : v.somePolicy = true → v.policyBound = true
  expected : v.expectedImplementationArtifactSha256 ≠ none → v.policyBound = true
  observed : v.observedImplementationArtifactSha256 ≠ none →
    v.expectedImplementationArtifactSha256 ≠ none ∧ v.executionEnvironment ≠ none
  artifact : ∀ h ∈ v.implementationArtifactSha256,
    v.expectedImplementationArtifactSha256 = some h ∧
      v.observedImplementationArtifactSha256 = some h ∧ v.verifierVersion ≠ none
  version : v.verifierVersion ≠ none → v.implementationArtifactSha256 ≠ none
  selected : v.verifierProfile ≠ none →
    v.policyBound = true ∧ v.implementationArtifactSha256 ≠ none
  receipts : ∀ s ∈ v.receiptSchemaVersion,
    s = js "pom-rx/0.1" ∧ v.verifierProfile = some STRICT_PROFILE ∧ v.receiptHashes ≠ []
  noReceipts : v.receiptSchemaVersion = none → v.receiptHashes = []
  completed : status ≠ .indeterminate → v.receiptSchemaVersion ≠ none

theorem validateArtifact_eq_ok {v : Identity} {u : Unit} :
    validateArtifact v = .ok u ↔
      (∀ h ∈ v.implementationArtifactSha256, v.expectedImplementationArtifactSha256 = some h ∧
        v.observedImplementationArtifactSha256 = some h ∧ v.verifierVersion ≠ none) ∧
      (v.verifierVersion ≠ none → v.implementationArtifactSha256 ≠ none) := by
  unfold validateArtifact
  cases himpl : v.implementationArtifactSha256 <;> cases hversion : v.verifierVersion <;>
    simp [require_eq_ok]

theorem validateReceiptIdentity_eq_ok {v : Identity} {u : Unit} :
    validateReceiptIdentity v = .ok u ↔
      (∀ s ∈ v.receiptSchemaVersion, s = js "pom-rx/0.1" ∧
        v.verifierProfile = some STRICT_PROFILE ∧ v.receiptHashes ≠ []) ∧
      (v.receiptSchemaVersion = none → v.receiptHashes = []) := by
  unfold validateReceiptIdentity
  cases hschema : v.receiptSchemaVersion <;> simp [require_eq_ok, and_assoc]

theorem validateBindingNullability_eq_ok_iff {v : Identity} {status : Status} {u : Unit} :
    validateBindingNullability v status = .ok u ↔ Nullability v status := by
  have hnone : ∀ {α : Type} (o : Option α), o.isSome = true ↔ o ≠ none := fun o => by
    cases o <;> simp
  simp only [validateBindingNullability, bind_eq_ok, require_eq_ok, exists_const,
    validateArtifact_eq_ok, validateReceiptIdentity_eq_ok, Bool.or_eq_true, Bool.and_eq_true,
    decide_eq_true_eq, Bool.not_eq_true', Option.isNone_iff_eq_none, hnone]
  constructor
  · rintro ⟨h1, h2, h3, h4, h5, h6, h7, h8⟩
    exact {
      profile := by
        intro p hp
        rcases h1 with h1 | h1 <;> rw [h1] at hp <;> cases hp
        rfl
      policy := fun h => h2.resolve_right (by simp [h])
      expected := fun h => h3.resolve_left h
      observed := fun h => h4.resolve_left h
      artifact := h5.1
      version := h5.2
      selected := fun h => h6.resolve_left h
      receipts := h7.1
      noReceipts := h7.2
      completed := fun h => h8.resolve_left h }
  · intro h
    refine ⟨?_, ?_, ?_, ?_, ⟨h.artifact, h.version⟩, ?_, ⟨h.receipts, h.noReceipts⟩, ?_⟩
    · by_cases hp : v.verifierProfile = none
      · exact .inl hp
      · obtain ⟨p, hp'⟩ := Option.ne_none_iff_exists'.mp hp
        exact .inr (by rw [hp', h.profile p hp'])
    · by_cases hp : v.somePolicy = true
      · exact .inl (h.policy hp)
      · exact .inr (Bool.eq_false_iff.mpr hp)
    · exact or_iff_not_imp_left.mpr h.expected
    · exact or_iff_not_imp_left.mpr h.observed
    · exact or_iff_not_imp_left.mpr h.selected
    · exact or_iff_not_imp_left.mpr h.completed

/-- What a verdict requires of its identities. -/
structure IdentityRules (v : Identity) (status : Status) : Prop where
  strings : ∀ value ∈ [v.receiptSchemaVersion, v.verifierProfile, v.verifierVersion,
    v.effectivePolicyId, v.effectivePolicyVersion], ∀ s ∈ value, s ≠ []
  hashes : ∀ value ∈ [v.implementationArtifactSha256, v.expectedImplementationArtifactSha256,
    v.observedImplementationArtifactSha256, v.effectivePolicySha256],
    ∀ s ∈ value, HASH_PATTERN s = true
  environment : ∀ e ∈ v.executionEnvironment, ∀ entry ∈ e.entries, entry.2 ≠ []
  receiptHashes : ∀ s ∈ v.receiptHashes, HASH_PATTERN s = true
  nullability : Nullability v status

theorem validateEnvironment_eq_ok {e : Option Environment} {u : Unit} :
    validateEnvironment e = .ok u ↔ ∀ x ∈ e, ∀ entry ∈ x.entries, entry.2 ≠ [] := by
  have hentries : ∀ es : List (JsString × JsString),
      validateEntries es = .ok () ↔ ∀ entry ∈ es, entry.2 ≠ [] := by
    intro es
    induction es with
    | nil => simp [validateEntries]
    | cons entry es ih =>
      simp [validateEntries, bind_eq_ok, require_eq_ok, ih]
  cases e with
  | none => simp [validateEnvironment]
  | some x => simp [validateEnvironment, hentries]

theorem nullableString_eq_ok {value : Option JsString} {label : JsString} {u : Unit} :
    nullableString value label = .ok u ↔ ∀ s ∈ value, s ≠ [] := by
  cases value <;> simp [nullableString, require_eq_ok]

theorem nullableHash_eq_ok {value : Option JsString} {label : JsString} {u : Unit} :
    nullableHash value label = .ok u ↔ ∀ s ∈ value, HASH_PATTERN s = true := by
  cases value <;> simp [nullableHash, require_eq_ok]

/-- An assembled verdict is accepted, and returned as it is. -/
theorem validatePomRxV01StrictVerdict_assemble {v : Identity} {status : Status}
    {ordered : List Diagnostic} (hrules : IdentityRules v status) (hw : ∀ d ∈ ordered, d.WellFormed)
    (hordered : Ordered ordered) (hready : ∀ d ∈ ordered, d.diagnosticCode ≠ .profileIncomplete)
    (hstatus : status = requiredStatus ordered) :
    validatePomRxV01StrictVerdict (assembleVerdict v status ordered) =
      .ok (assembleVerdict v status ordered) := by
  have horder := orderPomRxV01Diagnostics_of_ordered hw hordered
  have hstring : ∀ value ∈ [v.receiptSchemaVersion, v.verifierProfile, v.verifierVersion,
      v.effectivePolicyId, v.effectivePolicyVersion], ∀ label, nullableString value label = .ok () :=
    fun value hv label => nullableString_eq_ok.mpr (hrules.strings value hv)
  have hhash : ∀ value ∈ [v.implementationArtifactSha256, v.expectedImplementationArtifactSha256,
      v.observedImplementationArtifactSha256, v.effectivePolicySha256],
      ∀ label, nullableHash value label = .ok () :=
    fun value hv label => nullableHash_eq_ok.mpr (hrules.hashes value hv)
  simp only [List.forall_mem_cons] at hstring hhash
  obtain ⟨hschema, hprofile, hversion, hpolicyId, hpolicyVersion, -⟩ := hstring
  obtain ⟨himpl, hexpected, hobserved, hpolicy, -⟩ := hhash
  simp only [validatePomRxV01StrictVerdict, assembleVerdict, bind_eq_ok, require_eq_ok, exists_const,
    decide_eq_true_eq]
  refine ⟨trivial, (), hschema _, (), hprofile _, (), hversion _, (), himpl _, (), hexpected _,
    (), hobserved _, (), hpolicyId _, (), hpolicyVersion _, (), hpolicy _,
    (), validateEnvironment_eq_ok.mpr hrules.environment, List.all_eq_true.mpr hrules.receiptHashes,
    (), validateBindingNullability_eq_ok_iff.mpr hrules.nullability, rfl, trivial, ?_, trivial,
    ordered, horder, ?_, ?_, (), require_eq_ok.mpr (decide_eq_true hstatus), ?_, trivial, rfl⟩
  · exact decide_eq_true rfl
  · exact decide_eq_true rfl
  · simpa using hready
  · exact decide_eq_true rfl

/-- Identities and diagnostics that fit the status give a verdict, which is accepted again. -/
theorem buildPomRxV01StrictVerdict_eq_ok {v : Identity} {status : Status} {ds : List Diagnostic}
    (hrules : IdentityRules v status) (hw : ∀ d ∈ ds, d.WellFormed)
    (hready : ∀ d ∈ ds, d.diagnosticCode ≠ .profileIncomplete)
    (hstatus : status = requiredStatus (dedupe [] (sortDiagnostics ds))) :
    buildPomRxV01StrictVerdict v status ds =
        .ok (assembleVerdict v status (dedupe [] (sortDiagnostics ds))) ∧
      validatePomRxV01StrictVerdict (assembleVerdict v status (dedupe [] (sortDiagnostics ds))) =
        .ok (assembleVerdict v status (dedupe [] (sortDiagnostics ds))) := by
  have horder := orderPomRxV01Diagnostics_eq_ok_iff.mpr ⟨hw, rfl⟩
  obtain ⟨hordered, hmem, hw', -⟩ := ordered_diagnostics horder
  have hready' := fun d hd => hready d (hmem d hd)
  have hvalid := validatePomRxV01StrictVerdict_assemble hrules hw' hordered hready' hstatus
  refine ⟨?_, hvalid⟩
  simp only [buildPomRxV01StrictVerdict, bind_eq_ok, require_eq_ok, exists_const, decide_eq_true_eq]
  refine ⟨_, horder, ?_, (), require_eq_ok.mpr (decide_eq_true hstatus),
    List.all_eq_true.mpr hrules.receiptHashes, trivial,
    (), validateEnvironment_eq_ok.mpr hrules.environment,
    (), validateBindingNullability_eq_ok_iff.mpr hrules.nullability, hvalid⟩
  simpa using hready'

end OpenRisk.Strict
