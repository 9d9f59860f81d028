import OpenRisk.Json.RoundTrip
import OpenRisk.Sorting.Lexicographic
import OpenRisk.Strict.Diagnostics

/-!
# The order of diagnostics

What `orderPomRxV01Diagnostics` returns for valid diagnostics. Specification: the key of a
diagnostic is its phase, receipt index, code, field and defect id, in this order and with
`null` last; phases in the order of the profile, texts by code points.

Results:
* `compares_diagnostics`: the comparator of the sort compares the keys.
* `identity_eq_iff`: two diagnostics have one identity exactly when they have one key.
* `orderPomRxV01Diagnostics_canonical`: the result is strictly increasing, has one diagnostic
  of each key, is unchanged when ordered again and does not depend on the order of the input.
-/

namespace OpenRisk.Strict

open Text PomRx Sorting

/-! ## Specification -/

/-- Phase, receipt index, code, field and defect id, compared one after another. -/
abbrev DiagnosticKey : Type :=
  WithTop ℕ ×ₗ WithTop ℕ ×ₗ List CodePoint ×ₗ WithTop (List CodePoint) ×ₗ WithTop (List CodePoint)

/-- What a diagnostic is ordered and identified by. -/
def Diagnostic.key (d : Diagnostic) : DiagnosticKey :=
  toLex (nullsLast (d.phase.map Phase.index), toLex (nullsLast d.receiptIndex,
    toLex (codePoints d.diagnosticCode.text, toLex (nullsLast (d.field.map codePoints),
      nullsLast (d.defectId.map fun defect => codePoints defect.text)))))

/-- The list is strictly increasing. -/
def Increasing (ds : List Diagnostic) : Prop := ds.Pairwise fun d e => d.key < e.key

/-! ## The comparator -/

theorem compares_scalars : Compares compareUnicodeScalars codePoints :=
  compares_list.comp codePoints

theorem compares_nullable {α κ : Type} [LinearOrder κ] {cmp : α → α → Ordering} {key : α → κ}
    (h : Compares cmp key) : Compares (compareNullable cmp) fun a => nullsLast (a.map key) :=
  h.nullsLast rfl (fun _ => rfl) (fun _ => rfl) (fun _ _ => rfl)

/-- The comparator of the sort compares the keys. -/
theorem compares_diagnostics : Compares compareDiagnostics Diagnostic.key := by
  have hphase := (compares_nullable (compares_ord.comp Phase.index)).comp Diagnostic.phase
  have hindex := (compares_nullable (compares_ord (κ := ℕ))).comp Diagnostic.receiptIndex
  have hcode := compares_scalars.comp fun d : Diagnostic => d.diagnosticCode.text
  have hfield := (compares_nullable compares_scalars).comp Diagnostic.field
  have hdefect := (compares_nullable (compares_scalars.comp DefectId.text)).comp Diagnostic.defectId
  have h := hphase.lex (hindex.lex (hcode.lex (hfield.lex hdefect)))
  simp only [Function.comp_def, Option.map_id, id] at h
  exact h

/-! ## Identities -/

/-- All codes. -/
def DIAGNOSTIC_CODES : List DiagnosticCode :=
  [.profileRequired, .profileUnsupported, .downgradeForbidden, .policyCapabilityRequired,
    .policyCapabilityStale, .policyInvalid, .policyTimeUnavailable, .artifactManifestInvalid,
    .verifierNotAllowed, .verifierWithdrawn, .implementationArtifactMismatch,
    .runtimeEnvironmentUnsupported, .schemaInvalid, .canonicalizationFailed, .receiptHashLinkInvalid,
    .chainPhaseInvalid, .chainTimestampInvalid, .chainSharedFieldChanged, .partialChainForbidden,
    .actionContinuity, .inputContinuity, .executionAssertionConflict, .reconciliationAssertionConflict,
    .duplicateReceiptId, .profileIncomplete, .internalVerifierError, .legacyNonAuthorizing]

theorem DiagnosticCode.text_injective : Function.Injective DiagnosticCode.text := by
  have hnodup : (DIAGNOSTIC_CODES.map DiagnosticCode.text).Nodup := by decide +kernel
  have hmem : ∀ c, c ∈ DIAGNOSTIC_CODES := fun c => by cases c <;> decide
  exact fun c c' h => List.inj_on_of_nodup_map hnodup (hmem c) (hmem c') h

theorem DefectId.text_injective : Function.Injective DefectId.text := by
  let defects : List DefectId := [.actionPreflightExecution, .actionExecutionReconciliation,
    .inputPreflightExecution, .inputExecutionReconciliation, .executionFailAssertion,
    .reconciliationFailAssertion, .duplicateReceiptId]
  have hnodup : (defects.map DefectId.text).Nodup := by decide +kernel
  have hmem : ∀ d, d ∈ defects := fun d => by cases d <;> decide
  exact fun d d' h => List.inj_on_of_nodup_map hnodup (hmem d) (hmem d') h

theorem mem_PHASES (p : Phase) : p ∈ PHASES := by
  cases p <;> decide

theorem Phase.index_injective : Function.Injective Phase.index := by
  intro a b h
  cases a <;> cases b <;> first | rfl | exact absurd h (by decide)

theorem map_phaseText_inj {a b : Option Phase} : a.map Phase.text = b.map Phase.text ↔ a = b := by
  refine (Option.map_injective fun p q h => ?_).eq_iff
  exact Phase.text_injective p (mem_PHASES p) q (mem_PHASES q) h

theorem jsonText_injective : Function.Injective jsonText := by
  intro a b h
  cases a <;> cases b <;> simp_all [jsonText]

theorem jsonIndex_injective : Function.Injective jsonIndex := by
  intro a b h
  cases a <;> cases b <;> simp_all [jsonIndex]

theorem integral_identity (d : Diagnostic) : Json.Integral (.array [jsonText (d.phase.map Phase.text),
    jsonIndex d.receiptIndex, .string d.diagnosticCode.text, jsonText d.field,
    jsonText (d.defectId.map DefectId.text)]) := by
  have htext : ∀ s, Json.Integral (jsonText s) := fun s => by cases s <;> trivial
  have hindex : ∀ n, Json.Integral (jsonIndex n) := fun n => by
    cases n with
    | none => trivial
    | some n => rfl
  exact ⟨htext _, hindex _, trivial, htext _, htext _, trivial⟩

/-- Two diagnostics have one identity exactly when they have one key. -/
theorem identity_eq_iff (d e : Diagnostic) : d.identity = e.identity ↔ d.key = e.key := by
  have hidentity : d.identity = e.identity ↔ d.phase = e.phase ∧ d.receiptIndex = e.receiptIndex ∧
      d.diagnosticCode.text = e.diagnosticCode.text ∧ d.field = e.field ∧
      d.defectId.map DefectId.text = e.defectId.map DefectId.text := by
    constructor
    · intro h
      have h := Json.print_injective (integral_identity d) (integral_identity e) h
      simp only [Json.array.injEq, List.cons.injEq, jsonText_injective.eq_iff, Json.string.injEq,
        jsonIndex_injective.eq_iff, map_phaseText_inj, and_true] at h
      exact h
    · rintro ⟨hphase, hindex, hcode, hfield, hdefect⟩
      rw [Diagnostic.identity, Diagnostic.identity, hphase, hindex, hcode, hfield, hdefect]
  have hdefect : d.defectId.map (fun defect => codePoints defect.text) =
      e.defectId.map (fun defect => codePoints defect.text) ↔
      d.defectId.map DefectId.text = e.defectId.map DefectId.text := by
    rw [← (Option.map_injective codePoints_injective).eq_iff, Option.map_map, Option.map_map]
    rfl
  rw [hidentity, Diagnostic.key, Diagnostic.key]
  simp only [toLex_inj, Prod.mk.injEq, nullsLast_inj, codePoints_injective.eq_iff, hdefect,
    (Option.map_injective Phase.index_injective).eq_iff,
    (Option.map_injective codePoints_injective).eq_iff]

/-! ## The filter -/

/-- Every diagnostic of the list is kept or has the identity of one that is kept or was seen. -/
theorem dedupe_covers (seen : List JsString) {ds : List Diagnostic} {d : Diagnostic} (hd : d ∈ ds) :
    d.identity ∈ seen ∨ ∃ e ∈ dedupe seen ds, e.identity = d.identity := by
  induction ds generalizing seen with
  | nil => cases hd
  | cons f ds ih =>
    rw [dedupe]
    split_ifs with hseen
    · rcases List.mem_cons.mp hd with rfl | hd
      · exact .inl hseen
      · exact ih seen hd
    · rcases List.mem_cons.mp hd with rfl | hd
      · exact .inr ⟨d, List.mem_cons_self, rfl⟩
      · rcases ih (f.identity :: seen) hd with hmem | ⟨e, he, heq⟩
        · rcases List.mem_cons.mp hmem with heq | hmem
          · exact .inr ⟨f, List.mem_cons_self, heq.symm⟩
          · exact .inl hmem
        · exact .inr ⟨e, List.mem_cons_of_mem f he, heq⟩

/-- The result of the ordering for valid diagnostics. -/
theorem orderPomRxV01Diagnostics_of_valid {ds : List Diagnostic} (hds : ∀ d ∈ ds, d.WellFormed) :
    orderPomRxV01Diagnostics ds = .ok (dedupe [] (sortDiagnostics ds)) :=
  orderPomRxV01Diagnostics_eq_ok_iff.mpr ⟨hds, rfl⟩

section Result

variable {ds os : List Diagnostic} (h : orderPomRxV01Diagnostics ds = .ok os)

include h

theorem increasing_of_order : Increasing os := by
  obtain ⟨hordered, -, -, -⟩ := ordered_diagnostics h
  apply compares_diagnostics.increasing hordered.sorted
  have hnodup := hordered.nodup
  rw [List.Nodup, List.pairwise_map] at hnodup ⊢
  exact hnodup.imp fun {d e} hne => mt (identity_eq_iff d e).mpr hne

theorem mem_of_order {d : Diagnostic} (hd : d ∈ os) : d ∈ ds := by
  obtain ⟨-, hmem, -, -⟩ := ordered_diagnostics h
  exact hmem d hd

theorem exists_of_order {d : Diagnostic} (hd : d ∈ ds) : ∃ e ∈ os, e.key = d.key := by
  obtain ⟨-, rfl⟩ := orderPomRxV01Diagnostics_eq_ok_iff.mp h
  rcases dedupe_covers [] ((sortDiagnostics_perm ds).mem_iff.mpr hd) with hseen | hkept
  · cases hseen
  · obtain ⟨e, he, heq⟩ := hkept
    exact ⟨e, he, (identity_eq_iff e d).mp heq⟩

/-- Two diagnostics of the result with one key are one. -/
theorem eq_of_key_eq {d e : Diagnostic} (hd : d ∈ os) (he : e ∈ os) (hkey : d.key = e.key) : d = e := by
  obtain ⟨hordered, -, -, -⟩ := ordered_diagnostics h
  exact List.inj_on_of_nodup_map hordered.nodup hd he ((identity_eq_iff d e).mpr hkey)

end Result

/-- Two valid diagnostics with one key and one message are equal. -/
theorem Diagnostic.WellFormed.ext_key {d e : Diagnostic} (hd : d.WellFormed) (he : e.WellFormed)
    (hkey : d.key = e.key) (hmessage : d.message = e.message) : d = e := by
  have hseverity := hd.severity
  have hseverity' := he.severity
  obtain ⟨defectId, code, severity, phase, index, field, message⟩ := d
  obtain ⟨defectId', code', severity', phase', index', field', message'⟩ := e
  have hdefects : Function.Injective fun defect : DefectId => codePoints defect.text :=
    codePoints_injective.comp DefectId.text_injective
  simp only [Diagnostic.key, toLex_inj, Prod.mk.injEq, nullsLast_inj, codePoints_injective.eq_iff,
    DiagnosticCode.text_injective.eq_iff, (Option.map_injective Phase.index_injective).eq_iff,
    (Option.map_injective codePoints_injective).eq_iff, (Option.map_injective hdefects).eq_iff]
    at hkey
  obtain ⟨rfl, rfl, rfl, rfl, rfl⟩ := hkey
  simp only at hseverity hseverity' hmessage
  rw [hseverity, hseverity', hmessage]

/-- No two diagnostics of the list have one identity and different messages. -/
def OneMessage (ds : List Diagnostic) : Prop :=
  ∀ d ∈ ds, ∀ e ∈ ds, d.identity = e.identity → d.message = e.message

theorem order_eq_of_perm {ds ds' os os' : List Diagnostic} (hperm : ds.Perm ds') (hone : OneMessage ds)
    (h : orderPomRxV01Diagnostics ds = .ok os) (h' : orderPomRxV01Diagnostics ds' = .ok os') :
    os = os' := by
  have hds := (orderPomRxV01Diagnostics_eq_ok_iff.mp h).1
  -- what is kept under one identity is the same diagnostic in both results
  have hmem : ∀ {as bs : List Diagnostic}, (∀ d ∈ as, d ∈ ds) → (∀ d ∈ bs, d ∈ ds) →
      (∀ d ∈ ds, ∃ e ∈ bs, e.key = d.key) → ∀ d ∈ as, d ∈ bs := by
    intro as bs has hbs hkept d hd
    obtain ⟨e, he, hkey⟩ := hkept d (has d hd)
    have hmessage := hone e (hbs e he) d (has d hd) ((identity_eq_iff e d).mpr hkey)
    rw [← (hds e (hbs e he)).ext_key (hds d (has d hd)) hkey hmessage]
    exact he
  have hsub : ∀ d ∈ os, d ∈ ds := fun d hd => mem_of_order h hd
  have hsub' : ∀ d ∈ os', d ∈ ds := fun d hd => hperm.mem_iff.mpr (mem_of_order h' hd)
  refine eq_of_increasing (increasing_of_order h) (increasing_of_order h') fun d => ⟨?_, ?_⟩
  · exact hmem hsub hsub' (fun e he => exists_of_order h' (hperm.mem_iff.mp he)) d
  · exact hmem hsub' hsub (fun e he => exists_of_order h he) d

/-- For every list of valid diagnostics there is a result, and it
    is strictly increasing;
    has one diagnostic of each identity of the list, and only diagnostics of the list;
    stays as it is when it is ordered again;
    and is the result for every permutation of the list, where no two diagnostics have one
    identity and different messages. -/
theorem orderPomRxV01Diagnostics_canonical (ds : List Diagnostic) (hds : ∀ d ∈ ds, d.WellFormed) :
    ∃ os, orderPomRxV01Diagnostics ds = .ok os ∧ Increasing os ∧ (∀ d ∈ os, d ∈ ds) ∧
      (∀ d ∈ ds, ∃! e, e ∈ os ∧ e.identity = d.identity) ∧
      orderPomRxV01Diagnostics os = .ok os ∧
      (OneMessage ds → ∀ ds', ds.Perm ds' → orderPomRxV01Diagnostics ds' = .ok os) := by
  have h := orderPomRxV01Diagnostics_of_valid hds
  obtain ⟨hordered, -, hvalid, -⟩ := ordered_diagnostics h
  refine ⟨_, h, increasing_of_order h, fun d hd => mem_of_order h hd, ?_,
    orderPomRxV01Diagnostics_of_ordered hvalid hordered, ?_⟩
  · intro d hd
    obtain ⟨e, he, hkey⟩ := exists_of_order h hd
    refine ⟨e, ⟨he, (identity_eq_iff e d).mpr hkey⟩, ?_⟩
    rintro f ⟨hf, heq⟩
    exact eq_of_key_eq h hf he (((identity_eq_iff f d).mp heq).trans hkey.symm)
  · intro hone ds' hperm
    have hds' : ∀ d ∈ ds', d.WellFormed := fun d hd => hds d (hperm.mem_iff.mpr hd)
    have h' := orderPomRxV01Diagnostics_of_valid hds'
    rw [h', order_eq_of_perm hperm hone h h']

/-- Two diagnostics of one identity and one of an earlier phase. -/
def sampleDiagnostics : List Diagnostic :=
  [{ diagnosticCode := .schemaInvalid, message := js "invalid" },
    { diagnosticCode := .actionContinuity, defectId := some .actionPreflightExecution,
      phase := some .execution, receiptIndex := some 1, message := js "changed" },
    { diagnosticCode := .schemaInvalid, message := js "invalid" }]

theorem orderPomRxV01Diagnostics_sample :
    ∃ os, orderPomRxV01Diagnostics sampleDiagnostics = .ok os ∧ Increasing os ∧
      orderPomRxV01Diagnostics os = .ok os ∧
      orderPomRxV01Diagnostics sampleDiagnostics.reverse = .ok os := by
  have hvalid : (sampleDiagnostics.mapM makePomRxV01Diagnostic).isOk = true := by decide +kernel
  obtain ⟨es, hes⟩ := isOk_iff.mp hvalid
  have hds := (mapM_makePomRxV01Diagnostic_eq_ok_iff.mp hes).1
  obtain ⟨os, hos, hincreasing, -, -, hagain, hperm⟩ :=
    orderPomRxV01Diagnostics_canonical sampleDiagnostics hds
  refine ⟨os, hos, hincreasing, hagain, hperm ?_ _ (List.reverse_perm _).symm⟩
  intro d hd e he hidentity
  revert d e
  decide +kernel

end OpenRisk.Strict
