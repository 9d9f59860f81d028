import OpenRisk.Core.DurableClaims
import OpenRisk.Sdk.CanonicalForm

/-!
# Inspection of durable claims

What `inspect` (`core/gate/reference-durable-claim-store.mjs`, lines 365–400) answers while other
calls work on the disk. Its reads of the two files happen at different moments of the run.

Results:
* `fileHolds_recordBody`: a published file denotes the record it was written from.
* `inspection_faithful`: an inspection with the binding of the claimant answers one of the five
  states, with the records of the claimant, and successive inspections only move forward.
* `inspection_alone`, `claim_completes`: calls that nothing disturbs go through; such an inspection
  answers what the contents of the files say.
-/

namespace OpenRisk.Text.Utf8

/-- A text without lone surrogates is read back from its bytes. -/
theorem decodeLossy_of_scalar {s : JsString} (h : Scalar (codePoints s)) :
    decodeLossy (utf8Encode s) = s := by
  have hfatal := decodeFatal_eq_some.mpr ⟨rfl, h⟩
  obtain ⟨cs, hcs, hs⟩ := Option.map_eq_some_iff.mp hfatal
  rw [decodeLossy, mapM_id_eq_some.mp hcs, List.flatMap_map]
  exact hs

end OpenRisk.Text.Utf8

namespace OpenRisk.Json

open Text

/-- A compact object is read whatever follows it. -/
theorem parseValue_print_object (ms : List (JsString × Json)) (hm : Integral (.object ms))
    {fuel : ℕ} (hf : need (.object ms) ≤ fuel) (rest : JsString) :
    parseValue fuel (print (.object ms) ++ rest) = some (.object ms, rest) := by
  obtain _ | fuel := fuel
  · simp [need] at hf
  cases ms with
  | nil => rfl
  | cons m ms =>
    obtain ⟨k, x⟩ := m
    have hmembers := parseMembers_print ((k, x) :: ms) (by simp) hm fuel
      (by rw [need] at hf; omega) rest
    have htext : print (.object ((k, x) :: ms)) ++ rest =
        0x7B :: (printMembers ((k, x) :: ms) ++ 0x7D :: rest) := by
      simp [print]
    obtain ⟨us, hus⟩ : ∃ us, printMembers ((k, x) :: ms) ++ 0x7D :: rest = 0x22 :: us := by
      cases ms with
      | nil => exact ⟨_, by rw [printMembers, quote]; rfl⟩
      | cons m ms => exact ⟨_, by rw [printMembers, quote]; rfl⟩
    rw [htext, parseValue, skipWs_cons (by decide)]
    rw [hus] at hmembers ⊢
    simp only [skipWs_cons (u := 0x22) (by decide), hmembers, Option.map_some]
    simp

/-- White space may follow the text of an object. -/
theorem parse_print_object (ms : List (JsString × Json)) (hm : Integral (.object ms))
    {rest : JsString} (hrest : skipWs rest = []) :
    parse (print (.object ms) ++ rest) = some (.object ms) := by
  have hneed := need_le (.object ms) hm
  have hfuel : need (.object ms) ≤ textFuel (print (.object ms) ++ rest) := by
    rw [textFuel, List.length_append]
    omega
  rw [parse, parseValue_print_object ms hm hfuel rest, Option.bind_some, if_pos hrest]

end OpenRisk.Json

namespace OpenRisk.Core.Durable

open Text Sdk OpenRisk.Machine

/-! ## Reading a published record -/

section Body

variable {N : Normalization} {S : Hash}

/-- Values that reading the canonical text back gives unchanged. -/
def Verbatim (N : Normalization) (entries : List (JsString × JsValue)) : Prop :=
  (entries.map Prod.fst).Nodup ∧ ∀ e ∈ entries, reread N e.2 = e.2

theorem reread_plain {n : ℕ} {s : JsString} (h : PlainWithin n s) :
    reread N (.string s) = .string s := by
  rw [reread, canonicalJson, Json.toJs, normalizeNfc_ascii (ascii_of_plain h.1)]

theorem verbatim_claim (r : ClaimRecord) : Verbatim N r.toEntries := by
  refine ⟨claimKeys_nodup, ?_⟩
  simp only [ClaimRecord.toEntries, List.forall_mem_cons]
  exact ⟨reread_plain plainWithin_claimSchema,
    reread_plain (plainWithin_capabilityId r.capabilityId),
    reread_plain (plainWithin_hash r.authorizationCommitment),
    reread_plain (plainWithin_hash r.claimCommitment), rfl, rfl, rfl, rfl, rfl, rfl,
    List.forall_mem_nil _⟩

theorem verbatim_terminal (r : TerminalRecord) : Verbatim N r.toEntries := by
  refine ⟨terminalKeys_nodup, ?_⟩
  simp only [TerminalRecord.toEntries, List.forall_mem_cons]
  exact ⟨reread_plain plainWithin_terminalSchema,
    reread_plain (plainWithin_capabilityId r.claim.capabilityId),
    reread_plain (plainWithin_hash r.claim.authorizationCommitment),
    reread_plain (plainWithin_hash r.claim.claimCommitment),
    reread_plain (plainWithin_terminalState r.terminalState),
    reread_plain (plainWithin_hash r.terminalCommitment), rfl, List.forall_mem_nil _⟩

theorem scalar_canonicalizeValue (v : JsValue) :
    Scalar (codePoints (canonicalizeValue N v ++ [0x0A])) := by
  rw [Json.scalar_append_cons (by decide), canonicalizeValue_eq_print]
  refine ⟨Json.scalar_print _ (integral_canonicalJson N v), ?_⟩
  intro c hc
  cases hc

/-- The text of a canonical object is read up to its newline. -/
theorem jsonParse_canonicalizeValue_newline (es : List (JsString × JsValue)) :
    jsonParse (canonicalizeValue N (.object es) ++ [0x0A]) = some (reread N (.object es)) := by
  have hintegral := integral_canonicalJson N (.object es)
  rw [jsonParse, canonicalizeValue_eq_print, reread]
  rw [canonicalJson] at hintegral ⊢
  rw [Json.parse_print_object _ hintegral rfl]
  rfl

/-- A published file denotes the record it was written from. -/
theorem fileHolds_recordBody {entries : List (JsString × JsValue)} {body : List UInt8}
    (hverbatim : Verbatim N entries) (h : recordBody N entries = .ok body) :
    ∃ value, FileHolds (some body) value ∧ Holds value entries := by
  obtain ⟨canonical, hcanonical, h⟩ := bind_eq_ok.mp h
  obtain ⟨-, -, -, -, -, rfl⟩ :=
    (canonicalizePayload_eq_ok_iff _ _).mp (mapError_eq_ok.mp hcanonical)
  obtain ⟨_, hsize, h⟩ := bind_eq_ok.mp h
  obtain rfl := Except.ok.inj h
  rw [durableRequire_eq_ok, decide_eq_true_eq] at hsize
  have hlossy : Utf8.decodeLossy (utf8Encode (canonicalizeValue N (.object entries) ++ [0x0A])) =
      canonicalizeValue N (.object entries) ++ [0x0A] :=
    Utf8.decodeLossy_of_scalar (scalar_canonicalizeValue _)
  refine ⟨reread N (.object entries), ⟨_, rfl, ?_, hsize, ?_⟩, ?_⟩
  · have hbytes : byteLength (canonicalizeValue N (.object entries) ++ [0x0A]) =
        canonicalBytes N (.object entries) + byteLength [] + 1 := by
      rw [byteLength_append_cons_ascii (by decide), byteLength_canonicalizeValue_eq]
    rw [canonicalBytes] at hbytes
    unfold byteLength at hbytes
    omega
  · rw [hlossy, jsonParse_canonicalizeValue_newline]
  · rw [reread_object]
    refine ⟨_, rfl, (reread_entries_perm hverbatim.1).trans (.of_eq ?_)⟩
    conv_rhs => rw [← List.map_id entries]
    refine List.map_congr_left fun e he => ?_
    rw [hverbatim.2 e he]
    rfl

/-- A text determines the terminal record it was written from. -/
theorem terminal_of_body {record : ClaimRecord} {t u : TerminalRecord} {body : List UInt8}
    (ht : makeTerminalRecord N S record t.terminalState = .ok t)
    (hu : makeTerminalRecord N S record u.terminalState = .ok u)
    (htbody : recordBody N t.toEntries = .ok body) (hubody : recordBody N u.toEntries = .ok body) :
    t = u := by
  obtain ⟨v, hv, hvt⟩ := fileHolds_recordBody (verbatim_terminal t) htbody
  obtain ⟨v', hv', hvu⟩ := fileHolds_recordBody (verbatim_terminal u) hubody
  obtain rfl := hv.unique hv'
  have hleft := validateTerminalRecord_eq_ok.mpr ⟨ht, hvt⟩
  have hright := validateTerminalRecord_eq_ok.mpr ⟨hu, hvu⟩
  exact Except.ok.inj (hleft.symm.trans hright)

end Body

/-! ## What an inspection has seen -/

section Inspection

variable {N : Normalization} {S : Hash} {c : CapabilityId} {a : HashText}

/-- The call that made the directory, if there is one, has this binding. -/
def Claimant (w : World) (c : CapabilityId) (a : HashText) : Prop :=
  ∀ (i : ℕ) call, w.calls[i]? = some call → call.capabilityId = c → 1 ≤ call.phase.rank →
    call.authorizationCommitment = a

variable (N S) in
/-- The claim file is the record of the binding. -/
def ClaimWritten (disk : Disk) (c : CapabilityId) (a : HashText) (record : ClaimRecord) : Prop :=
  makeClaimRecord N S c a = .ok record ∧
    ∃ body, recordBody N record.toEntries = .ok body ∧ disk.file c .claim = some body

variable (N S) in
/-- The terminal file is a terminal record of the claim. -/
def TerminalWritten (disk : Disk) (c : CapabilityId) (record : ClaimRecord)
    (terminal : TerminalRecord) : Prop :=
  makeTerminalRecord N S record terminal.terminalState = .ok terminal ∧
    ∃ body, recordBody N terminal.toEntries = .ok body ∧ disk.file c .terminal = some body

variable (N S) in
/-- The answers of `inspect` for the binding of the claimant, with the records it wrote. -/
inductive Faithful (disk : Disk) (c : CapabilityId) (a : HashText) : ClaimInspection → Prop
  | absent : Faithful disk c a (makeInspection .absent none none)
  | reservedIncomplete (d : Entry ClaimDirectory) (hd : disk c = some d) : Faithful disk c a
    { makeInspection .reservedIncomplete none none with capabilityId := some c }
  | reserved (record : ClaimRecord) (hclaim : ClaimWritten N S disk c a record) :
    Faithful disk c a (makeInspection .reserved (some record) none)
  | consumed (record : ClaimRecord) (terminal : TerminalRecord)
    (hclaim : ClaimWritten N S disk c a record)
    (hterminal : TerminalWritten N S disk c record terminal) :
    Faithful disk c a
      (makeInspection (.consumed terminal.terminalState) (some record) (some terminal))

/-- `ABSENT`, `RESERVED_INCOMPLETE`, `RESERVED`, then one of the terminal states. -/
def stateRank : ClaimState → ℕ
  | .absent => 0
  | .reservedIncomplete => 1
  | .reserved => 2
  | .consumed _ => 3

/-- How far the directory of a capability has come. -/
def Disk.rank (disk : Disk) (c : CapabilityId) : ℕ :=
  match disk c, disk.file c .claim, disk.file c .terminal with
  | none, _, _ => 0
  | some _, none, _ => 1
  | some _, some _, none => 2
  | some _, some _, some _ => 3

variable (N S) in
/-- What the disk holds of what an inspection has read. -/
def Evidence (disk : Disk) (c : CapabilityId) (a : HashText) : InspectPhase → Prop
  | .directory => True
  | .claimSize => ∃ d, disk c = some d
  | .claimText size => (∃ d, disk c = some d) ∧
    ∀ n, size = some n → ∃ body, disk.file c .claim = some body ∧ body.length = n
  | .terminalSize record => ClaimWritten N S disk c a record
  | .terminalText record size => ClaimWritten N S disk c a record ∧
    ∀ n, size = some n → ∃ body, disk.file c .terminal = some body ∧ body.length = n
  | .answered result => ∃ i, result = .ok i ∧ Faithful N S disk c a i

/-- What an inspection that began later than this disk can have missed. -/
def Since (earlier : Disk) (c : CapabilityId) : InspectPhase → Prop
  | .claimText none => earlier.rank c ≤ 1
  | .terminalText _ none => earlier.rank c ≤ 2
  | .answered (.ok i) => earlier.rank c ≤ stateRank i.state
  | _ => True

variable (N S) in
/-- The operations of an inspection with the binding of the claimant. -/
inductive Inspects (disk : Disk) (c : CapabilityId) (a : HashText) :
    InspectPhase → InspectPhase → Prop
  | absent (h : disk c = none) : Inspects disk c a .directory
    (.answered (.ok (makeInspection .absent none none)))
  | directory (d : Entry ClaimDirectory) (h : disk c = some d) :
    Inspects disk c a .directory .claimSize
  | claimSize : Inspects disk c a .claimSize (.claimText ((disk.file c .claim).map List.length))
  | incomplete : Inspects disk c a (.claimText none)
    (.answered (.ok { makeInspection .reservedIncomplete none none with capabilityId := some c }))
  | claimText (n : ℕ) (record : ClaimRecord) (h : ClaimWritten N S disk c a record) :
    Inspects disk c a (.claimText (some n)) (.terminalSize record)
  | terminalSize (record : ClaimRecord) : Inspects disk c a (.terminalSize record)
    (.terminalText record ((disk.file c .terminal).map List.length))
  | reserved (record : ClaimRecord) : Inspects disk c a (.terminalText record none)
    (.answered (.ok (makeInspection .reserved (some record) none)))
  | consumed (n : ℕ) (record : ClaimRecord) (terminal : TerminalRecord)
    (h : TerminalWritten N S disk c record terminal) :
    Inspects disk c a (.terminalText record (some n))
      (.answered (.ok
        (makeInspection (.consumed terminal.terminalState) (some record) (some terminal))))

/-- In a directory of the claimant every operation of `inspect` finds what it looks for. -/
theorem inspects_of_operation {w : World} (h : Safe N S True w) {call : InspectCall}
    (hclaimant : Claimant w call.capabilityId call.authorizationCommitment)
    (hpending : call.phase.pending = true)
    (hevidence : Evidence N S w.disk call.capabilityId call.authorizationCommitment call.phase) :
    Inspects N S w.disk call.capabilityId call.authorizationCommitment call.phase
      (inspectOperation N S w.disk call) := by
  obtain ⟨store, c, a, phase, running⟩ := call
  dsimp only at hclaimant hpending hevidence ⊢
  cases phase with
  | directory =>
    simp only [inspectOperation]
    split
    · rename_i hnone
      exact .absent hnone
    · rename_i d hd
      exact .directory d hd
  | claimSize => exact .claimSize
  | claimText size =>
    cases size with
    | none => exact .incomplete
    | some n =>
      obtain ⟨-, hsize⟩ := hevidence
      obtain ⟨body, hfile, hlength⟩ := hsize n rfl
      obtain ⟨i, owner, howner, rfl, hrank, record, hmake, hbody⟩ := h.claimSource c body hfile
      rw [hclaimant i owner howner rfl (by omega)] at hmake
      obtain ⟨value, hvalue, hholds⟩ := fileHolds_recordBody (verbatim_claim record) hbody
      have hread : readBoundedJson (some n) (w.disk.file owner.capabilityId .claim) =
          .ok value := by
        rw [hfile, ← hlength]
        exact readBoundedJson_eq_ok.mpr (.inr hvalue)
      have hrecord := validateClaimRecord_eq_ok.mpr
        ⟨by rwa [(makeClaimRecord_binding hmake).1, (makeClaimRecord_binding hmake).2], hholds⟩
      have hnext : inspectOperation N S w.disk
          ⟨store, owner.capabilityId, a, .claimText (some n), running⟩ = .terminalSize record := by
        obtain ⟨es, rfl, -⟩ := hholds
        simp only [inspectOperation, hread, hrecord]
        exact if_pos (makeClaimRecord_binding hmake)
      rw [hnext]
      exact .claimText n record ⟨hmake, body, hbody, hfile⟩
  | terminalSize record => exact .terminalSize record
  | terminalText record size =>
    cases size with
    | none => exact .reserved record
    | some n =>
      obtain ⟨⟨hmake, -⟩, hsize⟩ := hevidence
      obtain ⟨body, hfile, hlength⟩ := hsize n rfl
      obtain ⟨i, owner, howner, rfl, hrank, state, -, hterminals⟩ := h.terminalSource c body hfile
      obtain ⟨record', terminal, hmake', hterminal, hbody⟩ := hterminals
      rw [hclaimant i owner howner rfl (by omega)] at hmake'
      obtain rfl := Except.ok.inj (hmake'.symm.trans hmake)
      obtain ⟨value, hvalue, hholds⟩ := fileHolds_recordBody (verbatim_terminal terminal) hbody
      have hread : readBoundedJson (some n) (w.disk.file owner.capabilityId .terminal) =
          .ok value := by
        rw [hfile, ← hlength]
        exact readBoundedJson_eq_ok.mpr (.inr hvalue)
      rw [← (makeTerminalRecord_state hterminal).1] at hterminal
      have hvalid := validateTerminalRecord_eq_ok.mpr ⟨hterminal, hholds⟩
      have hnext : inspectOperation N S w.disk
          ⟨store, owner.capabilityId, a, .terminalText record' (some n), running⟩ =
            .answered (.ok (makeInspection (.consumed terminal.terminalState) (some record')
              (some terminal))) := by
        obtain ⟨es, rfl, -⟩ := hholds
        simp only [inspectOperation, hread, hvalid]
      rw [hnext]
      exact .consumed n record' terminal ⟨hterminal, body, hbody, hfile⟩
  | answered result => cases hpending

theorem Inspects.evidence {disk : Disk} {phase phase' : InspectPhase}
    (h : Inspects N S disk c a phase phase') (hevidence : Evidence N S disk c a phase) :
    Evidence N S disk c a phase' := by
  cases h with
  | absent _ => exact ⟨_, rfl, .absent⟩
  | directory d hd => exact ⟨d, hd⟩
  | claimSize => exact ⟨hevidence, fun n hn => Option.map_eq_some_iff.mp hn⟩
  | incomplete =>
    obtain ⟨⟨d, hd⟩, -⟩ := hevidence
    exact ⟨_, rfl, .reservedIncomplete d hd⟩
  | claimText n record hclaim => exact hclaim
  | terminalSize record => exact ⟨hevidence, fun n hn => Option.map_eq_some_iff.mp hn⟩
  | reserved record => exact ⟨_, rfl, .reserved record hevidence.1⟩
  | consumed n record terminal hterminal =>
    exact ⟨_, rfl, .consumed record terminal hevidence.1 hterminal⟩

section Extends

variable {disk disk' : Disk}

theorem ClaimWritten.extends {record : ClaimRecord} (h : ClaimWritten N S disk c a record)
    (hextends : disk.Extends disk') : ClaimWritten N S disk' c a record := by
  obtain ⟨hmake, body, hbody, hfile⟩ := h
  exact ⟨hmake, body, hbody, hextends.file hfile⟩

theorem TerminalWritten.extends {record : ClaimRecord} {terminal : TerminalRecord}
    (h : TerminalWritten N S disk c record terminal) (hextends : disk.Extends disk') :
    TerminalWritten N S disk' c record terminal := by
  obtain ⟨hmake, body, hbody, hfile⟩ := h
  exact ⟨hmake, body, hbody, hextends.file hfile⟩

theorem directory_extends (hextends : disk.Extends disk') (h : ∃ d, disk c = some d) :
    ∃ d, disk' c = some d := by
  obtain ⟨d, hd⟩ := h
  obtain ⟨d', hd', -⟩ := hextends c d hd
  exact ⟨d', hd'⟩

theorem size_extends (hextends : disk.Extends disk') {f : RecordFile} {size : Option ℕ}
    (h : ∀ n, size = some n → ∃ body, disk.file c f = some body ∧ body.length = n) :
    ∀ n, size = some n → ∃ body, disk'.file c f = some body ∧ body.length = n := by
  intro n hn
  obtain ⟨body, hfile, hlength⟩ := h n hn
  exact ⟨body, hextends.file hfile, hlength⟩

theorem Faithful.extends {i : ClaimInspection} (h : Faithful N S disk c a i)
    (hextends : disk.Extends disk') : Faithful N S disk' c a i := by
  cases h with
  | absent => exact .absent
  | reservedIncomplete d hd =>
    obtain ⟨d', hd', -⟩ := hextends c d hd
    exact .reservedIncomplete d' hd'
  | reserved record hclaim => exact .reserved record (hclaim.extends hextends)
  | consumed record terminal hclaim hterminal =>
    exact .consumed record terminal (hclaim.extends hextends) (hterminal.extends hextends)

theorem Evidence.extends {phase : InspectPhase} (h : Evidence N S disk c a phase)
    (hextends : disk.Extends disk') : Evidence N S disk' c a phase := by
  cases phase with
  | directory => trivial
  | claimSize => exact directory_extends hextends h
  | claimText size => exact ⟨directory_extends hextends h.1, size_extends hextends h.2⟩
  | terminalSize record => exact ClaimWritten.extends h hextends
  | terminalText record size => exact ⟨h.1.extends hextends, size_extends hextends h.2⟩
  | answered result =>
    obtain ⟨i, hi, hfaithful⟩ := h
    exact ⟨i, hi, hfaithful.extends hextends⟩

theorem rank_le_three (disk : Disk) (c : CapabilityId) : disk.rank c ≤ 3 := by
  unfold Disk.rank
  split <;> omega

theorem rank_of_no_directory (h : disk c = none) : disk.rank c = 0 := by
  rw [Disk.rank, h]

theorem rank_of_no_claim (h : disk.file c .claim = none) : disk.rank c ≤ 1 := by
  unfold Disk.rank
  rw [h]
  split <;> first | omega | simp_all

theorem rank_of_no_terminal (h : disk.file c .terminal = none) : disk.rank c ≤ 2 := by
  unfold Disk.rank
  rw [h]
  split <;> first | omega | simp_all

theorem file_none_of_extends (hextends : disk.Extends disk') {f : RecordFile}
    (h : disk'.file c f = none) : disk.file c f = none := by
  cases hfile : disk.file c f with
  | none => rfl
  | some body =>
    rw [hextends.file hfile] at h
    cases h

/-- An answer does not fall behind what the disk held when the inspection began. -/
theorem Inspects.since {earlier : Disk} {phase phase' : InspectPhase}
    (h : Inspects N S disk c a phase phase') (hextends : earlier.Extends disk)
    (hsince : Since earlier c phase) : Since earlier c phase' := by
  cases h with
  | absent hnone =>
    have hearlier : earlier c = none := by
      cases hd : earlier c with
      | none => rfl
      | some d =>
        obtain ⟨d', hd', -⟩ := hextends c d hd
        rw [hnone] at hd'
        cases hd'
    exact (rank_of_no_directory hearlier).le
  | claimSize =>
    cases hfile : disk.file c .claim with
    | none => exact rank_of_no_claim (file_none_of_extends hextends hfile)
    | some body => trivial
  | incomplete => exact hsince
  | terminalSize record =>
    cases hfile : disk.file c .terminal with
    | none => exact rank_of_no_terminal (file_none_of_extends hextends hfile)
    | some body => trivial
  | reserved record => exact hsince
  | consumed n record terminal hterminal => exact rank_le_three earlier c
  | directory _ _ | claimText _ _ _ => trivial

end Extends

/-! ## Runs without a crash of the machine -/

variable (N S) in
/-- A step of the calls, their failures and their processes. -/
def steadyStep (w : World) (action : Action) : Option World :=
  if action.isCrash then none else step N S w action

theorem steadyStep_eq_some {w w' : World} {action : Action} :
    steadyStep N S w action = some w' ↔ action.isCrash = false ∧ step N S w action = some w' := by
  unfold steadyStep
  cases action.isCrash <;> simp

theorem extends_of_steadyStep {w w' : World} {action : Action}
    (h : steadyStep N S w action = some w') : w.disk.Extends w'.disk := by
  obtain ⟨hsteady, hstep⟩ := steadyStep_eq_some.mp h
  cases changes_of_step hstep with
  | begins call _ hdisk _ => exact hdisk ▸ .refl _
  | moves i call phase _ _ hmoves _ => exact hmoves.extends
  | halts hdisk _ => exact hdisk ▸ .refl _
  | crashed hcrash =>
    rw [hsteady] at hcrash
    cases hcrash

theorem claimant_of_step {w w' : World} {action : Action} (h : step N S w action = some w')
    (hclaimant : Claimant w' c a) : Claimant w c a := by
  intro i call hcall hcapability hrank
  obtain ⟨call', hcall', hlater⟩ := (changes_of_step h).later hcall
  rw [← hlater.authorizationCommitment]
  exact hclaimant i call' hcall' (hlater.capabilityId.trans hcapability) (hrank.trans hlater.rank)

/-- Where an inspection comes from. -/
theorem inspection_of_steadyStep {w w' : World} {action : Action}
    (h : steadyStep N S w action = some w') {k : ℕ} {y : InspectCall}
    (hy : w'.inspections[k]? = some y) :
    (w.inspections.length ≤ k ∧ y.phase = .directory) ∨
      ∃ x, w.inspections[k]? = some x ∧ y.capabilityId = x.capabilityId ∧
        y.authorizationCommitment = x.authorizationCommitment ∧
        (y.phase = x.phase ∨
          y.phase = inspectOperation N S w.disk x ∧ x.phase.pending = true ∧ w'.disk = w.disk) := by
  obtain ⟨hsteady, hstep⟩ := steadyStep_eq_some.mp h
  have hsame : ∀ {x}, w.inspections[k]? = some x → (y = x ∨ y = x.halt) →
      ∃ x, w.inspections[k]? = some x ∧ y.capabilityId = x.capabilityId ∧
        y.authorizationCommitment = x.authorizationCommitment ∧
        (y.phase = x.phase ∨
          y.phase = inspectOperation N S w.disk x ∧ x.phase.pending = true ∧ w'.disk = w.disk) := by
    rintro x hx (rfl | rfl)
    · exact ⟨y, hx, rfl, rfl, .inl rfl⟩
    · exact ⟨x, hx, rfl, rfl, .inl rfl⟩
  cases action with
  | claim store c a =>
    cases hstep
    exact .inr (hsame hy (.inl rfl))
  | complete store i outcome =>
    obtain ⟨call, hcall, hstep⟩ := Option.bind_eq_some_iff.mp hstep
    cases hstep
    exact .inr (hsame hy (.inl rfl))
  | inspect store c a =>
    cases hstep
    rcases Nat.lt_or_ge k w.inspections.length with hk | hk
    · rw [List.getElem?_append_left hk] at hy
      exact .inr (hsame hy (.inl rfl))
    · rw [List.getElem?_append_right hk] at hy
      obtain rfl := List.mem_singleton.mp (List.mem_of_getElem? hy)
      exact .inl ⟨hk, rfl⟩
  | proceed i =>
    obtain ⟨call, hcall, hstep⟩ := Option.bind_eq_some_iff.mp hstep
    split_ifs at hstep
    split at hstep <;> cases hstep <;> exact .inr (hsame hy (.inl rfl))
  | fail i =>
    obtain ⟨call, hcall, hstep⟩ := Option.bind_eq_some_iff.mp hstep
    split_ifs at hstep
    cases hstep
    exact .inr (hsame hy (.inl rfl))
  | proceedInspection j =>
    obtain ⟨call, hcall, hstep⟩ := Option.bind_eq_some_iff.mp hstep
    split_ifs at hstep with hpending
    cases hstep
    rw [Bool.and_eq_true] at hpending
    by_cases hj : j = k
    · subst hj
      rw [List.getElem?_set_self (List.getElem?_eq_some_iff.mp hcall).1, Option.some.injEq] at hy
      subst hy
      exact .inr ⟨call, hcall, rfl, rfl, .inr ⟨rfl, hpending.2, rfl⟩⟩
    · rw [List.getElem?_set_ne hj] at hy
      exact .inr (hsame hy (.inl rfl))
  | failInspection j =>
    obtain ⟨call, hcall, hstep⟩ := Option.bind_eq_some_iff.mp hstep
    split_ifs at hstep
    cases hstep
    by_cases hj : j = k
    · subst hj
      rw [List.getElem?_set_self (List.getElem?_eq_some_iff.mp hcall).1, Option.some.injEq] at hy
      exact .inr (hsame hcall (.inr hy.symm))
    · rw [List.getElem?_set_ne hj] at hy
      exact .inr (hsame hy (.inl rfl))
  | stop process =>
    cases hstep
    rw [List.getElem?_map] at hy
    obtain ⟨x, hx, rfl⟩ := Option.map_eq_some_iff.mp hy
    refine .inr (hsame hx ?_)
    split_ifs
    · exact .inr rfl
    · exact .inl rfl
  | crash lostDirectories lostFiles => cases hsteady

variable (N S) in
/-- The invariant of crash-free runs: the disk is safe, and every inspection with the binding of the
    claimant has seen what the disk holds. -/
structure Observed (w : World) : Prop where
  safe : Safe N S True w
  evidence : ∀ (k : ℕ) call, w.inspections[k]? = some call →
    Claimant w call.capabilityId call.authorizationCommitment →
      Evidence N S w.disk call.capabilityId call.authorizationCommitment call.phase

theorem observed_initial : Observed N S World.initial := by
  refine ⟨safe_initial True, fun k call h => ?_⟩
  cases h

theorem step_observed {w w' : World} {action : Action} (h : Observed N S w)
    (hstep : steadyStep N S w action = some w') : Observed N S w' := by
  obtain ⟨hsteady, hstep'⟩ := steadyStep_eq_some.mp hstep
  refine ⟨step_safe hstep' (fun _ => hsteady) h.safe, fun k y hy hclaimant => ?_⟩
  have hbefore := claimant_of_step hstep' hclaimant
  rcases inspection_of_steadyStep hstep hy with
    ⟨-, hphase⟩ | ⟨x, hx, hc, ha, hphase | ⟨hphase, hpending, hdisk⟩⟩
  · rw [hphase]
    trivial
  · rw [hc, ha] at hbefore ⊢
    rw [hphase]
    exact (h.evidence k x hx hbefore).extends (extends_of_steadyStep hstep)
  · rw [hc, ha] at hbefore ⊢
    have hevidence := h.evidence k x hx hbefore
    rw [hphase, hdisk]
    exact (inspects_of_operation h.safe hbefore hpending hevidence).evidence hevidence

/-- What the inspections that began after a state can have missed of its disk. -/
def Missed (earlier w : World) : Prop :=
  earlier.disk.Extends w.disk ∧
    ∀ (k : ℕ) call, earlier.inspections.length ≤ k → w.inspections[k]? = some call →
      Claimant w call.capabilityId call.authorizationCommitment →
        Since earlier.disk call.capabilityId call.phase

theorem missed_refl (w : World) : Missed w w := by
  refine ⟨.refl _, fun k call hk hcall => ?_⟩
  exact absurd (List.getElem?_eq_some_iff.mp hcall).1 (by omega)

theorem step_missed {earlier w w' : World} {action : Action} (hw : Observed N S w)
    (h : Missed earlier w) (hstep : steadyStep N S w action = some w') : Missed earlier w' := by
  obtain ⟨hsteady, hstep'⟩ := steadyStep_eq_some.mp hstep
  obtain ⟨hextends, hsince⟩ := h
  refine ⟨hextends.trans (extends_of_steadyStep hstep), fun k y hk hy hclaimant => ?_⟩
  have hbefore := claimant_of_step hstep' hclaimant
  rcases inspection_of_steadyStep hstep hy with
    ⟨-, hphase⟩ | ⟨x, hx, hc, ha, hphase | ⟨hphase, hpending, hdisk⟩⟩
  · rw [hphase]
    trivial
  · rw [hc, ha] at hbefore
    rw [hphase, hc]
    exact hsince k x hk hx hbefore
  · rw [hc, ha] at hbefore
    have hevidence := hw.evidence k x hx hbefore
    rw [hphase, hc]
    exact (inspects_of_operation hw.safe hbefore hpending hevidence).since hextends
      (hsince k x hk hx hbefore)

theorem run_observed {w w' : World} {actions : List Action} (hw : Observed N S w)
    (h : run (steadyStep N S) w actions = some w') : Observed N S w' :=
  run_invariant (fun _ _ _ hs hstep => step_observed hs hstep) h hw

theorem run_missed {w w' : World} {actions : List Action} (hw : Observed N S w)
    (h : run (steadyStep N S) w actions = some w') : Missed w w' := by
  have hstep : ∀ s action s', Observed N S s ∧ Missed w s → steadyStep N S s action = some s' →
      Observed N S s' ∧ Missed w s' :=
    fun _ _ _ hs hstep => ⟨step_observed hs.1 hstep, step_missed hs.1 hs.2 hstep⟩
  exact (run_invariant hstep h ⟨hw, missed_refl w⟩).2

theorem claimant_of_run {w w' : World} {actions : List Action}
    (h : run (steadyStep N S) w actions = some w') (hclaimant : Claimant w' c a) :
    Claimant w c a := by
  induction actions generalizing w with
  | nil =>
    cases h
    exact hclaimant
  | cons action actions ih =>
    obtain ⟨u, hu, h⟩ := run_cons.mp h
    exact claimant_of_step (steadyStep_eq_some.mp hu).2 (ih h)

/-! ## Answers -/

theorem directory_of_file {disk : Disk} {f : RecordFile} {body : List UInt8}
    (h : disk.file c f = some body) : ∃ d, disk c = some d := by
  obtain ⟨d, e, hd, -⟩ := Disk.file_eq_some.mp h
  exact ⟨d, hd⟩

/-- An answer is not ahead of the disk. -/
theorem Faithful.rank_le {disk : Disk} {i : ClaimInspection} (h : Faithful N S disk c a i) :
    stateRank i.state ≤ disk.rank c := by
  cases h with
  | absent => exact Nat.zero_le _
  | reservedIncomplete d hd =>
    show 1 ≤ disk.rank c
    rw [Disk.rank, hd]
    split <;> first | omega | simp_all
  | reserved record hclaim =>
    obtain ⟨-, body, -, hfile⟩ := hclaim
    obtain ⟨d, hd⟩ := directory_of_file hfile
    show 2 ≤ disk.rank c
    rw [Disk.rank, hd, hfile]
    split <;> first | omega | simp_all
  | consumed record terminal hclaim hterminal =>
    obtain ⟨-, body, -, hfile⟩ := hclaim
    obtain ⟨-, body', -, hfile'⟩ := hterminal
    obtain ⟨d, hd⟩ := directory_of_file hfile
    show 3 ≤ disk.rank c
    rw [Disk.rank, hd, hfile, hfile']

/-- Two terminal answers agree. -/
theorem consumed_unique {w : World} (hsafe : Safe N S True w) {a' : HashText}
    (hclaimant : Claimant w c a) (hclaimant' : Claimant w c a') {i i' : ClaimInspection}
    (h : Faithful N S w.disk c a i) (h' : Faithful N S w.disk c a' i') {state : TerminalState}
    (hstate : i.state = .consumed state) (hrank : 3 ≤ stateRank i'.state) : i' = i := by
  cases h with
  | absent | reservedIncomplete _ _ | reserved _ _ => cases hstate
  | consumed record terminal hclaim hterminal =>
    cases h' with
    | absent | reservedIncomplete _ _ | reserved _ _ => simp [makeInspection, stateRank] at hrank
    | consumed record' terminal' hclaim' hterminal' =>
      obtain ⟨hmake, body, hbody, hfile⟩ := hterminal
      obtain ⟨hmake', body', hbody', hfile'⟩ := hterminal'
      obtain ⟨k, owner, howner, hc, howns, -⟩ := hsafe.terminalSource c body hfile
      have ha := hclaimant k owner howner hc (by omega)
      have ha' := hclaimant' k owner howner hc (by omega)
      obtain rfl := ha.symm.trans ha'
      obtain rfl := Except.ok.inj (hclaim.1.symm.trans hclaim'.1)
      obtain rfl := Option.some.inj (hfile.symm.trans hfile')
      rw [terminal_of_body hmake hmake' hbody hbody']

/-- Of two inspections in a row, the second does not fall behind the first. -/
theorem answers_forward {w w' : World} (hw : Observed N S w) {actions : List Action}
    (hrun : run (steadyStep N S) w actions = some w') {k j : ℕ} {x y : InspectCall}
    {i i' : ClaimInspection} (hx : w.inspections[k]? = some x) (hy : w'.inspections[j]? = some y)
    (hj : w.inspections.length ≤ j) (hsame : y.capabilityId = x.capabilityId)
    (hclaimant : Claimant w' x.capabilityId x.authorizationCommitment)
    (hclaimant' : Claimant w' y.capabilityId y.authorizationCommitment)
    (hi : x.phase = .answered (.ok i)) (hi' : y.phase = .answered (.ok i')) :
    stateRank i.state ≤ stateRank i'.state ∧ ∀ state, i.state = .consumed state → i' = i := by
  have hw' := run_observed hw hrun
  obtain ⟨hextends, hmissed⟩ := run_missed hw hrun
  have hevidence := hw.evidence k x hx (claimant_of_run hrun hclaimant)
  have hevidence' := hw'.evidence j y hy hclaimant'
  have hsince := hmissed j y hj hy hclaimant'
  rw [hi] at hevidence
  rw [hi'] at hevidence' hsince
  rw [hsame] at hevidence' hsince hclaimant'
  obtain ⟨_, heq, hfaithful⟩ := hevidence
  obtain rfl := Except.ok.inj heq
  obtain ⟨_, heq', hfaithful'⟩ := hevidence'
  obtain rfl := Except.ok.inj heq'
  have hforward : stateRank i.state ≤ stateRank i'.state := hfaithful.rank_le.trans hsince
  refine ⟨hforward, fun state hstate => ?_⟩
  have hrank : 3 ≤ stateRank i'.state := by
    rw [hstate] at hforward
    exact hforward
  exact consumed_unique hw'.safe hclaimant hclaimant' (hfaithful.extends hextends) hfaithful' hstate
    hrank

/-- The operations that an inspection still has before it. -/
def InspectPhase.left : InspectPhase → ℕ
  | .directory => 5
  | .claimSize => 4
  | .claimText _ => 3
  | .terminalSize _ => 2
  | .terminalText _ _ => 1
  | .answered _ => 0

theorem left_inspectOperation (disk : Disk) {call : InspectCall} (h : call.phase.pending = true) :
    (inspectOperation N S disk call).left < call.phase.left := by
  obtain ⟨store, c, a, phase, running⟩ := call
  cases phase with
  | answered result => cases h
  | directory =>
    simp only [inspectOperation]
    split
    · exact Nat.zero_lt_succ _
    · exact Nat.lt_succ_self 4
  | claimSize => exact Nat.lt_succ_self 3
  | terminalSize record => exact Nat.lt_succ_self 1
  | claimText size =>
    simp only [inspectOperation]
    split
    · exact Nat.zero_lt_succ _
    · exact Nat.zero_lt_succ _
    · split
      · exact Nat.zero_lt_succ _
      · split_ifs
        · exact Nat.lt_succ_self 2
        · exact Nat.zero_lt_succ _
  | terminalText record size =>
    simp only [inspectOperation]
    split
    · exact Nat.zero_lt_succ _
    · exact Nat.zero_lt_succ _
    · split <;> exact Nat.zero_lt_succ _

/-- An inspection that is let run answers. -/
theorem exists_answer {k n : ℕ} {w : World} {x : InspectCall} (hx : w.inspections[k]? = some x)
    (hrunning : x.running = true) (hn : x.phase.left ≤ n) :
    ∃ actions w' y result, run (steadyStep N S) w actions = some w' ∧
      (∀ action ∈ actions, action = .proceedInspection k) ∧ actions.length ≤ n ∧
      w'.inspections[k]? = some y ∧ y.phase = .answered result := by
  induction n generalizing w x with
  | zero =>
    have hphase : ∃ result, x.phase = .answered result := by
      cases hp : x.phase with
      | answered result => exact ⟨result, rfl⟩
      | _ => simp [hp, InspectPhase.left] at hn
    obtain ⟨result, hresult⟩ := hphase
    exact ⟨[], w, x, result, rfl, by simp, le_refl 0, hx, hresult⟩
  | succ n ih =>
    by_cases hpending : x.phase.pending = true
    · obtain ⟨y, hy⟩ : ∃ y : InspectCall, { x with phase := inspectOperation N S w.disk x } = y :=
        ⟨_, rfl⟩
      have hstep : steadyStep N S w (.proceedInspection k) =
          some { w with inspections := w.inspections.set k y } := by
        refine steadyStep_eq_some.mpr ⟨rfl, Option.bind_eq_some_iff.mpr ⟨x, hx, ?_⟩⟩
        rw [if_pos (by rw [hrunning, hpending]; rfl), hy]
      have hset : (w.inspections.set k y)[k]? = some y :=
        List.getElem?_set_self (List.getElem?_eq_some_iff.mp hx).1
      have hleft : y.phase.left < x.phase.left := hy ▸ left_inspectOperation w.disk hpending
      have hrun : y.running = true := hy ▸ hrunning
      obtain ⟨actions, w', z, result, hrun, hactions, hlength, hz, hresult⟩ :=
        ih (w := { w with inspections := w.inspections.set k y }) hset hrun (by omega)
      refine ⟨.proceedInspection k :: actions, w', z, result, run_cons.mpr ⟨_, hstep, hrun⟩,
        List.forall_mem_cons.mpr ⟨rfl, hactions⟩, ?_, hz, hresult⟩
      rw [List.length_cons]
      omega
    · have hphase : ∃ result, x.phase = .answered result := by
        cases hp : x.phase with
        | answered result => exact ⟨result, rfl⟩
        | _ => simp [hp, InspectPhase.pending] at hpending
      obtain ⟨result, hresult⟩ := hphase
      exact ⟨[], w, x, result, rfl, by simp, Nat.zero_le _, hx, hresult⟩

/-- In every run of any calls, failures and process stops from an empty root: an inspection with
    the binding of the claimant answers, within five operations, with the records that the claimant
    wrote and never with an error; a later one answers no earlier state, and a terminal answer
    stays. -/
theorem inspection_faithful (N : Normalization) (S : Hash) (actions : List Action) :
    (∀ x ∈ trace (steadyStep N S) World.initial actions, ∀ (k : ℕ) call,
      x.1.inspections[k]? = some call →
        (∀ result, call.phase = .answered result →
          Claimant x.1 call.capabilityId call.authorizationCommitment → ∃ i, result = .ok i ∧
            Faithful N S x.1.disk call.capabilityId call.authorizationCommitment i) ∧
        (call.running = true → ∃ more w' call' result,
          run (steadyStep N S) x.1 more = some w' ∧
          (∀ action ∈ more, action = .proceedInspection k) ∧ more.length ≤ 5 ∧
          w'.inspections[k]? = some call' ∧ call'.phase = .answered result)) ∧
    (trace (steadyStep N S) World.initial actions).Pairwise fun x y =>
      ∀ (k j : ℕ) call call' i i', x.1.inspections[k]? = some call →
        y.1.inspections[j]? = some call' → x.1.inspections.length ≤ j →
        call'.capabilityId = call.capabilityId →
        Claimant y.1 call.capabilityId call.authorizationCommitment →
        Claimant y.1 call'.capabilityId call'.authorizationCommitment →
        call.phase = .answered (.ok i) → call'.phase = .answered (.ok i') →
          stateRank i.state ≤ stateRank i'.state ∧ ∀ state, i.state = .consumed state → i' = i := by
  constructor
  · intro x hx k call hcall
    have hobserved : Observed N S x.1 := trace_invariant
      (fun _ _ _ hs hstep => step_observed hs hstep) observed_initial hx
    constructor
    · intro result hphase hclaimant
      have hevidence := hobserved.evidence k call hcall hclaimant
      rwa [hphase] at hevidence
    · intro hrunning
      have hleft : call.phase.left ≤ 5 := by
        cases call.phase <;> simp [InspectPhase.left]
      exact exists_answer hcall hrunning hleft
  · refine pairwise_trace (fun _ _ _ hs hstep => step_observed hs hstep) ?_ observed_initial actions
    intro s action s' more u action' hs hstep hrun k j x y i i' hx hy hj hsame hclaimant hclaimant'
      hi hi'
    have hrun' : run (steadyStep N S) s (action :: more) = some u := run_cons.mpr ⟨s', hstep, hrun⟩
    exact answers_forward hs hrun' hx hy hj hsame hclaimant hclaimant' hi hi'

/-! ## An inspection that is alone -/

variable (N S) in
/-- What remains of `inspect` after an accepted claim record. -/
def inspectTerminal (record : ClaimRecord) (rawTerminal : Except DurableError JsValue) :
    Except DurableError ClaimInspection := do
  match ← rawTerminal with
  | .null => .ok (makeInspection .reserved (some record) none)
  | rawTerminal => do
    let terminal ← validateTerminalRecord N S rawTerminal record
    .ok (makeInspection (.consumed terminal.terminalState) (some record) (some terminal))

variable (N S) in
/-- `inspect` on a disk that does not change. -/
def inspectDisk (disk : Disk) (c : CapabilityId) (a : HashText) :
    Except DurableError ClaimInspection :=
  match disk c with
  | none => .ok (makeInspection .absent none none)
  | some _ => inspectFiles N S c a (disk.file c .claim) (disk.file c .terminal)

variable (N S) in
/-- What an inspection that stands at a phase answers on a disk that does not change. -/
def remainingAnswer (disk : Disk) (c : CapabilityId) (a : HashText) :
    InspectPhase → Except DurableError ClaimInspection
  | .directory => inspectDisk N S disk c a
  | .claimSize => inspectFiles N S c a (disk.file c .claim) (disk.file c .terminal)
  | .claimText size => inspectRecords N S c a (readBoundedJson size (disk.file c .claim))
    (readBoundedJson ((disk.file c .terminal).map List.length) (disk.file c .terminal))
  | .terminalSize record => inspectTerminal N S record
    (readBoundedJson ((disk.file c .terminal).map List.length) (disk.file c .terminal))
  | .terminalText record size => inspectTerminal N S record
    (readBoundedJson size (disk.file c .terminal))
  | .answered result => result

theorem ok_bind {ε α β : Type} (x : α) (f : α → Except ε β) : (Except.ok x >>= f) = f x := rfl

theorem inspectRecords_of_ne_null {value : JsValue} (h : value ≠ .null)
    {rawTerminal : Except DurableError JsValue} :
    inspectRecords N S c a (.ok value) rawTerminal = (do
      let record ← validateClaimRecord N S value
      durableRequire (record.capabilityId = c && record.authorizationCommitment = a)
        .bindingMismatch
        (js "persisted durable claim does not match the expected authorization binding")
      inspectTerminal N S record rawTerminal) := by
  cases value with
  | null => exact absurd rfl h
  | _ => rfl

theorem inspectTerminal_of_ne_null {value : JsValue} (h : value ≠ .null) {record : ClaimRecord} :
    inspectTerminal N S record (.ok value) = (do
      let terminal ← validateTerminalRecord N S value record
      .ok (makeInspection (.consumed terminal.terminalState) (some record) (some terminal))) := by
  cases value with
  | null => exact absurd rfl h
  | _ => rfl

/-- An operation does not change what the inspection will answer. -/
theorem remainingAnswer_inspectOperation (disk : Disk) (call : InspectCall) :
    remainingAnswer N S disk call.capabilityId call.authorizationCommitment
        (inspectOperation N S disk call) =
      remainingAnswer N S disk call.capabilityId call.authorizationCommitment call.phase := by
  obtain ⟨store, c, a, phase, running⟩ := call
  cases phase with
  | directory =>
    simp only [inspectOperation, remainingAnswer, inspectDisk]
    cases hd : disk c with
    | none => rfl
    | some d => rfl
  | claimSize => rfl
  | claimText size =>
    simp only [inspectOperation]
    rw [remainingAnswer.eq_3]
    cases readBoundedJson size (disk.file c .claim) with
    | error e => rfl
    | ok value =>
      cases value with
      | null => rfl
      | bool _ | number _ | string _ | array _ | object _ =>
        rw [inspectRecords_of_ne_null (by simp)]
        dsimp only
        generalize validateClaimRecord N S _ = validated
        cases validated with
        | error e => rfl
        | ok record =>
          have hcondition : (decide (record.capabilityId = c) &&
              decide (record.authorizationCommitment = a)) =
              decide (record.capabilityId = c ∧ record.authorizationCommitment = a) :=
            (Bool.decide_and _ _).symm
          dsimp only
          rw [ok_bind, hcondition]
          by_cases hbinding : record.capabilityId = c ∧ record.authorizationCommitment = a
          · rw [decide_eq_true hbinding, if_pos hbinding]
            rfl
          · rw [decide_eq_false hbinding, if_neg hbinding]
            rfl
  | terminalSize record => rfl
  | terminalText record size =>
    simp only [inspectOperation]
    rw [remainingAnswer.eq_5]
    cases readBoundedJson size (disk.file c .terminal) with
    | error e => rfl
    | ok value =>
      cases value with
      | null => rfl
      | bool _ | number _ | string _ | array _ | object _ =>
        rw [inspectTerminal_of_ne_null (by simp)]
        dsimp only
        generalize validateTerminalRecord N S _ record = validated
        cases validated with
        | error e => rfl
        | ok terminal => rfl
  | answered result => rfl

theorem set_length_append {α : Type} (l : List α) (x y : α) :
    (l ++ [x]).set l.length y = l ++ [y] := by
  rw [List.set_append_right _ _ (le_refl _), Nat.sub_self, List.set_cons_zero]

/-- The last inspection runs to its answer while nothing else happens. -/
theorem run_proceedInspection (store : StoreId) (disk : Disk) (calls : List Call)
    (inspections : List InspectCall) {n : ℕ} (phase : InspectPhase) (hn : phase.left ≤ n) :
    ∃ more, (∀ action ∈ more, action = .proceedInspection inspections.length) ∧
      run (step N S) ⟨disk, calls, inspections ++ [⟨store, c, a, phase, true⟩]⟩ more =
        some ⟨disk, calls, inspections ++
          [⟨store, c, a, .answered (remainingAnswer N S disk c a phase), true⟩]⟩ := by
  induction n generalizing phase with
  | zero =>
    cases phase with
    | answered result => exact ⟨[], by simp, rfl⟩
    | _ => simp [InspectPhase.left] at hn
  | succ n ih =>
    cases hpending : phase.pending with
    | false =>
      cases phase with
      | answered result => exact ⟨[], by simp, rfl⟩
      | _ => cases hpending
    | true =>
      have hleft := left_inspectOperation (N := N) (S := S) disk
        (show (InspectCall.mk store c a phase true).phase.pending = true from hpending)
      have hanswer := remainingAnswer_inspectOperation (N := N) (S := S) disk
        ⟨store, c, a, phase, true⟩
      obtain ⟨next, hnext⟩ : ∃ next, inspectOperation N S disk ⟨store, c, a, phase, true⟩ = next :=
        ⟨_, rfl⟩
      rw [hnext] at hleft hanswer
      obtain ⟨more, hmore, hrun⟩ := ih next (by dsimp only at hleft; omega)
      refine ⟨.proceedInspection inspections.length :: more, List.forall_mem_cons.mpr ⟨rfl, hmore⟩,
        run_cons.mpr ⟨_, ?_, hrun.trans (by rw [hanswer])⟩⟩
      refine Option.bind_eq_some_iff.mpr
        ⟨⟨store, c, a, phase, true⟩, List.getElem?_concat_length, ?_⟩
      rw [if_pos (by rw [hpending]; rfl), hnext, set_length_append]

/-- An inspection that nothing disturbs answers what the contents of the files say, and changes
    nothing. -/
theorem inspection_alone (N : Normalization) (S : Hash) (w : World) (store : StoreId)
    (c : CapabilityId) (a : HashText) :
    ∃ more, (∀ action ∈ more, action = .proceedInspection w.inspections.length) ∧
      run (step N S) w (.inspect store c a :: more) = some { w with
        inspections := w.inspections ++
          [⟨store, c, a, .answered (inspectDisk N S w.disk c a), true⟩] } := by
  obtain ⟨more, hmore, hrun⟩ := run_proceedInspection (N := N) (S := S) (c := c) (a := a) store
    w.disk w.calls w.inspections .directory (le_refl 5)
  exact ⟨more, hmore, run_cons.mpr ⟨_, rfl, hrun⟩⟩

/-! ## A claim that is alone -/

/-- The members of a record within bounds are written. -/
theorem recordBody_of_fits {bounds : List ℕ} {es : List (JsString × JsValue)}
    (hkeys : ∀ key ∈ es.map Prod.fst, isPlainKey key = true)
    (h : List.Forall₂ (fun n e => Fits N n e.2) bounds es) (hcount : es.length < MAX_NODES)
    (hsize : bounds.sum + ((es.map Prod.fst).map fun key => key.length + 3).sum + es.length + 3 ≤
      MAX_RECORD_BYTES) :
    ∃ body, recordBody N es = .ok body := by
  obtain ⟨t, ht⟩ := canonicalizePayload_of_fits hkeys h hcount ((Nat.le_succ _).trans hsize)
  obtain ⟨-, -, -, -, -, rfl⟩ := (canonicalizePayload_eq_ok_iff _ _).mp ht
  obtain ⟨-, -, -, hbytes⟩ := entries_fit hkeys h
  have hlength : (utf8Encode (canonicalizeValue N (.object es) ++ [0x0A])).length ≤
      MAX_RECORD_BYTES := by
    have htext : byteLength (canonicalizeValue N (.object es) ++ [0x0A]) =
        canonicalBytes N (.object es) + byteLength [] + 1 := by
      rw [byteLength_append_cons_ascii (by decide), byteLength_canonicalizeValue_eq]
    have hempty : byteLength [] = 0 := rfl
    rw [canonicalBytes] at htext
    unfold byteLength at htext hempty
    omega
  refine ⟨_, bind_eq_ok.mpr ⟨_, mapError_eq_ok.mpr ht, bind_eq_ok.mpr
    ⟨(), durableRequire_eq_ok.mpr ?_, rfl⟩⟩⟩
  exact decide_eq_true hlength

theorem claimBody_ok (r : ClaimRecord) : ∃ body, recordBody N r.toEntries = .ok body := by
  have hfits : List.Forall₂ (fun n (e : JsString × JsValue) => Fits N n e.2)
      [26, 38, 66, 66, 5, 5, 5, 5, 5, 5] r.toEntries :=
    .cons (plainWithin_claimSchema.fits (by norm_num))
      (.cons ((plainWithin_capabilityId r.capabilityId).fits (by norm_num))
        (.cons ((plainWithin_hash r.authorizationCommitment).fits (by norm_num))
          (.cons ((plainWithin_hash r.claimCommitment).fits (by norm_num))
            (.cons (Fits.bool true) (.cons (Fits.bool true) (.cons (Fits.bool true)
              (.cons (Fits.bool false) (.cons (Fits.bool false)
                (.cons (Fits.bool false) .nil)))))))))
  have hkeys : ∀ key ∈ CLAIM_RECORD_KEYS, isPlainKey key = true := List.all_eq_true.mp (by decide)
  have hsize : [26, 38, 66, 66, 5, 5, 5, 5, 5, 5].sum +
      (CLAIM_RECORD_KEYS.map fun key => key.length + 3).sum + 10 + 3 ≤ MAX_RECORD_BYTES := by decide
  exact recordBody_of_fits (by exact hkeys) hfits (by show 10 < MAX_NODES; decide) (by exact hsize)

theorem terminalBody_ok (r : TerminalRecord) : ∃ body, recordBody N r.toEntries = .ok body := by
  have hfits : List.Forall₂ (fun n (e : JsString × JsValue) => Fits N n e.2)
      [29, 38, 66, 66, 18, 66, 5] r.toEntries :=
    .cons (plainWithin_terminalSchema.fits (by norm_num))
      (.cons ((plainWithin_capabilityId r.claim.capabilityId).fits (by norm_num))
        (.cons ((plainWithin_hash r.claim.authorizationCommitment).fits (by norm_num))
          (.cons ((plainWithin_hash r.claim.claimCommitment).fits (by norm_num))
            (.cons ((plainWithin_terminalState r.terminalState).fits (by norm_num))
              (.cons ((plainWithin_hash r.terminalCommitment).fits (by norm_num))
                (.cons (Fits.bool true) .nil))))))
  have hkeys : ∀ key ∈ TERMINAL_RECORD_KEYS, isPlainKey key = true :=
    List.all_eq_true.mp (by decide)
  have hsize : [29, 38, 66, 66, 18, 66, 5].sum +
      (TERMINAL_RECORD_KEYS.map fun key => key.length + 3).sum + 7 + 3 ≤ MAX_RECORD_BYTES := by
    decide
  exact recordBody_of_fits (by exact hkeys) hfits (by show 7 < MAX_NODES; decide) (by exact hsize)

theorem link_of_absent {disk : Disk} {f : RecordFile} (body : List UInt8)
    (hdirectory : ∃ d, disk c = some d) (habsent : disk.file c f = none) :
    ∃ disk', disk.link c f body = some disk' := by
  obtain ⟨d, hd⟩ := hdirectory
  have hnone : d.value f = none := by
    rw [Disk.file, hd] at habsent
    exact Option.map_eq_none_iff.mp habsent
  exact ⟨_, Disk.link_eq_some.mpr ⟨d, _, hd, DurableMap.create_eq_some.mpr ⟨hnone, rfl⟩, rfl⟩⟩

/-- The last claim makes its next operation. -/
theorem step_proceed {store : StoreId} {disk disk' : Disk} {phase phase' : ClaimPhase}
    (calls : List Call) (inspections : List InspectCall) (hpending : phase.pending = true)
    (h : operation N S disk ⟨store, c, a, phase, true⟩ = some (disk', phase')) :
    step N S ⟨disk, calls ++ [⟨store, c, a, phase, true⟩], inspections⟩ (.proceed calls.length) =
      some ⟨disk', calls ++ [⟨store, c, a, phase', true⟩], inspections⟩ := by
  refine Option.bind_eq_some_iff.mpr ⟨_, List.getElem?_concat_length, ?_⟩
  rw [if_pos (by rw [hpending]; rfl), h]
  dsimp only
  rw [set_length_append]

theorem step_complete {store : StoreId} {disk : Disk} {record : ClaimRecord}
    {terminal : TerminalRecord} {outcome : TerminalState} (calls : List Call)
    (inspections : List InspectCall) (h : makeTerminalRecord N S record outcome = .ok terminal) :
    step N S ⟨disk, calls ++ [⟨store, c, a, .opened record, true⟩], inspections⟩
        (.complete store calls.length outcome) =
      some ⟨disk, calls ++ [⟨store, c, a, .checkingSize record terminal, true⟩], inspections⟩ := by
  refine Option.bind_eq_some_iff.mpr ⟨_, List.getElem?_concat_length, ?_⟩
  rw [set_length_append, beginCompletion]
  dsimp only
  rw [if_pos (by simp), h]

theorem file_none_of_sub {disk disk' : Disk} {f : RecordFile}
    (hsub : ∀ body, disk'.file c f = some body → disk.file c f = some body)
    (h : disk.file c f = none) : disk'.file c f = none := by
  cases hfile : disk'.file c f with
  | none => rfl
  | some body =>
    rw [hsub body hfile] at h
    cases h

/-- The completion finds the record of its handle. -/
theorem persistedClaimMatches_of_written {disk : Disk} {record : ClaimRecord}
    (h : ClaimWritten N S disk c a record) :
    persistedClaimMatches N S record ((disk.file c .claim).map List.length) (disk.file c .claim) =
      true := by
  obtain ⟨hmake, body, hbody, hfile⟩ := h
  obtain ⟨value, hvalue, hholds⟩ := fileHolds_recordBody (verbatim_claim record) hbody
  have hread := readBoundedJson_eq_ok.mpr (.inr hvalue)
  have hrecord := validateClaimRecord_eq_ok.mpr
    ⟨by rwa [(makeClaimRecord_binding hmake).1, (makeClaimRecord_binding hmake).2], hholds⟩
  obtain ⟨es, rfl, -⟩ := hholds
  rw [hfile, persistedClaimMatches, hread]
  dsimp only
  rw [hrecord]
  simp

/-- Both records on the disk are what `inspect` reports. -/
theorem inspectDisk_consumed {disk : Disk} {record : ClaimRecord} {terminal : TerminalRecord}
    (hclaim : ClaimWritten N S disk c a record)
    (hterminal : TerminalWritten N S disk c record terminal) :
    inspectDisk N S disk c a =
      .ok (makeInspection (.consumed terminal.terminalState) (some record) (some terminal)) := by
  obtain ⟨hmake, body, hbody, hfile⟩ := hclaim
  obtain ⟨hmakeTerminal, body', hbody', hfile'⟩ := hterminal
  obtain ⟨d, hd⟩ := directory_of_file hfile
  obtain ⟨value, hvalue, hholds⟩ := fileHolds_recordBody (verbatim_claim record) hbody
  obtain ⟨value', hvalue', hholds'⟩ := fileHolds_recordBody (verbatim_terminal terminal) hbody'
  obtain ⟨rfl, rfl⟩ := makeClaimRecord_binding hmake
  have hrecord := validateClaimRecord_eq_ok.mpr ⟨hmake, hholds⟩
  have hvalid := validateTerminalRecord_eq_ok.mpr ⟨hmakeTerminal, hholds'⟩
  obtain ⟨es, rfl, -⟩ := hholds
  obtain ⟨fs, rfl, -⟩ := hholds'
  rw [inspectDisk, hd]
  dsimp only
  rw [hfile, hfile', inspectFiles, readBoundedJson_eq_ok.mpr (.inr hvalue),
    readBoundedJson_eq_ok.mpr (.inr hvalue')]
  exact inspectRecords_consumed hrecord hvalid

/-- What a claim does to a disk without a directory for its capability. -/
theorem exists_claimed {disk : Disk} {record : ClaimRecord} {body : List UInt8} (h : disk c = none)
    (hrecord : makeClaimRecord N S c a = .ok record)
    (hbody : recordBody N record.toEntries = .ok body) :
    ∃ made linked : Disk, disk.mkdir c = some made ∧
      Disk.link (DurableMap.sync made) c .claim body = some linked ∧
      ClaimWritten N S (linked.syncFiles c) c a record ∧
      (linked.syncFiles c).file c .terminal = none := by
  obtain ⟨made, hmkdir⟩ : ∃ made, disk.mkdir c = some made :=
    ⟨_, DurableMap.create_eq_some.mpr ⟨h, rfl⟩⟩
  have hnew : ∃ d, made c = some d := by
    obtain ⟨-, rfl⟩ := DurableMap.create_eq_some.mp hmkdir
    exact ⟨_, Function.update_self ..⟩
  have hempty : ∀ f, Disk.file (DurableMap.sync made) c f = none := by
    intro f
    refine file_none_of_sub (fun _ => Disk.file_of_syncRoot)
      (file_none_of_sub (fun _ => Disk.file_of_mkdir hmkdir) ?_)
    rw [Disk.file, h]
    rfl
  obtain ⟨linked, hlink⟩ := link_of_absent body
    (directory_extends (Disk.extends_syncRoot made) hnew) (hempty .claim)
  have hwritten : ClaimWritten N S linked c a record :=
    ⟨hrecord, body, hbody, Disk.file_link hlink⟩
  refine ⟨made, linked, hmkdir, hlink, hwritten.extends (Disk.extends_syncFiles linked c), ?_⟩
  refine file_none_of_sub (fun _ => Disk.file_of_syncFiles) ?_
  refine file_none_of_sub (fun _ hfile => ?_) (hempty .terminal)
  rcases Disk.file_of_link hlink hfile with hold | ⟨-, hf, -⟩
  · exact hold
  · cases hf

/-- What a completion does to a disk with its claim and no terminal record. -/
theorem exists_completed {disk : Disk} {record : ClaimRecord} {terminal : TerminalRecord}
    {body : List UInt8} (hclaim : ClaimWritten N S disk c a record)
    (h : disk.file c .terminal = none)
    (hterminal : makeTerminalRecord N S record terminal.terminalState = .ok terminal)
    (hbody : recordBody N terminal.toEntries = .ok body) :
    ∃ linked : Disk, disk.link c .terminal body = some linked ∧
      ClaimWritten N S (linked.syncFiles c) c a record ∧
      TerminalWritten N S (linked.syncFiles c) c record terminal := by
  have hdirectory : ∃ d, disk c = some d := by
    obtain ⟨-, _, -, hfile⟩ := hclaim
    exact directory_of_file hfile
  obtain ⟨linked, hlink⟩ := link_of_absent body hdirectory h
  have hsync := Disk.extends_syncFiles linked c
  exact ⟨linked, hlink, hclaim.extends ((Disk.extends_link hlink).trans hsync),
    TerminalWritten.extends ⟨hterminal, body, hbody, Disk.file_link hlink⟩ hsync⟩

/-- The operations of a claim, up to its return. -/
theorem run_claim (store : StoreId) (calls : List Call) (inspections : List InspectCall)
    {disk made linked : Disk} {record : ClaimRecord} {body : List UInt8}
    (hrecord : makeClaimRecord N S c a = .ok record)
    (hbody : recordBody N record.toEntries = .ok body) (hmkdir : disk.mkdir c = some made)
    (hlink : Disk.link (DurableMap.sync made) c .claim body = some linked) :
    run (step N S) ⟨disk, calls ++ [⟨store, c, a, .reserving, true⟩], inspections⟩
        (List.replicate 6 (.proceed calls.length)) =
      some ⟨linked.syncFiles c, calls ++ [⟨store, c, a, .opened record, true⟩], inspections⟩ := by
  have hproceed := fun {disk disk' phase phase'} hpending hoperation =>
    @step_proceed N S c a store disk disk' phase phase' calls inspections hpending hoperation
  refine run_cons.mpr ⟨_, hproceed rfl (Option.map_eq_some_iff.mpr ⟨made, hmkdir, rfl⟩), ?_⟩
  refine run_cons.mpr ⟨_, hproceed rfl rfl, ?_⟩
  refine run_cons.mpr ⟨_, hproceed rfl (Option.bind_eq_some_iff.mpr
    ⟨record, toOption_eq_some.mpr hrecord, Option.bind_eq_some_iff.mpr
      ⟨body, toOption_eq_some.mpr hbody, rfl⟩⟩), ?_⟩
  refine run_cons.mpr ⟨_, hproceed rfl (Option.bind_eq_some_iff.mpr
    ⟨(linked, some .unlinking), Option.map_eq_some_iff.mpr ⟨linked, hlink, rfl⟩, rfl⟩), ?_⟩
  refine run_cons.mpr ⟨_, hproceed rfl rfl, ?_⟩
  exact run_cons.mpr ⟨_, hproceed rfl rfl, rfl⟩

/-- The operations of a completion, up to its return. -/
theorem run_complete (store : StoreId) (calls : List Call) (inspections : List InspectCall)
    {disk linked : Disk} {record : ClaimRecord} {terminal : TerminalRecord} {body : List UInt8}
    {outcome : TerminalState} (hclaim : ClaimWritten N S disk c a record)
    (hterminal : makeTerminalRecord N S record outcome = .ok terminal)
    (hbody : recordBody N terminal.toEntries = .ok body)
    (hlink : disk.link c .terminal body = some linked) :
    run (step N S) ⟨disk, calls ++ [⟨store, c, a, .opened record, true⟩], inspections⟩
        (.complete store calls.length outcome :: List.replicate 6 (.proceed calls.length)) =
      some ⟨linked.syncFiles c, calls ++ [⟨store, c, a, .consumed record terminal, true⟩],
        inspections⟩ := by
  have hproceed := fun {disk disk' phase phase'} hpending hoperation =>
    @step_proceed N S c a store disk disk' phase phase' calls inspections hpending hoperation
  refine run_cons.mpr ⟨_, step_complete calls inspections hterminal, ?_⟩
  refine run_cons.mpr ⟨_, hproceed rfl rfl, ?_⟩
  refine run_cons.mpr ⟨_, hproceed rfl (if_pos (persistedClaimMatches_of_written hclaim)), ?_⟩
  refine run_cons.mpr ⟨_, hproceed rfl (Option.bind_eq_some_iff.mpr
    ⟨body, toOption_eq_some.mpr hbody, rfl⟩), ?_⟩
  refine run_cons.mpr ⟨_, hproceed rfl (Option.bind_eq_some_iff.mpr
    ⟨(linked, some .unlinking), Option.map_eq_some_iff.mpr ⟨linked, hlink, rfl⟩, rfl⟩), ?_⟩
  refine run_cons.mpr ⟨_, hproceed rfl rfl, ?_⟩
  exact run_cons.mpr ⟨_, hproceed rfl rfl, rfl⟩

/-- A claim of a capability without a directory, and its completion, go through where nothing
    disturbs them, and `inspect` then reports both records. -/
theorem claim_completes (N : Normalization) (S : Hash) (w : World) (store : StoreId)
    (c : CapabilityId) (a : HashText) (outcome : TerminalState) (h : w.disk c = none) :
    ∃ more disk record terminal,
      (∀ action ∈ more, action = .proceed w.calls.length ∨
        action = .complete store w.calls.length outcome) ∧
      run (step N S) w (.claim store c a :: more) = some { w with
        disk
        calls := w.calls ++ [⟨store, c, a, .consumed record terminal, true⟩] } ∧
      makeClaimRecord N S c a = .ok record ∧
      makeTerminalRecord N S record outcome = .ok terminal ∧
      inspectDisk N S disk c a =
        .ok (makeInspection (.consumed outcome) (some record) (some terminal)) := by
  obtain ⟨record, hrecord, -, -⟩ := makeClaimRecord_ok N S c a
  obtain ⟨terminal, hterminal, -, rfl⟩ := makeTerminalRecord_ok N S record outcome
  obtain ⟨body, hbody⟩ := claimBody_ok (N := N) record
  obtain ⟨body', hbody'⟩ := terminalBody_ok (N := N) terminal
  obtain ⟨made, linked, hmkdir, hlink, hclaim, hempty⟩ := exists_claimed h hrecord hbody
  obtain ⟨linked', hlink', hclaim', hterminal'⟩ := exists_completed hclaim hempty hterminal hbody'
  have hopened := run_claim store w.calls w.inspections hrecord hbody hmkdir hlink
  have hconsumed := run_complete store w.calls w.inspections hclaim hterminal hbody' hlink'
  refine ⟨_, linked'.syncFiles c, record, terminal, ?_,
    run_cons.mpr ⟨_, rfl, run_append.mpr ⟨_, hopened, hconsumed⟩⟩, hrecord, hterminal,
    inspectDisk_consumed hclaim' hterminal'⟩
  intro action haction
  simp only [List.mem_append, List.mem_cons, List.mem_replicate] at haction
  rcases haction with ⟨-, rfl⟩ | rfl | ⟨-, rfl⟩
  · exact .inl rfl
  · exact .inr rfl
  · exact .inl rfl

/-- On an empty root a claim completes. -/
theorem claim_completes_initial :
    ∃ more disk record terminal,
      (∀ action ∈ more, action = .proceed 0 ∨ action = .complete ⟨1, 1⟩ 0 .consumedSuccess) ∧
      run (step devanagari sha256) World.initial
          (.claim ⟨1, 1⟩ sampleCapability sampleAuthorization :: more) =
        some ⟨disk, [⟨⟨1, 1⟩, sampleCapability, sampleAuthorization, .consumed record terminal,
          true⟩], []⟩ ∧
      makeClaimRecord devanagari sha256 sampleCapability sampleAuthorization = .ok record ∧
      makeTerminalRecord devanagari sha256 record .consumedSuccess = .ok terminal ∧
      inspectDisk devanagari sha256 disk sampleCapability sampleAuthorization =
        .ok (makeInspection (.consumed .consumedSuccess) (some record) (some terminal)) :=
  claim_completes devanagari sha256 World.initial ⟨1, 1⟩ sampleCapability sampleAuthorization
    .consumedSuccess rfl

end Inspection

end OpenRisk.Core.Durable
