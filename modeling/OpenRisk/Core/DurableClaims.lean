import OpenRisk.Core.DurableRecord
import OpenRisk.Machine.DurableMap
import OpenRisk.Machine.Run

/-!
# The durable claim store

Model of `core/gate/reference-durable-claim-store.mjs` (lines 213–268 and 314–476): any number of
store instances in any number of processes work on one root directory, and every file operation of
`claim`, `complete` and `inspect` is one step of the machine. A call may fail at any operation, a
process may stop and the machine may crash at any time; a crash loses any entry of a directory that
was not synchronized.

A temporary file has a name of its own and is written and synchronized before its link; no operation
looks for it, so it is not part of the disk. The checks of the root directory (lines 328–363) come
before any operation of a call and are left out: a call whose root is refused makes no step.

Results:
* `Safe`, `step_safe`: the invariant of the disk and the calls, and that every step keeps it.
* `durableClaim_exclusive`: one successful claim and one terminal record for each capability.
* `returned_survives`: what a returned `claim` or `complete` has written outlives every crash.
-/

namespace OpenRisk.Core.Durable

open Text Sdk OpenRisk.Machine

/-! ## The disk -/

inductive RecordFile where
  | claim
  | terminal
  deriving DecidableEq

/-- The record files of a claim directory. -/
abbrev ClaimDirectory := DurableMap RecordFile (List UInt8)

/-- The claim directories under the root. -/
abbrev Disk := DurableMap CapabilityId ClaimDirectory

namespace Disk

/-- `mkdir(claimDirectory)`. -/
def mkdir (disk : Disk) (c : CapabilityId) : Option Disk :=
  DurableMap.create disk c DurableMap.empty

/-- What `readFile` finds in a file. -/
def file (disk : Disk) (c : CapabilityId) (f : RecordFile) : Option (List UInt8) :=
  (disk c).bind fun d => (d.value f).map Entry.value

/-- `link(tempPath, filePath)`. -/
def link (disk : Disk) (c : CapabilityId) (f : RecordFile) (body : List UInt8) : Option Disk :=
  (disk c).bind fun d => (DurableMap.create d.value f body).map fun files =>
    Function.update disk c (some { d with value := files })

/-- `fsyncDirectory(claimDirectory)`. -/
def syncFiles (disk : Disk) (c : CapabilityId) : Disk :=
  DurableMap.modify (fun c' files => if c' = c then DurableMap.sync files else files) disk

/-- The disk after a crash. -/
def crash (lostDirectories : CapabilityId → Bool) (lostFiles : CapabilityId → RecordFile → Bool)
    (disk : Disk) : Disk :=
  DurableMap.modify (fun c files => DurableMap.crash (lostFiles c) files)
    (DurableMap.crash lostDirectories disk)

end Disk

/-! ## Calls -/

/-- A store instance in a process. -/
structure StoreId where
  process : ℕ
  store : ℕ
  deriving DecidableEq

/-- The next operation of `writeExclusiveDurable`, after the temporary file. -/
inductive Publication where
  | linking
  | unlinking
  | syncing

/-- Where a claim stands: the next operation of `claim`, an open handle, the next operation of
    `complete`, or a completed handle. -/
inductive ClaimPhase where
  | reserving
  | syncingRoot
  | writingClaim
  | claiming (record : ClaimRecord) (body : List UInt8) (next : Publication)
  | opened (record : ClaimRecord)
  | checkingSize (record : ClaimRecord) (terminal : TerminalRecord)
  | checkingText (record : ClaimRecord) (terminal : TerminalRecord) (size : Option ℕ)
  | writingTerminal (record : ClaimRecord) (terminal : TerminalRecord)
  | finalizing (record : ClaimRecord) (terminal : TerminalRecord) (body : List UInt8)
      (next : Publication)
  | consumed (record : ClaimRecord) (terminal : TerminalRecord)

/-- A call of `claim`, with the completion of its handle. It is `running` until it throws, its
    process stops or the machine crashes. -/
structure Call where
  store : StoreId
  capabilityId : CapabilityId
  authorizationCommitment : HashText
  phase : ClaimPhase
  running : Bool

/-- Where a call of `inspect` stands: its next operation, or its answer. -/
inductive InspectPhase where
  | directory
  | claimSize
  | claimText (size : Option ℕ)
  | terminalSize (record : ClaimRecord)
  | terminalText (record : ClaimRecord) (size : Option ℕ)
  | answered (result : Except DurableError ClaimInspection)

/-- A call of `inspect`. -/
structure InspectCall where
  store : StoreId
  capabilityId : CapabilityId
  authorizationCommitment : HashText
  phase : InspectPhase
  running : Bool

structure World where
  disk : Disk
  calls : List Call
  inspections : List InspectCall

/-- An empty root. -/
def World.initial : World := ⟨DurableMap.empty, [], []⟩

/-! ## Operations -/

/-- An operation is pending in every phase but these of a handle. -/
def ClaimPhase.pending : ClaimPhase → Bool
  | .opened _ | .consumed _ _ => false
  | _ => true

def InspectPhase.pending : InspectPhase → Bool
  | .answered _ => false
  | _ => true

section Operations

variable (N : Normalization) (S : Hash)

/-- The text that `writeExclusiveDurable(filePath, value)` writes. -/
def recordBody (entries : List (JsString × JsValue)) : Except DurableError (List UInt8) := do
  let canonical ← (canonicalizePayload N (.object entries)).mapError .payload
  let body := utf8Encode (canonical ++ [0x0A])
  durableRequire (body.length ≤ MAX_RECORD_BYTES) .invalid
    (js "durable record exceeds the maximum size")
  .ok body

/-- Whether `complete` finds the claim of its handle in the file. -/
def persistedClaimMatches (record : ClaimRecord) (size : Option ℕ) (content : Option (List UInt8)) :
    Bool :=
  match readBoundedJson size content with
  | .error _ | .ok .null => false
  | .ok value =>
    match validateClaimRecord N S value with
    | .error _ => false
    | .ok persisted =>
      persisted.capabilityId = record.capabilityId &&
        persisted.authorizationCommitment = record.authorizationCommitment &&
        persisted.claimCommitment = record.claimCommitment

/-- `writeExclusiveDurable` from the link on: the next operation, or its return. -/
def publish (disk : Disk) (c : CapabilityId) (f : RecordFile) (body : List UInt8) :
    Publication → Option (Disk × Option Publication)
  | .linking => (disk.link c f body).map fun disk => (disk, some .unlinking)
  | .unlinking => some (disk, some .syncing)
  | .syncing => some (disk.syncFiles c, none)

/-- The next operation of a claim, `none` where the call throws. -/
def operation (disk : Disk) (call : Call) : Option (Disk × ClaimPhase) :=
  let c := call.capabilityId
  match call.phase with
  | .reserving => (disk.mkdir c).map fun disk => (disk, .syncingRoot)
  | .syncingRoot => some (DurableMap.sync disk, .writingClaim)
  | .writingClaim => do
    let record ← (makeClaimRecord N S c call.authorizationCommitment).toOption
    let body ← (recordBody N record.toEntries).toOption
    some (disk, .claiming record body .linking)
  | .claiming record body next => do
    let (disk, next) ← publish disk c .claim body next
    match next with
    | some next => some (disk, .claiming record body next)
    | none => some (disk, .opened record)
  | .checkingSize record terminal =>
    some (disk, .checkingText record terminal ((disk.file c .claim).map List.length))
  | .checkingText record terminal size =>
    if persistedClaimMatches N S record size (disk.file c .claim) then
      some (disk, .writingTerminal record terminal)
    else none
  | .writingTerminal record terminal => do
    let body ← (recordBody N terminal.toEntries).toOption
    some (disk, .finalizing record terminal body .linking)
  | .finalizing record terminal body next => do
    let (disk, next) ← publish disk c .terminal body next
    match next with
    | some next => some (disk, .finalizing record terminal body next)
    | none => some (disk, .consumed record terminal)
  | .opened _ | .consumed _ _ => none

/-- `complete(handle, outcome)` up to its first operation. A handle that is foreign or not open is
    refused. -/
def beginCompletion (store : StoreId) (outcome : TerminalState) (call : Call) : Call :=
  match call.phase with
  | .opened record =>
    if call.running && call.store = store then
      match makeTerminalRecord N S record outcome with
      | .ok terminal => { call with phase := .checkingSize record terminal }
      | .error _ => { call with running := false }
    else call
  | _ => call

/-- The next operation of an inspection. -/
def inspectOperation (disk : Disk) (call : InspectCall) : InspectPhase :=
  let c := call.capabilityId
  match call.phase with
  | .directory =>
    match disk c with
    | none => .answered (.ok (makeInspection .absent none none))
    | some _ => .claimSize
  | .claimSize => .claimText ((disk.file c .claim).map List.length)
  | .claimText size =>
    match readBoundedJson size (disk.file c .claim) with
    | .error e => .answered (.error e)
    | .ok .null => .answered
      (.ok { makeInspection .reservedIncomplete none none with capabilityId := some c })
    | .ok value =>
      match validateClaimRecord N S value with
      | .error e => .answered (.error e)
      | .ok record =>
        if record.capabilityId = c ∧
            record.authorizationCommitment = call.authorizationCommitment then
          .terminalSize record
        else .answered (durableFail .bindingMismatch
          (js "persisted durable claim does not match the expected authorization binding"))
  | .terminalSize record => .terminalText record ((disk.file c .terminal).map List.length)
  | .terminalText record size =>
    match readBoundedJson size (disk.file c .terminal) with
    | .error e => .answered (.error e)
    | .ok .null => .answered (.ok (makeInspection .reserved (some record) none))
    | .ok value =>
      match validateTerminalRecord N S value record with
      | .error e => .answered (.error e)
      | .ok terminal => .answered
        (.ok (makeInspection (.consumed terminal.terminalState) (some record) (some terminal)))
  | .answered result => .answered result

inductive Action where
  | claim (store : StoreId) (capabilityId : CapabilityId) (authorizationCommitment : HashText)
  | complete (store : StoreId) (claim : ℕ) (outcome : TerminalState)
  | inspect (store : StoreId) (capabilityId : CapabilityId) (authorizationCommitment : HashText)
  | proceed (claim : ℕ)
  | fail (claim : ℕ)
  | proceedInspection (inspection : ℕ)
  | failInspection (inspection : ℕ)
  | stop (process : ℕ)
  | crash (lostDirectories : CapabilityId → Bool) (lostFiles : CapabilityId → RecordFile → Bool)

def Call.halt (call : Call) : Call := { call with running := false }

def InspectCall.halt (call : InspectCall) : InspectCall := { call with running := false }

/-- One step. An action is possible only for a call that waits for an operation. -/
def step (w : World) : Action → Option World
  | .claim store c a => some { w with calls := w.calls ++ [⟨store, c, a, .reserving, true⟩] }
  | .complete store i outcome => do
    let call ← w.calls[i]?
    some { w with calls := w.calls.set i (beginCompletion N S store outcome call) }
  | .inspect store c a =>
    some { w with inspections := w.inspections ++ [⟨store, c, a, .directory, true⟩] }
  | .proceed i => do
    let call ← w.calls[i]?
    if call.running && call.phase.pending then
      match operation N S w.disk call with
      | some (disk, phase) => some { w with disk, calls := w.calls.set i { call with phase } }
      | none => some { w with calls := w.calls.set i call.halt }
    else none
  | .fail i => do
    let call ← w.calls[i]?
    if call.running && call.phase.pending then some { w with calls := w.calls.set i call.halt }
    else none
  | .proceedInspection k => do
    let call ← w.inspections[k]?
    if call.running && call.phase.pending then
      some { w with
        inspections := w.inspections.set k { call with phase := inspectOperation N S w.disk call } }
    else none
  | .failInspection k => do
    let call ← w.inspections[k]?
    if call.running && call.phase.pending then
      some { w with inspections := w.inspections.set k call.halt }
    else none
  | .stop process => some { w with
      calls := w.calls.map fun call => if call.store.process = process then call.halt else call
      inspections := w.inspections.map fun call =>
        if call.store.process = process then call.halt else call }
  | .crash lostDirectories lostFiles => some {
      disk := w.disk.crash lostDirectories lostFiles
      calls := w.calls.map Call.halt
      inspections := w.inspections.map InspectCall.halt }

end Operations

/-! ## What the disk operations do -/

namespace Disk

/-- Directories and files stay, with their contents, and stay durable. -/
def Extends (disk disk' : Disk) : Prop :=
  DurableMap.Extends (DurableMap.Extends Eq) disk disk'

/-- The file has this content, and no crash can take it away. -/
def Keeps (disk : Disk) (c : CapabilityId) (f : RecordFile) (body : List UInt8) : Prop :=
  ∃ d, disk c = some d ∧ d.durable = true ∧ d.value f = some ⟨body, true⟩

variable {disk disk' disk'' : Disk} {c : CapabilityId} {f : RecordFile} {body : List UInt8}

theorem extends_files_refl (files : ClaimDirectory) : DurableMap.Extends Eq files files :=
  .refl Eq.refl files

theorem Extends.refl (disk : Disk) : disk.Extends disk :=
  DurableMap.Extends.refl extends_files_refl disk

theorem Extends.trans (h : disk.Extends disk') (h' : disk'.Extends disk'') : disk.Extends disk'' :=
  DurableMap.Extends.trans (fun _ _ _ h h' => h.trans (fun _ _ _ => Eq.trans) h') h h'

theorem file_eq_some : disk.file c f = some body ↔
    ∃ d e, disk c = some d ∧ d.value f = some e ∧ e.value = body := by
  simp only [file, Option.bind_eq_some_iff, Option.map_eq_some_iff, exists_and_left]

theorem Extends.file (h : disk.Extends disk') (hfile : disk.file c f = some body) :
    disk'.file c f = some body := by
  obtain ⟨d, e, hd, he, rfl⟩ := file_eq_some.mp hfile
  obtain ⟨d', hd', hfiles, -⟩ := h c d hd
  obtain ⟨e', he', hvalue, -⟩ := hfiles f e he
  exact file_eq_some.mpr ⟨d', e', hd', he', hvalue.symm⟩

theorem Extends.keeps (h : disk.Extends disk') (hkeeps : disk.Keeps c f body) :
    disk'.Keeps c f body := by
  obtain ⟨d, hd, hdurable, he⟩ := hkeeps
  obtain ⟨d', hd', hfiles, hdurable'⟩ := h c d hd
  obtain ⟨⟨value, durable⟩, he', hvalue, hkept⟩ := hfiles f _ he
  refine ⟨d', hd', hdurable' hdurable, ?_⟩
  rw [he', ← show body = value from hvalue, show durable = true from hkept rfl]

theorem Keeps.file (h : disk.Keeps c f body) : disk.file c f = some body := by
  obtain ⟨d, hd, -, he⟩ := h
  exact file_eq_some.mpr ⟨d, _, hd, he, rfl⟩

/-- A crash keeps what is durable. -/
theorem Keeps.crash (h : disk.Keeps c f body) (lostDirectories : CapabilityId → Bool)
    (lostFiles : CapabilityId → RecordFile → Bool) :
    (disk.crash lostDirectories lostFiles).Keeps c f body := by
  obtain ⟨d, hd, hdurable, he⟩ := h
  refine ⟨{ d with value := DurableMap.crash (lostFiles c) d.value }, ?_, hdurable, ?_⟩
  · exact DurableMap.modify_eq_some.mpr ⟨d.value, DurableMap.crash_of_durable hd hdurable, rfl⟩
  · exact DurableMap.crash_of_durable he rfl

/-- A crash adds no file. -/
theorem file_of_crash {lostDirectories : CapabilityId → Bool}
    {lostFiles : CapabilityId → RecordFile → Bool}
    (h : (disk.crash lostDirectories lostFiles).file c f = some body) :
    disk.file c f = some body := by
  obtain ⟨d, e, hd, he, rfl⟩ := file_eq_some.mp h
  obtain ⟨files, hfiles, hvalue⟩ := DurableMap.modify_eq_some.mp hd
  rw [hvalue] at he
  exact file_eq_some.mpr ⟨_, e, DurableMap.of_crash hfiles, DurableMap.of_crash he, rfl⟩

theorem extends_mkdir (h : disk.mkdir c = some disk') : disk.Extends disk' :=
  DurableMap.extends_create extends_files_refl h

theorem extends_syncRoot (disk : Disk) : disk.Extends (DurableMap.sync disk) :=
  DurableMap.extends_sync extends_files_refl disk

theorem extends_syncFiles (disk : Disk) (c : CapabilityId) : disk.Extends (disk.syncFiles c) := by
  refine DurableMap.extends_modify (fun c' files => ?_) disk
  split
  · exact DurableMap.extends_sync Eq.refl files
  · exact extends_files_refl files

theorem link_eq_some : disk.link c f body = some disk' ↔
    ∃ d files, disk c = some d ∧ DurableMap.create d.value f body = some files ∧
      disk' = Function.update disk c (some { d with value := files }) := by
  simp only [link, Option.bind_eq_some_iff, Option.map_eq_some_iff]
  constructor
  · rintro ⟨d, hd, files, hfiles, rfl⟩
    exact ⟨d, files, hd, hfiles, rfl⟩
  · rintro ⟨d, files, hd, hfiles, rfl⟩
    exact ⟨d, hd, files, hfiles, rfl⟩

theorem extends_link (h : disk.link c f body = some disk') : disk.Extends disk' := by
  obtain ⟨d, files, hd, hcreate, rfl⟩ := link_eq_some.mp h
  intro c' e he
  by_cases hc : c' = c
  · subst hc
    obtain rfl := Option.some.inj (hd.symm.trans he)
    exact ⟨_, Function.update_self .., DurableMap.extends_create Eq.refl hcreate, id⟩
  · exact ⟨e, by rw [Function.update_of_ne hc, he], extends_files_refl e.value, id⟩

theorem file_link (h : disk.link c f body = some disk') : disk'.file c f = some body := by
  obtain ⟨d, files, hd, hcreate, rfl⟩ := link_eq_some.mp h
  obtain ⟨-, rfl⟩ := DurableMap.create_eq_some.mp hcreate
  exact file_eq_some.mpr ⟨_, ⟨body, false⟩, Function.update_self .., Function.update_self .., rfl⟩

/-- A link adds this file only. -/
theorem file_of_link (h : disk.link c f body = some disk') {c' : CapabilityId} {f' : RecordFile}
    {body' : List UInt8} (hfile : disk'.file c' f' = some body') :
    disk.file c' f' = some body' ∨ c' = c ∧ f' = f ∧ body' = body := by
  obtain ⟨d, files, hd, hcreate, rfl⟩ := link_eq_some.mp h
  obtain ⟨-, rfl⟩ := DurableMap.create_eq_some.mp hcreate
  obtain ⟨d', e, hd', he, rfl⟩ := file_eq_some.mp hfile
  by_cases hc : c' = c
  · subst hc
    rw [Function.update_self, Option.some.injEq] at hd'
    subst hd'
    dsimp only at he
    by_cases hf : f' = f
    · subst hf
      rw [Function.update_self, Option.some.injEq] at he
      exact .inr ⟨rfl, rfl, by rw [← he]⟩
    · rw [Function.update_of_ne hf] at he
      exact .inl (file_eq_some.mpr ⟨d, e, hd, he, rfl⟩)
  · rw [Function.update_of_ne hc] at hd'
    exact .inl (file_eq_some.mpr ⟨d', e, hd', he, rfl⟩)

theorem file_of_mkdir (h : disk.mkdir c = some disk') {c' : CapabilityId}
    (hfile : disk'.file c' f = some body) : disk.file c' f = some body := by
  obtain ⟨-, rfl⟩ := DurableMap.create_eq_some.mp h
  obtain ⟨d, e, hd, he, rfl⟩ := file_eq_some.mp hfile
  by_cases hc : c' = c
  · subst hc
    rw [Function.update_self, Option.some.injEq] at hd
    subst hd
    cases he
  · rw [Function.update_of_ne hc] at hd
    exact file_eq_some.mpr ⟨d, e, hd, he, rfl⟩

theorem file_of_syncRoot (hfile : Disk.file (DurableMap.sync disk) c f = some body) :
    disk.file c f = some body := by
  obtain ⟨d, e, hd, he, rfl⟩ := file_eq_some.mp hfile
  obtain ⟨durable, hd, -⟩ := DurableMap.sync_eq_some.mp hd
  exact file_eq_some.mpr ⟨_, e, hd, he, rfl⟩

theorem file_of_syncFiles {c' : CapabilityId} (hfile : (disk.syncFiles c).file c' f = some body) :
    disk.file c' f = some body := by
  obtain ⟨d, e, hd, he, rfl⟩ := file_eq_some.mp hfile
  obtain ⟨files, hfiles, hvalue⟩ := DurableMap.modify_eq_some.mp hd
  rw [hvalue] at he
  split at he
  · obtain ⟨durable, he, -⟩ := DurableMap.sync_eq_some.mp he
    exact file_eq_some.mpr ⟨_, _, hfiles, he, rfl⟩
  · exact file_eq_some.mpr ⟨_, e, hfiles, he, rfl⟩

/-- A synchronized file in a durable directory is kept. -/
theorem keeps_syncFiles {d : Entry ClaimDirectory} (hd : disk c = some d)
    (hdurable : d.durable = true) (hfile : disk.file c f = some body) :
    (disk.syncFiles c).Keeps c f body := by
  obtain ⟨d', e, hd', he, rfl⟩ := file_eq_some.mp hfile
  obtain rfl := Option.some.inj (hd.symm.trans hd')
  refine ⟨{ d with value := DurableMap.sync d.value }, ?_, hdurable, ?_⟩
  · exact DurableMap.modify_eq_some.mpr ⟨d.value, hd, (if_pos rfl).symm⟩
  · exact DurableMap.sync_eq_some.mpr ⟨e.durable, he, rfl⟩

end Disk

/-! ## Progress of a claim -/

def Publication.rank : Publication → ℕ
  | .linking => 0
  | .unlinking => 1
  | .syncing => 2

/-- The number of operations that lie behind a claim. -/
def ClaimPhase.rank : ClaimPhase → ℕ
  | .reserving => 0
  | .syncingRoot => 1
  | .writingClaim => 2
  | .claiming _ _ next => 3 + next.rank
  | .opened _ => 6
  | .checkingSize _ _ => 7
  | .checkingText _ _ _ => 8
  | .writingTerminal _ _ => 9
  | .finalizing _ _ _ next => 10 + next.rank
  | .consumed _ _ => 13

/-- The terminal state that the completion writes. -/
def ClaimPhase.outcome : ClaimPhase → Option TerminalState
  | .checkingSize _ t | .checkingText _ t _ | .writingTerminal _ t | .finalizing _ t _ _
  | .consumed _ t => some t.terminalState
  | _ => none

section Safety

variable {N : Normalization} {S : Hash} {c : CapabilityId} {a : HashText}

variable (N S) in
/-- The records of a phase are those of the binding. -/
def ClaimPhase.Valid (c : CapabilityId) (a : HashText) : ClaimPhase → Prop
  | .reserving | .syncingRoot | .writingClaim => True
  | .claiming record body _ =>
    makeClaimRecord N S c a = .ok record ∧ recordBody N record.toEntries = .ok body
  | .opened record => makeClaimRecord N S c a = .ok record
  | .checkingSize record terminal | .checkingText record terminal _
  | .writingTerminal record terminal | .consumed record terminal =>
    makeClaimRecord N S c a = .ok record ∧
      makeTerminalRecord N S record terminal.terminalState = .ok terminal
  | .finalizing record terminal body _ =>
    makeClaimRecord N S c a = .ok record ∧
      makeTerminalRecord N S record terminal.terminalState = .ok terminal ∧
      recordBody N terminal.toEntries = .ok body

variable (N S) in
/-- The text of the claim record of a binding. -/
def ClaimBody (c : CapabilityId) (a : HashText) (body : List UInt8) : Prop :=
  ∃ record, makeClaimRecord N S c a = .ok record ∧ recordBody N record.toEntries = .ok body

variable (N S) in
/-- The text of the terminal record of a binding. -/
def TerminalBody (c : CapabilityId) (a : HashText) (state : TerminalState) (body : List UInt8) :
    Prop :=
  ∃ record terminal, makeClaimRecord N S c a = .ok record ∧
    makeTerminalRecord N S record state = .ok terminal ∧ recordBody N terminal.toEntries = .ok body

theorem ClaimBody.unique {body body' : List UInt8} (h : ClaimBody N S c a body)
    (h' : ClaimBody N S c a body') : body = body' := by
  obtain ⟨record, hmake, hbody⟩ := h
  obtain ⟨record', hmake', hbody'⟩ := h'
  obtain rfl := Except.ok.inj (hmake.symm.trans hmake')
  exact Except.ok.inj (hbody.symm.trans hbody')

theorem TerminalBody.unique {state : TerminalState} {body body' : List UInt8}
    (h : TerminalBody N S c a state body) (h' : TerminalBody N S c a state body') :
    body = body' := by
  obtain ⟨record, terminal, hmake, hterminal, hbody⟩ := h
  obtain ⟨record', terminal', hmake', hterminal', hbody'⟩ := h'
  obtain rfl := Except.ok.inj (hmake.symm.trans hmake')
  obtain rfl := Except.ok.inj (hterminal.symm.trans hterminal')
  exact Except.ok.inj (hbody.symm.trans hbody')

variable (N S) in
/-- What one operation of a claim does to its phase and the disk. -/
inductive Moves (c : CapabilityId) (a : HashText) : Disk → ClaimPhase → Disk → ClaimPhase → Prop
  | reserve {disk disk' : Disk} (h : disk.mkdir c = some disk') :
    Moves c a disk .reserving disk' .syncingRoot
  | syncRoot {disk : Disk} : Moves c a disk .syncingRoot (DurableMap.sync disk) .writingClaim
  | writeClaim {disk : Disk} {record : ClaimRecord} {body : List UInt8}
    (hmake : makeClaimRecord N S c a = .ok record)
    (hbody : recordBody N record.toEntries = .ok body) :
    Moves c a disk .writingClaim disk (.claiming record body .linking)
  | linkClaim {disk disk' : Disk} {record : ClaimRecord} {body : List UInt8}
    (h : disk.link c .claim body = some disk') :
    Moves c a disk (.claiming record body .linking) disk' (.claiming record body .unlinking)
  | unlinkClaim {disk : Disk} {record : ClaimRecord} {body : List UInt8} :
    Moves c a disk (.claiming record body .unlinking) disk (.claiming record body .syncing)
  | open {disk : Disk} {record : ClaimRecord} {body : List UInt8} :
    Moves c a disk (.claiming record body .syncing) (disk.syncFiles c) (.opened record)
  | complete {disk : Disk} {record : ClaimRecord} {terminal : TerminalRecord}
    {state : TerminalState} (hmake : makeTerminalRecord N S record state = .ok terminal) :
    Moves c a disk (.opened record) disk (.checkingSize record terminal)
  | checkSize {disk : Disk} {record : ClaimRecord} {terminal : TerminalRecord} {size : Option ℕ} :
    Moves c a disk (.checkingSize record terminal) disk (.checkingText record terminal size)
  | checkText {disk : Disk} {record : ClaimRecord} {terminal : TerminalRecord} {size : Option ℕ} :
    Moves c a disk (.checkingText record terminal size) disk (.writingTerminal record terminal)
  | writeTerminal {disk : Disk} {record : ClaimRecord} {terminal : TerminalRecord}
    {body : List UInt8} (hbody : recordBody N terminal.toEntries = .ok body) :
    Moves c a disk (.writingTerminal record terminal) disk
      (.finalizing record terminal body .linking)
  | linkTerminal {disk disk' : Disk} {record : ClaimRecord} {terminal : TerminalRecord}
    {body : List UInt8} (h : disk.link c .terminal body = some disk') :
    Moves c a disk (.finalizing record terminal body .linking) disk'
      (.finalizing record terminal body .unlinking)
  | unlinkTerminal {disk : Disk} {record : ClaimRecord} {terminal : TerminalRecord}
    {body : List UInt8} :
    Moves c a disk (.finalizing record terminal body .unlinking) disk
      (.finalizing record terminal body .syncing)
  | consume {disk : Disk} {record : ClaimRecord} {terminal : TerminalRecord} {body : List UInt8} :
    Moves c a disk (.finalizing record terminal body .syncing) (disk.syncFiles c)
      (.consumed record terminal)

theorem makeTerminalRecord_state {record : ClaimRecord} {state : TerminalState}
    {terminal : TerminalRecord} (h : makeTerminalRecord N S record state = .ok terminal) :
    terminal.terminalState = state ∧ terminal.claim = record := by
  obtain ⟨terminal', h', hclaim, hstate⟩ := makeTerminalRecord_ok N S record state
  obtain rfl := Except.ok.inj (h.symm.trans h')
  exact ⟨hstate, hclaim⟩

theorem moves_of_operation {disk disk' : Disk} {call : Call} {phase : ClaimPhase}
    (h : operation N S disk call = some (disk', phase)) :
    Moves N S call.capabilityId call.authorizationCommitment disk call.phase disk' phase := by
  obtain ⟨store, c, a, before, running⟩ := call
  unfold operation at h
  cases before with
  | reserving =>
    obtain ⟨d, hmkdir, heq⟩ := Option.map_eq_some_iff.mp h
    cases heq
    exact .reserve hmkdir
  | syncingRoot =>
    cases h
    exact .syncRoot
  | writingClaim =>
    obtain ⟨record, hrecord, h⟩ := Option.bind_eq_some_iff.mp h
    obtain ⟨body, hbody, h⟩ := Option.bind_eq_some_iff.mp h
    cases h
    exact .writeClaim (toOption_eq_some.mp hrecord) (toOption_eq_some.mp hbody)
  | claiming record body next =>
    cases next with
    | linking =>
      obtain ⟨⟨d, p⟩, hpublish, h⟩ := Option.bind_eq_some_iff.mp h
      obtain ⟨d', hlink, heq⟩ := Option.map_eq_some_iff.mp hpublish
      cases heq
      cases h
      exact .linkClaim hlink
    | unlinking =>
      cases h
      exact .unlinkClaim
    | syncing =>
      cases h
      exact .open
  | opened record => cases h
  | checkingSize record terminal =>
    cases h
    exact .checkSize
  | checkingText record terminal size =>
    dsimp only at h
    split at h
    · cases h
      exact .checkText
    · cases h
  | writingTerminal record terminal =>
    obtain ⟨body, hbody, h⟩ := Option.bind_eq_some_iff.mp h
    cases h
    exact .writeTerminal (toOption_eq_some.mp hbody)
  | finalizing record terminal body next =>
    cases next with
    | linking =>
      obtain ⟨⟨d, p⟩, hpublish, h⟩ := Option.bind_eq_some_iff.mp h
      obtain ⟨d', hlink, heq⟩ := Option.map_eq_some_iff.mp hpublish
      cases heq
      cases h
      exact .linkTerminal hlink
    | unlinking =>
      cases h
      exact .unlinkTerminal
    | syncing =>
      cases h
      exact .consume
  | consumed record terminal => cases h

section Moves

variable {disk disk' : Disk} {phase phase' : ClaimPhase}

theorem Moves.rank (h : Moves N S c a disk phase disk' phase') : phase'.rank = phase.rank + 1 := by
  cases h <;> rfl

theorem Moves.extends (h : Moves N S c a disk phase disk' phase') : disk.Extends disk' := by
  cases h with
  | reserve h => exact Disk.extends_mkdir h
  | syncRoot => exact Disk.extends_syncRoot disk
  | linkClaim h => exact Disk.extends_link h
  | linkTerminal h => exact Disk.extends_link h
  | «open» | consume => exact Disk.extends_syncFiles disk c
  | _ => exact .refl disk

theorem Moves.outcome (h : Moves N S c a disk phase disk' phase') {state : TerminalState}
    (hstate : phase.outcome = some state) : phase'.outcome = some state := by
  cases h with
  | reserve | syncRoot | writeClaim | linkClaim | unlinkClaim | «open» | complete => cases hstate
  | _ => exact hstate

theorem Moves.valid (h : Moves N S c a disk phase disk' phase') (hvalid : phase.Valid N S c a) :
    phase'.Valid N S c a := by
  cases h with
  | reserve | syncRoot => trivial
  | writeClaim hmake hbody => exact ⟨hmake, hbody⟩
  | «open» => exact hvalid.1
  | complete hmake =>
    obtain ⟨rfl, -⟩ := makeTerminalRecord_state hmake
    exact ⟨hvalid, hmake⟩
  | writeTerminal hbody => exact ⟨hvalid.1, hvalid.2, hbody⟩
  | consume => exact ⟨hvalid.1, hvalid.2.1⟩
  | _ => exact hvalid

/-- A file that an operation adds is the record of the call. -/
theorem Moves.file (h : Moves N S c a disk phase disk' phase') (hvalid : phase.Valid N S c a)
    {c' : CapabilityId} {f : RecordFile} {body : List UInt8}
    (hfile : disk'.file c' f = some body) :
    disk.file c' f = some body ∨ c' = c ∧
      (f = .claim ∧ phase'.rank = 4 ∧ ClaimBody N S c a body ∨
        f = .terminal ∧ phase'.rank = 11 ∧
          ∃ state, phase'.outcome = some state ∧ TerminalBody N S c a state body) := by
  cases h with
  | reserve h => exact .inl (Disk.file_of_mkdir h hfile)
  | syncRoot => exact .inl (Disk.file_of_syncRoot hfile)
  | linkClaim h =>
    rcases Disk.file_of_link h hfile with hold | ⟨rfl, rfl, rfl⟩
    · exact .inl hold
    · exact .inr ⟨rfl, .inl ⟨rfl, rfl, _, hvalid.1, hvalid.2⟩⟩
  | linkTerminal h =>
    rcases Disk.file_of_link h hfile with hold | ⟨rfl, rfl, rfl⟩
    · exact .inl hold
    · exact .inr ⟨rfl, .inr ⟨rfl, rfl, _, rfl, _, _, hvalid.1, hvalid.2.1, hvalid.2.2⟩⟩
  | «open» | consume => exact .inl (Disk.file_of_syncFiles hfile)
  | _ => exact .inl hfile

end Moves

/-! ## What the disk holds of a call -/

variable (N S) in
/-- What the disk holds of a call. As long as no crash has happened (`steady`) this is true of every
    call, and after a crash of those that run; what was synchronized stays for good. -/
structure Backed (steady : Prop) (disk : Disk) (call : Call) : Prop where
  valid : call.phase.Valid N S call.capabilityId call.authorizationCommitment
  directory : steady ∨ call.running = true → 1 ≤ call.phase.rank →
    ∃ d, disk call.capabilityId = some d
  synced : steady ∨ call.running = true → 2 ≤ call.phase.rank →
    ∃ d, disk call.capabilityId = some d ∧ d.durable = true
  linked : steady ∨ call.running = true → 4 ≤ call.phase.rank →
    ∃ body, disk.file call.capabilityId .claim = some body ∧
      ClaimBody N S call.capabilityId call.authorizationCommitment body
  claimed : 6 ≤ call.phase.rank →
    ∃ body, disk.Keeps call.capabilityId .claim body ∧
      ClaimBody N S call.capabilityId call.authorizationCommitment body
  published : steady ∨ call.running = true → 11 ≤ call.phase.rank →
    ∃ body state, disk.file call.capabilityId .terminal = some body ∧
      call.phase.outcome = some state ∧
      TerminalBody N S call.capabilityId call.authorizationCommitment state body
  consumed : 13 ≤ call.phase.rank →
    ∃ body state, disk.Keeps call.capabilityId .terminal body ∧ call.phase.outcome = some state ∧
      TerminalBody N S call.capabilityId call.authorizationCommitment state body

/-- The call has made its directory and, as far as a crash allows, still owns it. -/
def Call.Owns (steady : Prop) (call : Call) : Prop :=
  1 ≤ call.phase.rank ∧ (steady ∨ call.running = true ∨ 6 ≤ call.phase.rank)

section Backed

variable {steady : Prop} {disk disk' : Disk} {call : Call}

theorem Backed.owned (h : Backed N S steady disk call) (howns : call.Owns steady) :
    ∃ d, disk call.capabilityId = some d := by
  obtain ⟨hrank, hsteady | hrunning | hclaimed⟩ := howns
  · exact h.directory (.inl hsteady) hrank
  · exact h.directory (.inr hrunning) hrank
  · obtain ⟨-, ⟨d, hd, -⟩, -⟩ := h.claimed hclaimed
    exact ⟨d, hd⟩

/-- A larger disk holds as much. -/
theorem Backed.extends (h : Backed N S steady disk call) (hextends : disk.Extends disk') :
    Backed N S steady disk' call where
  valid := h.valid
  directory hlive hrank := by
    obtain ⟨d, hd⟩ := h.directory hlive hrank
    obtain ⟨d', hd', -⟩ := hextends _ d hd
    exact ⟨d', hd'⟩
  synced hlive hrank := by
    obtain ⟨d, hd, hdurable⟩ := h.synced hlive hrank
    obtain ⟨d', hd', -, hdurable'⟩ := hextends _ d hd
    exact ⟨d', hd', hdurable' hdurable⟩
  linked hlive hrank := by
    obtain ⟨body, hfile, hbody⟩ := h.linked hlive hrank
    exact ⟨body, hextends.file hfile, hbody⟩
  claimed hrank := by
    obtain ⟨body, hkeeps, hbody⟩ := h.claimed hrank
    exact ⟨body, hextends.keeps hkeeps, hbody⟩
  published hlive hrank := by
    obtain ⟨body, state, hfile, hbody⟩ := h.published hlive hrank
    exact ⟨body, state, hextends.file hfile, hbody⟩
  consumed hrank := by
    obtain ⟨body, state, hkeeps, hbody⟩ := h.consumed hrank
    exact ⟨body, state, hextends.keeps hkeeps, hbody⟩

theorem Backed.halt (h : Backed N S steady disk call) : Backed N S steady disk call.halt := by
  have hlive : steady ∨ call.halt.running = true → steady ∨ call.running = true := by
    rintro (hsteady | hrunning)
    · exact .inl hsteady
    · cases hrunning
  exact ⟨h.valid, h.directory ∘ hlive, h.synced ∘ hlive, h.linked ∘ hlive, h.claimed,
    h.published ∘ hlive, h.consumed⟩

/-- After a crash no call runs, and what was synchronized is still there. -/
theorem Backed.crash (h : Backed N S steady disk call) (lostDirectories : CapabilityId → Bool)
    (lostFiles : CapabilityId → RecordFile → Bool) :
    Backed N S False (disk.crash lostDirectories lostFiles) call.halt := by
  have hdead : ¬ (False ∨ call.halt.running = true) := by
    rintro (hfalse | hrunning)
    · exact hfalse
    · cases hrunning
  refine ⟨h.valid, fun hlive => absurd hlive hdead, fun hlive => absurd hlive hdead,
    fun hlive => absurd hlive hdead, fun hrank => ?_, fun hlive => absurd hlive hdead,
    fun hrank => ?_⟩
  · obtain ⟨body, hkeeps, hbody⟩ := h.claimed hrank
    exact ⟨body, hkeeps.crash lostDirectories lostFiles, hbody⟩
  · obtain ⟨body, state, hkeeps, hbody⟩ := h.consumed hrank
    exact ⟨body, state, hkeeps.crash lostDirectories lostFiles, hbody⟩

/-- An operation keeps what the disk held and adds what it is there for. -/
theorem Backed.moves (h : Backed N S steady disk call) (hrunning : call.running = true)
    {phase : ClaimPhase}
    (hmoves : Moves N S call.capabilityId call.authorizationCommitment disk call.phase disk'
      phase) :
    Backed N S steady disk' { call with phase } := by
  have hbefore := h.extends hmoves.extends
  have hnext := hmoves.rank
  obtain ⟨store, c, a, before, running⟩ := call
  dsimp only at hmoves hnext
  refine ⟨hmoves.valid h.valid, fun hlive hrank => ?_, fun hlive hrank => ?_, fun hlive hrank => ?_,
    fun hrank => ?_, fun hlive hrank => ?_, fun hrank => ?_⟩ <;> dsimp only at hrank ⊢
  · obtain hbelow | habove : before.rank = 0 ∨ 1 ≤ before.rank := by omega
    · cases hmoves with
      | reserve hmkdir =>
        obtain ⟨-, rfl⟩ := DurableMap.create_eq_some.mp hmkdir
        exact ⟨_, Function.update_self ..⟩
      | _ => simp [ClaimPhase.rank, Publication.rank] at hbelow
    · exact hbefore.directory hlive habove
  · obtain hbelow | habove : before.rank = 1 ∨ 2 ≤ before.rank := by omega
    · cases hmoves with
      | syncRoot =>
        obtain ⟨d, hd⟩ := h.directory (.inr hrunning) (le_refl 1)
        exact ⟨{ d with durable := true }, DurableMap.sync_eq_some.mpr ⟨d.durable, hd, rfl⟩, rfl⟩
      | _ => simp [ClaimPhase.rank, Publication.rank] at hbelow
    · exact hbefore.synced hlive habove
  · obtain hbelow | habove : before.rank = 3 ∨ 4 ≤ before.rank := by omega
    · cases hmoves with
      | linkClaim hlink => exact ⟨_, Disk.file_link hlink, _, h.valid.1, h.valid.2⟩
      | _ => simp [ClaimPhase.rank, Publication.rank] at hbelow
    · exact hbefore.linked hlive habove
  · obtain hbelow | habove : before.rank = 5 ∨ 6 ≤ before.rank := by omega
    · obtain ⟨d, hd, hdurable⟩ := h.synced (.inr hrunning) (by dsimp only; omega)
      obtain ⟨body, hfile, hbody⟩ := h.linked (.inr hrunning) (by dsimp only; omega)
      cases hmoves with
      | «open» => exact ⟨body, Disk.keeps_syncFiles hd hdurable hfile, hbody⟩
      | _ => simp [ClaimPhase.rank, Publication.rank] at hbelow
    · exact hbefore.claimed habove
  · obtain hbelow | habove : before.rank = 10 ∨ 11 ≤ before.rank := by omega
    · cases hmoves with
      | linkTerminal hlink =>
        exact ⟨_, _, Disk.file_link hlink, rfl, _, _, h.valid.1, h.valid.2.1, h.valid.2.2⟩
      | _ => simp [ClaimPhase.rank, Publication.rank] at hbelow
    · obtain ⟨body, state, hfile, hstate, hbody⟩ := hbefore.published hlive habove
      exact ⟨body, state, hfile, hmoves.outcome hstate, hbody⟩
  · obtain hbelow | habove : before.rank = 12 ∨ 13 ≤ before.rank := by omega
    · obtain ⟨d, hd, hdurable⟩ := h.synced (.inr hrunning) (by dsimp only; omega)
      obtain ⟨body, state, hfile, hstate, hbody⟩ :=
        h.published (.inr hrunning) (by dsimp only; omega)
      have hafter := hmoves.outcome hstate
      cases hmoves with
      | consume => exact ⟨body, state, Disk.keeps_syncFiles hd hdurable hfile, hafter, hbody⟩
      | _ => simp [ClaimPhase.rank, Publication.rank] at hbelow
    · obtain ⟨body, state, hkeeps, hstate, hbody⟩ := hbefore.consumed habove
      exact ⟨body, state, hkeeps, hmoves.outcome hstate, hbody⟩

end Backed

/-! ## What a step does -/

/-- Calls of the first list, some of which no longer run in the second. -/
def Halts (calls calls' : List Call) : Prop :=
  ∀ i : ℕ, calls'[i]? = calls[i]? ∨ calls'[i]? = calls[i]?.map Call.halt

variable (N S) in
/-- What a step does to the claims and the disk; a crash only where it may happen. -/
inductive Changes (crashes : Prop) (w w' : World) : Prop
  | begins (call : Call) (hphase : call.phase = .reserving) (hdisk : w'.disk = w.disk)
    (hcalls : w'.calls = w.calls ++ [call])
  | moves (i : ℕ) (call : Call) (phase : ClaimPhase) (hcall : w.calls[i]? = some call)
    (hrunning : call.running = true)
    (hmoves : Moves N S call.capabilityId call.authorizationCommitment w.disk call.phase w'.disk
      phase)
    (hcalls : w'.calls = w.calls.set i { call with phase })
  | halts (hdisk : w'.disk = w.disk) (hcalls : Halts w.calls w'.calls)
  | crashed (hcrashes : crashes) (lostDirectories : CapabilityId → Bool)
    (lostFiles : CapabilityId → RecordFile → Bool)
    (hdisk : w'.disk = w.disk.crash lostDirectories lostFiles)
    (hcalls : w'.calls = w.calls.map Call.halt)

def Action.isCrash : Action → Bool
  | .crash _ _ => true
  | _ => false

theorem halts_refl (calls : List Call) : Halts calls calls := fun _ => .inl rfl

theorem halts_set {calls : List Call} {i : ℕ} {call : Call} (h : calls[i]? = some call) :
    Halts calls (calls.set i call.halt) := by
  intro j
  by_cases hj : i = j
  · subst hj
    rw [List.getElem?_set_self (List.getElem?_eq_some_iff.mp h).1, h]
    exact .inr rfl
  · exact .inl (List.getElem?_set_ne hj)

theorem changes_of_step {w w' : World} {action : Action} (h : step N S w action = some w') :
    Changes N S (action.isCrash = true) w w' := by
  cases action with
  | claim store c a =>
    cases h
    exact .begins _ rfl rfl rfl
  | complete store i outcome =>
    obtain ⟨call, hcall, h⟩ := Option.bind_eq_some_iff.mp h
    cases h
    have hsame : w.calls.set i call = w.calls := by
      obtain ⟨hi, rfl⟩ := List.getElem?_eq_some_iff.mp hcall
      exact List.set_getElem_self hi
    unfold beginCompletion
    split
    · rename_i record hphase
      split_ifs with hopen
      · rw [Bool.and_eq_true] at hopen
        split
        · rename_i terminal hmake
          exact .moves i call _ hcall hopen.1 (by rw [hphase]; exact .complete hmake) rfl
        · exact .halts rfl (halts_set hcall)
      · exact .halts rfl (by rw [hsame]; exact halts_refl _)
    · exact .halts rfl (by rw [hsame]; exact halts_refl _)
  | inspect store c a =>
    cases h
    exact .halts rfl (halts_refl _)
  | proceed i =>
    obtain ⟨call, hcall, h⟩ := Option.bind_eq_some_iff.mp h
    split_ifs at h with hpending
    · rw [Bool.and_eq_true] at hpending
      split at h
      · rename_i disk phase hoperation
        cases h
        exact .moves i call phase hcall hpending.1 (moves_of_operation hoperation) rfl
      · cases h
        exact .halts rfl (halts_set hcall)
  | fail i =>
    obtain ⟨call, hcall, h⟩ := Option.bind_eq_some_iff.mp h
    split_ifs at h
    cases h
    exact .halts rfl (halts_set hcall)
  | proceedInspection k =>
    obtain ⟨call, hcall, h⟩ := Option.bind_eq_some_iff.mp h
    split_ifs at h
    cases h
    exact .halts rfl (halts_refl _)
  | failInspection k =>
    obtain ⟨call, hcall, h⟩ := Option.bind_eq_some_iff.mp h
    split_ifs at h
    cases h
    exact .halts rfl (halts_refl _)
  | stop process =>
    cases h
    refine .halts rfl fun i => ?_
    rw [List.getElem?_map]
    cases w.calls[i]? with
    | none => exact .inl rfl
    | some call =>
      rw [Option.map_some]
      split_ifs
      · exact .inr rfl
      · exact .inl rfl
  | crash lostDirectories lostFiles =>
    cases h
    exact .crashed rfl lostDirectories lostFiles rfl rfl

/-! ## Calls over time -/

/-- The same call at a later time. -/
structure Call.Later (before after : Call) : Prop where
  capabilityId : after.capabilityId = before.capabilityId
  authorizationCommitment : after.authorizationCommitment = before.authorizationCommitment
  rank : before.phase.rank ≤ after.phase.rank
  outcome : ∀ state, before.phase.outcome = some state → after.phase.outcome = some state

theorem Call.Later.refl (call : Call) : call.Later call := ⟨rfl, rfl, le_refl _, fun _ => id⟩

theorem Call.Later.trans {x y z : Call} (h : x.Later y) (h' : y.Later z) : x.Later z :=
  ⟨h'.capabilityId.trans h.capabilityId,
    h'.authorizationCommitment.trans h.authorizationCommitment, h.rank.trans h'.rank,
    fun state hstate => h'.outcome state (h.outcome state hstate)⟩

theorem later_halt (call : Call) : call.Later call.halt := ⟨rfl, rfl, le_refl _, fun _ => id⟩

section Changes

variable {crashes : Prop} {w w' : World}

/-- Every call stays. -/
theorem Changes.later (h : Changes N S crashes w w') {i : ℕ} {x : Call}
    (hx : w.calls[i]? = some x) :
    ∃ y, w'.calls[i]? = some y ∧ x.Later y := by
  cases h with
  | begins call _ _ hcalls =>
    refine ⟨x, ?_, .refl x⟩
    rw [hcalls, List.getElem?_append_left (List.getElem?_eq_some_iff.mp hx).1, hx]
  | moves j call phase hcall _ hmoves hcalls =>
    by_cases hj : j = i
    · subst hj
      obtain rfl := Option.some.inj (hcall.symm.trans hx)
      refine ⟨{ call with phase }, ?_, rfl, rfl, ?_, fun state hstate => hmoves.outcome hstate⟩
      · rw [hcalls, List.getElem?_set_self (List.getElem?_eq_some_iff.mp hx).1]
      · have := hmoves.rank
        dsimp only
        omega
    · exact ⟨x, by rw [hcalls, List.getElem?_set_ne hj, hx], .refl x⟩
  | halts _ hcalls =>
    rcases hcalls i with hi | hi
    · exact ⟨x, by rw [hi, hx], .refl x⟩
    · exact ⟨x.halt, by rw [hi, hx]; rfl, later_halt x⟩
  | crashed _ _ _ _ hcalls =>
    exact ⟨x.halt, by rw [hcalls, List.getElem?_map, hx]; rfl, later_halt x⟩

end Changes

theorem later_of_run {w w' : World} {actions : List Action}
    (h : run (step N S) w actions = some w') {i : ℕ} {x : Call} (hx : w.calls[i]? = some x) :
    ∃ y, w'.calls[i]? = some y ∧ x.Later y := by
  induction actions generalizing w x with
  | nil =>
    cases h
    exact ⟨x, hx, .refl x⟩
  | cons action actions ih =>
    obtain ⟨u, hu, h⟩ := run_cons.mp h
    obtain ⟨y, hy, hlater⟩ := (changes_of_step hu).later hx
    obtain ⟨z, hz, hlater'⟩ := ih h hy
    exact ⟨z, hz, hlater.trans hlater'⟩

/-! ## The invariant -/

variable (N S) in
/-- The disk holds what the calls have written, and nothing else; a directory has one owner. -/
structure Safe (steady : Prop) (w : World) : Prop where
  backed : ∀ (i : ℕ) call, w.calls[i]? = some call → Backed N S steady w.disk call
  unique : ∀ (i j : ℕ) x y, w.calls[i]? = some x → w.calls[j]? = some y → x.Owns steady →
    y.Owns steady → x.capabilityId = y.capabilityId → i = j
  claimSource : ∀ c body, w.disk.file c .claim = some body →
    ∃ (i : ℕ) (call : Call), w.calls[i]? = some call ∧ call.capabilityId = c ∧
      4 ≤ call.phase.rank ∧ ClaimBody N S c call.authorizationCommitment body
  terminalSource : ∀ c body, w.disk.file c .terminal = some body →
    ∃ (i : ℕ) (call : Call), w.calls[i]? = some call ∧ call.capabilityId = c ∧
      11 ≤ call.phase.rank ∧ ∃ state, call.phase.outcome = some state ∧
        TerminalBody N S c call.authorizationCommitment state body

theorem safe_initial (steady : Prop) : Safe N S steady World.initial := by
  refine ⟨fun i call h => ?_, fun i j x y h => ?_, fun c body h => ?_, fun c body h => ?_⟩
  · cases h
  · cases h
  · cases h
  · cases h

section Preservation

variable {steady steady' crashes : Prop} {w w' : World}

/-- Where every owner was one before, owners stay unique. -/
theorem unique_of_owned (h : Safe N S steady w)
    (hback : ∀ (i : ℕ) y, w'.calls[i]? = some y → y.Owns steady' →
      ∃ x, w.calls[i]? = some x ∧ x.Owns steady ∧ x.capabilityId = y.capabilityId)
    (i j : ℕ) (x y : Call) (hx : w'.calls[i]? = some x) (hy : w'.calls[j]? = some y)
    (hownsx : x.Owns steady') (hownsy : y.Owns steady') (hsame : x.capabilityId = y.capabilityId) :
    i = j := by
  obtain ⟨x', hx', hownsx', hcx⟩ := hback i x hx hownsx
  obtain ⟨y', hy', hownsy', hcy⟩ := hback j y hy hownsy
  exact h.unique i j x' y' hx' hy' hownsx' hownsy' (hcx.trans (hsame.trans hcy.symm))

/-- What the files hold stays accounted for where no file is added. -/
theorem claimSource_of_sub (h : Safe N S steady w) (hchanges : Changes N S crashes w w')
    {c : CapabilityId} {body : List UInt8} (hfile : w.disk.file c .claim = some body) :
    ∃ (i : ℕ) (call : Call), w'.calls[i]? = some call ∧ call.capabilityId = c ∧
      4 ≤ call.phase.rank ∧ ClaimBody N S c call.authorizationCommitment body := by
  obtain ⟨i, x, hx, rfl, hrank, hbody⟩ := h.claimSource c body hfile
  obtain ⟨y, hy, hlater⟩ := hchanges.later hx
  exact ⟨i, y, hy, hlater.capabilityId, hrank.trans hlater.rank,
    by rwa [hlater.authorizationCommitment]⟩

theorem terminalSource_of_sub (h : Safe N S steady w) (hchanges : Changes N S crashes w w')
    {c : CapabilityId} {body : List UInt8} (hfile : w.disk.file c .terminal = some body) :
    ∃ (i : ℕ) (call : Call), w'.calls[i]? = some call ∧ call.capabilityId = c ∧
      11 ≤ call.phase.rank ∧ ∃ state, call.phase.outcome = some state ∧
        TerminalBody N S c call.authorizationCommitment state body := by
  obtain ⟨i, x, hx, rfl, hrank, state, hstate, hbody⟩ := h.terminalSource c body hfile
  obtain ⟨y, hy, hlater⟩ := hchanges.later hx
  exact ⟨i, y, hy, hlater.capabilityId, hrank.trans hlater.rank, state, hlater.outcome state hstate,
    by rwa [hlater.authorizationCommitment]⟩

theorem Call.Owns.of_halt {call : Call} (h : call.halt.Owns steady) : call.Owns steady := by
  obtain ⟨hrank, hsteady | hrunning | hclaimed⟩ := h
  · exact ⟨hrank, .inl hsteady⟩
  · cases hrunning
  · exact ⟨hrank, .inr (.inr hclaimed)⟩

theorem safe_begins (h : Safe N S steady w) {call : Call} (hphase : call.phase = .reserving)
    (hdisk : w'.disk = w.disk) (hcalls : w'.calls = w.calls ++ [call]) : Safe N S steady w' := by
  have hchanges : Changes N S True w w' := .begins call hphase hdisk hcalls
  have hback : ∀ (i : ℕ) y, w'.calls[i]? = some y → w.calls[i]? = some y ∨ y = call := by
    intro i y hy
    rw [hcalls] at hy
    rcases Nat.lt_or_ge i w.calls.length with hi | hi
    · rw [List.getElem?_append_left hi] at hy
      exact .inl hy
    · exact .inr (List.mem_singleton.mp (List.mem_of_getElem? (by
        rwa [List.getElem?_append_right hi] at hy)))
  have hrank : call.phase.rank = 0 := by rw [hphase]; rfl
  refine ⟨fun i y hy => ?_, unique_of_owned h fun i y hy howns => ?_, fun c body hfile => ?_,
    fun c body hfile => ?_⟩
  · rw [hdisk]
    rcases hback i y hy with hy | rfl
    · exact h.backed i y hy
    · refine ⟨by rw [hphase]; trivial, ?_, ?_, ?_, ?_, ?_, ?_⟩ <;> rw [hrank] <;> intros <;> omega
  · rcases hback i y hy with hy | rfl
    · exact ⟨y, hy, howns, rfl⟩
    · exact absurd howns.1 (by omega)
  · rw [hdisk] at hfile
    exact claimSource_of_sub h hchanges hfile
  · rw [hdisk] at hfile
    exact terminalSource_of_sub h hchanges hfile

theorem safe_halts (h : Safe N S steady w) (hdisk : w'.disk = w.disk)
    (hcalls : Halts w.calls w'.calls) : Safe N S steady w' := by
  have hchanges : Changes N S True w w' := .halts hdisk hcalls
  have hback : ∀ (i : ℕ) y, w'.calls[i]? = some y →
      ∃ x, w.calls[i]? = some x ∧ (y = x ∨ y = x.halt) := by
    intro i y hy
    rcases hcalls i with hi | hi
    · exact ⟨y, hi ▸ hy, .inl rfl⟩
    · obtain ⟨x, hx, rfl⟩ := Option.map_eq_some_iff.mp (hi ▸ hy)
      exact ⟨x, hx, .inr rfl⟩
  refine ⟨fun i y hy => ?_, unique_of_owned h fun i y hy howns => ?_, fun c body hfile => ?_,
    fun c body hfile => ?_⟩
  · rw [hdisk]
    obtain ⟨x, hx, rfl | rfl⟩ := hback i y hy
    · exact h.backed i y hx
    · exact (h.backed i x hx).halt
  · obtain ⟨x, hx, rfl | rfl⟩ := hback i y hy
    · exact ⟨y, hx, howns, rfl⟩
    · exact ⟨x, hx, howns.of_halt, rfl⟩
  · rw [hdisk] at hfile
    exact claimSource_of_sub h hchanges hfile
  · rw [hdisk] at hfile
    exact terminalSource_of_sub h hchanges hfile

/-- A crash leaves the owners that have returned from their claim. -/
theorem safe_crashed (h : Safe N S steady w) {lostDirectories : CapabilityId → Bool}
    {lostFiles : CapabilityId → RecordFile → Bool}
    (hdisk : w'.disk = w.disk.crash lostDirectories lostFiles)
    (hcalls : w'.calls = w.calls.map Call.halt) : Safe N S False w' := by
  have hchanges : Changes N S True w w' := .crashed trivial lostDirectories lostFiles hdisk hcalls
  have hback : ∀ (i : ℕ) y, w'.calls[i]? = some y → ∃ x, w.calls[i]? = some x ∧ x.halt = y := by
    intro i y hy
    rw [hcalls, List.getElem?_map] at hy
    exact Option.map_eq_some_iff.mp hy
  refine ⟨fun i y hy => ?_, unique_of_owned h fun i y hy howns => ?_, fun c body hfile => ?_,
    fun c body hfile => ?_⟩
  · rw [hdisk]
    obtain ⟨x, hx, rfl⟩ := hback i y hy
    exact (h.backed i x hx).crash lostDirectories lostFiles
  · obtain ⟨x, hx, rfl⟩ := hback i y hy
    obtain ⟨hrank, hfalse | hrunning | hclaimed⟩ := howns
    · exact absurd hfalse id
    · cases hrunning
    · exact ⟨x, hx, ⟨hrank, .inr (.inr hclaimed)⟩, rfl⟩
  · rw [hdisk] at hfile
    exact claimSource_of_sub h hchanges (Disk.file_of_crash hfile)
  · rw [hdisk] at hfile
    exact terminalSource_of_sub h hchanges (Disk.file_of_crash hfile)

/-- Only the exclusive `mkdir` makes an owner, and it finds no directory. -/
theorem safe_moves (h : Safe N S steady w) {i : ℕ} {call : Call} {phase : ClaimPhase}
    (hcall : w.calls[i]? = some call) (hrunning : call.running = true)
    (hmoves : Moves N S call.capabilityId call.authorizationCommitment w.disk call.phase w'.disk
      phase) (hcalls : w'.calls = w.calls.set i { call with phase }) : Safe N S steady w' := by
  have hchanges : Changes N S True w w' := .moves i call phase hcall hrunning hmoves hcalls
  have hself : w'.calls[i]? = some { call with phase } := by
    rw [hcalls, List.getElem?_set_self (List.getElem?_eq_some_iff.mp hcall).1]
  have hother : ∀ j : ℕ, i ≠ j → w'.calls[j]? = w.calls[j]? := by
    intro j hj
    rw [hcalls, List.getElem?_set_ne hj]
  have hnew : ∀ (j : ℕ) y, i ≠ j → w.calls[j]? = some y → y.Owns steady →
      call.capabilityId ≠ y.capabilityId := by
    intro j y hj hy howns hsame
    rcases Nat.eq_zero_or_pos call.phase.rank with hzero | hpos
    · obtain ⟨d, hd⟩ := (h.backed j y hy).owned howns
      have hnone : w.disk call.capabilityId = none := by
        generalize call.phase = before, w'.disk = after at hmoves hzero
        cases hmoves with
        | reserve hmkdir => exact (DurableMap.create_eq_some.mp hmkdir).1
        | _ => simp [ClaimPhase.rank] at hzero
      rw [hsame, hd] at hnone
      cases hnone
    · exact hj (h.unique i j call y hcall hy ⟨hpos, .inr (.inl hrunning)⟩ howns hsame)
  refine ⟨fun j y hy => ?_, fun j k x y hx hy hownsx hownsy hsame => ?_, fun c body hfile => ?_,
    fun c body hfile => ?_⟩
  · by_cases hj : i = j
    · subst hj
      obtain rfl := Option.some.inj (hself.symm.trans hy)
      exact (h.backed i call hcall).moves hrunning hmoves
    · rw [hother j hj] at hy
      exact (h.backed j y hy).extends hmoves.extends
  · by_cases hj : i = j
    · by_cases hk : i = k
      · exact hj.symm.trans hk
      · subst hj
        obtain rfl := Option.some.inj (hself.symm.trans hx)
        rw [hother k hk] at hy
        exact absurd hsame (hnew k y hk hy hownsy)
    · rw [hother j hj] at hx
      by_cases hk : i = k
      · subst hk
        obtain rfl := Option.some.inj (hself.symm.trans hy)
        exact absurd hsame.symm (hnew j x hj hx hownsx)
      · rw [hother k hk] at hy
        exact h.unique j k x y hx hy hownsx hownsy hsame
  · rcases hmoves.file (h.backed i call hcall).valid hfile with
      hold | ⟨rfl, ⟨-, hrank, hbody⟩ | ⟨hterminal, -⟩⟩
    · exact claimSource_of_sub h hchanges hold
    · exact ⟨i, _, hself, rfl, hrank.ge, hbody⟩
    · cases hterminal
  · rcases hmoves.file (h.backed i call hcall).valid hfile with
      hold | ⟨rfl, ⟨hclaim, -⟩ | ⟨-, hrank, state, hstate, hbody⟩⟩
    · exact terminalSource_of_sub h hchanges hold
    · cases hclaim
    · exact ⟨i, _, hself, rfl, hrank.ge, state, hstate, hbody⟩

/-- Every step keeps the invariant, and a crash what it can leave of it. -/
theorem step_safe {action : Action} (hstep : step N S w action = some w')
    (hsteady : steady → action.isCrash = false) (h : Safe N S steady w) : Safe N S steady w' := by
  cases changes_of_step hstep with
  | begins call hphase hdisk hcalls => exact safe_begins h hphase hdisk hcalls
  | moves i call phase hcall hrunning hmoves hcalls =>
    exact safe_moves h hcall hrunning hmoves hcalls
  | halts hdisk hcalls => exact safe_halts h hdisk hcalls
  | crashed hcrash lostDirectories lostFiles hdisk hcalls =>
    have hfalse : steady = False := eq_false fun hs => by
      rw [hsteady hs] at hcrash
      cases hcrash
    rw [hfalse]
    exact safe_crashed h hdisk hcalls

end Preservation

theorem run_safe {w w' : World} {actions : List Action} (h : run (step N S) w actions = some w')
    (hw : Safe N S False w) : Safe N S False w' :=
  run_invariant (fun _ _ _ hs hstep => step_safe hstep False.elim hs) h hw

/-! ## Exclusivity -/

/-- `claim` has returned its handle. -/
def ClaimPhase.returned : ClaimPhase → Bool
  | .reserving | .syncingRoot | .writingClaim | .claiming _ _ _ => false
  | _ => true

theorem returned_iff {phase : ClaimPhase} : phase.returned = true ↔ 6 ≤ phase.rank := by
  cases phase with
  | claiming record body next =>
    cases next <;> simp [ClaimPhase.returned, ClaimPhase.rank, Publication.rank]
  | finalizing record terminal body next =>
    simp only [ClaimPhase.returned, ClaimPhase.rank, true_iff]
    omega
  | _ => simp [ClaimPhase.returned, ClaimPhase.rank]

variable (N S) in
/-- The step in which a call of `claim` returns its handle. -/
def ReturnsClaim (c : CapabilityId) (x : World × Action) : Prop :=
  ∃ w', step N S x.1 x.2 = some w' ∧ ∃ (i : ℕ) (before after : Call),
    x.1.calls[i]? = some before ∧ w'.calls[i]? = some after ∧ after.capabilityId = c ∧
      before.phase.returned = false ∧ after.phase.returned = true

variable (N S) in
/-- The step in which a terminal record appears. -/
def PublishesTerminal (c : CapabilityId) (x : World × Action) : Prop :=
  ∃ w', step N S x.1 x.2 = some w' ∧ x.1.disk.file c .terminal = none ∧
    w'.disk.file c .terminal ≠ none

theorem owns_of_rank {steady : Prop} {call : Call} (h : 6 ≤ call.phase.rank) : call.Owns steady :=
  ⟨by omega, .inr (.inr h)⟩

theorem returned_unique {steady : Prop} {w : World} (h : Safe N S steady w) {i j : ℕ} {x y : Call}
    (hx : w.calls[i]? = some x) (hy : w.calls[j]? = some y) (hreturnedx : x.phase.returned = true)
    (hreturnedy : y.phase.returned = true) (hsame : x.capabilityId = y.capabilityId) : i = j :=
  h.unique i j x y hx hy (owns_of_rank (returned_iff.mp hreturnedx))
    (owns_of_rank (returned_iff.mp hreturnedy)) hsame

/-- A terminal record appears by the link of a completion. -/
theorem exists_link_of_publishes {w w' : World} {action : Action} (h : Safe N S False w)
    (hstep : step N S w action = some w') (hnone : w.disk.file c .terminal = none)
    (hsome : w'.disk.file c .terminal ≠ none) :
    ∃ (i : ℕ) (before after : Call), w.calls[i]? = some before ∧ w'.calls[i]? = some after ∧
      after.capabilityId = c ∧ before.phase.rank = 10 ∧ after.phase.rank = 11 := by
  obtain ⟨body, hbody⟩ := Option.ne_none_iff_exists'.mp hsome
  have hsub : ∀ {disk : Disk}, disk = w.disk → disk.file c .terminal ≠ some body := by
    rintro disk rfl hfile
    rw [hnone] at hfile
    cases hfile
  cases changes_of_step hstep with
  | begins call hphase hdisk hcalls => exact absurd hbody (hsub hdisk)
  | halts hdisk hcalls => exact absurd hbody (hsub hdisk)
  | crashed hcrash lostDirectories lostFiles hdisk hcalls =>
    rw [hdisk] at hbody
    exact absurd (Disk.file_of_crash hbody) (hsub rfl)
  | moves i call phase hcall hrunning hmoves hcalls =>
    rcases hmoves.file (h.backed i call hcall).valid hbody with
      hold | ⟨rfl, ⟨hclaim, -⟩ | ⟨-, hrank, -⟩⟩
    · exact absurd hold (hsub rfl)
    · cases hclaim
    · refine ⟨i, call, { call with phase }, hcall, ?_, rfl, ?_, hrank⟩
      · rw [hcalls, List.getElem?_set_self (List.getElem?_eq_some_iff.mp hcall).1]
      · have := hmoves.rank
        omega

theorem pairwise_returnsClaim (c : CapabilityId) (actions : List Action) :
    (trace (step N S) World.initial actions).Pairwise fun x y =>
      ReturnsClaim N S c x → ¬ ReturnsClaim N S c y := by
  refine pairwise_trace (fun _ _ _ hs hstep => step_safe hstep False.elim hs) ?_
    (safe_initial False) actions
  rintro s action s' more u action' hs hstep hrun
    ⟨t, ht, i, before, after, -, hafter, hcapability, -, hreturned⟩
    ⟨v, hv, j, before', after', hbefore', hafter', hcapability', hopen, hreturned'⟩
  obtain rfl : t = s' := Option.some.inj (ht.symm.trans hstep)
  obtain ⟨x, hx, hlater⟩ := later_of_run hrun hafter
  obtain ⟨y, hy, hlater'⟩ := (changes_of_step hv).later hx
  have hxreturned : x.phase.returned = true :=
    returned_iff.mpr ((returned_iff.mp hreturned).trans hlater.rank)
  have hyreturned : y.phase.returned = true :=
    returned_iff.mpr ((returned_iff.mp hxreturned).trans hlater'.rank)
  have hsafe : Safe N S False v :=
    step_safe hv False.elim (run_safe hrun (step_safe hstep False.elim hs))
  obtain rfl := returned_unique hsafe hy hafter' hyreturned hreturned' (by
    rw [hlater'.capabilityId, hlater.capabilityId, hcapability, hcapability'])
  obtain rfl := Option.some.inj (hx.symm.trans hbefore')
  rw [hxreturned] at hopen
  cases hopen

theorem pairwise_publishesTerminal (c : CapabilityId) (actions : List Action) :
    (trace (step N S) World.initial actions).Pairwise fun x y =>
      PublishesTerminal N S c x → ¬ PublishesTerminal N S c y := by
  refine pairwise_trace (fun _ _ _ hs hstep => step_safe hstep False.elim hs) ?_
    (safe_initial False) actions
  rintro s action s' more u action' hs hstep hrun ⟨t, ht, hnone, hsome⟩ ⟨v, hv, hnone', hsome'⟩
  obtain rfl : t = s' := Option.some.inj (ht.symm.trans hstep)
  have hu := run_safe hrun (step_safe hstep False.elim hs)
  obtain ⟨i, -, after, -, hafter, hcapability, -, hrank⟩ :=
    exists_link_of_publishes hs hstep hnone hsome
  obtain ⟨j, before', after', hbefore', hafter', hcapability', hrank', hrank''⟩ :=
    exists_link_of_publishes hu hv hnone' hsome'
  obtain ⟨x, hx, hlater⟩ := later_of_run hrun hafter
  have hxrank := hlater.rank
  obtain ⟨y, hy, hlater'⟩ := (changes_of_step hv).later hbefore'
  obtain rfl := Option.some.inj (hafter'.symm.trans hy)
  obtain rfl := hu.unique i j x before' hx hbefore' (owns_of_rank (by omega))
    (owns_of_rank (by omega))
    (by rw [hlater.capabilityId, hcapability, ← hlater'.capabilityId, hcapability'])
  obtain rfl := Option.some.inj (hx.symm.trans hbefore')
  omega

/-- The terminal records of two moments have the same text. -/
theorem terminal_stable {w w' : World} {actions : List Action} (h : Safe N S False w)
    (hrun : run (step N S) w actions = some w') {body body' : List UInt8}
    (hbody : w.disk.file c .terminal = some body) (hbody' : w'.disk.file c .terminal = some body') :
    body = body' := by
  have h' := run_safe hrun h
  obtain ⟨i, x, hx, rfl, hrank, state, hstate, htext⟩ := h.terminalSource c body hbody
  obtain ⟨j, z, hz, hcapability, hrank', state', hstate', htext'⟩ :=
    h'.terminalSource _ body' hbody'
  obtain ⟨y, hy, hlater⟩ := later_of_run hrun hx
  have hyrank := hlater.rank
  obtain rfl := h'.unique i j y z hy hz (owns_of_rank (by omega)) (owns_of_rank (by omega))
    (hlater.capabilityId.trans hcapability.symm)
  obtain rfl := Option.some.inj (hy.symm.trans hz)
  obtain rfl := Option.some.inj ((hlater.outcome state hstate).symm.trans hstate')
  rw [hlater.authorizationCommitment] at htext'
  exact htext.unique htext'

/-- In every run, with any interleaving of the calls of any stores and processes, with any failures
    and crashes: at most one claim of a capability returns, none after it; at most one terminal
    record appears, and its text never changes. -/
theorem durableClaim_exclusive (N : Normalization) (S : Hash) (c : CapabilityId)
    (actions : List Action) :
    (∀ x ∈ trace (step N S) World.initial actions, ∀ (i j : ℕ) (y z : Call),
      x.1.calls[i]? = some y → x.1.calls[j]? = some z → y.phase.returned = true →
        z.phase.returned = true → y.capabilityId = c → z.capabilityId = c → i = j) ∧
    (trace (step N S) World.initial actions).Pairwise (fun x y =>
      ReturnsClaim N S c x → ¬ ReturnsClaim N S c y) ∧
    (trace (step N S) World.initial actions).Pairwise (fun x y =>
      PublishesTerminal N S c x → ¬ PublishesTerminal N S c y) ∧
    (trace (step N S) World.initial actions).Pairwise (fun x y => ∀ body body',
      x.1.disk.file c .terminal = some body → y.1.disk.file c .terminal = some body' →
        body = body') := by
  refine ⟨?_, pairwise_returnsClaim c actions, pairwise_publishesTerminal c actions, ?_⟩
  · intro x hx i j y z hy hz hreturnedy hreturnedz hcy hcz
    have hsafe : Safe N S False x.1 := trace_invariant
      (fun _ _ _ hs hstep => step_safe hstep False.elim hs) (safe_initial False) hx
    exact returned_unique hsafe hy hz hreturnedy hreturnedz (hcy.trans hcz.symm)
  · refine pairwise_trace (fun _ _ _ hs hstep => step_safe hstep False.elim hs) ?_
      (safe_initial False) actions
    intro s action s' more u action' hs hstep hrun body body' hbody hbody'
    have hrun' : run (step N S) s (action :: more) = some u := run_cons.mpr ⟨s', hstep, hrun⟩
    exact terminal_stable hs hrun' hbody hbody'

/-- What a claim that has returned and a completion that has returned have written is there in every
    later state, whatever crashes. -/
theorem returned_survives (N : Normalization) (S : Hash) (actions : List Action) :
    (trace (step N S) World.initial actions).Pairwise fun x y => ∀ call ∈ x.1.calls,
      (call.phase.returned = true → ∃ body,
        ClaimBody N S call.capabilityId call.authorizationCommitment body ∧
        y.1.disk.file call.capabilityId .claim = some body) ∧
      (∀ record terminal, call.phase = .consumed record terminal → ∃ body,
        TerminalBody N S call.capabilityId call.authorizationCommitment terminal.terminalState
          body ∧
        y.1.disk.file call.capabilityId .terminal = some body) := by
  refine pairwise_trace (fun _ _ _ hs hstep => step_safe hstep False.elim hs) ?_
    (safe_initial False) actions
  intro s action s' more u action' hs hstep hrun call hmem
  obtain ⟨i, hcall⟩ := List.mem_iff_getElem?.mp hmem
  have hrun' : run (step N S) s (action :: more) = some u := run_cons.mpr ⟨s', hstep, hrun⟩
  have hu := run_safe hrun' hs
  obtain ⟨y, hy, hlater⟩ := later_of_run hrun' hcall
  have hrank := hlater.rank
  rw [← hlater.capabilityId, ← hlater.authorizationCommitment]
  constructor
  · intro hreturned
    have hsix := returned_iff.mp hreturned
    obtain ⟨body, hkeeps, hbody⟩ := (hu.backed i y hy).claimed (hsix.trans hrank)
    exact ⟨body, hbody, hkeeps.file⟩
  · intro record terminal hphase
    rw [hphase] at hrank
    obtain ⟨body, state, hkeeps, hstate, hbody⟩ := (hu.backed i y hy).consumed hrank
    have hsame := hlater.outcome terminal.terminalState (by rw [hphase]; rfl)
    obtain rfl := Option.some.inj (hsame.symm.trans hstate)
    exact ⟨body, hbody, hkeeps.file⟩

end Safety

end OpenRisk.Core.Durable
