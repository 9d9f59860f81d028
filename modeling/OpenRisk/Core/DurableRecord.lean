import OpenRisk.Core.Authorization
import OpenRisk.Machine.Except
import OpenRisk.Sdk.Content
import OpenRisk.Text.Utf8

/-!
# The records of the durable claim store

Model of the records of `core/gate/reference-durable-claim-store.mjs` (lines 128–211, 270–312 and
365–400): a claim directory holds `claim.json` and `terminal.json`, and `inspect` tells from their
contents what became of a capability.

`readBoundedJson` answers `null` for a file that does not exist, and also for a file that holds the
JSON text `null`.

Results:
* `validateClaimRecord_eq_ok`, `validateTerminalRecord_eq_ok`: the accepted values are the records
  of their binding.
* `readBoundedJson_eq_ok`, `failsAs_inspectFiles`: what is read from a file, and which errors
  `inspect` answers for contents.
* `inspectFiles_detects_iff`: when every content that is no valid record is reported.
-/

namespace OpenRisk.Core

open Text Sdk

/-! ## Errors -/

inductive DurableCode where
  | invalid
  | corrupt
  | bindingMismatch
  | replay
  | stale
  | io
  deriving DecidableEq

/-- What an operation throws: an error of the store, or one of the canonical payload. -/
inductive DurableError where
  | store (code : DurableCode) (message : JsString)
  | payload (error : PayloadError)

/-- `fail(code, message)`. -/
def durableFail {α : Type} (code : DurableCode) (message : JsString) : Except DurableError α :=
  .error (.store code message)

/-- `if (!condition) fail(code, message)`. -/
def durableRequire (condition : Bool) (code : DurableCode) (message : JsString) :
    Except DurableError Unit :=
  if condition then .ok () else durableFail code message

theorem durableRequire_eq_ok {condition : Bool} {code : DurableCode} {message : JsString} {u : Unit} :
    durableRequire condition code message = .ok u ↔ condition = true := by
  cases condition <;> simp [durableRequire, durableFail]

/-! ## Records -/

def POM_RX_DURABLE_CLAIM_SCHEMA_VERSION : JsString := js "pom-rx-durable-claim/0.1"

def POM_RX_DURABLE_TERMINAL_SCHEMA_VERSION : JsString := js "pom-rx-durable-terminal/0.1"

def CLAIM_COMMIT_DOMAIN : JsString := js "swisstokint:pom-rx-durable-claim:v1:"

def TERMINAL_COMMIT_DOMAIN : JsString := js "swisstokint:pom-rx-durable-terminal:v1:"

def MAX_RECORD_BYTES : ℕ := 16 * 1024

structure ClaimRecord where
  capabilityId : CapabilityId
  authorizationCommitment : HashText
  claimCommitment : HashText

def CLAIM_RECORD_KEYS : List JsString :=
  ["schema_version", "capability_id", "authorization_commitment", "claim_commitment",
    "reference_only", "exclusive_claim_recorded", "local_filesystem_atomicity_assumed",
    "distributed_consensus_proved", "network_filesystem_atomicity_proved",
    "crash_recovery_proved"].map js

/-- The properties of a claim record, in the order of their creation. -/
def ClaimRecord.toEntries (r : ClaimRecord) : List (JsString × JsValue) :=
  [(js "schema_version", .string POM_RX_DURABLE_CLAIM_SCHEMA_VERSION),
    (js "capability_id", .string r.capabilityId.val),
    (js "authorization_commitment", .string r.authorizationCommitment.val),
    (js "claim_commitment", .string r.claimCommitment.val),
    (js "reference_only", .bool true),
    (js "exclusive_claim_recorded", .bool true),
    (js "local_filesystem_atomicity_assumed", .bool true),
    (js "distributed_consensus_proved", .bool false),
    (js "network_filesystem_atomicity_proved", .bool false),
    (js "crash_recovery_proved", .bool false)]

inductive TerminalState where
  | consumedSuccess
  | consumedError
  deriving DecidableEq

def TerminalState.text : TerminalState → JsString
  | .consumedSuccess => js "CONSUMED_SUCCESS"
  | .consumedError => js "CONSUMED_ERROR"

structure TerminalRecord where
  claim : ClaimRecord
  terminalState : TerminalState
  terminalCommitment : HashText

def TERMINAL_RECORD_KEYS : List JsString :=
  ["schema_version", "capability_id", "authorization_commitment", "claim_commitment",
    "terminal_state", "terminal_commitment", "reference_only"].map js

/-- The properties of a terminal record, in the order of their creation. -/
def TerminalRecord.toEntries (r : TerminalRecord) : List (JsString × JsValue) :=
  [(js "schema_version", .string POM_RX_DURABLE_TERMINAL_SCHEMA_VERSION),
    (js "capability_id", .string r.claim.capabilityId.val),
    (js "authorization_commitment", .string r.claim.authorizationCommitment.val),
    (js "claim_commitment", .string r.claim.claimCommitment.val),
    (js "terminal_state", .string r.terminalState.text),
    (js "terminal_commitment", .string r.terminalCommitment.val),
    (js "reference_only", .bool true)]

section Store

variable (N : Normalization) (S : Hash)

/-- `sha256Hex(domain + canonicalizePayload(payload))`. -/
def commitRecord (domain : JsString) (payload : List (JsString × JsValue)) :
    Except DurableError HashText := do
  let canonical ← (canonicalizePayload N (.object payload)).mapError .payload
  .ok (sha256Hex S (domain ++ canonical))

/-- `makeClaimRecord(capabilityId, authorizationCommitment)`. -/
def makeClaimRecord (capabilityId : CapabilityId) (authorizationCommitment : HashText) :
    Except DurableError ClaimRecord := do
  let claimCommitment ← commitRecord N S CLAIM_COMMIT_DOMAIN
    [(js "schema_version", .string POM_RX_DURABLE_CLAIM_SCHEMA_VERSION),
      (js "capability_id", .string capabilityId.val),
      (js "authorization_commitment", .string authorizationCommitment.val)]
  .ok ⟨capabilityId, authorizationCommitment, claimCommitment⟩

/-- `makeTerminalRecord(claimRecord, terminalState)`. -/
def makeTerminalRecord (claimRecord : ClaimRecord) (terminalState : TerminalState) :
    Except DurableError TerminalRecord := do
  let terminalCommitment ← commitRecord N S TERMINAL_COMMIT_DOMAIN
    [(js "schema_version", .string POM_RX_DURABLE_TERMINAL_SCHEMA_VERSION),
      (js "capability_id", .string claimRecord.capabilityId.val),
      (js "authorization_commitment", .string claimRecord.authorizationCommitment.val),
      (js "claim_commitment", .string claimRecord.claimCommitment.val),
      (js "terminal_state", .string terminalState.text)]
  .ok ⟨claimRecord, terminalState, terminalCommitment⟩

/-! ## Validation -/

/-- `exactOwnData(value, expectedKeys, label)` of a parsed value. -/
def exactOwnData (value : JsValue) (expectedKeys : List JsString) (label : JsString) :
    Except DurableError Unit :=
  match value with
  | .object es =>
    durableRequire (sortNames (es.map Prod.fst) = sortNames expectedKeys) .invalid
      (label ++ js " has missing, hidden or unknown fields")
  | _ => durableFail .invalid (label ++ js " must be a non-Proxy plain object")

/-- `validateCapabilityId(value)`. -/
def validateCapabilityId (value : Option JsValue) : Except DurableError CapabilityId :=
  match value with
  | some (.string s) =>
    if h : CAPABILITY_ID_PATTERN s = true then .ok ⟨s, h⟩
    else durableFail .invalid (js "capabilityId has an invalid format")
  | _ => durableFail .invalid (js "capabilityId has an invalid format")

/-- A text of the form `HASH_PATTERN`, or the failure with this code and message. -/
def requireHash (value : Option JsValue) (code : DurableCode) (message : JsString) :
    Except DurableError HashText :=
  match value with
  | some (.string s) =>
    if h : HASH_PATTERN s = true then .ok ⟨s, h⟩ else durableFail code message
  | _ => durableFail code message

/-- `validateAuthorizationCommitment(value)`. -/
def validateAuthorizationCommitment (value : Option JsValue) : Except DurableError HashText :=
  requireHash value .invalid (js "authorizationCommitment must be a lowercase SHA-256 hash")

/-- `value === text`. -/
def hasText (value : Option JsValue) (text : JsString) : Bool :=
  match value with
  | some (.string s) => s = text
  | _ => false

/-- `value === flag`. -/
def hasFlag (value : Option JsValue) (flag : Bool) : Bool :=
  match value with
  | some (.bool b) => b = flag
  | _ => false

/-- `normalizePersistedValidation(label, operation)`. -/
def normalizePersistedValidation {α : Type} (label : JsString) (operation : Except DurableError α) :
    Except DurableError α :=
  operation.mapError fun error =>
    match error with
    | .store .invalid _ => .store .corrupt (label ++ js " is structurally invalid")
    | error => error

/-- `validateClaimRecord(value)`. -/
def validateClaimRecord (value : JsValue) : Except DurableError ClaimRecord :=
  normalizePersistedValidation (js "durable claim record") do
    exactOwnData value CLAIM_RECORD_KEYS (js "durable claim record")
    durableRequire
      (hasText (value.get (js "schema_version")) POM_RX_DURABLE_CLAIM_SCHEMA_VERSION &&
        hasFlag (value.get (js "reference_only")) true &&
        hasFlag (value.get (js "exclusive_claim_recorded")) true &&
        hasFlag (value.get (js "local_filesystem_atomicity_assumed")) true &&
        hasFlag (value.get (js "distributed_consensus_proved")) false &&
        hasFlag (value.get (js "network_filesystem_atomicity_proved")) false &&
        hasFlag (value.get (js "crash_recovery_proved")) false)
      .corrupt (js "durable claim record flags/version are invalid")
    let capabilityId ← validateCapabilityId (value.get (js "capability_id"))
    let authorizationCommitment ←
      validateAuthorizationCommitment (value.get (js "authorization_commitment"))
    let claimCommitment ← requireHash (value.get (js "claim_commitment")) .corrupt
      (js "durable claim commitment is invalid")
    let expected ← makeClaimRecord N S capabilityId authorizationCommitment
    durableRequire (expected.claimCommitment = claimCommitment) .corrupt
      (js "durable claim commitment does not match record contents")
    .ok ⟨capabilityId, authorizationCommitment, claimCommitment⟩

/-- The terminal state that a value names. -/
def terminalStateOf (value : Option JsValue) : Option TerminalState :=
  if hasText value TerminalState.consumedSuccess.text then some .consumedSuccess
  else if hasText value TerminalState.consumedError.text then some .consumedError
  else none

/-- `validateTerminalRecord(value, claimRecord)`. -/
def validateTerminalRecord (value : JsValue) (claimRecord : ClaimRecord) :
    Except DurableError TerminalRecord :=
  normalizePersistedValidation (js "durable terminal record") do
    exactOwnData value TERMINAL_RECORD_KEYS (js "durable terminal record")
    durableRequire
      (hasText (value.get (js "schema_version")) POM_RX_DURABLE_TERMINAL_SCHEMA_VERSION &&
        hasFlag (value.get (js "reference_only")) true)
      .corrupt (js "durable terminal record flags/version/state are invalid")
    match terminalStateOf (value.get (js "terminal_state")) with
    | none =>
      durableFail .corrupt (js "durable terminal record flags/version/state are invalid")
    | some terminalState => do
      durableRequire
        (hasText (value.get (js "capability_id")) claimRecord.capabilityId.val &&
          hasText (value.get (js "authorization_commitment"))
            claimRecord.authorizationCommitment.val &&
          hasText (value.get (js "claim_commitment")) claimRecord.claimCommitment.val)
        .corrupt (js "durable terminal record is not bound to the persisted claim")
      let terminalCommitment ← requireHash (value.get (js "terminal_commitment")) .corrupt
        (js "durable terminal commitment is invalid")
      let expected ← makeTerminalRecord N S claimRecord terminalState
      durableRequire (expected.terminalCommitment = terminalCommitment) .corrupt
        (js "durable terminal commitment does not match record contents")
      .ok ⟨claimRecord, terminalState, terminalCommitment⟩

/-! ## Inspection -/

/-- `readBoundedJson(filePath)`, where `size` is what `lstat` tells of the file, `none` where it
    does not exist, and `content` is what `readFile` reads. -/
def readBoundedJson (size : Option ℕ) (content : Option (List UInt8)) :
    Except DurableError JsValue :=
  match size with
  | none => .ok .null
  | some size => do
    durableRequire (2 ≤ size && size ≤ MAX_RECORD_BYTES) .corrupt
      (js "durable record is not a bounded regular file")
    match content with
    | none => durableFail .io (js "durable record could not be read")
    | some bytes =>
      match jsonParse (Utf8.decodeLossy bytes) with
      | some value => .ok value
      | none => durableFail .corrupt (js "durable record JSON is invalid")

inductive ClaimState where
  | absent
  | reservedIncomplete
  | reserved
  | consumed (state : TerminalState)
  deriving DecidableEq

/-- What `inspect` returns, but for its constant flags. -/
structure ClaimInspection where
  state : ClaimState
  capabilityId : Option CapabilityId
  authorizationCommitment : Option HashText
  claimCommitment : Option HashText
  terminalCommitment : Option HashText
  exclusiveClaimRecorded : Bool
  deriving DecidableEq

/-- `makeInspection(state, claimRecord, terminalRecord)`. -/
def makeInspection (state : ClaimState) (claimRecord : Option ClaimRecord)
    (terminalRecord : Option TerminalRecord) : ClaimInspection where
  state := state
  capabilityId := claimRecord.map ClaimRecord.capabilityId
  authorizationCommitment := claimRecord.map ClaimRecord.authorizationCommitment
  claimCommitment := claimRecord.map ClaimRecord.claimCommitment
  terminalCommitment := terminalRecord.map TerminalRecord.terminalCommitment
  exclusiveClaimRecorded := claimRecord.isSome

/-- `inspect` in a claim directory, where the two files are found as they are given. -/
def inspectRecords (capabilityId : CapabilityId) (authorizationCommitment : HashText)
    (rawClaim rawTerminal : Except DurableError JsValue) : Except DurableError ClaimInspection := do
  match ← rawClaim with
  | .null =>
    .ok { makeInspection .reservedIncomplete none none with capabilityId := some capabilityId }
  | rawClaim => do
    let claimRecord ← validateClaimRecord N S rawClaim
    durableRequire
      (claimRecord.capabilityId = capabilityId &&
        claimRecord.authorizationCommitment = authorizationCommitment)
      .bindingMismatch
      (js "persisted durable claim does not match the expected authorization binding")
    match ← rawTerminal with
    | .null => .ok (makeInspection .reserved (some claimRecord) none)
    | rawTerminal => do
      let terminalRecord ← validateTerminalRecord N S rawTerminal claimRecord
      .ok (makeInspection (.consumed terminalRecord.terminalState) (some claimRecord)
        (some terminalRecord))

/-- `inspect` in a claim directory whose two files have these contents. -/
def inspectFiles (capabilityId : CapabilityId) (authorizationCommitment : HashText)
    (claimFile terminalFile : Option (List UInt8)) : Except DurableError ClaimInspection :=
  inspectRecords N S capabilityId authorizationCommitment
    (readBoundedJson (claimFile.map List.length) claimFile)
    (readBoundedJson (terminalFile.map List.length) terminalFile)

/-! ## Valid records -/

/-- The value is the object of these properties, in any order. -/
def Holds (value : JsValue) (entries : List (JsString × JsValue)) : Prop :=
  ∃ es, value = .object es ∧ es.Perm entries

/-- The file exists, has a size within the bounds, and its text denotes the value. -/
def FileHolds (file : Option (List UInt8)) (value : JsValue) : Prop :=
  ∃ bytes, file = some bytes ∧ 2 ≤ bytes.length ∧ bytes.length ≤ MAX_RECORD_BYTES ∧
    jsonParse (Utf8.decodeLossy bytes) = some value

/-- The file holds the record of the binding. -/
def HoldsClaim (capabilityId : CapabilityId) (authorizationCommitment : HashText)
    (file : Option (List UInt8)) (record : ClaimRecord) : Prop :=
  makeClaimRecord N S capabilityId authorizationCommitment = .ok record ∧
    ∃ value, FileHolds file value ∧ Holds value record.toEntries

/-- The file holds a terminal record of the claim. -/
def HoldsTerminal (claim : ClaimRecord) (file : Option (List UInt8)) (record : TerminalRecord) :
    Prop :=
  makeTerminalRecord N S claim record.terminalState = .ok record ∧
    ∃ value, FileHolds file value ∧ Holds value record.toEntries

end Store

section Valid

variable {N : Normalization} {S : Hash}

theorem hasText_iff {value : Option JsValue} {text : JsString} :
    hasText value text = true ↔ value = some (.string text) := by
  unfold hasText
  split <;> simp_all

theorem hasFlag_iff {value : Option JsValue} {flag : Bool} :
    hasFlag value flag = true ↔ value = some (.bool flag) := by
  unfold hasFlag
  split
  · simp
  · rename_i hvalue
    exact iff_of_false Bool.false_ne_true fun h => hvalue flag h

theorem requireHash_eq_ok {value : Option JsValue} {code : DurableCode} {message : JsString}
    {h : HashText} : requireHash value code message = .ok h ↔ value = some (.string h.val) := by
  constructor
  · intro hok
    unfold requireHash at hok
    split at hok
    · split at hok
      · obtain rfl := Except.ok.inj hok
        rfl
      · cases hok
    · cases hok
  · rintro rfl
    rw [requireHash, dif_pos h.property]
    rfl

theorem validateCapabilityId_eq_ok {value : Option JsValue} {c : CapabilityId} :
    validateCapabilityId value = .ok c ↔ value = some (.string c.val) := by
  constructor
  · intro hok
    unfold validateCapabilityId at hok
    split at hok
    · split at hok
      · obtain rfl := Except.ok.inj hok
        rfl
      · cases hok
    · cases hok
  · rintro rfl
    rw [validateCapabilityId, dif_pos c.property]

theorem normalizePersistedValidation_eq_ok {α : Type} {label : JsString}
    {operation : Except DurableError α} {a : α} :
    normalizePersistedValidation label operation = .ok a ↔ operation = .ok a :=
  mapError_eq_ok

theorem exactOwnData_eq_ok {value : JsValue} {keys : List JsString} {label : JsString} {u : Unit} :
    exactOwnData value keys label = .ok u ↔
      ∃ es, value = .object es ∧ (es.map Prod.fst).Perm keys := by
  unfold exactOwnData
  split
  · rename_i es
    rw [durableRequire_eq_ok, decide_eq_true_iff, sortNames_eq_iff]
    constructor
    · exact fun h => ⟨es, rfl, h⟩
    · rintro ⟨es', h, hperm⟩
      obtain rfl := JsValue.object.inj h
      exact hperm
  · rename_i hvalue
    exact iff_of_false nofun fun ⟨es, h, _⟩ => hvalue es h

/-- Properties with the same names and values. -/
theorem perm_of_lookup {es fs : List (JsString × JsValue)}
    (hnames : (es.map Prod.fst).Perm (fs.map Prod.fst)) (hnodup : (fs.map Prod.fst).Nodup)
    (h : ∀ f ∈ fs, es.lookup f.1 = some f.2) : es.Perm fs := by
  have hes : (es.map Prod.fst).Nodup := hnames.nodup_iff.mpr hnodup
  refine (List.perm_ext_iff_of_nodup (.of_map _ hes) (.of_map _ hnodup)).mpr fun e => ?_
  constructor
  · intro he
    obtain ⟨f, hf, hname⟩ := List.mem_map.mp (hnames.mem_iff.mp (List.mem_map_of_mem he))
    have hlookup := lookup_of_mem hes (show (e.1, e.2) ∈ es from he)
    rw [← hname, h f hf, Option.some.injEq] at hlookup
    rwa [← Prod.ext hname hlookup]
  · exact fun he => mem_of_lookup (h e he)

/-- What stands under a name of an object of these properties. -/
theorem Holds.get {value : JsValue} {entries : List (JsString × JsValue)} (h : Holds value entries)
    (hnodup : (entries.map Prod.fst).Nodup) {key : JsString} {x : JsValue}
    (hmem : (key, x) ∈ entries) : value.get key = some x := by
  obtain ⟨es, rfl, hperm⟩ := h
  exact lookup_of_mem ((hperm.map Prod.fst).nodup_iff.mpr hnodup) (hperm.mem_iff.mpr hmem)

theorem claimKeys_nodup : CLAIM_RECORD_KEYS.Nodup := by decide

theorem terminalKeys_nodup : TERMINAL_RECORD_KEYS.Nodup := by decide

/-- An accepted claim record is the record of its binding. -/
theorem validateClaimRecord_eq_ok {value : JsValue} {r : ClaimRecord} :
    validateClaimRecord N S value = .ok r ↔
      makeClaimRecord N S r.capabilityId r.authorizationCommitment = .ok r ∧
        Holds value r.toEntries := by
  rw [validateClaimRecord, normalizePersistedValidation_eq_ok]
  constructor
  · intro h
    simp only [bind_eq_ok, durableRequire_eq_ok, exactOwnData_eq_ok, validateCapabilityId_eq_ok,
      validateAuthorizationCommitment, requireHash_eq_ok, Bool.and_eq_true, hasText_iff, hasFlag_iff,
      decide_eq_true_eq] at h
    obtain ⟨-, ⟨es, rfl, hnames⟩, -, hflags, c, hcapability, a, hauthorization, commitment,
      hcommitment, expected, hexpected, -, hequal, h⟩ := h
    obtain ⟨⟨⟨⟨⟨⟨hschema, hreference⟩, hexclusive⟩, hlocal⟩, hdistributed⟩, hnetwork⟩, hcrash⟩ := hflags
    obtain rfl := Except.ok.inj h
    obtain ⟨canonical, hcanonical, hrecord⟩ := bind_eq_ok.mp hexpected
    obtain rfl := Except.ok.inj hrecord
    refine ⟨?_, es, rfl, perm_of_lookup hnames claimKeys_nodup ?_⟩
    · rw [hexpected, ← hequal]
    · simp only [ClaimRecord.toEntries, List.forall_mem_cons]
      exact ⟨hschema, hcapability, hauthorization, hcommitment, hreference, hexclusive, hlocal,
        hdistributed, hnetwork, hcrash, List.forall_mem_nil _⟩
  · rintro ⟨hmake, hholds⟩
    have hget : ∀ e ∈ r.toEntries, value.get e.1 = some e.2 := fun e he =>
      hholds.get claimKeys_nodup he
    simp only [ClaimRecord.toEntries, List.forall_mem_cons] at hget
    obtain ⟨hschema, hcapability, hauthorization, hcommitment, hreference, hexclusive, hlocal,
      hdistributed, hnetwork, hcrash, -⟩ := hget
    obtain ⟨es, rfl, hperm⟩ := hholds
    simp only [bind_eq_ok, durableRequire_eq_ok, exactOwnData_eq_ok, validateCapabilityId_eq_ok,
      validateAuthorizationCommitment, requireHash_eq_ok, Bool.and_eq_true, hasText_iff, hasFlag_iff,
      decide_eq_true_eq]
    exact ⟨(), ⟨es, rfl, hperm.map Prod.fst⟩, (), ⟨⟨⟨⟨⟨⟨hschema, hreference⟩, hexclusive⟩, hlocal⟩,
      hdistributed⟩, hnetwork⟩, hcrash⟩, r.capabilityId, hcapability, r.authorizationCommitment,
      hauthorization, r.claimCommitment, hcommitment, r, hmake, (), rfl, rfl⟩

theorem terminalStateOf_eq_some {value : Option JsValue} {state : TerminalState} :
    terminalStateOf value = some state ↔ value = some (.string state.text) := by
  have hne : TerminalState.consumedError.text ≠ TerminalState.consumedSuccess.text := by decide
  constructor
  · intro h
    unfold terminalStateOf at h
    split at h
    · rename_i hsuccess
      obtain rfl := Option.some.inj h
      exact hasText_iff.mp hsuccess
    · split at h
      · rename_i herror
        obtain rfl := Option.some.inj h
        exact hasText_iff.mp herror
      · cases h
  · rintro rfl
    cases state with
    | consumedSuccess => rw [terminalStateOf, if_pos (hasText_iff.mpr rfl)]
    | consumedError =>
      rw [terminalStateOf, if_neg, if_pos (hasText_iff.mpr rfl)]
      intro h
      exact hne (JsValue.string.inj (Option.some.inj (hasText_iff.mp h)))

/-- An accepted terminal record is one of the claim. -/
theorem validateTerminalRecord_eq_ok {value : JsValue} {claim : ClaimRecord} {r : TerminalRecord} :
    validateTerminalRecord N S value claim = .ok r ↔
      makeTerminalRecord N S claim r.terminalState = .ok r ∧ Holds value r.toEntries := by
  rw [validateTerminalRecord, normalizePersistedValidation_eq_ok]
  constructor
  · intro h
    obtain ⟨_, hkeys, h⟩ := bind_eq_ok.mp h
    obtain ⟨es, rfl, hnames⟩ := exactOwnData_eq_ok.mp hkeys
    obtain ⟨_, hflags, h⟩ := bind_eq_ok.mp h
    simp only [durableRequire_eq_ok, Bool.and_eq_true, hasText_iff, hasFlag_iff] at hflags
    obtain ⟨hschema, hreference⟩ := hflags
    split at h
    · cases h
    · rename_i state hstate
      simp only [bind_eq_ok, durableRequire_eq_ok, requireHash_eq_ok, Bool.and_eq_true, hasText_iff,
        decide_eq_true_eq] at h
      obtain ⟨-, ⟨⟨hcapability, hauthorization⟩, hclaim⟩, commitment, hcommitment, expected,
        hexpected, -, hequal, h⟩ := h
      obtain rfl := Except.ok.inj h
      obtain ⟨canonical, hcanonical, hrecord⟩ := bind_eq_ok.mp hexpected
      obtain rfl := Except.ok.inj hrecord
      refine ⟨?_, es, rfl, perm_of_lookup hnames terminalKeys_nodup ?_⟩
      · rw [hexpected, ← hequal]
      · simp only [TerminalRecord.toEntries, List.forall_mem_cons]
        exact ⟨hschema, hcapability, hauthorization, hclaim, terminalStateOf_eq_some.mp hstate,
          hcommitment, hreference, List.forall_mem_nil _⟩
  · rintro ⟨hmake, hholds⟩
    have hclaim : r.claim = claim := by
      obtain ⟨commitment, -, hrecord⟩ := bind_eq_ok.mp hmake
      rw [← Except.ok.inj hrecord]
    have hget : ∀ e ∈ r.toEntries, value.get e.1 = some e.2 := fun e he =>
      hholds.get terminalKeys_nodup he
    simp only [TerminalRecord.toEntries, List.forall_mem_cons, hclaim] at hget
    obtain ⟨hschema, hcapability, hauthorization, hcommitment, hstate, hterminal, hreference, -⟩ :=
      hget
    obtain ⟨es, rfl, hperm⟩ := hholds
    refine bind_eq_ok.mpr ⟨(), exactOwnData_eq_ok.mpr ⟨es, rfl, hperm.map Prod.fst⟩, ?_⟩
    refine bind_eq_ok.mpr ⟨(), durableRequire_eq_ok.mpr ?_, ?_⟩
    · rw [Bool.and_eq_true, hasText_iff, hasFlag_iff]
      exact ⟨hschema, hreference⟩
    · rw [terminalStateOf_eq_some.mpr hstate]
      simp only [bind_eq_ok, durableRequire_eq_ok, requireHash_eq_ok, Bool.and_eq_true, hasText_iff,
        decide_eq_true_eq]
      exact ⟨(), ⟨⟨hcapability, hauthorization⟩, hcommitment⟩, r.terminalCommitment, hterminal, r,
        hmake, (), rfl, by rw [← hclaim]⟩

/-! ## Commitments -/

theorem plainWithin_claimSchema : PlainWithin 24 POM_RX_DURABLE_CLAIM_SCHEMA_VERSION :=
  ⟨List.all_eq_true.mp (by decide), by decide⟩

theorem plainWithin_terminalSchema : PlainWithin 27 POM_RX_DURABLE_TERMINAL_SCHEMA_VERSION :=
  ⟨List.all_eq_true.mp (by decide), by decide⟩

theorem plainWithin_terminalState (state : TerminalState) : PlainWithin 16 state.text := by
  cases state with
  | consumedSuccess => exact ⟨List.all_eq_true.mp (by decide), by decide⟩
  | consumedError => exact ⟨List.all_eq_true.mp (by decide), by decide⟩

theorem makeClaimRecord_ok (N : Normalization) (S : Hash) (c : CapabilityId) (a : HashText) :
    ∃ r, makeClaimRecord N S c a = .ok r ∧ r.capabilityId = c ∧ r.authorizationCommitment = a := by
  have hfits : List.Forall₂ (fun n (e : JsString × JsValue) => Fits N n e.2) [26, 38, 66]
      [(js "schema_version", .string POM_RX_DURABLE_CLAIM_SCHEMA_VERSION),
        (js "capability_id", .string c.val), (js "authorization_commitment", .string a.val)] :=
    .cons (plainWithin_claimSchema.fits (by norm_num))
      (.cons ((plainWithin_capabilityId c).fits (by norm_num))
        (.cons ((plainWithin_hash a).fits (by norm_num)) .nil))
  have hkeys : ∀ key ∈ CLAIM_RECORD_KEYS.take 3, isPlainKey key = true := by decide
  have hsize : [26, 38, 66].sum + ((CLAIM_RECORD_KEYS.take 3).map fun key => key.length + 3).sum +
      3 + 2 ≤ MAX_CANONICAL_BYTES := by decide
  obtain ⟨t, ht⟩ := canonicalizePayload_of_fits (by exact hkeys) hfits
    (by show 3 < MAX_NODES; decide) (by exact hsize)
  refine ⟨⟨c, a, sha256Hex S (CLAIM_COMMIT_DOMAIN ++ t)⟩, ?_, rfl, rfl⟩
  rw [makeClaimRecord, commitRecord, ht]
  rfl

theorem makeTerminalRecord_ok (N : Normalization) (S : Hash) (claim : ClaimRecord)
    (state : TerminalState) :
    ∃ r, makeTerminalRecord N S claim state = .ok r ∧ r.claim = claim ∧ r.terminalState = state := by
  have hfits : List.Forall₂ (fun n (e : JsString × JsValue) => Fits N n e.2) [29, 38, 66, 66, 18]
      [(js "schema_version", .string POM_RX_DURABLE_TERMINAL_SCHEMA_VERSION),
        (js "capability_id", .string claim.capabilityId.val),
        (js "authorization_commitment", .string claim.authorizationCommitment.val),
        (js "claim_commitment", .string claim.claimCommitment.val),
        (js "terminal_state", .string state.text)] :=
    .cons (plainWithin_terminalSchema.fits (by norm_num))
      (.cons ((plainWithin_capabilityId claim.capabilityId).fits (by norm_num))
        (.cons ((plainWithin_hash claim.authorizationCommitment).fits (by norm_num))
          (.cons ((plainWithin_hash claim.claimCommitment).fits (by norm_num))
            (.cons ((plainWithin_terminalState state).fits (by norm_num)) .nil))))
  have hkeys : ∀ key ∈ TERMINAL_RECORD_KEYS.take 5, isPlainKey key = true := by decide
  have hsize : [29, 38, 66, 66, 18].sum +
      ((TERMINAL_RECORD_KEYS.take 5).map fun key => key.length + 3).sum + 5 + 2 ≤
        MAX_CANONICAL_BYTES := by decide
  obtain ⟨t, ht⟩ := canonicalizePayload_of_fits (by exact hkeys) hfits
    (by show 5 < MAX_NODES; decide) (by exact hsize)
  refine ⟨⟨claim, state, sha256Hex S (TERMINAL_COMMIT_DOMAIN ++ t)⟩, ?_, rfl, rfl⟩
  rw [makeTerminalRecord, commitRecord, ht]
  rfl

/-! ## Errors of the validation -/

/-- Every error of the computation has the property. -/
def FailsAs {α : Type} (P : DurableError → Prop) (x : Except DurableError α) : Prop :=
  ∀ e, x = .error e → P e

theorem failsAs_ok {α : Type} {P : DurableError → Prop} {a : α} : FailsAs P (.ok a) := nofun

theorem FailsAs.bind {α β : Type} {P : DurableError → Prop} {x : Except DurableError α}
    {k : α → Except DurableError β} (hx : FailsAs P x) (hk : ∀ a, x = .ok a → FailsAs P (k a)) :
    FailsAs P (x >>= k) := by
  cases x with
  | ok a => exact hk a rfl
  | error e =>
    intro e' he
    obtain rfl : e = e' := by
      cases he
      rfl
    exact hx e rfl

/-- An error of a structure that is no record. -/
def Structural (e : DurableError) : Prop :=
  ∃ message, e = .store .invalid message ∨ e = .store .corrupt message

theorem failsAs_require {condition : Bool} {code : DurableCode} {message : JsString}
    {P : DurableError → Prop} (hP : P (.store code message)) :
    FailsAs P (durableRequire condition code message) := by
  intro e he
  cases condition with
  | true => cases he
  | false =>
    obtain rfl := Except.error.inj he
    exact hP

theorem failsAs_requireHash {value : Option JsValue} {code : DurableCode} {message : JsString}
    {P : DurableError → Prop} (hP : P (.store code message)) :
    FailsAs P (requireHash value code message) := by
  unfold requireHash
  split
  · split
    · exact failsAs_ok
    · rintro e ⟨⟩
      exact hP
  · rintro e ⟨⟩
    exact hP

theorem failsAs_validateCapabilityId {value : Option JsValue} :
    FailsAs Structural (validateCapabilityId value) := by
  unfold validateCapabilityId
  split
  · split
    · exact failsAs_ok
    · rintro e ⟨⟩
      exact ⟨_, .inl rfl⟩
  · rintro e ⟨⟩
    exact ⟨_, .inl rfl⟩

theorem failsAs_exactOwnData {value : JsValue} {keys : List JsString} {label : JsString} :
    FailsAs Structural (exactOwnData value keys label) := by
  unfold exactOwnData
  split
  · exact failsAs_require ⟨_, .inl rfl⟩
  · rintro e ⟨⟩
    exact ⟨_, .inl rfl⟩

/-- An error of corruption. -/
def Corrupt (e : DurableError) : Prop := ∃ message, e = .store .corrupt message

theorem failsAs_normalize {α : Type} {label : JsString} {operation : Except DurableError α}
    (h : FailsAs Structural operation) :
    FailsAs Corrupt (normalizePersistedValidation label operation) := by
  intro e he
  cases operation with
  | ok a => cases he
  | error e' =>
    obtain ⟨message, rfl | rfl⟩ := h e' rfl
    · obtain rfl := Except.error.inj he
      exact ⟨_, rfl⟩
    · obtain rfl := Except.error.inj he
      exact ⟨_, rfl⟩

theorem failsAs_validateClaimRecord {value : JsValue} :
    FailsAs Corrupt (validateClaimRecord N S value) := by
  refine failsAs_normalize (failsAs_exactOwnData.bind fun _ _ => ?_)
  refine (failsAs_require ⟨_, .inr rfl⟩).bind fun _ _ => ?_
  refine failsAs_validateCapabilityId.bind fun c _ => ?_
  refine (failsAs_requireHash ⟨_, .inl rfl⟩).bind fun a _ => ?_
  refine (failsAs_requireHash ⟨_, .inr rfl⟩).bind fun commitment _ => ?_
  obtain ⟨r, hr, -⟩ := makeClaimRecord_ok N S c a
  rw [hr]
  exact (failsAs_require ⟨_, .inr rfl⟩).bind fun _ _ => failsAs_ok

theorem failsAs_validateTerminalRecord {value : JsValue} {claim : ClaimRecord} :
    FailsAs Corrupt (validateTerminalRecord N S value claim) := by
  refine failsAs_normalize (failsAs_exactOwnData.bind fun _ _ => ?_)
  refine (failsAs_require ⟨_, .inr rfl⟩).bind fun _ _ => ?_
  split
  · rintro e ⟨⟩
    exact ⟨_, .inr rfl⟩
  · rename_i state _
    refine (failsAs_require ⟨_, .inr rfl⟩).bind fun _ _ => ?_
    refine (failsAs_requireHash ⟨_, .inr rfl⟩).bind fun commitment _ => ?_
    obtain ⟨r, hr, -⟩ := makeTerminalRecord_ok N S claim state
    rw [hr]
    exact (failsAs_require ⟨_, .inr rfl⟩).bind fun _ _ => failsAs_ok

theorem failsAs_readBoundedJson {file : Option (List UInt8)} :
    FailsAs Corrupt (readBoundedJson (file.map List.length) file) := by
  cases file with
  | none => exact failsAs_ok
  | some bytes =>
    refine (failsAs_require ⟨_, rfl⟩).bind fun _ _ => ?_
    show FailsAs Corrupt (match jsonParse (Utf8.decodeLossy bytes) with
      | some value => .ok value
      | none => durableFail .corrupt (js "durable record JSON is invalid"))
    split
    · exact failsAs_ok
    · rintro e ⟨⟩
      exact ⟨_, rfl⟩

/-! ## What the files hold -/

theorem readBoundedJson_eq_ok {file : Option (List UInt8)} {value : JsValue} :
    readBoundedJson (file.map List.length) file = .ok value ↔
      file = none ∧ value = .null ∨ FileHolds file value := by
  cases file with
  | none =>
    constructor
    · intro h
      exact .inl ⟨rfl, (Except.ok.inj h).symm⟩
    · rintro (⟨-, rfl⟩ | ⟨bytes, h, -⟩)
      · rfl
      · cases h
  | some bytes =>
    have hread : readBoundedJson ((some bytes).map List.length) (some bytes) = .ok value ↔
        (2 ≤ bytes.length ∧ bytes.length ≤ MAX_RECORD_BYTES) ∧
          jsonParse (Utf8.decodeLossy bytes) = some value := by
      rw [readBoundedJson.eq_def]
      simp only [Option.map_some, bind_eq_ok, durableRequire_eq_ok, Bool.and_eq_true,
        decide_eq_true_eq, exists_and_left, exists_const]
      refine and_congr_right fun _ => ?_
      split
      · rename_i v hv
        rw [hv, Option.some.injEq, Except.ok.injEq]
      · rename_i hv
        rw [hv]
        refine iff_of_false (fun h => ?_) (fun h => ?_)
        · cases h
        · cases h
    rw [hread]
    constructor
    · rintro ⟨⟨hmin, hmax⟩, hparse⟩
      exact .inr ⟨bytes, rfl, hmin, hmax, hparse⟩
    · rintro (⟨h, -⟩ | ⟨bytes', h, hmin, hmax, hparse⟩)
      · cases h
      · obtain rfl := Option.some.inj h
        exact ⟨⟨hmin, hmax⟩, hparse⟩

theorem FileHolds.unique {file : Option (List UInt8)} {v w : JsValue} (hv : FileHolds file v)
    (hw : FileHolds file w) : v = w := by
  obtain ⟨bytes, rfl, -, -, hv⟩ := hv
  obtain ⟨bytes', h, -, -, hw⟩ := hw
  obtain rfl := Option.some.inj h
  exact Option.some.inj (hv.symm.trans hw)

theorem Holds.ne_null {value : JsValue} {entries : List (JsString × JsValue)}
    (h : Holds value entries) : value ≠ .null := by
  obtain ⟨es, rfl, -⟩ := h
  exact nofun

/-- An accepted claim record passes the checks of `inspect` for its own binding. -/
theorem inspectRecords_claim {es : List (JsString × JsValue)} {record : ClaimRecord}
    {rawTerminal : Except DurableError JsValue} {i : ClaimInspection}
    (hrecord : validateClaimRecord N S (.object es) = .ok record)
    (h : (do
      match ← rawTerminal with
      | .null => .ok (makeInspection .reserved (some record) none)
      | rawTerminal => do
        let terminalRecord ← validateTerminalRecord N S rawTerminal record
        .ok (makeInspection (.consumed terminalRecord.terminalState) (some record)
          (some terminalRecord))) = (.ok i : Except DurableError ClaimInspection)) :
    inspectRecords N S record.capabilityId record.authorizationCommitment (.ok (.object es))
      rawTerminal = .ok i := by
  refine bind_eq_ok.mpr ⟨.object es, rfl, ?_⟩
  refine bind_eq_ok.mpr ⟨record, hrecord, ?_⟩
  refine bind_eq_ok.mpr ⟨(), durableRequire_eq_ok.mpr (by simp), ?_⟩
  exact h

theorem inspectRecords_reserved {es : List (JsString × JsValue)} {record : ClaimRecord}
    (hrecord : validateClaimRecord N S (.object es) = .ok record) :
    inspectRecords N S record.capabilityId record.authorizationCommitment (.ok (.object es))
      (.ok .null) = .ok (makeInspection .reserved (some record) none) :=
  inspectRecords_claim hrecord rfl

theorem inspectRecords_consumed {es fs : List (JsString × JsValue)} {record : ClaimRecord}
    {terminal : TerminalRecord} (hrecord : validateClaimRecord N S (.object es) = .ok record)
    (hterminal : validateTerminalRecord N S (.object fs) record = .ok terminal) :
    inspectRecords N S record.capabilityId record.authorizationCommitment (.ok (.object es))
      (.ok (.object fs)) =
        .ok (makeInspection (.consumed terminal.terminalState) (some record) (some terminal)) := by
  refine inspectRecords_claim hrecord (bind_eq_ok.mpr ⟨.object fs, rfl, ?_⟩)
  exact bind_eq_ok.mpr ⟨terminal, hterminal, rfl⟩

/-- What an answer of `inspect` says about the two records. -/
theorem inspectRecords_ok_cases {c : CapabilityId} {a : HashText}
    {rawClaim rawTerminal : Except DurableError JsValue} {i : ClaimInspection}
    (h : inspectRecords N S c a rawClaim rawTerminal = .ok i) :
    rawClaim = .ok .null ∧
        i = { makeInspection .reservedIncomplete none none with capabilityId := some c } ∨
      ∃ value record, rawClaim = .ok value ∧ Holds value record.toEntries ∧
        makeClaimRecord N S c a = .ok record ∧
        (rawTerminal = .ok .null ∧ i = makeInspection .reserved (some record) none ∨
          ∃ value terminal, rawTerminal = .ok value ∧ Holds value terminal.toEntries ∧
            makeTerminalRecord N S record terminal.terminalState = .ok terminal ∧
            i = makeInspection (.consumed terminal.terminalState) (some record) (some terminal)) := by
  obtain ⟨value, hvalue, hchecks⟩ := bind_eq_ok.mp h
  split at hchecks
  · exact .inl ⟨hvalue, (Except.ok.inj hchecks).symm⟩
  · obtain ⟨record, hrecord, hrest⟩ := bind_eq_ok.mp hchecks
    obtain ⟨hmake, hholds⟩ := validateClaimRecord_eq_ok.mp hrecord
    obtain ⟨_, hbinding, hterminals⟩ := bind_eq_ok.mp hrest
    rw [durableRequire_eq_ok, Bool.and_eq_true, decide_eq_true_eq, decide_eq_true_eq] at hbinding
    rw [hbinding.1, hbinding.2] at hmake
    obtain ⟨terminalValue, hterminalValue, hlast⟩ := bind_eq_ok.mp hterminals
    refine .inr ⟨value, record, hvalue, hholds, hmake, ?_⟩
    split at hlast
    · exact .inl ⟨hterminalValue, (Except.ok.inj hlast).symm⟩
    · obtain ⟨terminal, hterminal, hanswer⟩ := bind_eq_ok.mp hlast
      obtain ⟨hmakeTerminal, hholdsTerminal⟩ := validateTerminalRecord_eq_ok.mp hterminal
      exact .inr ⟨terminalValue, terminal, hterminalValue, hholdsTerminal, hmakeTerminal,
        (Except.ok.inj hanswer).symm⟩

theorem makeClaimRecord_binding {c : CapabilityId} {a : HashText} {record : ClaimRecord}
    (h : makeClaimRecord N S c a = .ok record) :
    record.capabilityId = c ∧ record.authorizationCommitment = a := by
  obtain ⟨commitment, -, hrecord⟩ := bind_eq_ok.mp h
  obtain rfl := Except.ok.inj hrecord
  exact ⟨rfl, rfl⟩

/-! ## What is reported -/

/-- What `inspect` answers for each content of the two files: an answer only for files that are
    absent or hold records of the binding, and an error of corruption or of the binding for any
    other content. -/
structure Detected (N : Normalization) (S : Hash) (capabilityId : CapabilityId)
    (authorizationCommitment : HashText) (claimFile terminalFile : Option (List UInt8)) : Prop where
  answered : ∀ inspection, inspectFiles N S capabilityId authorizationCommitment claimFile
    terminalFile = .ok inspection →
      inspection.state = .reservedIncomplete ∧ claimFile = none ∨
      (∃ record, HoldsClaim N S capabilityId authorizationCommitment claimFile record ∧
        (inspection.state = .reserved ∧ terminalFile = none ∨
          ∃ terminal, HoldsTerminal N S record terminalFile terminal ∧
            inspection.state = .consumed terminal.terminalState))
  reported : ∀ error, inspectFiles N S capabilityId authorizationCommitment claimFile
    terminalFile = .error error →
      ∃ message, error = .store .corrupt message ∨ error = .store .bindingMismatch message

theorem failsAs_inspectFiles {c : CapabilityId} {a : HashText}
    {claimFile terminalFile : Option (List UInt8)} :
    FailsAs (fun error => ∃ message, error = .store .corrupt message ∨
      error = .store .bindingMismatch message)
      (inspectFiles N S c a claimFile terminalFile) := by
  have hcorrupt : ∀ {α : Type} {x : Except DurableError α}, FailsAs Corrupt x →
      FailsAs (fun error => ∃ message, error = .store .corrupt message ∨
        error = .store .bindingMismatch message) x := by
    intro α x h e he
    obtain ⟨message, rfl⟩ := h e he
    exact ⟨message, .inl rfl⟩
  refine (hcorrupt failsAs_readBoundedJson).bind fun value _ => ?_
  split
  · exact failsAs_ok
  · refine (hcorrupt failsAs_validateClaimRecord).bind fun record _ => ?_
    refine (failsAs_require ⟨_, .inr rfl⟩).bind fun _ _ => ?_
    refine (hcorrupt failsAs_readBoundedJson).bind fun terminalValue _ => ?_
    split
    · exact failsAs_ok
    · exact (hcorrupt failsAs_validateTerminalRecord).bind fun _ _ => failsAs_ok

/-- A claim file of the text `null` passes for one that does not exist. -/
theorem not_detected_of_null {c : CapabilityId} {a : HashText}
    {claimFile terminalFile : Option (List UInt8)} (hnull : FileHolds claimFile .null) :
    ¬ Detected N S c a claimFile terminalFile := by
  intro hdetected
  have hinspect : inspectFiles N S c a claimFile terminalFile =
      .ok { makeInspection .reservedIncomplete none none with capabilityId := some c } := by
    rw [inspectFiles, readBoundedJson_eq_ok.mpr (.inr hnull)]
    rfl
  rcases hdetected.answered _ hinspect with ⟨-, rfl⟩ | ⟨record, ⟨-, value, hvalue, hholds⟩, -⟩
  · obtain ⟨bytes, h, -⟩ := hnull
    cases h
  · exact hholds.ne_null (hvalue.unique hnull)

/-- Beside the record of the claim, so does a terminal file of the text `null`. -/
theorem not_detected_of_terminal_null {c : CapabilityId} {a : HashText}
    {claimFile terminalFile : Option (List UInt8)} {record : ClaimRecord}
    (hclaim : HoldsClaim N S c a claimFile record) (hnull : FileHolds terminalFile .null) :
    ¬ Detected N S c a claimFile terminalFile := by
  intro hdetected
  obtain ⟨hmake, value, hvalue, hholds⟩ := hclaim
  have hinspect : inspectFiles N S c a claimFile terminalFile =
      .ok (makeInspection .reserved (some record) none) := by
    obtain ⟨rfl, rfl⟩ := makeClaimRecord_binding hmake
    have hrecord := validateClaimRecord_eq_ok.mpr ⟨hmake, hholds⟩
    obtain ⟨es, rfl, -⟩ := hholds
    rw [inspectFiles, readBoundedJson_eq_ok.mpr (.inr hvalue),
      readBoundedJson_eq_ok.mpr (.inr hnull)]
    exact inspectRecords_reserved hrecord
  rcases hdetected.answered _ hinspect with ⟨hstate, -⟩ | ⟨_, -, ⟨-, rfl⟩ | ⟨_, -, hstate⟩⟩
  · cases hstate
  · obtain ⟨bytes, h, -⟩ := hnull
    cases h
  · cases hstate

/-- Every content that is no valid record is reported, unless `claim.json` holds `null`, or the
    claim is valid and `terminal.json` holds `null`. -/
theorem inspectFiles_detects_iff (N : Normalization) (S : Hash) (c : CapabilityId) (a : HashText)
    (claimFile terminalFile : Option (List UInt8)) :
    Detected N S c a claimFile terminalFile ↔
      ¬ FileHolds claimFile .null ∧
        ¬ ((∃ record, HoldsClaim N S c a claimFile record) ∧ FileHolds terminalFile .null) := by
  constructor
  · intro hdetected
    refine ⟨fun hnull => not_detected_of_null hnull hdetected, ?_⟩
    rintro ⟨⟨record, hclaim⟩, hnull⟩
    exact not_detected_of_terminal_null hclaim hnull hdetected
  · rintro ⟨hclaim, hterminal⟩
    refine ⟨fun inspection h => ?_, fun error h => failsAs_inspectFiles error h⟩
    rcases inspectRecords_ok_cases h with ⟨hnull, rfl⟩ |
      ⟨value, record, hvalue, hholds, hmake, hrest⟩
    · rcases readBoundedJson_eq_ok.mp hnull with ⟨hnone, -⟩ | hnull
      · exact .inl ⟨rfl, hnone⟩
      · exact absurd hnull hclaim
    · rcases readBoundedJson_eq_ok.mp hvalue with ⟨-, rfl⟩ | hvalue
      · exact absurd rfl hholds.ne_null
      · have hrecord : HoldsClaim N S c a claimFile record := ⟨hmake, value, hvalue, hholds⟩
        refine .inr ⟨record, hrecord, ?_⟩
        rcases hrest with ⟨hnull, rfl⟩ | ⟨terminalValue, terminal, hterminalValue, hholdsTerminal,
          hmakeTerminal, rfl⟩
        · rcases readBoundedJson_eq_ok.mp hnull with ⟨hnone, -⟩ | hnull
          · exact .inl ⟨rfl, hnone⟩
          · exact absurd ⟨⟨record, hrecord⟩, hnull⟩ hterminal
        · rcases readBoundedJson_eq_ok.mp hterminalValue with ⟨-, rfl⟩ | hterminalValue
          · exact absurd rfl hholdsTerminal.ne_null
          · exact .inr ⟨terminal, ⟨hmakeTerminal, terminalValue, hterminalValue, hholdsTerminal⟩, rfl⟩

theorem sampleCapability_pattern :
    CAPABILITY_ID_PATTERN (js "cap-" ++ List.replicate 32 0x30) = true := by decide

def sampleCapability : CapabilityId := ⟨js "cap-" ++ List.replicate 32 0x30, sampleCapability_pattern⟩

theorem sampleAuthorization_pattern : HASH_PATTERN (List.replicate 64 0x61) = true := by decide

def sampleAuthorization : HashText := ⟨List.replicate 64 0x61, sampleAuthorization_pattern⟩

/-- The four bytes of `null` in `claim.json` are answered as a claim that was never written. -/
theorem inspectFiles_null_undetected :
    ¬ Detected devanagari sha256 sampleCapability sampleAuthorization
      (some [0x6E, 0x75, 0x6C, 0x6C]) none :=
  not_detected_of_null ⟨_, rfl, by decide, by decide, rfl⟩

end Valid

end OpenRisk.Core
