import OpenRisk.Crypto.Sha256Eval
import OpenRisk.Guard.Policy
import OpenRisk.Machine.Run
import OpenRisk.Sdk.CanonicalSize

/-!
# The policy controller

Model of `applications/blockchain-digital-assets/wallet-guard/policy-controller.mjs`: one
policy under a revision that is compared and swapped, with a lock against re-entrance.

An operation is entered, may be interrupted by foreign code that it runs into (a replaced
built-in) and is left. The foreign code may call the controller again, any number of times,
and may throw. While an operation is in progress nothing changes `current`
(`run_nested`), so the body of an operation is evaluated where it ends and the test
`current !== snapshot` of `evaluate` has no counterpart here.

Results:
* `act_cases`: what an action of the controller can do.
* `engageKillSwitch_run`: the kill switch does not fail on an accepted policy.
* `policyController_run`: revisions, identity, failures and the kill switch over every run.
-/

namespace OpenRisk.Guard

open Text Sdk Machine

/-! ## Model of the controller -/

def WALLET_GUARD_POLICY_STATE_SCHEMA_VERSION : JsString := js "wallet_guard_policy_state/0.1"

def WALLET_GUARD_POLICY_STATE_COMMIT_DOMAIN : JsString :=
  js "swisstokint:pom-rx-wallet-guard-policy-state:v1:"

def BOOTSTRAP_KEYS : List JsString := [js "policy"]

def REPLACE_KEYS : List JsString := [js "expected_revision", js "policy"]

def KILL_SWITCH_KEYS : List JsString := [js "expected_revision"]

/-- What an operation throws: a `WalletGuardPolicyStateError`, an error of
    `canonicalizePayload`, or an error of foreign code. -/
inductive ControllerError where
  | state (code message : JsString)
  | payload (e : PayloadError)
  | foreign

def stateInvalid (message : JsString) : ControllerError :=
  .state (js "POMRX_WG_POLICY_STATE_E_INVALID") message

/-- `captureExactDataRecord(value, expectedKeys, label)`. -/
def captureExactDataRecord (value : HostValue) (expectedKeys : List JsString) (label : JsString) :
    Except ControllerError (List (JsString × HostValue)) :=
  snapshotRecord
    { notObject := stateInvalid (label ++ js " must be a non-Proxy plain object")
      array := stateInvalid (label ++ js " must be a non-Proxy plain object")
      prototype := stateInvalid (label ++ js " must use Object.prototype or a null prototype")
      symbols := stateInvalid (label ++ js " cannot contain symbol keys")
      fields := stateInvalid (label ++ js " has missing, hidden or unknown fields")
      property := fun key =>
        stateInvalid (label ++ js "." ++ key ++ js " must be an enumerable data property") }
    (fun names => sortNames names = sortNames expectedKeys) expectedKeys value

/-- `normalizePolicyCandidate(rawPolicy)`. -/
def normalizePolicyCandidate (U : UrlParser) (rawPolicy : HostValue) :
    Except ControllerError (Policy U) :=
  (normalizePolicy U rawPolicy).mapError fun _ =>
    .state (js "POMRX_WG_POLICY_STATE_E_POLICY") (js "Wallet Guard policy candidate is invalid")

/-- `assertRevision(value, field)`; the revision that the value is. -/
def assertRevision (value : HostValue) (field : JsString) : Except ControllerError ℕ :=
  match value with
  | .number x =>
    if x.isSafeInteger && 0 ≤ x.toInt then .ok x.toInt.toNat
    else .error (stateInvalid (field ++ js " must be a non-negative safe integer"))
  | _ => .error (stateInvalid (field ++ js " must be a non-negative safe integer"))

/-- `nextRevision(currentRevision)`. -/
def nextRevision (currentRevision : ℕ) : Except ControllerError ℕ :=
  if JsNumber.maxSafeInteger ≤ currentRevision then
    .error (.state (js "POMRX_WG_POLICY_STATE_E_REVISION_EXHAUSTED")
      (js "policy-state revision space is exhausted"))
  else .ok (currentRevision + 1)

/-- The snapshot of a state; `policy_id` and `kill_switch` are those of the policy. -/
structure PolicySnapshot (U : UrlParser) where
  policy : Policy U
  revision : ℕ
  policyHash : HashText
  stateCommitment : HashText

/-- The result of `evaluate`. -/
structure StateEvaluation where
  result : PolicyResult
  policyStateRevision : ℕ
  policyStateCommitment : HashText

section Model

variable (U : UrlParser) (N : Normalization) (S : Hash)

variable {U} in
/-- `commitPolicy(policy)`. -/
def commitPolicy (p : Policy U) : Except ControllerError HashText := do
  let canonicalPolicy ← (canonicalizePayload N (.object p.toEntries)).mapError .payload
  .ok (sha256Hex S (WALLET_GUARD_POLICY_COMMIT_DOMAIN ++ canonicalPolicy))

/-- The payload of `commitState`. -/
def statePayload (revision : ℕ) (policyHash : HashText) (policyId : PolicyId) (killSwitch : Bool) :
    List (JsString × JsValue) :=
  [(js "schema_version", .string WALLET_GUARD_POLICY_STATE_SCHEMA_VERSION),
    (js "policy_id", .string policyId.val), (js "revision", .number (.ofInt revision)),
    (js "policy_hash", .string policyHash.val), (js "kill_switch", .bool killSwitch)]

/-- `commitState({ revision, policyHash, policyId, killSwitch })`. -/
def commitState (revision : ℕ) (policyHash : HashText) (policyId : PolicyId) (killSwitch : Bool) :
    Except ControllerError HashText := do
  let canonical ← (canonicalizePayload N
    (.object (statePayload revision policyHash policyId killSwitch))).mapError .payload
  .ok (sha256Hex S (WALLET_GUARD_POLICY_STATE_COMMIT_DOMAIN ++ canonical))

variable {U} in
/-- `makeSnapshot(policy, revision)`. -/
def makeSnapshot (policy : Policy U) (revision : ℕ) : Except ControllerError (PolicySnapshot U) := do
  let revision ← assertRevision (.number (.ofInt revision)) (js "revision")
  let policyHash ← commitPolicy N S policy
  let stateCommitment ← commitState N S revision policyHash policy.policyId policy.killSwitch
  .ok { policy, revision, policyHash, stateCommitment }

variable {U} in
/-- `policyWithKillSwitch(policy)`. -/
def policyWithKillSwitch (p : Policy U) : HostValue :=
  .ofData (.object { p.toPolicyFields with killSwitch := true }.toEntries)

/-- The operations that take the lock. -/
inductive Operation where
  | replacePolicy (rawUpdate : HostValue)
  | engageKillSwitch (rawUpdate : HostValue)
  | evaluate (intent : Intent) (locallyNormalized : Bool) (simulation : HostValue)

/-- A controller: `fixedPolicyId`, `current`, and the operation in progress, if any. -/
structure Controller (U : UrlParser) where
  fixedPolicyId : PolicyId
  current : PolicySnapshot U
  operationInProgress : Option Operation

/-- `createWalletGuardReferencePolicyController(rawOptions)`. -/
def createWalletGuardReferencePolicyController (rawOptions : HostValue) :
    Except ControllerError (Controller U) := do
  let options ← captureExactDataRecord rawOptions BOOTSTRAP_KEYS (js "policy controller bootstrap")
  let initialPolicy ← normalizePolicyCandidate U (fieldOf options "policy")
  let current ← makeSnapshot N S initialPolicy 0
  .ok ⟨initialPolicy.policyId, current, none⟩

variable {U} in
/-- The body of `replacePolicy`. -/
def replacePolicy (c : Controller U) (rawUpdate : HostValue) :
    Except ControllerError (PolicySnapshot U) := do
  let update ← captureExactDataRecord rawUpdate REPLACE_KEYS (js "policy replacement")
  let expected ← assertRevision (fieldOf update "expected_revision") (js "expected_revision")
  if expected ≠ c.current.revision then
    .error (.state (js "POMRX_WG_POLICY_STATE_E_STALE") (js "policy replacement revision is stale"))
  else
    let candidate ← normalizePolicyCandidate U (fieldOf update "policy")
    if candidate.policyId ≠ c.fixedPolicyId then
      .error (.state (js "POMRX_WG_POLICY_STATE_E_IDENTITY")
        (js "policy_id cannot change inside one controller"))
    else
      let revision ← nextRevision c.current.revision
      makeSnapshot N S candidate revision

variable {U} in
/-- The body of `engageKillSwitch`. -/
def engageKillSwitch (c : Controller U) (rawUpdate : HostValue) :
    Except ControllerError (PolicySnapshot U) := do
  let update ← captureExactDataRecord rawUpdate KILL_SWITCH_KEYS (js "kill-switch update")
  let expected ← assertRevision (fieldOf update "expected_revision") (js "expected_revision")
  if expected ≠ c.current.revision then
    .error (.state (js "POMRX_WG_POLICY_STATE_E_STALE") (js "kill-switch revision is stale"))
  else if c.current.policy.killSwitch then .ok c.current
  else
    let candidate ← normalizePolicyCandidate U (policyWithKillSwitch c.current.policy)
    let revision ← nextRevision c.current.revision
    makeSnapshot N S candidate revision

variable {U} in
/-- The body of `evaluate`. -/
def evaluate (c : Controller U) (intent : Intent) (locallyNormalized : Bool)
    (simulation : HostValue) : Except ControllerError StateEvaluation := do
  let result ← (evaluateWalletGuardPolicy U S intent locallyNormalized c.current.policy.toHost
    simulation).mapError fun _ => .state (js "POMRX_WG_POLICY_STATE_E_EVALUATION")
      (js "Wallet Guard policy evaluation failed")
  if result.policyId ≠ c.current.policy.policyId ∨ result.policyHash ≠ c.current.policyHash then
    .error (.state (js "POMRX_WG_POLICY_STATE_E_INTERNAL")
      (js "policy evaluation diverged from the captured controller snapshot"))
  else .ok ⟨result, c.current.revision, c.current.stateCommitment⟩

/-- What happens at a controller: a call of `readSnapshot`, the start of an operation, or its
    end, with a throw of foreign code or not. -/
inductive ControllerAction where
  | readSnapshot
  | enter (operation : Operation)
  | leave (interrupted : Bool)

/-- What a call returns or throws. -/
inductive ControllerAnswer (U : UrlParser) where
  | entered
  | snapshot (s : PolicySnapshot U)
  | evaluation (e : StateEvaluation)
  | failure (e : ControllerError)

def reentrantError : ControllerError :=
  .state (js "POMRX_WG_POLICY_STATE_E_REENTRANT")
    (js "policy-state operation is already in progress in this controller")

variable {U} in
/-- The end of an operation, with the lock released. -/
def leaveOperation (c : Controller U) (operation : Operation) :
    Controller U × ControllerAnswer U :=
  let released : Controller U := { c with operationInProgress := none }
  let publish (r : Except ControllerError (PolicySnapshot U)) : Controller U × ControllerAnswer U :=
    match r with
    | .ok next => ({ released with current := next }, .snapshot next)
    | .error e => (released, .failure e)
  match operation with
  | .replacePolicy rawUpdate => publish (replacePolicy N S c rawUpdate)
  | .engageKillSwitch rawUpdate => publish (engageKillSwitch N S c rawUpdate)
  | .evaluate intent locallyNormalized simulation =>
    match evaluate S c intent locallyNormalized simulation with
    | .ok e => (released, .evaluation e)
    | .error e => (released, .failure e)

variable {U} in
/-- One action; `none` is the end of an operation that has not begun. -/
def act (c : Controller U) : ControllerAction → Option (Controller U × ControllerAnswer U)
  | .readSnapshot => some (c, .snapshot c.current)
  | .enter operation =>
    if c.operationInProgress.isSome then some (c, .failure reentrantError)
    else some ({ c with operationInProgress := some operation }, .entered)
  | .leave interrupted =>
    c.operationInProgress.map fun operation =>
      if interrupted then ({ c with operationInProgress := none }, .failure .foreign)
      else leaveOperation N S c operation

variable {U} in
/-- The state after an action. -/
def controllerStep (c : Controller U) (a : ControllerAction) : Option (Controller U) :=
  (act N S c a).map Prod.fst

end Model

/-! ## The kill switch on an accepted policy -/

section Kill

variable {U : UrlParser} {N : Normalization} {S : Hash}

/-- `true` is shorter than `false`. -/
theorem length_canonicalBoolean (b : Bool) :
    (canonicalBoolean true).length ≤ (canonicalBoolean b).length := by
  cases b <;> decide

theorem length_killed_le (p : PolicyFields U) :
    (canonicalizeNormalizedPolicy { p with killSwitch := true }).length ≤
      (canonicalizeNormalizedPolicy p).length := by
  have hbool := length_canonicalBoolean p.killSwitch
  simp only [canonicalizeNormalizedPolicy, canonicalRecord, List.map_cons, List.map_nil, joinComma,
    List.length_cons, List.length_append, List.length_nil]
  omega

/-- The policy with the kill switch on. -/
def Policy.killed (p : Policy U) : Policy U where
  toPolicyFields := { p.toPolicyFields with killSwitch := true }
  nodes_le := p.nodes_le
  text_le := (length_killed_le p.toPolicyFields).trans p.text_le

theorem normalizePolicy_withKillSwitch (p : Policy U) :
    normalizePolicyCandidate U (policyWithKillSwitch p) = .ok p.killed := by
  have h := normalizePolicy_toHost p.killed
  rw [normalizePolicyCandidate]
  exact mapError_eq_ok.mpr h

theorem canonicalBytes_bool_le (b : Bool) :
    canonicalBytes N (.bool true) ≤ canonicalBytes N (.bool b) := by
  cases b <;> simp [canonicalBytes]

theorem canonicalBytes_killed_le (p : Policy U) :
    canonicalBytes N (.object p.killed.toEntries) ≤ canonicalBytes N (.object p.toEntries) := by
  have hbool := canonicalBytes_bool_le (N := N) p.killSwitch
  rw [canonicalBytes, canonicalBytes]
  simp only [PolicyFields.toEntries, Policy.killed, entriesBytes, List.length_cons, List.length_nil]
  omega

/-- A policy that was committed is committed with the kill switch on. -/
theorem commitPolicy_killed {p : Policy U} {h : HashText} (hp : commitPolicy N S p = .ok h) :
    ∃ h', commitPolicy N S p.killed = .ok h' := by
  obtain ⟨t, ht, -⟩ := bind_eq_ok.mp hp
  obtain ⟨-, hheight, hclean, hnodes, hbytes, -⟩ :=
    (canonicalizePayload_eq_ok_iff _ _).mp (mapError_eq_ok.mp ht)
  rw [byteLength_canonicalizeValue_eq] at hbytes
  have hkilled : canonicalizePayload N (.object p.killed.toEntries) =
      .ok (canonicalizeValue N (.object p.killed.toEntries)) := by
    refine (canonicalizePayload_eq_ok_iff _ _).mpr ⟨⟨_, rfl⟩, hheight, hclean, hnodes, ?_, rfl⟩
    rw [byteLength_canonicalizeValue_eq]
    exact (canonicalBytes_killed_le p).trans hbytes
  exact ⟨_, bind_eq_ok.mpr ⟨_, mapError_eq_ok.mpr hkilled, rfl⟩⟩

theorem plain_of_policyId (id : PolicyId) :
    (∀ u ∈ id.val, isPlainUnit u = true) ∧ id.val.length ≤ 128 := by
  obtain ⟨s, hs⟩ := id
  match s, hs with
  | u :: rest, hs =>
    simp only [POLICY_ID_PATTERN, Bool.and_eq_true, List.all_eq_true, Bool.or_eq_true,
      decide_eq_true_eq] at hs
    obtain ⟨⟨⟨hu, hrest⟩, -⟩, hlength⟩ := hs
    refine ⟨?_, ?_⟩
    · intro v hv
      rcases List.mem_cons.mp hv with rfl | hv
      · exact isPlainUnit_of_isKeyUnit (by simp [isKeyUnit, hu])
      · rcases hrest v hv with hkey | rfl
        · exact isPlainUnit_of_isKeyUnit hkey
        · decide
    · rw [List.length_cons]
      omega

theorem plain_of_hashText (h : HashText) :
    (∀ u ∈ h.val, isPlainUnit u = true) ∧ h.val.length = 64 := by
  have hpattern := h.property
  simp only [HASH_PATTERN, Bool.and_eq_true, List.all_eq_true, decide_eq_true_eq] at hpattern
  refine ⟨?_, hpattern.1⟩
  intro u hu
  have hunit := hpattern.2 u hu
  simp only [isHashUnit, Json.isDigit, Bool.or_eq_true, Bool.and_eq_true, decide_eq_true_eq] at hunit
  simp only [isPlainUnit, Bool.and_eq_true, decide_eq_true_eq]
  omega

theorem statePayload_keys (revision : ℕ) (policyHash : HashText) (policyId : PolicyId)
    (killSwitch : Bool) :
    (statePayload revision policyHash policyId killSwitch).map Prod.fst =
      ["schema_version", "policy_id", "revision", "policy_hash", "kill_switch"].map js := rfl

theorem isPlainKey_statePayload : ∀ key ∈ ["schema_version", "policy_id", "revision", "policy_hash",
    "kill_switch"].map js, isPlainKey key = true ∧ byteLength (Json.quote key) ≤ 16 := by
  decide +kernel

theorem plain_stateVersion :
    (∀ u ∈ WALLET_GUARD_POLICY_STATE_SCHEMA_VERSION, isPlainUnit u = true) ∧
      WALLET_GUARD_POLICY_STATE_SCHEMA_VERSION.length = 29 :=
  ⟨List.all_eq_true.mp (by decide +kernel), by decide +kernel⟩

variable {revision : ℕ} (hrevision : revision ≤ JsNumber.maxSafeInteger) (policyHash : HashText)
  (policyId : PolicyId) (killSwitch : Bool)

include hrevision

theorem clean_statePayload :
    Clean N (.object (statePayload revision policyHash policyId killSwitch)) := by
  rw [Clean, cleanEntries_iff]
  intro e he
  refine ⟨safeKey_of_isPlainKey (isPlainKey_statePayload e.1 ?_).1, ?_⟩
  · rw [← statePayload_keys revision policyHash policyId killSwitch]
    exact List.mem_map_of_mem he
  · simp only [statePayload, List.mem_cons, List.not_mem_nil, or_false] at he
    rcases he with rfl | rfl | rfl | rfl | rfl
    · show WALLET_GUARD_POLICY_STATE_SCHEMA_VERSION.length ≤ MAX_STRING_LENGTH
      decide
    · show policyId.val.length ≤ MAX_STRING_LENGTH
      exact (plain_of_policyId policyId).2.trans (by decide)
    · rw [Clean, JsNumber.isSafeInteger_ofInt]
      exact hrevision
    · show policyHash.val.length ≤ MAX_STRING_LENGTH
      rw [(plain_of_hashText policyHash).2]
      decide
    · trivial

theorem canonicalBytes_statePayload :
    canonicalBytes N (.object (statePayload revision policyHash policyId killSwitch)) ≤
      MAX_CANONICAL_BYTES := by
  obtain ⟨hid, hidLength⟩ := plain_of_policyId policyId
  obtain ⟨hhash, hhashLength⟩ := plain_of_hashText policyHash
  obtain ⟨hversion, hversionLength⟩ := plain_stateVersion
  have hlt : revision < 10 ^ 16 := by
    have hmax : JsNumber.maxSafeInteger = 9007199254740991 := by norm_num [JsNumber.maxSafeInteger]
    omega
  have hnumber : canonicalBytes N (.number (.ofInt revision)) ≤ 16 :=
    canonicalBytes_natural (by norm_num) hlt
  have hbool : canonicalBytes N (.bool killSwitch) ≤ 5 := by
    cases killSwitch <;> simp [canonicalBytes]
  have hname : ∀ name ∈ ["schema_version", "policy_id", "revision", "policy_hash", "kill_switch"],
      byteLength (Json.quote (js name)) ≤ 16 :=
    fun name hmem => (isPlainKey_statePayload (js name) (List.mem_map_of_mem hmem)).2
  rw [canonicalBytes, entriesBytes_eq]
  simp only [statePayload, List.map_cons, List.map_nil, List.sum_cons, List.sum_nil,
    List.length_cons, List.length_nil, canonicalBytes_plain hid, canonicalBytes_plain hhash,
    canonicalBytes_plain hversion, hversionLength, hhashLength]
  have h₁ := hname "schema_version" (by simp)
  have h₂ := hname "policy_id" (by simp)
  have h₃ := hname "revision" (by simp)
  have h₄ := hname "policy_hash" (by simp)
  have h₅ := hname "kill_switch" (by simp)
  have hmax : MAX_CANONICAL_BYTES = 16384 := rfl
  omega

/-- The payload of a state is always within the bounds. -/
theorem commitState_ok : ∃ h, commitState N S revision policyHash policyId killSwitch = .ok h := by
  have hpayload : canonicalizePayload N
      (.object (statePayload revision policyHash policyId killSwitch)) =
        .ok (canonicalizeValue N (.object (statePayload revision policyHash policyId killSwitch))) := by
    refine (canonicalizePayload_eq_ok_iff _ _).mpr
      ⟨⟨_, rfl⟩, ?_, clean_statePayload hrevision policyHash policyId killSwitch, ?_, ?_, rfl⟩
    · show 1 ≤ MAX_DEPTH
      decide
    · show 6 ≤ MAX_NODES
      decide
    · rw [byteLength_canonicalizeValue_eq]
      exact canonicalBytes_statePayload hrevision policyHash policyId killSwitch
  exact ⟨_, bind_eq_ok.mpr ⟨_, mapError_eq_ok.mpr hpayload, rfl⟩⟩

end Kill


/-! ## Snapshots -/

section Snapshots

variable {U : UrlParser} {N : Normalization} {S : Hash} {c : Controller U}

theorem assertRevision_ofInt {revision r : ℕ} {field : JsString} :
    assertRevision (.number (.ofInt revision)) field = .ok r ↔
      revision ≤ JsNumber.maxSafeInteger ∧ r = revision := by
  rw [assertRevision]
  by_cases h : revision ≤ JsNumber.maxSafeInteger
  · have hsafe : (JsNumber.ofInt revision).isSafeInteger = true :=
      (JsNumber.isSafeInteger_ofInt revision).mpr h
    simp [hsafe, h, eq_comm]
  · have hsafe : (JsNumber.ofInt revision).isSafeInteger = false := by
      rw [Bool.eq_false_iff]
      exact fun hs => h ((JsNumber.isSafeInteger_ofInt revision).mp hs)
    simp [hsafe, h]

/-- What a snapshot is: the policy under the revision, both committed. -/
theorem makeSnapshot_eq_ok {policy : Policy U} {revision : ℕ} {next : PolicySnapshot U}
    (h : makeSnapshot N S policy revision = .ok next) :
    next.policy = policy ∧ next.revision = revision ∧
      commitPolicy N S policy = .ok next.policyHash := by
  unfold makeSnapshot at h
  obtain ⟨r, hr, h⟩ := bind_eq_ok.mp h
  obtain ⟨hash, hhash, h⟩ := bind_eq_ok.mp h
  obtain ⟨commitment, -, h⟩ := bind_eq_ok.mp h
  cases h
  exact ⟨rfl, (assertRevision_ofInt.mp hr).2, hhash⟩

/-- A committed policy has a snapshot under every revision. -/
theorem makeSnapshot_ok {policy : Policy U} {hash : HashText}
    (hpolicy : commitPolicy N S policy = .ok hash) {revision : ℕ}
    (hrevision : revision ≤ JsNumber.maxSafeInteger) :
    ∃ next, makeSnapshot N S policy revision = .ok next := by
  obtain ⟨commitment, hcommitment⟩ :=
    commitState_ok (N := N) (S := S) hrevision hash policy.policyId policy.killSwitch
  refine ⟨⟨policy, revision, hash, commitment⟩, ?_⟩
  rw [makeSnapshot, assertRevision_ofInt.mpr ⟨hrevision, rfl⟩]
  show (commitPolicy N S policy >>= _) = _
  rw [hpolicy]
  show (commitState N S revision hash policy.policyId policy.killSwitch >>= _) = _
  rw [hcommitment]
  rfl

/-- The operation was given this expected revision. -/
def Operation.AsksRevision (operation : Operation) (revision : ℕ) : Prop :=
  match operation with
  | .replacePolicy rawUpdate =>
    ∃ update, captureExactDataRecord rawUpdate REPLACE_KEYS (js "policy replacement") = .ok update ∧
      assertRevision (fieldOf update "expected_revision") (js "expected_revision") = .ok revision
  | .engageKillSwitch rawUpdate =>
    ∃ update, captureExactDataRecord rawUpdate KILL_SWITCH_KEYS (js "kill-switch update") = .ok update ∧
      assertRevision (fieldOf update "expected_revision") (js "expected_revision") = .ok revision
  | .evaluate .. => False

theorem nextRevision_eq_ok {current next : ℕ} (h : nextRevision current = .ok next) :
    next = current + 1 := by
  unfold nextRevision at h
  split_ifs at h
  exact (Except.ok.inj h).symm

/-- What publishes a new snapshot. -/
structure Replaces (N : Normalization) (S : Hash) (c : Controller U) (operation : Operation)
    (next : PolicySnapshot U) : Prop where
  asked : operation.AsksRevision c.current.revision
  revision : next.revision = c.current.revision + 1
  committed : commitPolicy N S next.policy = .ok next.policyHash

theorem replacePolicy_eq_ok {rawUpdate : HostValue} {next : PolicySnapshot U}
    (h : replacePolicy N S c rawUpdate = .ok next) :
    Replaces N S c (.replacePolicy rawUpdate) next ∧ next.policy.policyId = c.fixedPolicyId := by
  unfold replacePolicy at h
  obtain ⟨update, hupdate, h⟩ := bind_eq_ok.mp h
  obtain ⟨expected, hexpected, h⟩ := bind_eq_ok.mp h
  split_ifs at h with hstale
  obtain ⟨candidate, -, h⟩ := bind_eq_ok.mp h
  split_ifs at h with hidentity
  obtain ⟨revision, hrevision, h⟩ := bind_eq_ok.mp h
  obtain ⟨hpolicy, hnext, hcommit⟩ := makeSnapshot_eq_ok h
  rw [not_not.mp hstale] at hexpected
  rw [← hpolicy] at hidentity hcommit
  refine ⟨⟨⟨update, hupdate, hexpected⟩, ?_, hcommit⟩, not_not.mp hidentity⟩
  rw [hnext, nextRevision_eq_ok hrevision]

/-- The kill switch returns the current snapshot if it is on, and else turns it on. -/
theorem engageKillSwitch_eq_ok {rawUpdate : HostValue} {next : PolicySnapshot U}
    (h : engageKillSwitch N S c rawUpdate = .ok next) :
    (c.current.policy.killSwitch = true ∧ next = c.current) ∨
      (c.current.policy.killSwitch = false ∧ Replaces N S c (.engageKillSwitch rawUpdate) next ∧
        next.policy = c.current.policy.killed) := by
  unfold engageKillSwitch at h
  obtain ⟨update, hupdate, h⟩ := bind_eq_ok.mp h
  obtain ⟨expected, hexpected, h⟩ := bind_eq_ok.mp h
  split_ifs at h with hstale hkilled
  · exact .inl ⟨hkilled, (Except.ok.inj h).symm⟩
  · rw [normalizePolicy_withKillSwitch] at h
    obtain ⟨candidate, hcandidate, h⟩ := bind_eq_ok.mp h
    obtain ⟨revision, hrevision, h⟩ := bind_eq_ok.mp h
    obtain ⟨hpolicy, hnext, hcommit⟩ := makeSnapshot_eq_ok h
    rw [not_not.mp hstale] at hexpected
    refine .inr ⟨Bool.eq_false_iff.mpr hkilled, ⟨⟨update, hupdate, hexpected⟩, ?_, ?_⟩, ?_⟩
    · rw [hnext, nextRevision_eq_ok hrevision]
    · rw [hpolicy]
      exact hcommit
    · rw [hpolicy]
      exact (Except.ok.inj hcandidate).symm

/-- On a committed policy and with the current revision the kill switch turns on. -/
theorem engageKillSwitch_ok {hash : HashText}
    (hcommitted : commitPolicy N S c.current.policy = .ok hash) {rawUpdate : HostValue}
    (hasked : (Operation.engageKillSwitch rawUpdate).AsksRevision c.current.revision)
    (hrevision : c.current.revision < JsNumber.maxSafeInteger) :
    ∃ next, engageKillSwitch N S c rawUpdate = .ok next ∧ next.policy.killSwitch = true := by
  obtain ⟨update, hupdate, hexpected⟩ := hasked
  obtain ⟨hash', hkilled⟩ := commitPolicy_killed hcommitted
  obtain ⟨next, hnext⟩ := makeSnapshot_ok hkilled (Nat.succ_le_of_lt hrevision)
  have heq : engageKillSwitch N S c rawUpdate =
      if c.current.policy.killSwitch then .ok c.current
      else makeSnapshot N S c.current.policy.killed (c.current.revision + 1) := by
    rw [engageKillSwitch, hupdate]
    show (assertRevision (fieldOf update "expected_revision") (js "expected_revision") >>= _) = _
    rw [hexpected]
    show (if c.current.revision ≠ c.current.revision then _ else _) = _
    rw [if_neg (not_not.mpr rfl), normalizePolicy_withKillSwitch, nextRevision,
      if_neg (not_le.mpr hrevision)]
    rfl
  rw [heq]
  split_ifs with hon
  · exact ⟨c.current, rfl, hon⟩
  · refine ⟨next, hnext, ?_⟩
    rw [(makeSnapshot_eq_ok hnext).1]
    rfl

theorem decision_killed {p : PolicyFields U} {intent : Intent} {status : SimulationStatus}
    (h : p.killSwitch = true) : (decideOn p intent S status).decision = .deny := by
  have hreasons : denyReasons p intent status ≠ [] := by
    intro hnil
    simp only [denyReasons, List.append_eq_nil_iff] at hnil
    have := (generalReasons_eq_nil.mp hnil.1.1).killSwitch
    rw [h] at this
    cases this
  rw [decideOn, if_pos hreasons]
  rfl

/-- Under the kill switch every evaluation that completes is a denial. -/
theorem evaluate_killed {intent : Intent} {locallyNormalized : Bool} {simulation : HostValue}
    {e : StateEvaluation} (h : evaluate S c intent locallyNormalized simulation = .ok e)
    (hkilled : c.current.policy.killSwitch = true) : e.result.decision = .deny := by
  unfold evaluate at h
  obtain ⟨result, hresult, h⟩ := bind_eq_ok.mp h
  split_ifs at h
  cases h
  rw [mapError_eq_ok, evaluateWalletGuardPolicy] at hresult
  obtain ⟨-, -, hresult⟩ := bind_eq_ok.mp hresult
  obtain ⟨p, hp, hresult⟩ := bind_eq_ok.mp hresult
  obtain ⟨status, -, hresult⟩ := bind_eq_ok.mp hresult
  rw [normalizePolicy_toHost] at hp
  cases hp
  cases hresult
  exact decision_killed hkilled

end Snapshots

/-! ## Steps -/

section Steps

variable {U : UrlParser} (N : Normalization) (S : Hash)

/-- What an action does: the state after it and the answer. -/
inductive ControllerEffect (c : Controller U) :
    ControllerAction → Controller U → ControllerAnswer U → Prop
  | read : ControllerEffect c .readSnapshot c (.snapshot c.current)
  | reentrant {operation : Operation} (busy : c.operationInProgress.isSome = true) :
      ControllerEffect c (.enter operation) c (.failure reentrantError)
  | entered {operation : Operation} (free : c.operationInProgress = none) :
      ControllerEffect c (.enter operation) { c with operationInProgress := some operation } .entered
  | interrupted {operation : Operation} (pending : c.operationInProgress = some operation) :
      ControllerEffect c (.leave true) { c with operationInProgress := none } (.failure .foreign)
  | replaceFailed {rawUpdate : HostValue} {e : ControllerError}
      (pending : c.operationInProgress = some (.replacePolicy rawUpdate))
      (result : replacePolicy N S c rawUpdate = .error e) :
      ControllerEffect c (.leave false) { c with operationInProgress := none } (.failure e)
  | replaced {rawUpdate : HostValue} {next : PolicySnapshot U}
      (pending : c.operationInProgress = some (.replacePolicy rawUpdate))
      (result : replacePolicy N S c rawUpdate = .ok next) :
      ControllerEffect c (.leave false) { c with current := next, operationInProgress := none }
        (.snapshot next)
  | engageFailed {rawUpdate : HostValue} {e : ControllerError}
      (pending : c.operationInProgress = some (.engageKillSwitch rawUpdate))
      (result : engageKillSwitch N S c rawUpdate = .error e) :
      ControllerEffect c (.leave false) { c with operationInProgress := none } (.failure e)
  | engaged {rawUpdate : HostValue} {next : PolicySnapshot U}
      (pending : c.operationInProgress = some (.engageKillSwitch rawUpdate))
      (result : engageKillSwitch N S c rawUpdate = .ok next) :
      ControllerEffect c (.leave false) { c with current := next, operationInProgress := none }
        (.snapshot next)
  | evaluateFailed {intent : Intent} {locallyNormalized : Bool} {simulation : HostValue}
      {e : ControllerError}
      (pending : c.operationInProgress = some (.evaluate intent locallyNormalized simulation))
      (result : evaluate S c intent locallyNormalized simulation = .error e) :
      ControllerEffect c (.leave false) { c with operationInProgress := none } (.failure e)
  | evaluated {intent : Intent} {locallyNormalized : Bool} {simulation : HostValue} {e : StateEvaluation}
      (pending : c.operationInProgress = some (.evaluate intent locallyNormalized simulation))
      (result : evaluate S c intent locallyNormalized simulation = .ok e) :
      ControllerEffect c (.leave false) { c with operationInProgress := none } (.evaluation e)

variable {N S} {c c' : Controller U} {a : ControllerAction} {answer : ControllerAnswer U}

/-- An action has one of these effects. -/
theorem act_cases (h : act N S c a = some (c', answer)) : ControllerEffect N S c a c' answer := by
  match a with
  | .readSnapshot =>
    cases h
    exact .read
  | .enter operation =>
    rw [act] at h
    split_ifs at h with hbusy
    · cases h
      exact .reentrant hbusy
    · cases h
      exact .entered (Option.not_isSome_iff_eq_none.mp hbusy)
  | .leave interrupted =>
    obtain ⟨operation, hpending, h⟩ := Option.map_eq_some_iff.mp h
    cases interrupted with
    | true =>
      cases h
      exact .interrupted hpending
    | false =>
      rw [if_neg Bool.false_ne_true] at h
      cases operation with
      | replacePolicy rawUpdate =>
        cases hresult : replacePolicy N S c rawUpdate with
        | ok next =>
          simp only [leaveOperation, hresult] at h
          cases h
          exact .replaced hpending hresult
        | error e =>
          simp only [leaveOperation, hresult] at h
          cases h
          exact .replaceFailed hpending hresult
      | engageKillSwitch rawUpdate =>
        cases hresult : engageKillSwitch N S c rawUpdate with
        | ok next =>
          simp only [leaveOperation, hresult] at h
          cases h
          exact .engaged hpending hresult
        | error e =>
          simp only [leaveOperation, hresult] at h
          cases h
          exact .engageFailed hpending hresult
      | evaluate intent locallyNormalized simulation =>
        cases hresult : evaluate S c intent locallyNormalized simulation with
        | ok e =>
          simp only [leaveOperation, hresult] at h
          cases h
          exact .evaluated hpending hresult
        | error e =>
          simp only [leaveOperation, hresult] at h
          cases h
          exact .evaluateFailed hpending hresult

/-- A change of the policy or of the kill switch is published here. -/
def accepts (N : Normalization) (S : Hash) (c : Controller U) (a : ControllerAction) : Bool :=
  match c.operationInProgress, a with
  | some (.replacePolicy rawUpdate), .leave false => (replacePolicy N S c rawUpdate).isOk
  | some (.engageKillSwitch rawUpdate), .leave false =>
    !c.current.policy.killSwitch && (engageKillSwitch N S c rawUpdate).isOk
  | _, _ => false

/-- `replacePolicy` publishes a policy with `kill_switch: false` here. -/
def reenables (N : Normalization) (S : Hash) (c : Controller U) (a : ControllerAction) : Bool :=
  match c.operationInProgress, a with
  | some (.replacePolicy rawUpdate), .leave false =>
    match replacePolicy N S c rawUpdate with
    | .ok next => !next.policy.killSwitch
    | .error _ => false
  | _, _ => false

namespace ControllerEffect

/-- An accepted change has the expected revision and raises it by one; anything else leaves
    the snapshot. -/
theorem change (h : ControllerEffect N S c a c' answer) :
    (accepts N S c a = true ∧ answer = .snapshot c'.current ∧
      ∃ operation, c.operationInProgress = some operation ∧ Replaces N S c operation c'.current) ∨
      (accepts N S c a = false ∧ c'.current = c.current) := by
  cases h with
  | read => exact .inr ⟨by simp [accepts], rfl⟩
  | reentrant busy => exact .inr ⟨by simp [accepts], rfl⟩
  | entered free => exact .inr ⟨by simp [accepts], rfl⟩
  | interrupted pending => exact .inr ⟨by simp [accepts], rfl⟩
  | replaceFailed pending result =>
    exact .inr ⟨by simp [accepts, pending, result, Except.isOk, Except.toBool], rfl⟩
  | replaced pending result =>
    exact .inl ⟨by simp [accepts, pending, result, Except.isOk, Except.toBool], rfl, _, pending,
      (replacePolicy_eq_ok result).1⟩
  | engageFailed pending result =>
    exact .inr ⟨by simp [accepts, pending, result, Except.isOk, Except.toBool], rfl⟩
  | engaged pending result =>
    rcases engageKillSwitch_eq_ok result with ⟨hon, rfl⟩ | ⟨hoff, hreplaces, -⟩
    · exact .inr ⟨by simp [accepts, pending, hon], rfl⟩
    · exact .inl ⟨by simp [accepts, pending, hoff, result, Except.isOk, Except.toBool], rfl, _,
        pending, hreplaces⟩
  | evaluateFailed pending result => exact .inr ⟨by simp [accepts, pending], rfl⟩
  | evaluated pending result => exact .inr ⟨by simp [accepts, pending], rfl⟩

theorem policyId (h : ControllerEffect N S c a c' answer) :
    c'.fixedPolicyId = c.fixedPolicyId ∧
      (c.current.policy.policyId = c.fixedPolicyId → c'.current.policy.policyId = c.fixedPolicyId) := by
  cases h with
  | replaced pending result => exact ⟨rfl, fun _ => (replacePolicy_eq_ok result).2⟩
  | engaged pending result =>
    refine ⟨rfl, fun hid => ?_⟩
    rcases engageKillSwitch_eq_ok result with ⟨-, rfl⟩ | ⟨-, -, hpolicy⟩
    · exact hid
    · rw [← hid]
      exact congrArg (fun p => p.policyId) hpolicy
  | _ => exact ⟨rfl, id⟩

/-- A call that fails leaves the snapshot. -/
theorem failed (h : ControllerEffect N S c a c' answer) {e : ControllerError}
    (hanswer : answer = .failure e) : c'.current = c.current := by
  cases h with
  | replaced pending result => cases hanswer
  | engaged pending result => cases hanswer
  | _ => rfl

/-- The end of an operation releases the lock. -/
theorem released {interrupted : Bool} (h : ControllerEffect N S c (.leave interrupted) c' answer) :
    c'.operationInProgress = none := by
  cases h <;> rfl

/-- Inside an operation a call changes nothing, and an operation is refused. -/
theorem nested (h : ControllerEffect N S c a c' answer) (hbusy : c.operationInProgress.isSome = true)
    (ha : ∀ interrupted, a ≠ .leave interrupted) :
    c' = c ∧ ∀ operation, a = .enter operation → answer = .failure reentrantError := by
  cases h with
  | read => exact ⟨rfl, fun _ hop => nomatch hop⟩
  | reentrant busy => exact ⟨rfl, fun _ _ => rfl⟩
  | entered free => rw [free] at hbusy; cases hbusy
  | interrupted pending => exact absurd rfl (ha true)
  | _ => exact absurd rfl (ha false)

/-- Only `replacePolicy` turns the kill switch off. -/
theorem reenabled (h : ControllerEffect N S c a c' answer)
    (hon : c.current.policy.killSwitch = true) (hoff : c'.current.policy.killSwitch = false) :
    reenables N S c a = true := by
  cases h with
  | replaced pending result =>
    simpa [reenables, pending, result] using hoff
  | engaged pending result =>
    rcases engageKillSwitch_eq_ok result with ⟨-, rfl⟩ | ⟨hfalse, -⟩
    · rw [hon] at hoff
      cases hoff
    · rw [hon] at hfalse
      cases hfalse
  | _ =>
    rw [hon] at hoff
    cases hoff

end ControllerEffect

end Steps

/-! ## Runs -/

section Runs

variable {U : UrlParser} {N : Normalization} {S : Hash} {c c' : Controller U}

theorem effect_of_step {a : ControllerAction} (h : controllerStep N S c a = some c') :
    ∃ answer, ControllerEffect N S c a c' answer := by
  obtain ⟨⟨t, answer⟩, hact, heq⟩ := Option.map_eq_some_iff.mp h
  obtain rfl : t = c' := heq
  exact ⟨answer, act_cases hact⟩

/-- What holds in every state of a controller with this policy id. -/
structure ControllerInvariant (N : Normalization) (S : Hash) (policyId : PolicyId)
    (c : Controller U) : Prop where
  fixed : c.fixedPolicyId = policyId
  current : c.current.policy.policyId = policyId
  committed : commitPolicy N S c.current.policy = .ok c.current.policyHash

theorem ControllerInvariant.step {policyId : PolicyId} (hc : ControllerInvariant N S policyId c)
    {a : ControllerAction} (h : controllerStep N S c a = some c') :
    ControllerInvariant N S policyId c' := by
  obtain ⟨answer, heffect⟩ := effect_of_step h
  obtain ⟨hfixed, hcurrent⟩ := heffect.policyId
  refine ⟨hfixed.trans hc.fixed, ?_, ?_⟩
  · rw [← hc.fixed]
    exact hcurrent (hc.current.trans hc.fixed.symm)
  · rcases heffect.change with ⟨-, -, operation, -, hreplaces⟩ | ⟨-, hsame⟩
    · exact hreplaces.committed
    · rw [hsame]
      exact hc.committed

theorem controllerInvariant_create {rawOptions : HostValue}
    (h : createWalletGuardReferencePolicyController U N S rawOptions = .ok c) :
    ControllerInvariant N S c.current.policy.policyId c ∧ c.current.revision = 0 ∧
      c.operationInProgress = none := by
  unfold createWalletGuardReferencePolicyController at h
  obtain ⟨options, -, h⟩ := bind_eq_ok.mp h
  obtain ⟨initialPolicy, -, h⟩ := bind_eq_ok.mp h
  obtain ⟨current, hcurrent, h⟩ := bind_eq_ok.mp h
  cases h
  obtain ⟨hpolicy, hrevision, hcommitted⟩ := makeSnapshot_eq_ok hcurrent
  rw [← hpolicy] at hcommitted
  exact ⟨⟨congrArg (fun p => p.policyId) hpolicy.symm, rfl, hcommitted⟩, hrevision, rfl⟩

/-- The revision counts the accepted changes. -/
theorem revision_run {actions : List ControllerAction}
    (h : run (controllerStep N S) c actions = some c') :
    c'.current.revision = c.current.revision +
      (trace (controllerStep N S) c actions).countP fun x => accepts N S x.1 x.2 := by
  refine run_count (fun c => c.current.revision) (accepts N S) ?_ h
  intro c a c' hstep
  obtain ⟨answer, heffect⟩ := effect_of_step hstep
  rcases heffect.change with ⟨haccepts, -, operation, -, hreplaces⟩ | ⟨hrefuses, hsame⟩
  · rw [if_pos haccepts, hreplaces.revision]
  · rw [if_neg (by simp [hrefuses]), hsame, Nat.add_zero]

/-- While an operation is in progress, calls change nothing. -/
theorem run_nested (hbusy : c.operationInProgress.isSome = true) {nested : List ControllerAction}
    (h : ∀ a ∈ nested, ∀ interrupted, a ≠ .leave interrupted) :
    run (controllerStep N S) c nested = some c := by
  induction nested with
  | nil => rfl
  | cons a nested ih =>
    have hstep : controllerStep N S c a = some c := by
      cases a with
      | readSnapshot => rfl
      | enter operation =>
        rw [controllerStep, act, if_pos hbusy]
        rfl
      | leave interrupted => exact absurd rfl (h _ List.mem_cons_self interrupted)
    exact run_cons.mpr ⟨c, hstep, ih fun b hb => h b (List.mem_cons_of_mem a hb)⟩

/-- The kill switch on a state of a controller: whatever is called while it works, it ends
    with the kill switch on. -/
theorem engageKillSwitch_run {policyId : PolicyId} (hc : ControllerInvariant N S policyId c)
    (hfree : c.operationInProgress = none) {rawUpdate : HostValue}
    (hasked : (Operation.engageKillSwitch rawUpdate).AsksRevision c.current.revision)
    (hrevision : c.current.revision < JsNumber.maxSafeInteger) {nested : List ControllerAction}
    (hnested : ∀ a ∈ nested, ∀ interrupted, a ≠ .leave interrupted) :
    ∃ t next, run (controllerStep N S) c (.enter (.engageKillSwitch rawUpdate) :: nested) = some t ∧
      act N S t (.leave false) = some ({ c with current := next }, .snapshot next) ∧
      next.policy.killSwitch = true := by
  let busy : Controller U := { c with operationInProgress := some (.engageKillSwitch rawUpdate) }
  obtain ⟨next, hnext, hon⟩ := @engageKillSwitch_ok U N S busy _ hc.committed rawUpdate hasked hrevision
  have henter : controllerStep N S c (.enter (.engageKillSwitch rawUpdate)) = some busy := by
    rw [controllerStep, act, hfree]
    rfl
  refine ⟨busy, next, run_cons.mpr ⟨busy, henter, run_nested rfl hnested⟩, ?_, hon⟩
  show some (leaveOperation N S busy (.engageKillSwitch rawUpdate)) = _
  simp only [leaveOperation, hnext, busy, hfree]

/-- Once the kill switch is on, evaluations that complete deny, until `replacePolicy` turns it
    off. -/
theorem killed_until_reenabled (hon : c.current.policy.killSwitch = true)
    {actions : List ControllerAction} (h : run (controllerStep N S) c actions = some c')
    {a : ControllerAction} {t : Controller U} {e : StateEvaluation}
    (ha : act N S c' a = some (t, .evaluation e)) :
    e.result.decision = .deny ∨
      ∃ x ∈ trace (controllerStep N S) c actions, reenables N S x.1 x.2 = true := by
  by_cases hstill : c'.current.policy.killSwitch = true
  · left
    cases act_cases ha with
    | evaluated pending result => exact evaluate_killed result hstill
  · right
    obtain ⟨x, hx, t, hstep, hxon, htoff⟩ := exists_step_of_run
      (Q := fun s : Controller U => s.current.policy.killSwitch = false) h (by simp [hon])
      (Bool.eq_false_iff.mpr hstill)
    obtain ⟨answer, heffect⟩ := effect_of_step hstep
    exact ⟨x, hx, heffect.reenabled (by simpa using hxon) htoff⟩

/-- In every run of a controller, with calls that fail, that foreign code interrupts and that
    are nested in another one:
    the revision counts the accepted changes, each of which was given the revision it raises;
    the policy id stays;
    anything but an accepted change leaves the snapshot, the end of an operation releases the
    lock, and a call inside an operation changes nothing;
    the kill switch succeeds with the current revision, and from then on evaluations that
    complete deny until `replacePolicy` turns it off. -/
theorem policyController_run {rawOptions : HostValue} {actions : List ControllerAction}
    (hc : createWalletGuardReferencePolicyController U N S rawOptions = .ok c)
    (h : run (controllerStep N S) c actions = some c') :
    c'.current.revision =
      (trace (controllerStep N S) c actions).countP (fun x => accepts N S x.1 x.2) ∧
    c'.current.policy.policyId = c.current.policy.policyId ∧
    (∀ a t answer, act N S c' a = some (t, answer) →
      (accepts N S c' a = true → t.current.revision = c'.current.revision + 1 ∧
        ∃ operation, c'.operationInProgress = some operation ∧
          operation.AsksRevision c'.current.revision) ∧
      (accepts N S c' a = false → t.current = c'.current) ∧
      (∀ e, answer = .failure e → t.current = c'.current) ∧
      (∀ interrupted, a = .leave interrupted → t.operationInProgress = none) ∧
      (c'.operationInProgress.isSome = true → (∀ interrupted, a ≠ .leave interrupted) →
        t = c' ∧ ∀ operation, a = .enter operation → answer = .failure reentrantError)) ∧
    (∀ rawUpdate nested, c'.operationInProgress = none →
      (Operation.engageKillSwitch rawUpdate).AsksRevision c'.current.revision →
      c'.current.revision < JsNumber.maxSafeInteger →
      (∀ a ∈ nested, ∀ interrupted, a ≠ .leave interrupted) →
      ∃ t next,
        run (controllerStep N S) c' (.enter (.engageKillSwitch rawUpdate) :: nested) = some t ∧
        act N S t (.leave false) = some ({ c' with current := next }, .snapshot next) ∧
        next.policy.killSwitch = true) ∧
    (c'.current.policy.killSwitch = true → ∀ more t a t' e,
      run (controllerStep N S) c' more = some t → act N S t a = some (t', .evaluation e) →
      e.result.decision = .deny ∨
        ∃ x ∈ trace (controllerStep N S) c' more, reenables N S x.1 x.2 = true) := by
  obtain ⟨hinvariant, hzero, -⟩ := controllerInvariant_create hc
  have hc' := run_invariant (fun _ _ _ hs hstep => hs.step hstep) h hinvariant
  refine ⟨?_, hc'.current, ?_, ?_, ?_⟩
  · rw [revision_run h, hzero, Nat.zero_add]
  · intro a t answer hact
    have heffect := act_cases hact
    refine ⟨?_, ?_, fun e he => heffect.failed he, ?_, heffect.nested⟩
    · intro haccepts
      rcases heffect.change with ⟨-, -, operation, hpending, hreplaces⟩ | ⟨hrefuses, -⟩
      · exact ⟨hreplaces.revision, operation, hpending, hreplaces.asked⟩
      · rw [haccepts] at hrefuses
        cases hrefuses
    · intro hrefuses
      rcases heffect.change with ⟨haccepts, -⟩ | ⟨-, hsame⟩
      · rw [haccepts] at hrefuses
        cases hrefuses
      · exact hsame
    · intro interrupted ha
      rw [ha] at heffect
      exact heffect.released
  · intro rawUpdate nested hfree hasked hrevision hnested
    exact engageKillSwitch_run hc' hfree hasked hrevision hnested
  · intro hon more t a t' e hrun hact
    exact killed_until_reenabled hon hrun hact

end Runs

/-! A controller whose kill switch is engaged while another call is attempted. -/

def idlePolicy : JsValue :=
  .object [(js "schema_version", .string WALLET_GUARD_POLICY_SCHEMA_VERSION),
    (js "policy_id", .string (js "policy-0001")), (js "enabled", .bool true),
    (js "kill_switch", .bool false), (js "expected_chain_id", .string (js "0x1")),
    (js "allowed_origins", .array []), (js "allowed_targets", .array []),
    (js "allowed_recipients", .array []), (js "allowed_spenders", .array []),
    (js "allowed_typed_data_verifying_contracts", .array []),
    (js "max_native_value", .string (js "0")), (js "max_token_amount", .string (js "0")),
    (js "deny_unlimited_allowance", .bool true), (js "deny_operator_approval", .bool true),
    (js "require_simulation_for", .array [])]

/-- `{ expected_revision: 0 }`. -/
def initialRevision : HostValue := .ofData (.object [(js "expected_revision", .number (.ofInt 0))])

/-- The controller of the sample policy. -/
def idleController : Except ControllerError (Controller (fun _ => none)) :=
  createWalletGuardReferencePolicyController (fun _ => none) devanagari strictSha256
    (.ofData (.object [(js "policy", idlePolicy)]))

theorem idleController_revision :
    idleController.toOption.map (fun c => c.current.revision) = some 0 := by
  decide +kernel

theorem asksRevision_initialRevision :
    (Operation.engageKillSwitch initialRevision).AsksRevision 0 := by
  refine ⟨[(js "expected_revision", .number (.ofInt 0))], ?_, ?_⟩
  · exact snapshotRecord_ofData _ rfl (by simp) (by decide)
  · exact assertRevision_ofInt.mpr ⟨Nat.zero_le _, rfl⟩

theorem policyController_run_engage :
    ∃ c t next, idleController = .ok c ∧
      run (controllerStep devanagari strictSha256) c [.enter (.engageKillSwitch initialRevision),
        .enter (.replacePolicy initialRevision), .readSnapshot] = some t ∧
      act devanagari strictSha256 t (.leave false) = some ({ c with current := next }, .snapshot next) ∧
      next.policy.killSwitch = true := by
  obtain ⟨c, hc, hzero⟩ := Option.map_eq_some_iff.mp idleController_revision
  have hcreate : createWalletGuardReferencePolicyController (fun _ => none) devanagari strictSha256
      (.ofData (.object [(js "policy", idlePolicy)])) = .ok c := toOption_eq_some.mp hc
  have hrun : run (controllerStep devanagari strictSha256) c [] = some c := rfl
  obtain ⟨-, -, -, hengage, -⟩ := policyController_run hcreate hrun
  obtain ⟨t, next, hrun, hact, hon⟩ := hengage initialRevision
    [.enter (.replacePolicy initialRevision), .readSnapshot]
    (controllerInvariant_create hcreate).2.2 (by rw [hzero]; exact asksRevision_initialRevision)
    (by rw [hzero]; decide) (by simp)
  exact ⟨c, t, next, hcreate, hrun, hact, hon⟩

end OpenRisk.Guard
