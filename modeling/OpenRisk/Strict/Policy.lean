import OpenRisk.Strict.Verdict
import OpenRisk.Text.Utf8

/-!
# Local verification policies

Model of the policy reader of `sdk/typescript/internal/pom-rx-v01-policy-capability.mjs`
(lines 14–264): exact JSON, verifier tuples, withdrawals, and the pin of a policy file.

A validated policy carries its checks: the texts have the format of `assertString`, no two
accepted verifiers and no two withdrawals have the same identity, and a withdrawal has a
replacement exactly when its status says so.

Results:
* `tupleIdentity_injective`: two tuples with the same identity are equal.
* `readPinnedJson_eq_ok`: the parsed bytes are those of the file, and their digest is the pin.
-/

namespace OpenRisk.Strict

open Text Sdk PomRx

/-! ## Checks -/

/-- `throwPomRxV01Strict(code, message)`. -/
def throwPomRxV01Strict {α : Type} (code : DiagnosticCode) (message : JsString) :
    Except StrictError α :=
  .error ⟨code, message⟩

/-- `if (!condition) throwPomRxV01Strict(code, message)`. -/
def requireAs (code : DiagnosticCode) (condition : Bool) (message : JsString) :
    Except StrictError Unit :=
  if condition then .ok () else throwPomRxV01Strict code message

theorem requireAs_eq_ok {code : DiagnosticCode} {condition : Bool} {message : JsString} {u : Unit} :
    requireAs code condition message = .ok u ↔ condition = true := by
  cases condition <;> simp [requireAs, throwPomRxV01Strict]

/-- `if (!p) throwPomRxV01Strict(code, message)`, with the proof of `p`. -/
def ensureAs (code : DiagnosticCode) (p : Prop) [Decidable p] (message : JsString) :
    Except StrictError (PLift p) :=
  if h : p then .ok ⟨h⟩ else throwPomRxV01Strict code message

/-- `assertExactKeys(value, expected, code, label)`. -/
def assertExactKeysAs (value : Option JsValue) (expected : List JsString) (code : DiagnosticCode)
    (label : JsString) : Except StrictError Unit := do
  requireAs code (value.any JsValue.isObject) (label ++ js " must be an object")
  requireAs code (value.any fun v => hasExactKeys v expected)
    (label ++ js " has missing or unknown fields")

/-- `(?:^|\s)[<>=~^]`, where `boundary` says that a match may start here. -/
def hasComparison : Bool → JsString → Bool
  | _, [] => false
  | boundary, u :: s =>
    (boundary && (u = 0x3C || u = 0x3E || u = 0x3D || u = 0x7E || u = 0x5E)) ||
      hasComparison (isSpaceUnit u) s

/-- `\.\.`. -/
def hasDots : JsString → Bool
  | 0x2E :: 0x2E :: _ => true
  | _ :: s => hasDots s
  | [] => false

/-- `/[*?]|(?:^|\s)[<>=~^]|\.\./u`. -/
def hasWildcardOrRange (s : JsString) : Bool :=
  s.any (fun u => u = 0x2A || u = 0x3F) || hasComparison true s || hasDots s

/-- The texts of a policy: 1 to 256 units without control characters, wildcards or ranges. -/
def isPolicyText (s : JsString) : Bool := isPlainText 256 s && !hasWildcardOrRange s

/-- A text that `assertString` accepts. -/
abbrev PolicyText := Matching isPolicyText

/-- `assertString(value, code, label)`. -/
def assertString (value : Option JsValue) (code : DiagnosticCode) (label : JsString) :
    Except StrictError PolicyText :=
  match value with
  | some (.string s) =>
    if isPlainText 256 s then
      if h : isPolicyText s = true then .ok ⟨s, h⟩
      else throwPomRxV01Strict code (label ++ js " cannot contain a wildcard or range")
    else throwPomRxV01Strict code (label ++ js " is invalid")
  | _ => throwPomRxV01Strict code (label ++ js " is invalid")

/-- `assertString(value, code, label, { hash: true })`. -/
def assertHashString (value : Option JsValue) (code : DiagnosticCode) (label : JsString) :
    Except StrictError HashText :=
  match value with
  | some (.string s) =>
    if h : HASH_PATTERN s = true then .ok ⟨s, h⟩ else throwPomRxV01Strict code (label ++ js " is invalid")
  | _ => throwPomRxV01Strict code (label ++ js " is invalid")

/-! ## Exact JSON -/

/-- The rest of a string literal after its opening quote, through the closing one, and what
    follows. -/
def closeString : JsString → Option (JsString × JsString)
  | [] => none
  | u :: s =>
    if u = 0x22 then some ([u], s)
    else if u = 0x5C then
      match s with
      | [] => none
      | v :: s => (closeString s).map fun p => (u :: v :: p.1, p.2)
    else (closeString s).map fun p => (u :: p.1, p.2)

section Scan

variable (code : DiagnosticCode) (label : JsString)

/-- `parseString()`: the key, and what follows; the text starts after the opening quote. -/
def scanKey (s : JsString) : Except StrictError (JsString × JsString) :=
  match closeString s with
  | some (literal, rest) =>
    match Json.parse (0x22 :: literal) with
    | some (.string key) => .ok (key, rest)
    | _ => throwPomRxV01Strict code (label ++ js " contains an invalid JSON string")
  | none => throwPomRxV01Strict code (label ++ js " contains an unterminated JSON string")

/-- The class `[\s,\]}]` that ends a literal. -/
def endsLiteral (u : UInt16) : Bool := isSpaceUnit u || u = 0x2C || u = 0x5D || u = 0x7D

mutual

/-- `parseValue()` of `scanObjectKeys`; the result is what follows the value. -/
def scanValue : ℕ → JsString → Except StrictError JsString
  | 0, _ => throwPomRxV01Strict code (label ++ js " contains an invalid JSON value")
  | fuel + 1, s =>
    match Json.skipWs s with
    | [] => throwPomRxV01Strict code (label ++ js " contains an invalid JSON value")
    | u :: rest =>
      if u = 0x7B then
        match Json.skipWs rest with
        | [] => throwPomRxV01Strict code (label ++ js " contains an unterminated JSON object")
        | v :: r => if v = 0x7D then .ok r else scanMembers fuel [] (v :: r)
      else if u = 0x5B then
        match Json.skipWs rest with
        | [] => throwPomRxV01Strict code (label ++ js " contains an unterminated JSON array")
        | v :: r => if v = 0x5D then .ok r else scanElements fuel (v :: r)
      else if u = 0x22 then (scanKey code label rest).map Prod.snd
      else if endsLiteral u then
        throwPomRxV01Strict code (label ++ js " contains an invalid JSON value")
      else .ok (rest.dropWhile fun v => !endsLiteral v)

/-- The loop of `parseArray()`. -/
def scanElements : ℕ → JsString → Except StrictError JsString
  | 0, _ => throwPomRxV01Strict code (label ++ js " contains an unterminated JSON array")
  | fuel + 1, s => do
    let rest ← scanValue fuel s
    match Json.skipWs rest with
    | [] => throwPomRxV01Strict code (label ++ js " contains an invalid JSON array")
    | u :: rest =>
      if u = 0x5D then .ok rest
      else if u = 0x2C then
        if rest = [] then throwPomRxV01Strict code (label ++ js " contains an unterminated JSON array")
        else scanElements fuel rest
      else throwPomRxV01Strict code (label ++ js " contains an invalid JSON array")

/-- The loop of `parseObject()`; `seen` are the keys so far. -/
def scanMembers : ℕ → List JsString → JsString → Except StrictError JsString
  | 0, _, _ => throwPomRxV01Strict code (label ++ js " contains an unterminated JSON object")
  | fuel + 1, seen, s =>
    match Json.skipWs s with
    | [] => throwPomRxV01Strict code (label ++ js " contains an invalid JSON object key")
    | u :: rest =>
      if u = 0x22 then do
        let (key, rest) ← scanKey code label rest
        requireAs code (key ∉ seen) (label ++ js " contains a duplicate JSON key")
        match Json.skipWs rest with
        | [] => throwPomRxV01Strict code (label ++ js " contains an invalid JSON object")
        | c :: rest =>
          if c = 0x3A then do
            let rest ← scanValue fuel rest
            match Json.skipWs rest with
            | [] => throwPomRxV01Strict code (label ++ js " contains an invalid JSON object")
            | u :: rest =>
              if u = 0x7D then .ok rest
              else if u = 0x2C then
                if rest = [] then
                  throwPomRxV01Strict code (label ++ js " contains an unterminated JSON object")
                else scanMembers fuel (key :: seen) rest
              else throwPomRxV01Strict code (label ++ js " contains an invalid JSON object")
          else throwPomRxV01Strict code (label ++ js " contains an invalid JSON object")
      else throwPomRxV01Strict code (label ++ js " contains an invalid JSON object key")

end

/-- `scanObjectKeys(text, code, label)`. -/
def scanObjectKeys (text : JsString) : Except StrictError Unit := do
  let rest ← scanValue code label (Json.textFuel text) text
  requireAs code (Json.skipWs rest = []) (label ++ js " contains trailing JSON data")

/-- `parsePomRxV01ExactJson(bytes, label, { errorCode, maxBytes })`. -/
def parsePomRxV01ExactJson (bytes : List UInt8) (maxBytes : ℕ) : Except StrictError JsValue := do
  requireAs code (1 ≤ bytes.length && bytes.length ≤ maxBytes) (label ++ js " byte length is invalid")
  requireAs code (bytes.take 3 ≠ [0xEF, 0xBB, 0xBF]) (label ++ js " contains a BOM")
  match Utf8.decodeFatal bytes with
  | none => throwPomRxV01Strict code (label ++ js " is not valid UTF-8")
  | some text => do
    scanObjectKeys code label text
    match jsonParse text with
    | some value => .ok value
    | none => throwPomRxV01Strict code (label ++ js " is not valid JSON")

end Scan

/-! ## Verifier tuples -/

/-- The runtime constraints of an accepted verifier, and a measured runtime. -/
structure RuntimeConstraints where
  nodeVersion : PolicyText
  icuVersion : PolicyText
  unicodeVersion : PolicyText
  locale : PolicyText
  platform : PolicyText
  arch : PolicyText
  deriving DecidableEq

def RUNTIME_KEYS : List JsString :=
  ["node_version", "icu_version", "unicode_version", "locale", "platform", "arch"].map js

/-- `validateRuntimeConstraints(runtime, code)`. -/
def validateRuntimeConstraints (runtime : Option JsValue) (code : DiagnosticCode) :
    Except StrictError RuntimeConstraints := do
  assertExactKeysAs runtime RUNTIME_KEYS code (js "runtime_constraints")
  let read := fun key => assertString (runtime.bind fun r => r.get key) code
    (js "runtime_constraints." ++ key)
  let nodeVersion ← read (js "node_version")
  let icuVersion ← read (js "icu_version")
  let unicodeVersion ← read (js "unicode_version")
  let locale ← read (js "locale")
  let platform ← read (js "platform")
  let arch ← read (js "arch")
  .ok ⟨nodeVersion, icuVersion, unicodeVersion, locale, platform, arch⟩

/-- `JSON.stringify(runtime)` of a validated copy. -/
def RuntimeConstraints.stringify (r : RuntimeConstraints) : JsString :=
  Json.print (.object [(js "node_version", .string r.nodeVersion.val),
    (js "icu_version", .string r.icuVersion.val),
    (js "unicode_version", .string r.unicodeVersion.val), (js "locale", .string r.locale.val),
    (js "platform", .string r.platform.val), (js "arch", .string r.arch.val)])

/-- The four fields that select a verifier. -/
structure VerifierTuple where
  receiptSchemaVersion : PolicyText
  verifierProfile : PolicyText
  verifierVersion : PolicyText
  implementationArtifactSha256 : HashText
  deriving DecidableEq

/-- An accepted verifier. -/
structure AcceptedVerifier extends VerifierTuple where
  runtimeConstraints : RuntimeConstraints

def TUPLE_KEYS : List JsString :=
  ["receipt_schema_version", "verifier_profile", "verifier_version",
    "implementation_artifact_sha256"].map js

/-- The fields of a tuple, in the order of its keys. -/
def readTuple (tuple : Option JsValue) : Except StrictError VerifierTuple := do
  let read := fun key => tuple.bind fun t => t.get key
  let label := fun key => js "verifier tuple " ++ key
  let receiptSchemaVersion ← assertString (read (js "receipt_schema_version")) .policyInvalid
    (label (js "receipt_schema_version"))
  let verifierProfile ← assertString (read (js "verifier_profile")) .policyInvalid
    (label (js "verifier_profile"))
  let verifierVersion ← assertString (read (js "verifier_version")) .policyInvalid
    (label (js "verifier_version"))
  let implementationArtifactSha256 ← assertHashString (read (js "implementation_artifact_sha256"))
    .policyInvalid (label (js "implementation_artifact_sha256"))
  .ok ⟨receiptSchemaVersion, verifierProfile, verifierVersion, implementationArtifactSha256⟩

/-- `validateTuple(tuple)`. -/
def validateTuple (tuple : Option JsValue) : Except StrictError VerifierTuple := do
  assertExactKeysAs tuple TUPLE_KEYS .policyInvalid (js "verifier tuple")
  readTuple tuple

/-- `validateTuple(tuple, { runtimeRequired: true })`. -/
def validateAccepted (tuple : JsValue) : Except StrictError AcceptedVerifier := do
  assertExactKeysAs (some tuple) (TUPLE_KEYS ++ [js "runtime_constraints"]) .policyInvalid
    (js "verifier tuple")
  let fields ← readTuple (some tuple)
  let runtimeConstraints ← validateRuntimeConstraints (tuple.get (js "runtime_constraints")) .policyInvalid
  .ok ⟨fields, runtimeConstraints⟩

/-- `tupleIdentity(tuple)`. -/
def tupleIdentity (t : VerifierTuple) : JsString :=
  stringifyNames [t.receiptSchemaVersion.val, t.verifierProfile.val, t.verifierVersion.val,
    t.implementationArtifactSha256.val]

/-! ## Policies -/

/-- The shape `dddd-dd-ddTdd:dd:dd.dddZ`. -/
def instantShape : JsString := js "dddd-dd-ddTdd:dd:dd.dddZ"

/-- `/^\d{4}-\d{2}-\d{2}T\d{2}:\d{2}:\d{2}\.\d{3}Z$/u`. -/
def INSTANT_PATTERN (s : JsString) : Bool :=
  s.length = instantShape.length &&
    (s.zip instantShape).all fun (u, c) => if c = 0x64 then Json.isDigit u else u = c

/-- `parseCanonicalInstant(value, code)`. -/
def parseCanonicalInstant (P : DateParser) (value : Option JsValue) (code : DiagnosticCode) :
    Except StrictError (UtcInstant P) :=
  match value with
  | some (.string s) =>
    if INSTANT_PATTERN s then
      match UtcInstant.ofText P s with
      | some instant => .ok instant
      | none => throwPomRxV01Strict code (js "Trusted evaluation instant is unavailable or malformed")
    else throwPomRxV01Strict code (js "Trusted evaluation instant is unavailable or malformed")
  | _ => throwPomRxV01Strict code (js "Trusted evaluation instant is unavailable or malformed")

inductive WithdrawalStatus where
  | replacement
  | terminal
  deriving DecidableEq

def WithdrawalStatus.text : WithdrawalStatus → JsString
  | .replacement => js "replacement"
  | .terminal => js "terminal"

/-- A withdrawn verifier. -/
structure Withdrawal (P : DateParser) extends VerifierTuple where
  effectiveAt : UtcInstant P
  status : WithdrawalStatus
  replacement : Option VerifierTuple
  reasonCode : PolicyText
  replacement_iff : status = .replacement ↔ replacement.isSome = true

/-- A validated policy. -/
structure Policy (P : DateParser) where
  policyId : PolicyText
  policyVersion : PolicyText
  policySha256 : HashText
  acceptedVerifiers : List AcceptedVerifier
  withdrawnVerifiers : List (Withdrawal P)
  accepted_nodup : (acceptedVerifiers.map fun v => tupleIdentity v.toVerifierTuple).Nodup
  withdrawn_nodup : (withdrawnVerifiers.map fun v => tupleIdentity v.toVerifierTuple).Nodup

/-- The check of `status` against `replacement`, and the replacement. -/
def readReplacement (status : WithdrawalStatus) (value : Option JsValue) :
    Except StrictError { r : Option VerifierTuple // status = .replacement ↔ r.isSome = true } :=
  match status, value with
  | .terminal, some .null => .ok ⟨none, by simp⟩
  | .replacement, some .null =>
    throwPomRxV01Strict .policyInvalid (js "Withdrawal replacement shape is invalid")
  | .replacement, value => (validateTuple value).map fun t => ⟨some t, by simp⟩
  | .terminal, _ =>
    throwPomRxV01Strict .policyInvalid (js "Withdrawal replacement shape is invalid")

def WITHDRAWAL_KEYS : List JsString :=
  TUPLE_KEYS ++ ["effective_at", "status", "replacement", "reason_code"].map js

section Validate

variable (P : DateParser)

/-- The callback of `policy.withdrawn_verifiers.map`. -/
def validateWithdrawal (entry : JsValue) : Except StrictError (Withdrawal P) := do
  assertExactKeysAs (some entry) WITHDRAWAL_KEYS .policyInvalid (js "withdrawal")
  let tuple ← readTuple (some entry)
  let effectiveAt ← parseCanonicalInstant P (entry.get (js "effective_at")) .policyInvalid
  match readText WithdrawalStatus.text [.replacement, .terminal] (entry.get (js "status")) with
  | none => throwPomRxV01Strict .policyInvalid (js "Withdrawal status is invalid")
  | some status => do
    let replacement ← readReplacement status (entry.get (js "replacement"))
    let reasonCode ← assertString (entry.get (js "reason_code")) .policyInvalid
      (js "withdrawal reason_code")
    .ok ⟨tuple, effectiveAt, status, replacement.val, reasonCode, replacement.property⟩

def POLICY_KEYS : List JsString :=
  ["policy_schema_version", "policy_id", "policy_version", "accepted_verifiers",
    "withdrawn_verifiers"].map js

/-- `validatePolicy(policy, policySha256)`. -/
def validatePolicy (policy : JsValue) (policySha256 : HashText) : Except StrictError (Policy P) := do
  assertExactKeysAs (some policy) POLICY_KEYS .policyInvalid (js "policy")
  requireAs .policyInvalid
    (isText (policy.get (js "policy_schema_version")) (js "pom-rx-local-verification-policy/1"))
    (js "Unsupported policy schema version")
  let policyId ← assertString (policy.get (js "policy_id")) .policyInvalid (js "policy_id")
  let policyVersion ← assertString (policy.get (js "policy_version")) .policyInvalid
    (js "policy_version")
  match policy.get (js "accepted_verifiers"), policy.get (js "withdrawn_verifiers") with
  | some (.array accepted), some (.array withdrawn) => do
    let accepted ← accepted.mapM validateAccepted
    let ⟨haccepted⟩ ← ensureAs .policyInvalid
      (accepted.map fun v => tupleIdentity v.toVerifierTuple).Nodup
      (js "Policy contains duplicate accepted verifier tuples")
    let withdrawn ← withdrawn.mapM (validateWithdrawal P)
    let ⟨hwithdrawn⟩ ← ensureAs .policyInvalid
      (withdrawn.map fun v => tupleIdentity v.toVerifierTuple).Nodup
      (js "Policy contains duplicate withdrawals")
    .ok ⟨policyId, policyVersion, policySha256, accepted, withdrawn, haccepted, hwithdrawn⟩
  | _, _ => throwPomRxV01Strict .policyInvalid (js "Policy verifier sets must be arrays")

end Validate

/-! ## Pinned files -/

def MAX_POLICY_BYTES : ℕ := 64 * 1024

/-- `path.isAbsolute(value)` for POSIX paths. -/
def isAbsolute (value : JsString) : Bool := value.head? = some 0x2F

/-- `sha256PomRxV01Bytes(bytes)`. -/
def sha256PomRxV01Bytes (S : Hash) (bytes : List UInt8) : HashText :=
  ⟨(S.digest bytes).flatMap hexByte, HASH_PATTERN_digest S bytes⟩

/-- `readPinnedJson(filePath, expectedSha256, label, maxBytes)`: the digest and the parsed
    value. `files` is what `readFileSync` finds. -/
def readPinnedJson (S : Hash) (files : JsString → Option (List UInt8)) (filePath : Option JsValue)
    (expectedSha256 : Option JsValue) (label : JsString) (maxBytes : ℕ) :
    Except StrictError (HashText × JsValue) :=
  match filePath with
  | some (.string path) => do
    requireAs .policyInvalid (isAbsolute path && testPattern HASH_PATTERN expectedSha256)
      (label ++ js " host pin is invalid")
    match files path with
    | none => throwPomRxV01Strict .policyInvalid (label ++ js " cannot be read")
    | some bytes => do
      let observedSha256 := sha256PomRxV01Bytes S bytes
      requireAs .policyInvalid (isText expectedSha256 observedSha256.val)
        (label ++ js " digest differs from its host pin")
      let parsed ← parsePomRxV01ExactJson .policyInvalid label bytes maxBytes
      .ok (observedSha256, parsed)
  | _ => throwPomRxV01Strict .policyInvalid (label ++ js " host pin is invalid")

/-- What is read is a file with the pinned digest. -/
theorem readPinnedJson_eq_ok {S : Hash} {files : JsString → Option (List UInt8)}
    {filePath expectedSha256 : Option JsValue} {label : JsString} {maxBytes : ℕ}
    {observed : HashText} {parsed : JsValue}
    (h : readPinnedJson S files filePath expectedSha256 label maxBytes = .ok (observed, parsed)) :
    ∃ path bytes, filePath = some (.string path) ∧ files path = some bytes ∧
      observed = sha256PomRxV01Bytes S bytes ∧ expectedSha256 = some (.string observed.val) ∧
      parsePomRxV01ExactJson .policyInvalid label bytes maxBytes = .ok parsed := by
  unfold readPinnedJson at h
  split at h
  · rename_i path
    obtain ⟨-, -, h⟩ := bind_eq_ok.mp h
    split at h
    · cases h
    · rename_i bytes hbytes
      obtain ⟨_, hdigest, h⟩ := bind_eq_ok.mp h
      obtain ⟨value, hparse, h⟩ := bind_eq_ok.mp h
      cases h
      exact ⟨path, bytes, rfl, hbytes, rfl, isText_eq_true.mp (requireAs_eq_ok.mp hdigest), hparse⟩
  · cases h

/-! ## What is read -/

theorem assertString_eq_ok {value : Option JsValue} {code : DiagnosticCode} {label : JsString}
    {t : PolicyText} (h : assertString value code label = .ok t) : value = some (.string t.val) := by
  unfold assertString at h
  split at h
  · split_ifs at h
    · cases h
      rfl
    · cases h
    · cases h
  · cases h

theorem assertHashString_eq_ok {value : Option JsValue} {code : DiagnosticCode} {label : JsString}
    {t : HashText} (h : assertHashString value code label = .ok t) : value = some (.string t.val) := by
  unfold assertHashString at h
  split at h
  · split_ifs at h
    · cases h
      rfl
    · cases h
  · cases h

/-- The fields of a tuple under their keys. -/
def VerifierTuple.entries (t : VerifierTuple) : List (JsString × JsString) :=
  [(js "receipt_schema_version", t.receiptSchemaVersion.val),
    (js "verifier_profile", t.verifierProfile.val), (js "verifier_version", t.verifierVersion.val),
    (js "implementation_artifact_sha256", t.implementationArtifactSha256.val)]

/-- The fields of runtime constraints under their keys. -/
def RuntimeConstraints.entries (r : RuntimeConstraints) : List (JsString × JsString) :=
  [(js "node_version", r.nodeVersion.val), (js "icu_version", r.icuVersion.val),
    (js "unicode_version", r.unicodeVersion.val), (js "locale", r.locale.val),
    (js "platform", r.platform.val), (js "arch", r.arch.val)]

/-- The value has each of the entries as a property. -/
def HasEntries (value : Option JsValue) (entries : List (JsString × JsString)) : Prop :=
  ∀ e ∈ entries, (value.bind fun v => v.get e.1) = some (.string e.2)

theorem validateTuple_eq_ok {tuple : Option JsValue} {t : VerifierTuple}
    (h : validateTuple tuple = .ok t) : HasEntries tuple t.entries := by
  obtain ⟨-, -, h⟩ := bind_eq_ok.mp h
  obtain ⟨schema, hschema, h⟩ := bind_eq_ok.mp h
  obtain ⟨profile, hprofile, h⟩ := bind_eq_ok.mp h
  obtain ⟨version, hversion, h⟩ := bind_eq_ok.mp h
  obtain ⟨digest, hdigest, h⟩ := bind_eq_ok.mp h
  cases h
  simp only [HasEntries, VerifierTuple.entries, List.forall_mem_cons, List.not_mem_nil,
    false_implies, implies_true, and_true]
  exact ⟨assertString_eq_ok hschema, assertString_eq_ok hprofile, assertString_eq_ok hversion,
    assertHashString_eq_ok hdigest⟩

theorem validateRuntimeConstraints_eq_ok {runtime : Option JsValue} {code : DiagnosticCode}
    {r : RuntimeConstraints} (h : validateRuntimeConstraints runtime code = .ok r) :
    HasEntries runtime r.entries := by
  obtain ⟨-, -, h⟩ := bind_eq_ok.mp h
  obtain ⟨node, hnode, h⟩ := bind_eq_ok.mp h
  obtain ⟨icu, hicu, h⟩ := bind_eq_ok.mp h
  obtain ⟨unicode, hunicode, h⟩ := bind_eq_ok.mp h
  obtain ⟨locale, hlocale, h⟩ := bind_eq_ok.mp h
  obtain ⟨platform, hplatform, h⟩ := bind_eq_ok.mp h
  obtain ⟨arch, harch, h⟩ := bind_eq_ok.mp h
  cases h
  simp only [HasEntries, RuntimeConstraints.entries, List.forall_mem_cons, List.not_mem_nil,
    false_implies, implies_true, and_true]
  exact ⟨assertString_eq_ok hnode, assertString_eq_ok hicu, assertString_eq_ok hunicode,
    assertString_eq_ok hlocale, assertString_eq_ok hplatform, assertString_eq_ok harch⟩

theorem parseCanonicalInstant_eq_ok {P : DateParser} {value : Option JsValue} {code : DiagnosticCode}
    {instant : UtcInstant P} (h : parseCanonicalInstant P value code = .ok instant) :
    value = some (.string instant.text) := by
  unfold parseCanonicalInstant at h
  split at h
  · split_ifs at h
    · split at h
      · rename_i hinstant
        cases h
        rw [UtcInstant.text_of_ofText hinstant]
      · cases h
    · cases h
  · cases h

/-! ## Encoded identities -/

theorem stringifyNames_injective {names names' : List JsString}
    (h : stringifyNames names = stringifyNames names') : names = names' := by
  have hintegral : ∀ l : List JsString, Json.Integral (.array (l.map .string)) := by
    intro l
    show Json.IntegralElements (l.map .string)
    induction l with
    | nil => trivial
    | cons s l ih => exact ⟨trivial, ih⟩
  have harray := Json.print_injective (hintegral names) (hintegral names') h
  have hinj : Function.Injective Json.string := fun a b hab => by
    cases hab
    rfl
  exact hinj.list_map (Json.array.inj harray)

/-- Two tuples with the same identity are equal. -/
theorem tupleIdentity_injective {t t' : VerifierTuple} (h : tupleIdentity t = tupleIdentity t') :
    t = t' := by
  have hfields := stringifyNames_injective h
  simp only [List.cons.injEq, and_true] at hfields
  obtain ⟨hschema, hprofile, hversion, hdigest⟩ := hfields
  obtain ⟨_, _, _, _⟩ := t
  obtain ⟨_, _, _, _⟩ := t'
  obtain rfl := Subtype.ext hschema
  obtain rfl := Subtype.ext hprofile
  obtain rfl := Subtype.ext hversion
  obtain rfl := Subtype.ext hdigest
  rfl

/-- Two runtimes with the same text are equal in every field. -/
theorem RuntimeConstraints.stringify_injective {r r' : RuntimeConstraints}
    (h : r.stringify = r'.stringify) : r = r' := by
  have hintegral : ∀ r : RuntimeConstraints, Json.Integral (.object
      [(js "node_version", .string r.nodeVersion.val), (js "icu_version", .string r.icuVersion.val),
      (js "unicode_version", .string r.unicodeVersion.val), (js "locale", .string r.locale.val),
      (js "platform", .string r.platform.val), (js "arch", .string r.arch.val)]) := fun _ =>
    ⟨trivial, trivial, trivial, trivial, trivial, trivial, trivial⟩
  have hobject := Json.print_injective (hintegral r) (hintegral r') h
  simp only [Json.object.injEq, List.cons.injEq, Prod.mk.injEq, Json.string.injEq, true_and,
    and_true] at hobject
  obtain ⟨hnode, hicu, hunicode, hlocale, hplatform, harch⟩ := hobject
  obtain ⟨_, _, _, _, _, _⟩ := r
  obtain ⟨_, _, _, _, _, _⟩ := r'
  obtain rfl := Subtype.ext hnode
  obtain rfl := Subtype.ext hicu
  obtain rfl := Subtype.ext hunicode
  obtain rfl := Subtype.ext hlocale
  obtain rfl := Subtype.ext hplatform
  obtain rfl := Subtype.ext harch
  rfl

end OpenRisk.Strict
