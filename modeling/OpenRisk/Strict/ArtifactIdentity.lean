import OpenRisk.Strict.ModuleSource
import OpenRisk.Strict.PolicyCapability

/-!
# The identity of the verifier artifact

`verifyPomRxArtifactIdentity` (`sdk/typescript/internal/pom-rx-v01-artifact-identity.mjs`) on a
POSIX host: it reads the pinned manifest, measures every entry, and requires the static local
dependencies of each entry to be entries themselves.

Results:
* `verifyPomRxArtifactIdentity_entries`: what was read of each entry of an accepted manifest,
  and that its dependencies are paths of entries.
-/

namespace OpenRisk.Strict

open Text Sdk PomRx Sorting

/-! ## The host -/

/-- What `lstatSync(path, { bigint: true })` tells of a path. -/
structure FileStatus where
  isFile : Bool
  isDirectory : Bool
  isSymbolicLink : Bool
  nlink : ℕ
  size : ℕ
  dev : ℕ
  ino : ℕ
  mtimeNs : ℤ

/-- The file system at the calls of one verification; `none` is a call that throws. -/
structure ArtifactHost where
  lstat : JsString → Option FileStatus
  /-- `lstatSync` after the content of an entry was read. -/
  lstatAfter : JsString → Option FileStatus
  readFile : JsString → Option (List UInt8)
  /-- `realpathSync.native`. -/
  realpath : JsString → Option JsString

/-- What `verifyPomRxArtifactIdentity` throws: an error of its checks, or one of the file system. -/
inductive ArtifactError where
  | check (error : DigestError)
  | fileSystem

/-- `path.resolve(...parts)`, where the first part is absolute. -/
def posixResolve (parts : List JsString) : JsString :=
  js "/" ++ [0x2F].intercalate (keptSegments false [] (parts.flatMap segments))

/-- `mismatch(message, details)`. -/
def mismatch {α : Type} (message : JsString) (details : List (JsString × Option JsValue)) :
    Except DigestError α :=
  .error (.strict ⟨.implementationArtifactMismatch, message⟩ details)

/-- `if (condition) mismatch(message, details)`. -/
def mismatchIf (condition : Bool) (message : JsString)
    (details : List (JsString × Option JsValue)) : Except DigestError Unit :=
  if condition then mismatch message details else .ok ()

theorem mismatchIf_eq_ok {condition : Bool} {message : JsString}
    {details : List (JsString × Option JsValue)} {u : Unit} :
    mismatchIf condition message details = .ok u ↔ condition = false := by
  cases condition <;> simp [mismatchIf, mismatch]

/-- `resolveBelow(root, relativePath)`. -/
def resolveBelow (root relativePath : JsString) : Except DigestError JsString :=
  let resolvedRoot := posixResolve [root]
  let resolved := posixResolve (resolvedRoot :: segments relativePath)
  if !(resolvedRoot ++ js "/").isPrefixOf resolved then
    invalid (js "Artifact entry escapes package root") [(js "path", some (.string relativePath))]
  else .ok resolved

/-- `assertCanonicalNativePath(value, label, details)`. -/
def assertCanonicalNativePath (host : ArtifactHost) (value label : JsString)
    (details : List (JsString × Option JsValue)) : Except DigestError Unit :=
  match host.realpath value with
  | none => mismatch (label ++ js " cannot be resolved") details
  | some native =>
    mismatchIf (posixResolve [native] ≠ posixResolve [value])
      (label ++ js " resolves through an alias or reparse path") details

/-! ## Case folding -/

def CASE_FOLDING_SHA256 : JsString :=
  js "ff8d8fefbf123574205085d6714c36149eb946d717a0c585c27f0f4ef58c4183"

def isUpperHex (u : UInt16) : Bool := isDigitUnit u || (0x41 ≤ u.toNat && u.toNat ≤ 0x46)

/-- `Number.parseInt(hex, 16)`. -/
def parseHex (hex : JsString) : ℕ :=
  hex.foldl (fun n u => 16 * n + if isDigitUnit u then u.toNat - 0x30 else u.toNat - 0x37) 0

/-- `String.fromCodePoint(value)`. -/
def fromCodePoint (value : ℕ) : Except DigestError CodePoint :=
  if h : value < 0x110000 then .ok ⟨value, h⟩ else .error .rangeError

/-- `text.split(/\r?\n/u)`. -/
def splitLines (text : JsString) : List JsString :=
  let lines := text.splitOn 0x0A
  lines.dropLast.map (fun line =>
    if line.getLast? = some 0x0D then line.dropLast else line) ++ lines.drop (lines.length - 1)

/-- `rawLine.replace(/#.*$/u, '')`. -/
def stripComment : JsString → JsString
  | [] => []
  | u :: s => if u = 0x23 && !s.any isLineTerminator then [] else u :: stripComment s

/-- The pattern of a row: the source, the status and the target. -/
def matchRow (line : JsString) : Option (JsString × UInt16 × JsString) :=
  match line.splitOn 0x3B with
  | [sourceHex, [0x20, status], 0x20 :: targetHex, []] =>
    if 4 ≤ sourceHex.length && sourceHex.length ≤ 6 && sourceHex.all isUpperHex &&
        (js "CFST").contains status && targetHex ≠ [] &&
        targetHex.all (fun u => isUpperHex u || u = 0x20) then
      some (sourceHex, status, targetHex)
    else none
  | _ => none

/-- The loop over the lines; the mapping has its last row first. -/
def foldingRows : List (JsString × UInt16) → List (CodePoint × JsString) → List JsString →
    Except DigestError (List (CodePoint × JsString))
  | _, mapping, [] => .ok mapping
  | seen, mapping, rawLine :: lines =>
    let line := trim (stripComment rawLine)
    if line = [] then foldingRows seen mapping lines
    else
      match matchRow line with
      | none => invalid (js "Unicode 17 case-folding registry row is malformed") []
      | some (sourceHex, status, targetHex) =>
        if (sourceHex, status) ∈ seen then
          invalid (js "Unicode 17 case-folding registry row repeats") []
        else if !(js "CF").contains status then
          foldingRows ((sourceHex, status) :: seen) mapping lines
        else do
          let source ← fromCodePoint (parseHex sourceHex)
          let target ← ((targetHex.splitOn 0x20).filter fun hex => hex ≠ []).mapM fun hex =>
            fromCodePoint (parseHex hex)
          foldingRows ((sourceHex, status) :: seen) ((source, target.flatMap utf16) :: mapping) lines

section Verify

variable (S : Hash) (N : Normalization) (host : ArtifactHost)

/-- `loadCaseFolding(caseFoldingPath)`. -/
def loadCaseFolding (caseFoldingPath : JsString) :
    Except DigestError (List (CodePoint × JsString)) :=
  match host.readFile caseFoldingPath with
  | none => invalid (js "Unicode 17 case-folding registry cannot be read") []
  | some bytes => do
    invalidIf ((sha256PomRxV01Bytes S bytes).val ≠ CASE_FOLDING_SHA256)
      (js "Unicode 17 case-folding registry digest differs")
    match decodeSource bytes with
    | none => invalid (js "Unicode 17 case-folding registry is not UTF-8") []
    | some text => foldingRows [] [] (splitLines text)

/-- `fullCaseFold(value, mapping)`. -/
def fullCaseFold (mapping : List (CodePoint × JsString)) (value : JsString) : JsString :=
  (codePoints (N.normalizeNfc value)).flatMap fun c => (mapping.lookup c).getD (utf16 c)

/-! ## The manifest -/

structure ManifestEntry where
  path : JsString
  byteLength : ℕ
  sha256 : Option JsValue

structure ArtifactManifest where
  artifactId : JsString
  verifierVersion : JsString
  entries : List ManifestEntry
  implementationArtifactSha256 : Option JsValue

/-- `assertExactKeys(value, expected, label)`. -/
def assertManifestKeys (value : Option JsValue) (expected : List JsString) (label : JsString) :
    Except DigestError Unit := do
  invalidIf (!value.any JsValue.isObject) (label ++ js " must be an object")
  invalidIf (!value.any fun v => hasExactKeys v expected)
    (label ++ js " has missing or unknown fields")

def MANIFEST_KEYS : List JsString :=
  ["artifact_manifest_schema_version", "artifact_id", "verifier_version", "verification_root",
    "entries", "implementation_artifact_sha256"].map js

def MANIFEST_ENTRY_KEYS : List JsString := ["path", "byte_length", "sha256"].map js

/-- The callback of `manifest.entries.map`. -/
def validateManifestEntry (entry : JsValue) : Except DigestError ManifestEntry := do
  assertManifestKeys (some entry) MANIFEST_ENTRY_KEYS (js "artifact manifest entry")
  let path ← validateArtifactPath N (entry.get (js "path"))
  if !isByteLength (entry.get (js "byte_length")) ||
      !testPattern HASH_PATTERN (entry.get (js "sha256")) then
    invalid (js "Artifact manifest entry metadata is invalid") [(js "path", entry.get (js "path"))]
  else
    let byteLength := match entry.get (js "byte_length") with
      | some (.number x) => x.toInt.toNat
      | _ => 0
    .ok ⟨path, byteLength, entry.get (js "sha256")⟩

/-- A text that is not empty. -/
def nonEmptyText : Option JsValue → Option JsString
  | some (.string s) => if s = [] then none else some s
  | _ => none

/-- `validateManifest(manifest, caseFoldingPath)`. -/
def validateManifest (manifest : JsValue) (caseFoldingPath : JsString) :
    Except DigestError ArtifactManifest := do
  assertManifestKeys (some manifest) MANIFEST_KEYS (js "artifact manifest")
  let read := fun key => manifest.get (js key)
  match nonEmptyText (read "artifact_id"), nonEmptyText (read "verifier_version"), read "entries" with
  | some artifactId, some verifierVersion, some (.array values) => do
    invalidIf (!isText (read "artifact_manifest_schema_version")
        (js "pom-rx-verifier-artifact-manifest/1") ||
      !isText (read "verification_root") (js "package-root") ||
      !testPattern HASH_PATTERN (read "implementation_artifact_sha256") || values.isEmpty)
      (js "Artifact manifest identity fields are invalid")
    let entries ← values.mapM (validateManifestEntry N)
    let sorted := entries.insertionSort
      (NotAfter fun left right => compareUnicodeScalars left.path right.path)
    invalidIf (entries.map ManifestEntry.path ≠ sorted.map ManifestEntry.path)
      (js "Artifact manifest entries are not Unicode-scalar sorted")
    let mapping ← loadCaseFolding S host caseFoldingPath
    invalidIf (¬ (entries.map fun entry => fullCaseFold N mapping entry.path).Nodup)
      (js "Artifact manifest paths collide after Unicode full case folding")
    .ok ⟨artifactId, verifierVersion, entries, read "implementation_artifact_sha256"⟩
  | _, _, _ => invalid (js "Artifact manifest identity fields are invalid") []

/-! ## The entries -/

def MAX_ARTIFACT_ENTRY_BYTES : ℕ := 16 * 1024 * 1024

def MAX_ARTIFACT_CLOSURE_BYTES : ℕ := 64 * 1024 * 1024

def MAX_ARTIFACT_MANIFEST_BYTES : ℕ := 1024 * 1024

/-- Whether two statuses are of the same file in the same state. -/
def sameStatus (after before : FileStatus) : Bool :=
  after.dev = before.dev && after.ino = before.ino && after.size = before.size &&
    after.mtimeNs = before.mtimeNs

/-- The checks of an entry before it is read. -/
def checkStatus (observedClosureBytes : ℕ) (entry : ManifestEntry) (fullPath : JsString)
    (before : FileStatus) : Except DigestError Unit := do
  let details := [(js "path", some (JsValue.string entry.path))]
  mismatchIf (!before.isFile || before.isSymbolicLink || before.nlink ≠ 1)
    (js "Declared artifact entry is not a single-link regular file") details
  assertCanonicalNativePath host fullPath (js "Declared artifact entry") details
  mismatchIf (MAX_ARTIFACT_ENTRY_BYTES < before.size || before.size ≠ entry.byteLength ||
      MAX_ARTIFACT_CLOSURE_BYTES < observedClosureBytes + entry.byteLength)
    (js "Declared artifact entry size is outside the bounded closure") details

/-- The body of the loop over the entries, up to the dependencies: the content of an entry. -/
def measureEntry (packageRoot : JsString) (observedClosureBytes : ℕ) (entry : ManifestEntry) :
    Except ArtifactError (List UInt8) := do
  let details := [(js "path", some (JsValue.string entry.path))]
  let fullPath ← (resolveBelow packageRoot entry.path).mapError .check
  match host.lstat fullPath with
  | none => (mismatch (js "Declared artifact entry is missing") details).mapError .check
  | some before => do
    (checkStatus host observedClosureBytes entry fullPath before).mapError .check
    match host.readFile fullPath, host.lstatAfter fullPath with
    | none, _ => (mismatch (js "Declared artifact entry cannot be read") details).mapError .check
    | some _, none => .error .fileSystem
    | some bytes, some after => do
      (mismatchIf (!sameStatus after before)
        (js "Declared artifact entry changed during measurement") details).mapError .check
      (mismatchIf (bytes.length ≠ entry.byteLength ||
          !isText entry.sha256 (sha256PomRxV01Bytes S bytes).val)
        (js "Declared artifact entry bytes differ") details).mapError .check
      .ok bytes

/-- The loop over the dependencies of an entry. -/
def checkDependencies (entryPaths : List JsString) (path : JsString) :
    List JsString → Except DigestError Unit
  | [] => .ok ()
  | dependency :: dependencies =>
    if dependency ∈ entryPaths then checkDependencies entryPaths path dependencies
    else
      invalid (js "Static local dependency is missing from the artifact closure")
        [(js "path", some (.string path)), (js "dependency", some (.string dependency))]

/-- The loop over the entries: their paths and contents. -/
def measureEntries (packageRoot : JsString) (entryPaths : List JsString) :
    ℕ → List ManifestEntry → Except ArtifactError (List (JsString × List UInt8))
  | _, [] => .ok []
  | observedClosureBytes, entry :: entries => do
    let bytes ← measureEntry S host packageRoot observedClosureBytes entry
    let dependencies ← (staticLocalDependencies entry.path N bytes).mapError .check
    (checkDependencies entryPaths entry.path dependencies).mapError .check
    let rest ← measureEntries packageRoot entryPaths (observedClosureBytes + entry.byteLength) entries
    .ok ((entry.path, bytes) :: rest)

/-- `{ path, bytes }`. -/
def digestEntry (entry : JsString × List UInt8) : DigestEntry where
  keys := [js "path", js "bytes"]
  path := some (.string entry.1)
  byteLength := some (.number (.ofInt entry.2.length))
  copied := some entry.2

/-- What `verifyPomRxArtifactIdentity` returns. -/
structure ArtifactIdentity where
  artifactId : JsString
  verifierVersion : JsString
  expectedImplementationArtifactSha256 : Option JsValue
  observedImplementationArtifactSha256 : JsString

/-- The options of `verifyPomRxArtifactIdentity`. -/
structure ArtifactOptions where
  packageRoot : Option JsValue
  artifactManifestPath : Option JsValue
  expectedArtifactManifestSha256 : Option JsValue
  caseFoldingPath : Option JsValue

/-- The reading of the manifest. -/
def readManifest (artifactManifestPath caseFoldingPath : JsString)
    (expectedArtifactManifestSha256 : Option JsValue) : Except DigestError ArtifactManifest :=
  -- the `catch` replaces what is thrown inside of its `try`
  match host.lstat artifactManifestPath, host.readFile artifactManifestPath with
  | some manifestStatus, some manifestBytes => do
    invalidIf (!manifestStatus.isFile || manifestStatus.isSymbolicLink || manifestStatus.nlink ≠ 1)
      (js "Artifact manifest cannot be read")
    invalidIf (!isText expectedArtifactManifestSha256 (sha256PomRxV01Bytes S manifestBytes).val)
      (js "Artifact manifest digest differs from its host pin")
    let parsed ← (parsePomRxV01ExactJson .artifactManifestInvalid (js "artifact manifest")
      manifestBytes MAX_ARTIFACT_MANIFEST_BYTES).mapError fun error => .strict error []
    validateManifest S N host parsed caseFoldingPath
  | _, _ => invalid (js "Artifact manifest cannot be read") []

/-- The checks of the package root. -/
def checkRoot (packageRoot : JsString) : Except DigestError Unit :=
  match host.lstat packageRoot with
  | none => mismatch (js "Package root cannot be inspected") []
  | some rootStatus => do
    mismatchIf (!rootStatus.isDirectory || rootStatus.isSymbolicLink)
      (js "Package root is not a regular directory") []
    assertCanonicalNativePath host packageRoot (js "Package root") []

/-- What is read below a package root, behind the checks of the options. -/
def verifyBelow (packageRoot artifactManifestPath caseFoldingPath : JsString)
    (expectedArtifactManifestSha256 : Option JsValue) : Except ArtifactError ArtifactIdentity := do
  (checkRoot host packageRoot).mapError .check
  let manifest ← (readManifest S N host artifactManifestPath caseFoldingPath
    expectedArtifactManifestSha256).mapError .check
  let observedEntries ← measureEntries S N host packageRoot
    (manifest.entries.map ManifestEntry.path) 0 manifest.entries
  let observed ← (computePomRxArtifactDigest S N (some (observedEntries.map digestEntry))).mapError
    .check
  (mismatchIf (!isText manifest.implementationArtifactSha256 observed)
    (js "Observed artifact digest differs from the manifest") []).mapError .check
  .ok ⟨manifest.artifactId, manifest.verifierVersion, manifest.implementationArtifactSha256,
    observed⟩

/-- `verifyPomRxArtifactIdentity(options)`. -/
def verifyPomRxArtifactIdentity (options : ArtifactOptions) :
    Except ArtifactError ArtifactIdentity :=
  match options.packageRoot, options.artifactManifestPath, options.caseFoldingPath with
  | some (.string packageRoot), some (.string artifactManifestPath),
      some (.string caseFoldingPath) => do
    (invalidIf (!isAbsolute packageRoot || !isAbsolute artifactManifestPath ||
        !isAbsolute caseFoldingPath ||
        !testPattern HASH_PATTERN options.expectedArtifactManifestSha256)
      (js "Artifact host bootstrap is invalid")).mapError .check
    verifyBelow S N host packageRoot artifactManifestPath caseFoldingPath
      options.expectedArtifactManifestSha256
  | _, _, _ => (invalid (js "Artifact host bootstrap is invalid") []).mapError .check

/-! ## What is accepted -/

/-- What was read of an entry, and the dependencies of what was read. -/
structure Measured (packageRoot : JsString) (entryPaths : List JsString) (entry : ManifestEntry)
    (bytes : List UInt8) (dependencies : List JsString) : Prop where
  read : ∃ fullPath, resolveBelow packageRoot entry.path = .ok fullPath ∧
    host.readFile fullPath = some bytes
  digest : isText entry.sha256 (sha256PomRxV01Bytes S bytes).val = true
  scanned : staticLocalDependencies entry.path N bytes = .ok dependencies
  closed : ∀ dependency ∈ dependencies, dependency ∈ entryPaths

variable {S N host}

theorem checkDependencies_eq_ok {entryPaths dependencies : List JsString} {path : JsString}
    {u : Unit} (h : checkDependencies entryPaths path dependencies = .ok u) :
    ∀ dependency ∈ dependencies, dependency ∈ entryPaths := by
  induction dependencies with
  | nil => simp
  | cons dependency dependencies ih =>
    rw [checkDependencies] at h
    split at h
    · rename_i hmem
      exact List.forall_mem_cons.mpr ⟨hmem, ih h⟩
    · cases h

theorem measureEntry_eq_ok {packageRoot : JsString} {observedClosureBytes : ℕ}
    {entry : ManifestEntry} {bytes : List UInt8}
    (h : measureEntry S host packageRoot observedClosureBytes entry = .ok bytes) :
    (∃ fullPath, resolveBelow packageRoot entry.path = .ok fullPath ∧
      host.readFile fullPath = some bytes) ∧
    isText entry.sha256 (sha256PomRxV01Bytes S bytes).val = true := by
  obtain ⟨fullPath, hpath, h⟩ := bind_eq_ok.mp h
  split at h
  · cases h
  · obtain ⟨-, -, h⟩ := bind_eq_ok.mp h
    split at h
    · cases h
    · cases h
    · rename_i bytes' after hread hafter
      simp only [bind_eq_ok, mapError_eq_ok, mismatchIf_eq_ok] at h
      obtain ⟨-, -, -, hdigest, h⟩ := h
      obtain rfl := Except.ok.inj h
      rw [Bool.or_eq_false_iff, Bool.not_eq_false'] at hdigest
      exact ⟨⟨fullPath, mapError_eq_ok.mp hpath, hread⟩, hdigest.2⟩

theorem measureEntries_eq_ok {packageRoot : JsString} {entryPaths : List JsString}
    {observedClosureBytes : ℕ} {entries : List ManifestEntry}
    {observed : List (JsString × List UInt8)}
    (h : measureEntries S N host packageRoot entryPaths observedClosureBytes entries =
      .ok observed) :
    ∀ entry ∈ entries, ∃ bytes dependencies,
      Measured S N host packageRoot entryPaths entry bytes dependencies := by
  induction entries generalizing observedClosureBytes observed with
  | nil => simp
  | cons entry entries ih =>
    simp only [measureEntries, bind_eq_ok, mapError_eq_ok] at h
    obtain ⟨bytes, hbytes, dependencies, hdependencies, u, hclosed, rest, hrest, -⟩ := h
    obtain ⟨hread, hdigest⟩ := measureEntry_eq_ok hbytes
    exact List.forall_mem_cons.mpr ⟨⟨bytes, dependencies, hread, hdigest, hdependencies,
      checkDependencies_eq_ok hclosed⟩, ih hrest⟩

/-- The static local dependencies of the entries of an accepted manifest are its entries. -/
theorem verifyPomRxArtifactIdentity_entries {options : ArtifactOptions}
    {identity : ArtifactIdentity}
    (h : verifyPomRxArtifactIdentity S N host options = .ok identity) :
    ∃ packageRoot artifactManifestPath caseFoldingPath manifest,
      options.packageRoot = some (.string packageRoot) ∧
      options.artifactManifestPath = some (.string artifactManifestPath) ∧
      options.caseFoldingPath = some (.string caseFoldingPath) ∧
      readManifest S N host artifactManifestPath caseFoldingPath
        options.expectedArtifactManifestSha256 = .ok manifest ∧
      ∀ entry ∈ manifest.entries, ∃ bytes dependencies,
        Measured S N host packageRoot (manifest.entries.map ManifestEntry.path) entry bytes
          dependencies := by
  obtain ⟨root, manifestPath, expected, folding⟩ := options
  simp only [verifyPomRxArtifactIdentity] at h
  split at h
  · rename_i packageRoot artifactManifestPath caseFoldingPath
    simp only [verifyBelow, bind_eq_ok, mapError_eq_ok] at h
    obtain ⟨-, -, -, -, manifest, hread, observed, hobserved, -⟩ := h
    exact ⟨packageRoot, artifactManifestPath, caseFoldingPath, manifest, rfl, rfl, rfl, hread,
      measureEntries_eq_ok hobserved⟩
  · cases h

end Verify

end OpenRisk.Strict
