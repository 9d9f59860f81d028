import OpenRisk.Framing.LengthPrefix
import OpenRisk.Strict.Diagnostics
import OpenRisk.Text.Normalization
import OpenRisk.Text.Scalar

/-!
# The digest of the verifier artifact

`computePomRxArtifactDigest` hashes the entries of the artifact closure, sorted by the code
points of their paths: behind a fixed line, each path and each content as a block behind its
length.

Results:
* `artifactStream_eq_iff`: two streams are equal exactly when the sorted entries are the same
  after `toWellFormed` of their paths.
* `artifactStream_unambiguous`: when the stream determines which path has which bytes.
-/

namespace OpenRisk.Strict

open Text Sdk PomRx Sorting Framing

/-! ## Model -/

/-- What `computePomRxArtifactDigest` reads of an entry. -/
structure DigestEntry where
  /-- `Object.keys(entry)`. -/
  keys : List JsString
  /-- `entry.path`; `none` is `undefined`. -/
  path : Option JsValue
  /-- `entry.bytes?.byteLength`. -/
  byteLength : Option JsValue
  /-- The bytes that `Buffer.from(entry.bytes)` copies, if it does not throw. -/
  copied : Option (List UInt8)

/-- A thrown error. -/
inductive DigestError where
  | strict (error : StrictError) (details : List (JsString × Option JsValue))
  | typeError
  | rangeError

/-- `invalid(message, details)`. -/
def invalid {α : Type} (message : JsString) (details : List (JsString × Option JsValue)) :
    Except DigestError α :=
  .error (.strict ⟨.artifactManifestInvalid, message⟩ details)

/-- `if (condition) invalid(message)`. -/
def invalidIf (condition : Bool) (message : JsString) : Except DigestError Unit :=
  if condition then invalid message [] else .ok ()

theorem invalidIf_eq_ok {condition : Bool} {message : JsString} {u : Unit} :
    invalidIf condition message = .ok u ↔ condition = false := by
  cases condition <;> simp [invalidIf, invalid]

/-- The code units that fold to an ASCII letter, and this letter. -/
def foldUnit (u : UInt16) : UInt16 :=
  if 0x41 ≤ u.toNat ∧ u.toNat ≤ 0x5A then u + 0x20
  else if u = 0x017F then 0x73
  else if u = 0x212A then 0x6B
  else u

/-- The device names of Windows, in lower case; the last three units are superscripts. -/
def deviceNames : List JsString :=
  ["con", "prn", "aux", "nul", "clock$", "conin$", "conout$"].map js ++
    ["com", "lpt"].flatMap fun port =>
      (js "123456789" ++ [0xB9, 0xB2, 0xB3]).map fun digit => js port ++ [digit]

/-- What the dot of a regular expression does not match. -/
def isLineTerminator (u : UInt16) : Bool := u = 0x0A || u = 0x0D || u = 0x2028 || u = 0x2029

/-- The pattern of a Windows device name, with an extension or without. -/
def isDeviceName (segment : JsString) : Bool :=
  let extension := segment.dropWhile (· ≠ 0x2E)
  deviceNames.contains ((segment.takeWhile (· ≠ 0x2E)).map foldUnit) &&
    !extension.any isLineTerminator

/-- `/^[A-Za-z]:/u`. -/
def hasDrive : JsString → Bool
  | u :: 0x3A :: _ => (0x41 ≤ u.toNat && u.toNat ≤ 0x5A) || (0x61 ≤ u.toNat && u.toNat ≤ 0x7A)
  | _ => false

/-- `value.split('/')`. -/
def segments (value : JsString) : List JsString := value.splitOn 0x2F

/-- `validateArtifactPath(value)`. -/
def validateArtifactPath (N : Normalization) (value : Option JsValue) :
    Except DigestError JsString :=
  match value with
  | some (.string s) =>
    if s.isEmpty || (js "/").isPrefixOf s || (js "//").isPrefixOf s || hasDrive s ||
        s.contains 0x5C || s.contains 0x3A || s.any isControlUnit then
      invalid (js "Artifact entry path is invalid") [(js "path", value)]
    else if (segments s).any fun segment =>
        segment = [] || segment = js "." || segment = js ".." then
      invalid (js "Artifact entry path contains an invalid segment") [(js "path", value)]
    else if ((segments s).any fun segment =>
        segment.getLast?.any (fun u => u = 0x2E || u = 0x20) || isDeviceName segment) then
      invalid (js "Artifact entry path is unsafe on Windows") [(js "path", value)]
    else if s ≠ N.normalizeNfc s then
      invalid (js "Artifact entry path must already be NFC-normalized") [(js "path", value)]
    else .ok s
  | _ => invalid (js "Artifact entry path is invalid") [(js "path", value)]

/-- `Number.isSafeInteger(byteLength) && byteLength >= 0`. -/
def isByteLength : Option JsValue → Bool
  | some (.number x) => x.isSafeInteger && 0 ≤ x.toInt
  | _ => false

/-- An entry with its checks: the path and the copied bytes. -/
def normalizeEntry (N : Normalization) (entry : DigestEntry) :
    Except DigestError (JsString × List UInt8) := do
  invalidIf ([0x2C].intercalate (sortNames entry.keys) ≠ js "bytes,path")
    (js "Artifact digest entry is invalid")
  let entryPath ← validateArtifactPath N entry.path
  invalidIf (!isByteLength entry.byteLength) (js "Artifact digest bytes are invalid")
  match entry.copied with
  | some bytes => .ok (entryPath, bytes)
  | none => .error .typeError

/-- The entries sorted by the code points of their paths. -/
def sortEntries (entries : List (JsString × List UInt8)) : List (JsString × List UInt8) :=
  entries.insertionSort (NotAfter fun left right => compareUnicodeScalars left.1 right.1)

/-- `uint64(value)`; `writeBigUInt64BE` throws when the value does not fit. -/
def uint64 (value : ℕ) : Except DigestError (List UInt8) :=
  if value < 2 ^ 64 then .ok (bigEndian 8 value) else .error .rangeError

/-- What one entry adds to the hash. -/
def entryUpdate (entry : JsString × List UInt8) : Except DigestError (List UInt8) := do
  let pathBytes := utf8Encode entry.1
  let pathLength ← uint64 pathBytes.length
  let length ← uint64 entry.2.length
  .ok (pathLength ++ pathBytes ++ length ++ entry.2)

/-- The bytes that `computePomRxArtifactDigest` hashes; `none` is not an array. -/
def artifactStream (N : Normalization) (entries : Option (List DigestEntry)) :
    Except DigestError (List UInt8) := do
  let entries := entries.getD []
  invalidIf entries.isEmpty (js "Artifact closure must contain at least one entry")
  let normalized := sortEntries (← entries.mapM (normalizeEntry N))
  invalidIf (¬ (normalized.map Prod.fst).Nodup) (js "Artifact digest paths repeat")
  let updates ← normalized.mapM entryUpdate
  .ok (utf8Encode (js "pom-rx-verifier-artifact/1\n") ++ updates.flatten)

/-- `computePomRxArtifactDigest(entries)`. -/
def computePomRxArtifactDigest (S : Hash) (N : Normalization) (entries : Option (List DigestEntry)) :
    Except DigestError JsString :=
  (artifactStream N entries).map fun stream => (S.digest stream).flatMap hexByte

/-! ## The stream -/

/-- The path and the bytes of an entry. -/
def DigestEntry.content (entry : DigestEntry) : Option (JsString × List UInt8) :=
  match entry.path, entry.copied with
  | some (.string path), some bytes => some (path, bytes)
  | _, _ => none

/-- The paths and the bytes of the entries. -/
def contents (entries : List DigestEntry) : List (JsString × List UInt8) :=
  entries.filterMap DigestEntry.content

/-- The blocks of the entries: each path, and behind it its content. -/
def blocks (entries : List (JsString × List UInt8)) : List (List UInt8) :=
  entries.flatMap fun entry => [utf8Encode entry.1, entry.2]

theorem validateArtifactPath_eq_ok {N : Normalization} {value : Option JsValue} {s : JsString}
    (h : validateArtifactPath N value = .ok s) : value = some (.string s) := by
  unfold validateArtifactPath at h
  split at h
  · split_ifs at h
    all_goals cases h
    rfl
  · cases h

theorem normalizeEntry_eq_ok {N : Normalization} {entry : DigestEntry}
    {content : JsString × List UInt8} (h : normalizeEntry N entry = .ok content) :
    entry.content = some content := by
  simp only [normalizeEntry, bind_eq_ok] at h
  obtain ⟨-, -, path, hpath, -, -, h⟩ := h
  have hpath := validateArtifactPath_eq_ok hpath
  split at h
  · rename_i bytes hbytes
    obtain rfl := Except.ok.inj h
    rw [DigestEntry.content, hpath, hbytes]
  · cases h

theorem mapM_normalizeEntry_eq_ok {N : Normalization} {entries : List DigestEntry}
    {normalized : List (JsString × List UInt8)}
    (h : entries.mapM (normalizeEntry N) = .ok normalized) : contents entries = normalized := by
  induction mapM_eq_ok_iff.mp h with
  | nil => rfl
  | cons hentry hrest ih =>
    rw [contents, List.filterMap_cons, normalizeEntry_eq_ok hentry]
    exact congrArg _ (ih (mapM_eq_ok_iff.mpr hrest))

theorem uint64_eq_ok {value : ℕ} {bytes : List UInt8} (h : uint64 value = .ok bytes) :
    value < 256 ^ 8 ∧ bytes = bigEndian 8 value := by
  unfold uint64 at h
  split_ifs at h with hvalue
  · obtain rfl := Except.ok.inj h
    exact ⟨by omega, rfl⟩

theorem mapM_entryUpdate_eq_ok {entries : List (JsString × List UInt8)} {updates : List (List UInt8)}
    (h : entries.mapM entryUpdate = .ok updates) :
    updates.flatten = frames 8 (blocks entries) ∧ ∀ b ∈ blocks entries, b.length < 256 ^ 8 := by
  induction mapM_eq_ok_iff.mp h with
  | nil => exact ⟨rfl, by simp [blocks]⟩
  | @cons entry update entries updates hentry hrest ih =>
    obtain ⟨hframes, hlengths⟩ := ih (mapM_eq_ok_iff.mpr hrest)
    simp only [entryUpdate, bind_eq_ok] at hentry
    obtain ⟨pathLength, hpath, length, hlength, hentry⟩ := hentry
    obtain ⟨hpathLt, rfl⟩ := uint64_eq_ok hpath
    obtain ⟨hlengthLt, rfl⟩ := uint64_eq_ok hlength
    obtain rfl := Except.ok.inj hentry
    have hblocks : blocks (entry :: entries) = utf8Encode entry.1 :: entry.2 :: blocks entries := rfl
    rw [hblocks]
    constructor
    · rw [List.flatten_cons, hframes, frames_cons, frames_cons]
      simp only [List.append_assoc]
    · exact List.forall_mem_cons.mpr ⟨hpathLt, List.forall_mem_cons.mpr ⟨hlengthLt, hlengths⟩⟩

theorem sortEntries_perm (entries : List (JsString × List UInt8)) :
    (sortEntries entries).Perm entries :=
  List.perm_insertionSort _ entries

/-- What the stream of an accepted list is. -/
theorem artifactStream_eq_ok {N : Normalization} {entries : List DigestEntry} {stream : List UInt8}
    (h : artifactStream N (some entries) = .ok stream) :
    ((contents entries).map Prod.fst).Nodup ∧
      (∀ b ∈ blocks (sortEntries (contents entries)), b.length < 256 ^ 8) ∧
      stream = utf8Encode (js "pom-rx-verifier-artifact/1\n") ++
        frames 8 (blocks (sortEntries (contents entries))) := by
  simp only [artifactStream, bind_eq_ok, Option.getD_some] at h
  obtain ⟨-, -, normalized, hnormalized, u, hnodup, updates, hupdates, h⟩ := h
  obtain rfl := mapM_normalizeEntry_eq_ok hnormalized
  obtain ⟨hframes, hlengths⟩ := mapM_entryUpdate_eq_ok hupdates
  have hnodup : ((sortEntries (contents entries)).map Prod.fst).Nodup := by
    simpa using invalidIf_eq_ok.mp hnodup
  have hperm := (sortEntries_perm (contents entries)).map Prod.fst
  obtain rfl := Except.ok.inj h
  exact ⟨hperm.nodup_iff.mp hnodup, hlengths, by rw [hframes]⟩

/-! ## Decoding -/

/-- The entries of a closure in the order of their hashing, with well-formed paths. -/
def wellFormedContents (entries : List DigestEntry) : List (JsString × List UInt8) :=
  (sortEntries (contents entries)).map fun entry => (toWellFormed entry.1, entry.2)

/-- The blocks give back the contents, and the paths up to their lone surrogates. -/
theorem blocks_eq_iff {l m : List (JsString × List UInt8)} :
    blocks l = blocks m ↔ l.map (fun entry => (toWellFormed entry.1, entry.2)) =
      m.map fun entry => (toWellFormed entry.1, entry.2) := by
  have hcons : ∀ (e : JsString × List UInt8) (es : List (JsString × List UInt8)),
      blocks (e :: es) = utf8Encode e.1 :: e.2 :: blocks es := fun _ _ => rfl
  induction l generalizing m with
  | nil =>
    cases m with
    | nil => exact iff_of_true rfl rfl
    | cons d m => simp [blocks]
  | cons e l ih =>
    cases m with
    | nil => simp [blocks]
    | cons d m =>
      have ih : blocks l = blocks m ↔ _ := ih
      rw [hcons, hcons, List.cons.injEq, List.cons.injEq, ih, utf8Encode_eq_iff, List.map_cons,
        List.map_cons, List.cons.injEq, Prod.mk.injEq, and_assoc]

/-- Two streams are equal exactly when the sorted entries are, up to the lone surrogates of
    their paths. -/
theorem artifactStream_eq_iff {N : Normalization} {l m : List DigestEntry} {s t : List UInt8}
    (hl : artifactStream N (some l) = .ok s) (hm : artifactStream N (some m) = .ok t) :
    s = t ↔ wellFormedContents l = wellFormedContents m := by
  obtain ⟨-, hlengths, rfl⟩ := artifactStream_eq_ok hl
  obtain ⟨-, hlengths', rfl⟩ := artifactStream_eq_ok hm
  rw [List.append_cancel_left_eq, wellFormedContents, wellFormedContents, ← blocks_eq_iff]
  constructor
  · exact frames_injective (by decide) hlengths hlengths'
  · exact congrArg _

/-- The two lists have the same bytes under the same paths. -/
def SameMapping (l m : List DigestEntry) : Prop :=
  ∀ path bytes, (path, bytes) ∈ contents l ↔ (path, bytes) ∈ contents m

/-- Sorting by distinct paths forgets the order of the entries, and nothing else. -/
theorem sortEntries_eq_iff {l m : List (JsString × List UInt8)} (hl : (l.map Prod.fst).Nodup)
    (hm : (m.map Prod.fst).Nodup) : sortEntries l = sortEntries m ↔ ∀ e, e ∈ l ↔ e ∈ m := by
  have hcmp := transCmp_on compareUnicodeScalars (Prod.fst : JsString × List UInt8 → JsString)
  have hperm := sortEntries_perm
  constructor
  · intro h e
    rw [← (hperm l).mem_iff, ← (hperm m).mem_iff]
    exact Eq.to_iff (congrArg _ h)
  · intro h
    have hlm : l.Perm m :=
      (List.perm_ext_iff_of_nodup (.of_map _ hl) (.of_map _ hm)).mpr h
    refine List.Perm.eq_of_pairwise ?_ (List.pairwise_insertionSort _ l)
      (List.pairwise_insertionSort _ m) ((hperm l).trans (hlm.trans (hperm m).symm))
    intro a b ha hb hab hba
    have hpath : a.1 = b.1 := codePoints_injective (Std.LawfulEqOrd.eq_of_compare (hab.antisymm hba))
    exact List.inj_on_of_nodup_map hl ((hperm l).mem_iff.mp ha)
      (hlm.mem_iff.mpr ((hperm m).mem_iff.mp hb)) hpath

/-- The stream determines which path has which bytes, unless the sorted entries of two closures
    differ in lone surrogates of their paths only. -/
theorem artifactStream_unambiguous {N : Normalization} {l m : List DigestEntry} {s t : List UInt8}
    (hl : artifactStream N (some l) = .ok s) (hm : artifactStream N (some m) = .ok t) :
    ((s = t ↔ SameMapping l m) ↔
      (SameMapping l m ∨ wellFormedContents l ≠ wellFormedContents m)) ∧
    ((∀ e ∈ contents l ++ contents m, Scalar (codePoints e.1)) → (s = t ↔ SameMapping l m)) := by
  have hstream := artifactStream_eq_iff hl hm
  have hsort : sortEntries (contents l) = sortEntries (contents m) ↔ SameMapping l m :=
    (sortEntries_eq_iff (artifactStream_eq_ok hl).1 (artifactStream_eq_ok hm).1).trans
      ⟨fun h path bytes => h (path, bytes), fun h e => h e.1 e.2⟩
  have hsame : SameMapping l m → s = t := fun h =>
    hstream.mpr (by rw [wellFormedContents, wellFormedContents, hsort.mpr h])
  refine ⟨?_, fun hscalar => ⟨fun h => ?_, hsame⟩⟩
  · rw [hstream]
    rw [hstream] at hsame
    by_cases hmapping : SameMapping l m
    · exact iff_of_true (iff_of_true (hsame hmapping) hmapping) (.inl hmapping)
    · rw [iff_false_right hmapping, or_iff_right hmapping]
  · have hid : ∀ es : List DigestEntry, (∀ e ∈ contents es, Scalar (codePoints e.1)) →
        wellFormedContents es = sortEntries (contents es) := by
      intro es hes
      refine (List.map_congr_left fun e he => ?_).trans (List.map_id _)
      have he := hes e ((sortEntries_perm _).mem_iff.mp he)
      rw [toWellFormed_of_scalar he]
      rfl
    obtain ⟨hl', hm'⟩ := List.forall_mem_append.mp hscalar
    rw [← hsort, ← hid l hl', ← hid m hm']
    exact hstream.mp h

/-! ## Samples -/

/-- A one-entry closure whose content is a single byte. -/
def sampleClosure (path : JsString) : List DigestEntry :=
  [⟨[js "path", js "bytes"], some (.string path), some (.number (.ofInt 1)), some [0x2A]⟩]

/-- The stream of a closure whose path has the UTF-8 encoding `pathBytes`. -/
def sampleStream (pathBytes : List UInt8) : List UInt8 :=
  utf8Encode (js "pom-rx-verifier-artifact/1\n") ++ frames 8 [pathBytes, [0x2A]]

theorem artifactStream_sampleClosure :
    artifactStream devanagari (some (sampleClosure [0xD800])) = .ok (sampleStream [0xEF, 0xBF, 0xBD]) ∧
      artifactStream devanagari (some (sampleClosure [0xDFFF])) =
        .ok (sampleStream [0xEF, 0xBF, 0xBD]) ∧
      artifactStream devanagari (some (sampleClosure (js "a"))) = .ok (sampleStream [0x61]) := by
  refine ⟨?_, ?_, ?_⟩ <;> rw [← toOption_eq_some] <;> decide +kernel

theorem artifactStream_unambiguous_sample :
    (sampleStream [0xEF, 0xBF, 0xBD] = sampleStream [0x61] ↔
        SameMapping (sampleClosure [0xD800]) (sampleClosure (js "a"))) ↔
      (SameMapping (sampleClosure [0xD800]) (sampleClosure (js "a")) ∨
        wellFormedContents (sampleClosure [0xD800]) ≠ wellFormedContents (sampleClosure (js "a"))) :=
  (artifactStream_unambiguous artifactStream_sampleClosure.1 artifactStream_sampleClosure.2.2).1

/-- Two closures whose paths are different lone surrogates have one stream. -/
theorem not_artifactStream_unambiguous :
    ¬ ∀ (N : Normalization) (l m : List DigestEntry) (s t : List UInt8),
      artifactStream N (some l) = .ok s → artifactStream N (some m) = .ok t →
        (s = t ↔ SameMapping l m) := by
  intro h
  have hmapping := (h _ _ _ _ _ artifactStream_sampleClosure.1 artifactStream_sampleClosure.2.1).mp rfl
  have hmem : (([0xD800], [0x2A]) : JsString × List UInt8) ∈ contents (sampleClosure [0xDFFF]) :=
    (hmapping _ _).mp (by decide)
  exact absurd hmem (by decide)

end OpenRisk.Strict
