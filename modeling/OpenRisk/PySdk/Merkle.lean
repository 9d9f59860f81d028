import OpenRisk.PySdk.Canonical
import OpenRisk.Sdk.Merkle

/-!
# `build_merkle_batch` of the Python SDK

Model of `sdk/python/swisstokint_proof.py` lines 134–140 and 364–441. The `while` loop
is the same as that of the JavaScript SDK, `Merkle.buildTree`; the receipts are sorted
by code points.

The strings that are hashed are ASCII, so that `value.encode("utf-8")` does not raise.
-/

namespace OpenRisk.PySdk

open Text Merkle

/-! ## Model -/

/-- What the batch code uses of the Python runtime: SHA-256, `datetime.fromisoformat` and
    the year field of `strftime`, which some C libraries do not pad. -/
structure Runtime where
  hash : Hash
  /-- The instant in microseconds and whether the text has an offset; `none` where
      `fromisoformat` raises. -/
  fromisoformat : PyString → Option (ℤ × Bool)
  strftimeYear : ℤ → PyString

/-- `HASH_PATTERN.fullmatch(s)`. -/
def HASH_PATTERN (s : PyString) : Bool := s.length = 64 && s.all (inClass isHashUnit)

/-- A string that matches `HASH_PATTERN`. -/
def HashText := { s : PyString // HASH_PATTERN s = true }

instance : DecidableEq HashText := inferInstanceAs (DecidableEq { s : PyString // HASH_PATTERN s = true })

/-- `ID_PATTERN.fullmatch(s)`. -/
def ID_PATTERN (s : PyString) : Bool :=
  match s with
  | [] => false
  | c :: rest =>
    inClass Sdk.isAlphaNumeric c && rest.all (inClass Sdk.isKeyUnit) && 15 ≤ rest.length &&
      rest.length ≤ 127

/-- A text of code points that match the class `[a-f0-9]`, read from code units. -/
theorem inClass_isHashUnit_unitPoint {u : UInt16} (h : isHashUnit u = true) :
    inClass isHashUnit (unitPoint u) = true := by
  have hlt : u.toNat < 0x80 := by
    simp only [isHashUnit, Json.isDigit, Bool.or_eq_true, Bool.and_eq_true, decide_eq_true_eq] at h
    omega
  simp [inClass, hlt, h]

theorem HASH_PATTERN_map_unitPoint (h : OpenRisk.HashText) :
    HASH_PATTERN (h.val.map unitPoint) = true := by
  simp only [HASH_PATTERN, Bool.and_eq_true, decide_eq_true_eq, List.length_map, h.length,
    List.all_eq_true, List.mem_map, true_and]
  rintro c ⟨u, hu, rfl⟩
  exact inClass_isHashUnit_unitPoint (h.isHashUnit_of_mem hu)

/-- A digest text as a Python string. -/
def HashText.ofJs (h : OpenRisk.HashText) : HashText :=
  ⟨h.val.map unitPoint, HASH_PATTERN_map_unitPoint h⟩

/-- `sha256_hex(value)`: `hexdigest` of the UTF-8 encoding. -/
def sha256Hex (S : Hash) (value : PyString) : HashText :=
  HashText.ofJs ⟨(S.digest (value.flatMap utf8)).flatMap hexByte, HASH_PATTERN_digest S _⟩

def leafString (commitmentHash : HashText) : PyString :=
  py "swisstokint:proof-leaf:v1:" ++ commitmentHash.val

def nodeString (left right : HashText) : PyString :=
  py "swisstokint:proof-node:v1:" ++ left.val ++ 0x3A :: right.val

/-- `_hash_merkle_leaf(commitment_hash)`. -/
def hashMerkleLeaf (S : Hash) (commitmentHash : HashText) : HashText :=
  sha256Hex S (leafString commitmentHash)

/-- `_hash_merkle_node(left, right)`. -/
def hashMerkleNode (S : Hash) (left right : HashText) : HashText :=
  sha256Hex S (nodeString left right)

/-- A normalised receipt of a batch. -/
structure BatchReceipt where
  receiptId : PyString
  commitmentHash : HashText
  occurredAt : PyString
  deriving DecidableEq

structure BatchLeaf where
  receipt : BatchReceipt
  leafIndex : ℕ
  leafHash : HashText
  proof : List (Side × HashText)

/-- The result of `build_merkle_batch`. -/
structure MerkleBatch where
  schemaVersion : PyString
  treeAlgorithm : PyString
  ordering : PyString
  batchRef : PyString
  leafCount : ℕ
  merkleRoot : HashText
  leaves : List BatchLeaf

section Model

variable (R : Runtime)

/-- `value.replace("Z", "+00:00")`. -/
def replaceZ (value : PyString) : PyString :=
  value.flatMap fun c => if c = 0x5A then py "+00:00" else [c]

/-- `utc.strftime("%Y-%m-%dT%H:%M:%S.") + f"{milliseconds:03d}Z"` of an instant in
    microseconds. -/
def formatUtc (micros : ℤ) : PyString :=
  let (year, month, day) := Date.civil (micros / 1000 / Date.msPerDay)
  let ms := (micros / 1000 % Date.msPerDay).toNat
  R.strftimeYear year ++ codePoints (0x2D :: Date.padded 2 month.toNat ++ 0x2D ::
    Date.padded 2 day.toNat ++ 0x54 :: Date.padded 2 (ms / 3600000) ++ 0x3A ::
    Date.padded 2 (ms / 60000 % 60) ++ 0x3A :: Date.padded 2 (ms / 1000 % 60) ++ 0x2E ::
    Date.padded 3 (ms % 1000) ++ [0x5A])

/-- `_normalise_occurred_at(value)`. -/
def normaliseOccurredAt (value : Option PyValue) : Except PyError PyString :=
  match value with
  | some (.str s) =>
    match R.fromisoformat (replaceZ s) with
    | some (micros, aware) => do
      assert aware (py "occurred_at must include an offset")
      .ok (formatUtc R micros)
    | none => .error (.valueError (py "Invalid isoformat string"))
  | _ => .error (.valueError (py "occurred_at must be an ISO date-time"))

/-- `_assert(ID_PATTERN.fullmatch(value) is not None, message)`. -/
def matchIdentifier (value : Option PyValue) (message : PyString) : Except PyError PyString :=
  match value with
  | some (.str s) => do
    assert (ID_PATTERN s) message
    .ok s
  | _ => .error .typeError

/-- `_assert(HASH_PATTERN.fullmatch(value) is not None, message)`. -/
def matchHash (value : Option PyValue) (message : PyString) : Except PyError HashText :=
  match value with
  | some (.str s) =>
    if h : HASH_PATTERN s = true then .ok ⟨s, h⟩ else .error (.valueError message)
  | _ => .error .typeError

/-- `set(receipt) == expected`. -/
def hasExactKeys (es : List (PyString × PyValue)) (expected : List PyString) : Bool :=
  (es.map Prod.fst).all (expected.contains ·) && expected.all ((es.map Prod.fst).contains ·)

/-- The body of the `for` loop over receipts. -/
def normaliseReceipt (receipt : PyValue) : Except PyError BatchReceipt :=
  match receipt with
  | .dict es => do
    assert (hasExactKeys es [py "receipt_id", py "commitment_hash", py "occurred_at"])
      (py "Batch receipt has missing or unknown fields")
    let receiptId ← matchIdentifier (es.lookup (py "receipt_id"))
      (py "receipt_id has an invalid format")
    let commitmentHash ← matchHash (es.lookup (py "commitment_hash"))
      (py "commitment_hash must be a lowercase SHA-256 hash")
    let occurredAt ← normaliseOccurredAt R (es.lookup (py "occurred_at"))
    .ok { receiptId, commitmentHash, occurredAt }
  | _ => .error (.valueError (py "Batch receipt must be an object"))

/-- The order of the sort key `(item["occurred_at"], item["receipt_id"])`. -/
def compareReceipts (left right : BatchReceipt) : Ordering :=
  (compare left.occurredAt right.occurredAt).then (compare left.receiptId right.receiptId)

/-- `ordered.sort(key=...)`: stable. -/
def sortReceipts (receipts : List BatchReceipt) : List BatchReceipt :=
  receipts.insertionSort fun a b => compareReceipts a b ≠ .gt

/-- The part of `build_merkle_batch` after the receipts are ordered. -/
def batchOf (ordered : List BatchReceipt) : Except PyError MerkleBatch := do
  assert ((ordered.map (·.receiptId)).dedup.length = ordered.length)
    (py "Duplicate receipt_id in batch")
  assert ((ordered.map (·.commitmentHash)).dedup.length = ordered.length)
    (py "Duplicate commitment_hash in batch")
  let leafHashes := ordered.map fun receipt => hashMerkleLeaf R.hash receipt.commitmentHash
  match buildTree (hashMerkleNode R.hash) leafHashes with
  | ([], _) => .error (.valueError (py "level is empty"))  -- never reached
  | (root :: _, proofs) =>
    .ok {
      schemaVersion := py "pom-batch/0.1"
      treeAlgorithm := py "sha256-domain-separated-duplicate-last"
      ordering := py "occurred_at-asc,receipt_id-asc"
      batchRef := py "pom-" ++ root.hash.val.take 24
      leafCount := ordered.length
      merkleRoot := root.hash
      leaves := ordered.mapIdx fun index receipt =>
        ⟨receipt, index, hashMerkleLeaf R.hash receipt.commitmentHash, proofs.getD index []⟩ }

/-- `build_merkle_batch(receipts)`. -/
def buildMerkleBatch (receipts : PyValue) : Except PyError MerkleBatch :=
  match receipts with
  | .list rs => do
    assert (0 < rs.length) (py "A batch requires at least one receipt")
    assert (rs.length ≤ 10000) (py "A batch cannot exceed 10,000 receipts")
    let normalised ← rs.mapM (normaliseReceipt R)
    batchOf R (sortReceipts normalised)
  | _ => .error (.valueError (py "A batch requires at least one receipt"))

end Model

end OpenRisk.PySdk
