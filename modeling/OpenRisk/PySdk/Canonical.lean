import OpenRisk.Sdk.Canonical
import OpenRisk.Json.Data

/-!
# `canonicalize_payload` of the Python SDK

Model of the payload profile of `sdk/python/swisstokint_proof.py` (lines 22–123):
`_validate_safe_value`, `_canonicalize_value` and `canonicalize_payload`. Python
strings are sequences of code points, integers are unbounded, a number with a
fraction or an exponent is a `float`, and `str.encode` raises on a surrogate.

The source rejects a value that is neither of the types below nor a `dict` with
"Payload contains an unsupported value"; `json.loads` returns no such value.
-/

namespace OpenRisk

open Text

/-! ## Python values -/

/-- A Python `str`. -/
abbrev PyString := List CodePoint

/-- The code points of a literal of this development. -/
def py (s : String) : PyString := codePoints (js s)

/-- The values `json.loads` returns. A `dict` lists its items in insertion order. -/
inductive PyValue where
  | none
  | bool (b : Bool)
  | int (n : ℤ)
  | float (x : JsNumber)
  | str (s : PyString)
  | list (xs : List PyValue)
  | dict (es : List (PyString × PyValue))

/-- `d[key] = value`: an existing key keeps its place. -/
def setItem {α : Type} (es : List (PyString × α)) (k : PyString) (v : α) : List (PyString × α) :=
  if k ∈ es.map Prod.fst then es.map fun e => if e.1 = k then (k, v) else e else es ++ [(k, v)]

/-- The `dict` of a list of items. -/
def dictOf {α : Type} (ms : List (PyString × α)) : List (PyString × α) :=
  ms.foldl (fun es m => setItem es m.1 m.2) []

mutual

/-- The value `json.loads` gives for a JSON value. -/
def Json.toPy : Json → PyValue
  | .null => .none
  | .bool b => .bool b
  | .number t =>
    if t.isInteger then .int (JsNumber.tokenInt t) else .float (JsNumber.numberOfToken t)
  | .string s => .str (codePoints s)
  | .array xs => .list (elementsToPy xs)
  | .object ms => .dict (dictOf (membersToPy ms))

def elementsToPy : List Json → List PyValue
  | [] => []
  | x :: xs => x.toPy :: elementsToPy xs

def membersToPy : List (JsString × Json) → List (PyString × PyValue)
  | [] => []
  | (k, x) :: ms => (codePoints k, x.toPy) :: membersToPy ms

end

theorem foldl_setItem_eq {α : Type} (ms es : List (PyString × α))
    (h : ((es ++ ms).map Prod.fst).Nodup) :
    ms.foldl (fun es m => setItem es m.1 m.2) es = es ++ ms := by
  induction ms generalizing es with
  | nil => simp
  | cons m ms ih =>
    have hm : m.1 ∉ es.map Prod.fst := by
      rw [List.map_append, List.map_cons] at h
      exact fun hmem => (List.nodup_append.mp h).2.2 _ hmem _ (by simp) rfl
    rw [List.foldl_cons, setItem, if_neg hm, ih _ (by simpa using h), List.append_assoc]
    rfl

theorem elementsToPy_eq (xs : List Json) : elementsToPy xs = xs.map Json.toPy := by
  induction xs with
  | nil => rfl
  | cons x xs ih => rw [elementsToPy, ih]; rfl

theorem membersToPy_eq (ms : List (JsString × Json)) :
    membersToPy ms = ms.map fun m => (codePoints m.1, m.2.toPy) := by
  induction ms with
  | nil => rfl
  | cons m ms ih => rw [membersToPy, ih]; rfl

/-- Distinct names all become items. -/
theorem dictOf_membersToPy {ms : List (JsString × Json)} (h : (ms.map Prod.fst).Nodup) :
    dictOf (membersToPy ms) = membersToPy ms := by
  have hkeys : ((membersToPy ms).map Prod.fst).Nodup := by
    have : (membersToPy ms).map Prod.fst = (ms.map Prod.fst).map codePoints := by
      rw [membersToPy_eq, List.map_map, List.map_map]
      rfl
    rw [this]
    exact h.map codePoints_injective
  rw [dictOf, foldl_setItem_eq _ _ (by simpa using hkeys)]
  rfl

end OpenRisk

namespace OpenRisk.PySdk

open Text

/-! ## Model of the SDK -/

/-- What the SDK raises: `ValueError(message)` from `_assert`, the `UnicodeEncodeError` of
    `str.encode`, or the `TypeError` of a pattern match on a value that is no string. -/
inductive PyError where
  | valueError (message : PyString)
  | unicodeEncodeError
  | typeError
  deriving DecidableEq

def MAX_DEPTH : ℕ := 8

def MAX_STRING_LENGTH : ℕ := 2048

def MAX_CANONICAL_BYTES : ℕ := 16 * 1024

def MAX_SAFE_INTEGER : ℕ := 9007199254740991

/-- A character class of ASCII characters, on code points. -/
def inClass (p : UInt16 → Bool) (c : CodePoint) : Bool := c.val < 0x80 && p c.val.toUInt16

/-- `PAYLOAD_KEY_PATTERN.fullmatch(key)` with `^[A-Za-z0-9_.-]{1,64}$`. -/
def PAYLOAD_KEY_PATTERN (key : PyString) : Bool :=
  1 ≤ key.length && key.length ≤ 64 && key.all (inClass Sdk.isKeyUnit)

def SENSITIVE_PAYLOAD_KEYS : List PyString :=
  ["apikey", "apisecret", "accesskey", "accesssecret", "accesstoken", "refreshtoken", "password",
    "secret", "privatekey", "seedphrase", "mnemonic", "email", "phone", "walletaddress", "balance",
    "accountbalance", "accountid", "userid", "position", "positions"].map py

/-- `_assert(condition, message)`. -/
def assert (condition : Bool) (message : PyString) : Except PyError Unit :=
  if condition then .ok () else .error (.valueError message)

/-- `str.lower` on the ASCII letters; the source applies it to keys that match
    `PAYLOAD_KEY_PATTERN`. -/
def lowerAscii (s : PyString) : PyString :=
  s.map fun c => if inClass Sdk.isUpperAlpha c then Fin.ofNat 0x110000 (c.val + 0x20) else c

/-- `json.dumps` of a character with `ensure_ascii=False`: the table `ESCAPE_DCT`. -/
def dumpsEscape (c : CodePoint) : PyString :=
  if c.val = 0x5C then [0x5C, 0x5C]
  else if c.val = 0x22 then [0x5C, 0x22]
  else if c.val = 0x08 then [0x5C, 0x62]
  else if c.val = 0x0C then [0x5C, 0x66]
  else if c.val = 0x0A then [0x5C, 0x6E]
  else if c.val = 0x0D then [0x5C, 0x72]
  else if c.val = 0x09 then [0x5C, 0x74]
  else if c.val < 0x20 then codePoints (Json.unicodeEscape c.val)
  else [c]

/-- `json.dumps(s, ensure_ascii=False)`. -/
def dumps (s : PyString) : PyString := 0x22 :: (s.flatMap dumpsEscape ++ [0x22])

/-- `s.encode("utf-8")`. -/
def encode (s : PyString) : Except PyError (List UInt8) :=
  if s.any isSurrogate then .error .unicodeEncodeError else .ok (s.flatMap utf8)

/-- `str(n)` of an integer. -/
def strInt (n : ℤ) : PyString := codePoints (Json.decimalInt n)

/-- `",".join(parts)`. -/
def joinComma : List PyString → PyString
  | [] => []
  | [t] => t
  | t :: u :: ts => t ++ 0x2C :: joinComma (u :: ts)

section Model

variable (N : Normalization)

/-- `_normalised_sensitive_key`. -/
def normalisedSensitiveKey (key : PyString) : PyString :=
  (lowerAscii (N.nfkc key)).filter (inClass fun u => Sdk.isLowerAlpha u || Json.isDigit u)

/-- The two checks of a key in `_validate_safe_value`. -/
def validateKey (key : PyString) : Except PyError Unit := do
  assert (PAYLOAD_KEY_PATTERN key) (py "Unsafe payload key: " ++ key)
  assert (!SENSITIVE_PAYLOAD_KEYS.contains (normalisedSensitiveKey N key))
    (py "Sensitive payload key: " ++ key)

/-- The checks on entry, and `budget[0] -= 1`. -/
def enterNode (depth budget : ℕ) : Except PyError ℕ := do
  assert (depth ≤ MAX_DEPTH) (py "Payload exceeds the maximum depth")
  assert (0 < budget) (py "Payload exceeds the maximum node count")
  .ok (budget - 1)

mutual

/-- `_validate_safe_value(value, depth, budget)`, returning `budget[0]`. -/
def validateSafeValue (depth budget : ℕ) : PyValue → Except PyError ℕ
  | .none => enterNode depth budget
  | .bool _ => enterNode depth budget
  | .str s => do
    let budget ← enterNode depth budget
    assert (s.length ≤ MAX_STRING_LENGTH) (py "Payload string is too long")
    .ok budget
  | .int n => do
    let budget ← enterNode depth budget
    assert (n.natAbs ≤ MAX_SAFE_INTEGER) (py "Payload integer exceeds the safe range")
    .ok budget
  | .float _ => do
    let budget ← enterNode depth budget
    assert false (py "Payload numbers must be safe integers")
    .ok budget
  | .list xs => do
    let budget ← enterNode depth budget
    validateItems (depth + 1) budget xs
  | .dict es => do
    let budget ← enterNode depth budget
    validateEntries (depth + 1) budget es

def validateItems (depth budget : ℕ) : List PyValue → Except PyError ℕ
  | [] => .ok budget
  | x :: xs => do
    let budget ← validateSafeValue depth budget x
    validateItems depth budget xs

def validateEntries (depth budget : ℕ) : List (PyString × PyValue) → Except PyError ℕ
  | [] => .ok budget
  | (key, x) :: es => do
    validateKey N key
    let budget ← validateSafeValue depth budget x
    validateEntries depth budget es

end

/-- The order of `sorted` on keys: by code points. -/
def keyLE {α : Type} (a b : PyString × α) : Prop := compare a.1 b.1 ≠ .gt

instance {α : Type} : DecidableRel (keyLE (α := α)) := fun a b =>
  inferInstanceAs (Decidable (compare a.1 b.1 ≠ .gt))

mutual

/-- `_canonicalize_value(value)`. The items are rendered first and then sorted by key,
    as the keys of a `dict` are unique; a `float` has no branch of its own in the
    source and never reaches it. -/
def canonicalizeValue : PyValue → PyString
  | .none => py "null"
  | .bool true => py "true"
  | .bool false => py "false"
  | .int n => strInt n
  | .float _ => []
  | .str s => dumps (N.nfc s)
  | .list xs => 0x5B :: (joinComma (canonicalizeItems xs) ++ [0x5D])
  | .dict es =>
    0x7B :: (joinComma (((canonicalizeEntries es).insertionSort keyLE).map
      fun e => dumps e.1 ++ 0x3A :: e.2) ++ [0x7D])

def canonicalizeItems : List PyValue → List PyString
  | [] => []
  | x :: xs => canonicalizeValue x :: canonicalizeItems xs

def canonicalizeEntries : List (PyString × PyValue) → List (PyString × PyString)
  | [] => []
  | (key, x) :: es => (key, canonicalizeValue x) :: canonicalizeEntries es

end

/-- `isinstance(value, dict)`. -/
def isDict : PyValue → Bool
  | .dict _ => true
  | _ => false

/-- `canonicalize_payload(payload)`. -/
def canonicalizePayload (payload : PyValue) : Except PyError PyString := do
  assert (isDict payload) (py "Payload must be a JSON object")
  let _ ← validateSafeValue N 0 1000 payload
  let canonical := canonicalizeValue N payload
  let bytes ← encode canonical
  assert (bytes.length ≤ MAX_CANONICAL_BYTES) (py "Canonical payload exceeds 16 KiB")
  .ok canonical

end Model

end OpenRisk.PySdk
