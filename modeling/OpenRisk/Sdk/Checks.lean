import OpenRisk.Crypto.Sha256
import OpenRisk.Js.Date
import OpenRisk.Sdk.Canonical

/-!
# The checks of the receipt SDK

`assert`, `assertHash`, `assertIdentifier` and `normalizeOccurredAt` of
`sdk/typescript/swisstokint-proof.mjs` (lines 48–50 and 154–166), and the comparison
of the property names of a record. A check that a string has a format returns the
string together with the proof that it has.

The argument of a check is `none` where the source reads an absent property.
-/

namespace OpenRisk.Sdk

open Text

/-- A thrown `TypeError`. -/
structure TypeError where
  message : JsString
  deriving DecidableEq

/-- `assert(condition, message)`. -/
def assert (condition : Bool) (message : JsString) : Except TypeError Unit :=
  if condition then .ok () else .error ⟨message⟩

theorem assert_eq_ok {condition : Bool} {message : JsString} {u : Unit} :
    assert condition message = .ok u ↔ condition = true := by
  cases condition <;> simp [assert]

/-- `assertHash(value, field)`. -/
def assertHash (value : Option JsValue) (field : JsString) : Except TypeError HashText :=
  match value with
  | some (.string s) =>
    if h : HASH_PATTERN s = true then .ok ⟨s, h⟩
    else .error ⟨field ++ js " must be a lowercase SHA-256 hash"⟩
  | _ => .error ⟨field ++ js " must be a lowercase SHA-256 hash"⟩

theorem assertHash_eq_ok {value : Option JsValue} {field : JsString} {h : HashText} :
    assertHash value field = .ok h ↔ value = some (.string h.val) := by
  constructor
  · intro hok
    unfold assertHash at hok
    split at hok
    · split_ifs at hok
      cases hok
      rfl
    · cases hok
  · rintro rfl
    have hp := h.property
    rw [assertHash, dif_pos hp]
    rfl

/-- `ID_PATTERN = /^[A-Za-z0-9][A-Za-z0-9._-]{15,127}$/`. -/
def ID_PATTERN (s : JsString) : Bool :=
  match s with
  | [] => false
  | u :: rest =>
    isAlphaNumeric u && rest.all isKeyUnit && 15 ≤ rest.length && rest.length ≤ 127

/-- A string that matches `ID_PATTERN`. -/
def Identifier := { s : JsString // ID_PATTERN s = true }

instance : DecidableEq Identifier :=
  inferInstanceAs (DecidableEq { s : JsString // ID_PATTERN s = true })

theorem Identifier.isKeyUnit_of_mem (i : Identifier) {u : UInt16} (hu : u ∈ i.val) :
    isKeyUnit u = true := by
  obtain ⟨s, hs⟩ := i
  cases s with
  | nil => cases hu
  | cons v rest =>
    simp only [ID_PATTERN, Bool.and_eq_true, List.all_eq_true] at hs
    rcases List.mem_cons.mp hu with rfl | hu
    · simp [isKeyUnit, hs.1.1.1]
    · exact hs.1.1.2 u hu

/-- `assertIdentifier(value, field)`. -/
def assertIdentifier (value : Option JsValue) (field : JsString) : Except TypeError Identifier :=
  match value with
  | some (.string s) =>
    if h : ID_PATTERN s = true then .ok ⟨s, h⟩ else .error ⟨field ++ js " has an invalid format"⟩
  | _ => .error ⟨field ++ js " has an invalid format"⟩

theorem assertIdentifier_eq_ok {value : Option JsValue} {field : JsString} {i : Identifier} :
    assertIdentifier value field = .ok i ↔ value = some (.string i.val) := by
  constructor
  · intro hok
    unfold assertIdentifier at hok
    split at hok
    · split_ifs at hok
      cases hok
      rfl
    · cases hok
  · rintro rfl
    have hp := i.property
    rw [assertIdentifier, dif_pos hp]
    rfl

/-- `normalizeOccurredAt(value)`. -/
def normalizeOccurredAt (P : DateParser) (value : Option JsValue) : Except TypeError JsString :=
  match value with
  | some (.string s) =>
    match P.parse s with
    | some t => .ok (Date.toISOString t)
    | none => .error ⟨js "occurred_at must be an ISO date-time"⟩
  | _ => .error ⟨js "occurred_at must be an ISO date-time"⟩

/-- `value && typeof value === 'object'`. -/
def isObjectLike : JsValue → Bool
  | .object _ => true
  | .array _ => true
  | _ => false

/-- `Object.keys(value)`. -/
def objectKeys : JsValue → List JsString
  | .object es => es.map Prod.fst
  | .array xs => (List.range xs.length).map Json.decimal
  | _ => []

/-- `names.sort()`: by UTF-16 code units. -/
def sortNames (names : List JsString) : List JsString :=
  names.insertionSort fun a b => compare a b ≠ .gt

/-- `JSON.stringify(names)`. -/
def stringifyNames (names : List JsString) : JsString := Json.print (.array (names.map .string))

/-- `JSON.stringify(Object.keys(value).sort()) === JSON.stringify(expectedKeys.sort())`. -/
def hasExactKeys (value : JsValue) (expectedKeys : List JsString) : Bool :=
  stringifyNames (sortNames (objectKeys value)) = stringifyNames (sortNames expectedKeys)

end OpenRisk.Sdk
