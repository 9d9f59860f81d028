import OpenRisk.Js.Host
import OpenRisk.Sdk.Canonical

/-!
# `captureReferencePlainData`

Model of `core/reference-data/plain-data-snapshot.mjs`: the copy of a value into frozen
plain data that shares no object with it. The recursion is on `room`, the number of
levels that are left: `room = max_depth + 1 - depth`.

The model returns the captured value together with `budget.remaining`.

Results:
* `captureReferencePlainData_ofData`: the copy of plain data is the same data.
-/

namespace OpenRisk.Core

open Text

/-- `REFERENCE_PLAIN_DATA_LIMITS`. -/
def maxDepth : ℕ := 8

def maxNodes : ℕ := 1000

def maxStringLength : ℕ := 16384

def maxKeyLength : ℕ := 128

def maxArrayLength : ℕ := 1000

/-- `PomRxPlainDataError`. -/
structure PlainDataError where
  code : JsString
  message : JsString
  deriving DecidableEq

/-- Letters, digits and the characters `_`, `.`, `:`, `/`, `-`. -/
def isSafeKeyUnit (u : UInt16) : Bool := Sdk.isKeyUnit u || u = 0x3A || u = 0x2F

/-- `SAFE_KEY_PATTERN`. -/
def SAFE_KEY_PATTERN (key : JsString) : Bool :=
  1 ≤ key.length && key.length ≤ 128 && key.all isSafeKeyUnit

/-- The test of a key in `captureObject`. -/
def isSafeKey (key : JsString) : Bool :=
  key.length ≤ maxKeyLength && SAFE_KEY_PATTERN key && key != js "__proto__" &&
    key != js "constructor" && key != js "prototype"

/-- `fail(code, message)`. -/
def failData {α : Type} (code message : JsString) : Except PlainDataError α := .error ⟨code, message⟩

section Loops

variable (capture : HostValue → JsString → ℕ → Except PlainDataError (JsValue × ℕ))
variable (properties : List (JsString × Property HostValue)) (label : JsString)

/-- The loop over the indices of an array. -/
def captureElements : List ℕ → ℕ → Except PlainDataError (List JsValue × ℕ)
  | [], budget => .ok ([], budget)
  | index :: rest, budget =>
    match properties.lookup (Json.decimal index) with
    | none => failData (js "POMRX_DATA_E_ARRAY")
        (label ++ js " must contain every array index as an own property")
    | some property =>
      match property.enumerableData with
      | none => failData (js "POMRX_DATA_E_ARRAY") (label ++ js " must contain dense data elements only")
      | some value => do
        let (x, budget) ← capture value (label ++ 0x5B :: Json.decimal index ++ [0x5D]) budget
        let (xs, budget) ← captureElements rest budget
        .ok (x :: xs, budget)

/-- The loop over the names of an object. -/
def captureMembers : List (JsString × Property HostValue) → ℕ →
    Except PlainDataError (List (JsString × JsValue) × ℕ)
  | [], budget => .ok ([], budget)
  | (key, property) :: rest, budget =>
    if isSafeKey key then
      match property.enumerableData with
      | none => failData (js "POMRX_DATA_E_ACCESSOR")
          (label ++ 0x2E :: key ++ js " must be an enumerable data property")
      | some value => do
        let (x, budget) ← capture value (label ++ 0x2E :: key) budget
        let (es, budget) ← captureMembers rest budget
        .ok ((key, x) :: es, budget)
    else failData (js "POMRX_DATA_E_KEY") (label ++ js " contains an unsafe key: " ++ key)

/-- `captureArray`. -/
def captureArray (length : ℕ) (r : Reflection HostValue) (budget : ℕ) :
    Except PlainDataError (JsValue × ℕ) :=
  if r.prototype ≠ .array then
    failData (js "POMRX_DATA_E_PROTOTYPE") (label ++ js " must use Array.prototype")
  else if r.hasSymbols then
    failData (js "POMRX_DATA_E_SYMBOL") (label ++ js " cannot contain symbol keys")
  else if maxArrayLength < length then
    failData (js "POMRX_DATA_E_ARRAY") (label ++ js " has an invalid array length")
  else if budget < length then
    failData (js "POMRX_DATA_E_NODES") (label ++ js " exceeds the remaining node budget")
  else if r.names.length ≠ length then
    failData (js "POMRX_DATA_E_ARRAY") (label ++ js " must be a dense undecorated array")
  else do
    let (xs, budget) ← captureElements capture r.properties label (List.range length) budget
    .ok (.array xs, budget)

/-- `captureObject`. -/
def captureObject (r : Reflection HostValue) (budget : ℕ) :
    Except PlainDataError (JsValue × ℕ) :=
  if r.prototype ≠ .plain then
    failData (js "POMRX_DATA_E_PROTOTYPE") (label ++ js " must be a plain object")
  else if r.hasSymbols then
    failData (js "POMRX_DATA_E_SYMBOL") (label ++ js " cannot contain symbol keys")
  else if budget < r.names.length then
    failData (js "POMRX_DATA_E_NODES") (label ++ js " exceeds the remaining node budget")
  else do
    let (es, budget) ← captureMembers capture label r.properties budget
    .ok (.object es, budget)

end Loops

/-- `captureValue(value, label, depth, budget)`. -/
def captureValue : (room : ℕ) → HostValue → JsString → ℕ → Except PlainDataError (JsValue × ℕ)
  | 0, _, label, _ => failData (js "POMRX_DATA_E_DEPTH") (label ++ js " exceeds the maximum depth")
  | room + 1, value, label, budget =>
    if budget = 0 then
      failData (js "POMRX_DATA_E_NODES") (label ++ js " exceeds the maximum node count")
    else
      match value with
      | .null => .ok (.null, budget - 1)
      | .bool b => .ok (.bool b, budget - 1)
      | .string s =>
        if maxStringLength < s.length then
          failData (js "POMRX_DATA_E_STRING") (label ++ js " string is too long")
        else .ok (.string s, budget - 1)
      | .number x =>
        if x.isSafeInteger then .ok (.number x, budget - 1)
        else failData (js "POMRX_DATA_E_NUMBER") (label ++ js " must be a safe integer")
      | .undefined => failData (js "POMRX_DATA_E_TYPE") (label ++ js " contains an unsupported value")
      | .other => failData (js "POMRX_DATA_E_TYPE") (label ++ js " contains an unsupported value")
      | .proxy _ => failData (js "POMRX_DATA_E_PROXY") (label ++ js " cannot be a Proxy")
      | .object r =>
        match r.kind with
        | .array length => captureArray (captureValue room) label length r (budget - 1)
        | .record => captureObject (captureValue room) label r (budget - 1)

/-- `captureReferencePlainData(value, label)` with a label of 1 to 128 characters. -/
def captureReferencePlainData (value : HostValue) (label : JsString) : Except PlainDataError JsValue :=
  (captureValue (maxDepth + 1) value label maxNodes).map Prod.fst

/-! ## Copies of plain data -/

theorem lookup_ofItems {i : ℕ} {xs : List JsValue} {j : ℕ} {x : JsValue} (h : xs[j]? = some x) :
    (HostValue.ofItems i xs).lookup (Json.decimal (i + j)) = some (.data true (.ofData x)) := by
  induction xs generalizing i j with
  | nil => simp at h
  | cons y xs ih =>
    rw [HostValue.ofItems, List.lookup_cons]
    cases j with
    | zero =>
      rw [List.getElem?_cons_zero] at h
      cases h
      simp
    | succ j =>
      have hne : Json.decimal (i + (j + 1)) ≠ Json.decimal i := by
        intro heq
        have := Json.decimal_injective heq
        omega
      rw [List.getElem?_cons_succ] at h
      rw [beq_eq_false_iff_ne.mpr hne, show i + (j + 1) = (i + 1) + j by omega]
      exact ih h

section Copy

variable {capture : HostValue → JsString → ℕ → Except PlainDataError (JsValue × ℕ)}

theorem captureElements_ofItems {properties : List (JsString × Property HostValue)} {label : JsString}
    {xs ys : List JsValue} {i budget rest : ℕ}
    (hitem : ∀ x ∈ xs, ∀ l c y d, capture (.ofData x) l c = .ok (y, d) → y = x)
    (hlookup : ∀ j x, xs[j]? = some x →
      properties.lookup (Json.decimal (i + j)) = some (.data true (.ofData x)))
    (h : captureElements capture properties label (List.range' i xs.length) budget = .ok (ys, rest)) :
    ys = xs := by
  induction xs generalizing i ys budget with
  | nil =>
    cases h
    rfl
  | cons x xs ih =>
    rw [List.length_cons, List.range'_succ, captureElements] at h
    have hx := hlookup 0 x rfl
    rw [Nat.add_zero] at hx
    rw [hx] at h
    simp only [Property.enumerableData] at h
    obtain ⟨⟨y, c⟩, hy, h⟩ := bind_eq_ok.mp h
    obtain ⟨⟨zs, d⟩, hzs, h⟩ := bind_eq_ok.mp h
    cases h
    rw [hitem x List.mem_cons_self _ _ _ _ hy]
    congr 1
    refine ih (fun z hz => hitem z (List.mem_cons_of_mem x hz)) ?_ hzs
    intro j z hz
    rw [Nat.add_right_comm, Nat.add_assoc]
    exact hlookup (j + 1) z (by simpa using hz)

theorem captureMembers_ofEntries {label : JsString} {es fs : List (JsString × JsValue)}
    {budget rest : ℕ}
    (hmember : ∀ e ∈ es, ∀ l c y d, capture (.ofData e.2) l c = .ok (y, d) → y = e.2)
    (h : captureMembers capture label (HostValue.ofEntries es) budget = .ok (fs, rest)) : fs = es := by
  induction es generalizing fs budget with
  | nil =>
    cases h
    rfl
  | cons e es ih =>
    obtain ⟨k, x⟩ := e
    rw [HostValue.ofEntries, captureMembers] at h
    simp only [Property.enumerableData] at h
    split_ifs at h
    · obtain ⟨⟨y, c⟩, hy, h⟩ := bind_eq_ok.mp h
      obtain ⟨⟨gs, d⟩, hgs, h⟩ := bind_eq_ok.mp h
      cases h
      rw [hmember (k, x) List.mem_cons_self _ _ _ _ hy,
        ih (fun e he => hmember e (List.mem_cons_of_mem _ he)) hgs]
    · cases h

end Copy

theorem captureValue_ofData (room : ℕ) (v : JsValue) (label : JsString) (budget : ℕ) (w : JsValue)
    (rest : ℕ) (h : captureValue room (.ofData v) label budget = .ok (w, rest)) : w = v := by
  induction room generalizing v label budget w rest with
  | zero => cases h
  | succ room ih =>
    cases v with
    | null =>
      simp only [HostValue.ofData, captureValue] at h
      split_ifs at h <;> cases h
      rfl
    | bool b =>
      simp only [HostValue.ofData, captureValue] at h
      split_ifs at h <;> cases h
      rfl
    | number x =>
      simp only [HostValue.ofData, captureValue] at h
      split_ifs at h <;> cases h
      rfl
    | string s =>
      simp only [HostValue.ofData, captureValue] at h
      split_ifs at h <;> cases h
      rfl
    | array xs =>
      simp only [HostValue.ofData, captureValue, captureArray] at h
      split_ifs at h <;> try cases h
      obtain ⟨⟨ys, c⟩, hys, h⟩ := bind_eq_ok.mp h
      cases h
      rw [List.range_eq_range'] at hys
      rw [captureElements_ofItems (fun x _ => ih x) (fun j x hx => lookup_ofItems hx) hys]
    | object es =>
      simp only [HostValue.ofData, captureValue, captureObject] at h
      split_ifs at h <;> try cases h
      obtain ⟨⟨fs, c⟩, hfs, h⟩ := bind_eq_ok.mp h
      cases h
      rw [captureMembers_ofEntries (fun e _ => ih e.2) hfs]

/-- The copy of plain data is the same data. -/
theorem captureReferencePlainData_ofData {v w : JsValue} {label : JsString}
    (h : captureReferencePlainData (.ofData v) label = .ok w) : w = v := by
  unfold captureReferencePlainData at h
  cases hc : captureValue (maxDepth + 1) (.ofData v) label maxNodes with
  | error e =>
    rw [hc] at h
    cases h
  | ok r =>
    rw [hc] at h
    cases h
    exact captureValue_ofData _ v label _ _ _ hc

end OpenRisk.Core
