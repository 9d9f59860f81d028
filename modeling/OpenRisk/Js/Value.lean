import OpenRisk.Js.Number

/-!
# JavaScript data values and `JSON.parse`

`JsValue` is the plain data a JavaScript program exchanges: primitives, dense
arrays and plain objects. An object lists its own enumerable properties in the
order `Object.entries` gives them: array indices ascending, then the other names
in order of creation. A property that is absent is `none` where it is read.

`jsonParse` is `JSON.parse`: it reads the text and creates the properties one
after another, so a repeated name keeps its first place and its last value.
-/

namespace OpenRisk

open Text

/-- Plain JavaScript data. -/
inductive JsValue where
  | null
  | bool (b : Bool)
  | number (x : JsNumber)
  | string (s : JsString)
  | array (xs : List JsValue)
  | object (es : List (JsString × JsValue))

namespace JsValue

/-! ## Induction and well-formedness -/

mutual

/-- Induction over a value, with one hypothesis for all elements or properties. -/
theorem induct {P : JsValue → Prop} (null : P .null) (bool : ∀ b, P (.bool b))
    (number : ∀ x, P (.number x)) (string : ∀ s, P (.string s))
    (array : ∀ xs, (∀ x ∈ xs, P x) → P (.array xs))
    (object : ∀ es, (∀ e ∈ es, P e.2) → P (.object es)) : ∀ v, P v
  | .null => null
  | .bool b => bool b
  | .number x => number x
  | .string s => string s
  | .array xs => array xs (inductElements null bool number string array object xs)
  | .object es => object es (inductEntries null bool number string array object es)

theorem inductElements {P : JsValue → Prop} (null : P .null) (bool : ∀ b, P (.bool b))
    (number : ∀ x, P (.number x)) (string : ∀ s, P (.string s))
    (array : ∀ xs, (∀ x ∈ xs, P x) → P (.array xs))
    (object : ∀ es, (∀ e ∈ es, P e.2) → P (.object es)) : ∀ xs : List JsValue, ∀ x ∈ xs, P x
  | [], _, h => by cases h
  | y :: ys, x, h => by
    rcases List.mem_cons.mp h with h | h
    · rw [h]; exact induct null bool number string array object y
    · exact inductElements null bool number string array object ys x h

theorem inductEntries {P : JsValue → Prop} (null : P .null) (bool : ∀ b, P (.bool b))
    (number : ∀ x, P (.number x)) (string : ∀ s, P (.string s))
    (array : ∀ xs, (∀ x ∈ xs, P x) → P (.array xs))
    (object : ∀ es, (∀ e ∈ es, P e.2) → P (.object es)) :
    ∀ es : List (JsString × JsValue), ∀ e ∈ es, P e.2
  | [], _, h => by cases h
  | (_, y) :: ys, e, h => by
    rcases List.mem_cons.mp h with h | h
    · rw [h]; exact induct null bool number string array object y
    · exact inductEntries null bool number string array object ys e h

end

mutual

/-- No object of the value repeats a property name. -/
def UniqueKeys : JsValue → Prop
  | .array xs => UniqueElements xs
  | .object es => (es.map Prod.fst).Nodup ∧ UniqueEntries es
  | _ => True

def UniqueElements : List JsValue → Prop
  | [] => True
  | x :: xs => UniqueKeys x ∧ UniqueElements xs

def UniqueEntries : List (JsString × JsValue) → Prop
  | [] => True
  | (_, x) :: es => UniqueKeys x ∧ UniqueEntries es

end

theorem uniqueElements_iff {xs : List JsValue} :
    UniqueElements xs ↔ ∀ x ∈ xs, UniqueKeys x := by
  induction xs with
  | nil => simp [UniqueElements]
  | cons x xs ih => simp [UniqueElements, ih]

theorem uniqueEntries_iff {es : List (JsString × JsValue)} :
    UniqueEntries es ↔ ∀ e ∈ es, UniqueKeys e.2 := by
  induction es with
  | nil => simp [UniqueEntries]
  | cons e es ih => simp [UniqueEntries, ih]

/-- `value && typeof value === 'object' && !Array.isArray(value)`. -/
def isObject : JsValue → Bool
  | .object _ => true
  | _ => false

theorem isObject_iff {v : JsValue} : v.isObject = true ↔ ∃ es, v = .object es := by
  cases v <;> simp [isObject]

/-- `value[key]` of a plain object, `none` for `undefined`. -/
def get (v : JsValue) (key : JsString) : Option JsValue :=
  match v with
  | .object es => es.lookup key
  | _ => none

end JsValue

/-- A JavaScript data value in which property names are unique, as in every value
    the language can build. -/
structure JsData where
  value : JsValue
  unique : value.UniqueKeys

/-! ## Property creation -/

/-- The index of an array-index property name: a canonical decimal below `2^32 - 1`. -/
def arrayIndex (k : JsString) : Option ℕ :=
  if k ≠ [] ∧ k.all Json.isDigit ∧ Json.decimal (Json.radixValue 10 k) = k ∧
      Json.radixValue 10 k < 2 ^ 32 - 1 then
    some (Json.radixValue 10 k)
  else none

/-- The name is an array index below `i`. -/
def indexBelow (i : ℕ) (k : JsString) : Bool :=
  match arrayIndex k with
  | some j => j < i
  | none => false

/-- `CreateDataProperty`: a new name takes its place in property order, a name that
    exists keeps its place. -/
def putProperty {α : Type} (es : List (JsString × α)) (k : JsString) (v : α) :
    List (JsString × α) :=
  if k ∈ es.map Prod.fst then es.map fun e => if e.1 = k then (k, v) else e
  else
    match arrayIndex k with
    | some i =>
      es.takeWhile (fun e => indexBelow i e.1) ++ (k, v) :: es.dropWhile (fun e => indexBelow i e.1)
    | none => es ++ [(k, v)]

/-- The properties of an object created from a list of members. -/
def ownProperties {α : Type} (ms : List (JsString × α)) : List (JsString × α) :=
  ms.foldl (fun es m => putProperty es m.1 m.2) []

theorem putProperty_perm {α : Type} {es : List (JsString × α)} {k : JsString} (v : α)
    (h : k ∉ es.map Prod.fst) : (putProperty es k v).Perm (es ++ [(k, v)]) := by
  rw [putProperty, if_neg h]
  cases arrayIndex k with
  | none => exact .refl _
  | some i =>
    refine List.perm_middle.trans ?_
    rw [List.takeWhile_append_dropWhile]
    exact (List.perm_append_singleton _ _).symm

theorem foldl_putProperty_perm {α : Type} (ms es : List (JsString × α))
    (h : ((es ++ ms).map Prod.fst).Nodup) :
    (ms.foldl (fun es m => putProperty es m.1 m.2) es).Perm (es ++ ms) := by
  induction ms generalizing es with
  | nil => simp
  | cons m ms ih =>
    have hm : m.1 ∉ es.map Prod.fst := by
      rw [List.map_append, List.map_cons] at h
      exact fun hmem => (List.nodup_append.mp h).2.2 _ hmem _ (by simp) rfl
    have hp := putProperty_perm m.2 hm
    have happ : (es ++ [(m.1, m.2)] ++ ms) = es ++ m :: ms := by simp
    have hnd : ((putProperty es m.1 m.2 ++ ms).map Prod.fst).Nodup := by
      have := (hp.append_right ms).map Prod.fst
      rw [this.nodup_iff, happ]
      exact h
    have := (ih _ hnd).trans (hp.append_right ms)
    rwa [happ] at this

/-- Distinct members all become properties. -/
theorem ownProperties_perm {α : Type} {ms : List (JsString × α)} (h : (ms.map Prod.fst).Nodup) :
    (ownProperties ms).Perm ms := by
  simpa [ownProperties] using foldl_putProperty_perm ms [] (by simpa using h)

/-! ## `JSON.parse` -/

mutual

/-- The value a JSON text denotes in JavaScript. -/
def Json.toJs : Json → JsValue
  | .null => .null
  | .bool b => .bool b
  | .number t => .number (JsNumber.numberOfToken t)
  | .string s => .string s
  | .array xs => .array (elementsToJs xs)
  | .object ms => .object (ownProperties (membersToJs ms))

def elementsToJs : List Json → List JsValue
  | [] => []
  | x :: xs => x.toJs :: elementsToJs xs

def membersToJs : List (JsString × Json) → List (JsString × JsValue)
  | [] => []
  | (k, x) :: ms => (k, x.toJs) :: membersToJs ms

end

/-- `JSON.parse(text)`, `none` where it throws. -/
def jsonParse (text : JsString) : Option JsValue := (Json.parse text).map Json.toJs

theorem elementsToJs_eq (xs : List Json) : elementsToJs xs = xs.map Json.toJs := by
  induction xs with
  | nil => rfl
  | cons x xs ih => rw [elementsToJs, ih]; rfl

theorem membersToJs_eq (ms : List (JsString × Json)) :
    membersToJs ms = ms.map fun m => (m.1, m.2.toJs) := by
  induction ms with
  | nil => rfl
  | cons m ms ih => rw [membersToJs, ih]; rfl

theorem map_fst_membersToJs (ms : List (JsString × Json)) :
    (membersToJs ms).map Prod.fst = ms.map Prod.fst := by
  rw [membersToJs_eq, List.map_map]; rfl

/-! ## Conversion to a string -/

mutual

/-- `String(value)`: an array joins its elements with commas, `null` written as nothing. -/
def JsValue.toText : JsValue → JsString
  | .null => js "null"
  | .bool true => js "true"
  | .bool false => js "false"
  | .number x => x.text
  | .string s => s
  | .array xs => joinTexts xs
  | .object _ => js "[object Object]"

def elementText : JsValue → JsString
  | .null => []
  | .bool true => js "true"
  | .bool false => js "false"
  | .number x => x.text
  | .string s => s
  | .array xs => joinTexts xs
  | .object _ => js "[object Object]"

def joinTexts : List JsValue → JsString
  | [] => []
  | [x] => elementText x
  | x :: y :: xs => elementText x ++ 0x2C :: joinTexts (y :: xs)

end

/-- `PATTERN.test(value)`: the value is converted to a string first. -/
def testPattern (pattern : JsString → Bool) (value : Option JsValue) : Bool :=
  pattern ((value.map JsValue.toText).getD (js "undefined"))

theorem testPattern_string (pattern : JsString → Bool) (s : JsString) :
    testPattern pattern (some (.string s)) = pattern s := by
  simp [testPattern, JsValue.toText]

end OpenRisk
