import OpenRisk.Js.Value

/-!
# Values at a trust boundary

Code that receives a value from outside inspects it by reflection before it reads it:
`typeof`, `util.types.isProxy`, `Array.isArray`, `Object.getPrototypeOf`,
`Object.getOwnPropertySymbols` and `Object.getOwnPropertyDescriptors`. `HostValue` is a
value as these operations show it. `HostValue.ofData` embeds plain data, and
`snapshotRecord` is the capture of a record with exactly the expected fields, which
several modules of the source write out with their own errors.

The answers of a Proxy are those its traps give; they need not fit together.
-/

namespace OpenRisk

open Text

/-- Prototypes as the code tells them apart: `Object.prototype` or `null`,
    `Array.prototype`, and all others. -/
inductive Prototype where
  | plain
  | array
  | other
  deriving DecidableEq

/-- An own property descriptor. -/
inductive Property (α : Type) where
  | data (enumerable : Bool) (value : α)
  | accessor (enumerable : Bool)

/-- `Array.isArray`, with the length of an array. -/
inductive ObjectKind where
  | array (length : ℕ)
  | record
  deriving DecidableEq

/-- An object under reflection. The `length` of an array is not among the properties. -/
structure Reflection (α : Type) where
  kind : ObjectKind
  prototype : Prototype
  hasSymbols : Bool
  properties : List (JsString × Property α)

/-- A JavaScript value as reflection shows it. -/
inductive HostValue where
  | undefined
  | null
  | bool (b : Bool)
  | number (x : JsNumber)
  | string (s : JsString)
  /-- A function, a symbol or a bigint. -/
  | other
  | object (r : Reflection HostValue)
  /-- A Proxy: what its traps give for `Object.keys` and for reflection, or `none` where
      a trap throws. -/
  | proxy (traps : Option (List JsString × Reflection HostValue))

namespace Property

variable {α : Type}

def enumerable : Property α → Bool
  | .data e _ => e
  | .accessor e => e

/-- The value of an enumerable data property. -/
def enumerableData : Property α → Option α
  | .data true v => some v
  | _ => none

end Property

namespace Reflection

variable {α : Type}

/-- `Object.getOwnPropertyNames`, without the `length` of an array. -/
def names (r : Reflection α) : List JsString := r.properties.map Prod.fst

/-- `Object.keys`. -/
def keys (r : Reflection α) : List JsString :=
  (r.properties.filter fun p => p.2.enumerable).map Prod.fst

end Reflection

namespace HostValue

/-- `typeof value === 'object' && value !== null`. -/
def isObject : HostValue → Bool
  | .object _ => true
  | .proxy _ => true
  | _ => false

mutual

/-- Plain data as reflection shows it. -/
def ofData : JsValue → HostValue
  | .null => .null
  | .bool b => .bool b
  | .number x => .number x
  | .string s => .string s
  | .array xs => .object ⟨.array xs.length, .array, false, ofItems 0 xs⟩
  | .object es => .object ⟨.record, .plain, false, ofEntries es⟩

def ofItems : ℕ → List JsValue → List (JsString × Property HostValue)
  | _, [] => []
  | i, x :: xs => (Json.decimal i, .data true (ofData x)) :: ofItems (i + 1) xs

def ofEntries : List (JsString × JsValue) → List (JsString × Property HostValue)
  | [] => []
  | (k, x) :: es => (k, .data true (ofData x)) :: ofEntries es

end

theorem ofEntries_eq (es : List (JsString × JsValue)) :
    ofEntries es = es.map fun e => (e.1, .data true (ofData e.2)) := by
  induction es with
  | nil => rfl
  | cons e es ih =>
    obtain ⟨k, x⟩ := e
    rw [ofEntries, ih, List.map_cons]

theorem map_fst_ofItems (i : ℕ) (xs : List JsValue) :
    (ofItems i xs).map Prod.fst = (List.range' i xs.length).map Json.decimal := by
  induction xs generalizing i with
  | nil => rfl
  | cons x xs ih => rw [ofItems, List.map_cons, ih, List.length_cons, List.range'_succ, List.map_cons]

end HostValue

/-! ## Records with exact fields -/

/-- What a capture reports for each of its checks. -/
structure RecordErrors (ε : Type) where
  notObject : ε
  array : ε
  prototype : ε
  symbols : ε
  fields : ε
  property : JsString → ε

section Record

variable {ε : Type}

/-- The values of the expected fields, if all are enumerable data properties. -/
def readFields (property : JsString → ε) (properties : List (JsString × Property HostValue)) :
    List JsString → Except ε (List (JsString × HostValue))
  | [] => .ok []
  | key :: rest =>
    match (properties.lookup key).bind Property.enumerableData with
    | some value => do
      let fields ← readFields property properties rest
      .ok ((key, value) :: fields)
    | none => .error (property key)

/-- The fields of a plain object that is no Proxy, where `fits` tests the own names. -/
def snapshotRecord (errors : RecordErrors ε) (fits : List JsString → Bool)
    (expected : List JsString) (value : HostValue) : Except ε (List (JsString × HostValue)) :=
  match value with
  | .object r =>
    if r.kind ≠ .record then .error errors.array
    else if r.prototype ≠ .plain then .error errors.prototype
    else if r.hasSymbols then .error errors.symbols
    else if fits r.names then readFields errors.property r.properties expected
    else .error errors.fields
  | _ => .error errors.notObject

theorem lookup_map_snd {α β : Type} (f : α → β) (key : JsString) (l : List (JsString × α)) :
    (l.map fun e => (e.1, f e.2)).lookup key = (l.lookup key).map f := by
  induction l with
  | nil => rfl
  | cons e l ih =>
    rw [List.map_cons, List.lookup_cons, List.lookup_cons, ih]
    cases key == e.1 <;> rfl

variable {es : List (JsString × JsValue)}

theorem lookup_ofEntries (hnodup : (es.map Prod.fst).Nodup) {e : JsString × JsValue} (he : e ∈ es) :
    (HostValue.ofEntries es).lookup e.1 = some (.data true (.ofData e.2)) := by
  induction es with
  | nil => cases he
  | cons e' es ih =>
    obtain ⟨k, x⟩ := e'
    rw [List.map_cons, List.nodup_cons] at hnodup
    rw [HostValue.ofEntries]
    rcases List.mem_cons.mp he with rfl | hmem
    · exact List.lookup_cons_self
    · have hne : e.1 ≠ k := by
        rintro rfl
        have hkey : e.1 ∈ es.map Prod.fst := List.mem_map_of_mem hmem
        exact hnodup.1 hkey
      rw [List.lookup_cons, beq_eq_false_iff_ne.mpr hne]
      exact ih hnodup.2 hmem

theorem readFields_ofEntries (property : JsString → ε) (hnodup : (es.map Prod.fst).Nodup)
    {fs : List (JsString × JsValue)} (hfs : ∀ e ∈ fs, e ∈ es) :
    readFields property (HostValue.ofEntries es) (fs.map Prod.fst) =
      .ok (fs.map fun e => (e.1, .ofData e.2)) := by
  induction fs with
  | nil => rfl
  | cons e fs ih =>
    rw [List.map_cons, readFields, lookup_ofEntries hnodup (hfs e List.mem_cons_self)]
    simp only [Option.bind_some, Property.enumerableData]
    rw [ih fun e' he' => hfs e' (List.mem_cons_of_mem e he')]
    rfl

/-- The capture of plain data with the expected fields gives the fields. -/
theorem snapshotRecord_ofData (errors : RecordErrors ε) {fits : List JsString → Bool}
    {expected : List JsString} (hexpected : es.map Prod.fst = expected)
    (hfits : fits expected = true) (hnodup : expected.Nodup) :
    snapshotRecord errors fits expected (.ofData (.object es)) =
      .ok (es.map fun e => (e.1, .ofData e.2)) := by
  subst hexpected
  have hnames : (HostValue.ofEntries es).map Prod.fst = es.map Prod.fst := by
    rw [HostValue.ofEntries_eq, List.map_map]
    rfl
  rw [HostValue.ofData, snapshotRecord]
  simp only [Reflection.names, hnames, hfits, ne_eq, not_true_eq_false, if_false, if_true,
    Bool.false_eq_true]
  exact readFields_ofEntries errors.property hnodup fun e he => he

end Record

end OpenRisk
