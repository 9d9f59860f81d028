import OpenRisk.Json.Syntax

/-!
# JSON values

A JSON value in the sense of RFC 8259 has unique member names: `JsonValue`.
`Json.All` says that every string, every number and every member name of a value
has a property; the predicates of the payload profile are instances of it.
-/

namespace OpenRisk

open Text

namespace Json

mutual

/-- Induction over a value, with one hypothesis for all elements or members. -/
theorem induct {P : Json → Prop} (null : P .null) (bool : ∀ b, P (.bool b))
    (number : ∀ t, P (.number t)) (string : ∀ s, P (.string s))
    (array : ∀ xs, (∀ x ∈ xs, P x) → P (.array xs))
    (object : ∀ ms, (∀ m ∈ ms, P m.2) → P (.object ms)) : ∀ j, P j
  | .null => null
  | .bool b => bool b
  | .number t => number t
  | .string s => string s
  | .array xs => array xs (inductElements null bool number string array object xs)
  | .object ms => object ms (inductMembers null bool number string array object ms)

theorem inductElements {P : Json → Prop} (null : P .null) (bool : ∀ b, P (.bool b))
    (number : ∀ t, P (.number t)) (string : ∀ s, P (.string s))
    (array : ∀ xs, (∀ x ∈ xs, P x) → P (.array xs))
    (object : ∀ ms, (∀ m ∈ ms, P m.2) → P (.object ms)) : ∀ xs : List Json, ∀ x ∈ xs, P x
  | [], _, h => by cases h
  | y :: ys, x, h => by
    rcases List.mem_cons.mp h with h | h
    · rw [h]; exact induct null bool number string array object y
    · exact inductElements null bool number string array object ys x h

theorem inductMembers {P : Json → Prop} (null : P .null) (bool : ∀ b, P (.bool b))
    (number : ∀ t, P (.number t)) (string : ∀ s, P (.string s))
    (array : ∀ xs, (∀ x ∈ xs, P x) → P (.array xs))
    (object : ∀ ms, (∀ m ∈ ms, P m.2) → P (.object ms)) :
    ∀ ms : List (JsString × Json), ∀ m ∈ ms, P m.2
  | [], _, h => by cases h
  | (_, y) :: ys, m, h => by
    rcases List.mem_cons.mp h with h | h
    · rw [h]; exact induct null bool number string array object y
    · exact inductMembers null bool number string array object ys m h

end

mutual

/-- No object of the value repeats a member name. -/
def UniqueNames : Json → Prop
  | .array xs => UniqueNamesElements xs
  | .object ms => (ms.map Prod.fst).Nodup ∧ UniqueNamesMembers ms
  | _ => True

def UniqueNamesElements : List Json → Prop
  | [] => True
  | x :: xs => UniqueNames x ∧ UniqueNamesElements xs

def UniqueNamesMembers : List (JsString × Json) → Prop
  | [] => True
  | (_, x) :: ms => UniqueNames x ∧ UniqueNamesMembers ms

end

theorem uniqueNamesElements_iff {xs : List Json} :
    UniqueNamesElements xs ↔ ∀ x ∈ xs, UniqueNames x := by
  induction xs with
  | nil => simp [UniqueNamesElements]
  | cons x xs ih => simp [UniqueNamesElements, ih]

theorem uniqueNamesMembers_iff {ms : List (JsString × Json)} :
    UniqueNamesMembers ms ↔ ∀ m ∈ ms, UniqueNames m.2 := by
  induction ms with
  | nil => simp [UniqueNamesMembers]
  | cons m ms ih => simp [UniqueNamesMembers, ih]

mutual

/-- `ps` holds of every string value, `pn` of every number and `pk` of every member
    name. -/
def All (ps : JsString → Prop) (pn : NumberToken → Prop) (pk : JsString → Prop) : Json → Prop
  | .string s => ps s
  | .number t => pn t
  | .array xs => AllElements ps pn pk xs
  | .object ms => AllMembers ps pn pk ms
  | _ => True

def AllElements (ps : JsString → Prop) (pn : NumberToken → Prop) (pk : JsString → Prop) :
    List Json → Prop
  | [] => True
  | x :: xs => All ps pn pk x ∧ AllElements ps pn pk xs

def AllMembers (ps : JsString → Prop) (pn : NumberToken → Prop) (pk : JsString → Prop) :
    List (JsString × Json) → Prop
  | [] => True
  | (k, x) :: ms => pk k ∧ All ps pn pk x ∧ AllMembers ps pn pk ms

end

section All

variable {ps ps' : JsString → Prop} {pn pn' : NumberToken → Prop} {pk pk' : JsString → Prop}

theorem allElements_iff {xs : List Json} :
    AllElements ps pn pk xs ↔ ∀ x ∈ xs, All ps pn pk x := by
  induction xs with
  | nil => simp [AllElements]
  | cons x xs ih => simp [AllElements, ih]

theorem allMembers_iff {ms : List (JsString × Json)} :
    AllMembers ps pn pk ms ↔ ∀ m ∈ ms, pk m.1 ∧ All ps pn pk m.2 := by
  induction ms with
  | nil => simp [AllMembers]
  | cons m ms ih => simp [AllMembers, ih, and_assoc]

theorem all_and {j : Json} :
    All (fun s => ps s ∧ ps' s) (fun t => pn t ∧ pn' t) (fun k => pk k ∧ pk' k) j ↔
      All ps pn pk j ∧ All ps' pn' pk' j := by
  induction j using Json.induct with
  | null | bool _ | number _ | string _ => simp [All]
  | array xs ih =>
    simp only [All, allElements_iff, ← forall_and]
    exact forall₂_congr fun x hx => ih x hx
  | object ms ih =>
    simp only [All, allMembers_iff, ← forall_and]
    refine forall₂_congr fun m hm => ?_
    rw [ih m hm]
    tauto

theorem All.imp (hs : ∀ s, ps s → ps' s) (hn : ∀ t, pn t → pn' t) (hk : ∀ k, pk k → pk' k)
    {j : Json} (h : All ps pn pk j) : All ps' pn' pk' j := by
  induction j using Json.induct with
  | null | bool _ => simp [All]
  | number t => exact hn t h
  | string s => exact hs s h
  | array xs ih =>
    simp only [All, allElements_iff] at h ⊢
    exact fun x hx => ih x hx (h x hx)
  | object ms ih =>
    simp only [All, allMembers_iff] at h ⊢
    exact fun m hm => ⟨hk _ (h m hm).1, ih m hm (h m hm).2⟩

end All

/-- Every string value of `j` has the property. -/
def Strings (p : JsString → Prop) (j : Json) : Prop := All p (fun _ => True) (fun _ => True) j

/-- Every number of `j` has the property. -/
def Numbers (p : NumberToken → Prop) (j : Json) : Prop := All (fun _ => True) p (fun _ => True) j

/-- Every member name of `j` has the property. -/
def Names (p : JsString → Prop) (j : Json) : Prop := All (fun _ => True) (fun _ => True) p j

theorem all_iff {ps : JsString → Prop} {pn : NumberToken → Prop} {pk : JsString → Prop} {j : Json} :
    All ps pn pk j ↔ Strings ps j ∧ Numbers pn j ∧ Names pk j := by
  simp only [Strings, Numbers, Names, ← all_and, true_and, and_true]

end Json

/-- A JSON value: member names are unique in every object. -/
structure JsonValue where
  json : Json
  unique : json.UniqueNames

end OpenRisk
