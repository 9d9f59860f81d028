import OpenRisk.Js.Value

/-!
# Strict equality

`x === y` for plain data.
-/

namespace OpenRisk

open Text

/-- `x === y` for Number values. -/
def numberEquals : JsNumber → JsNumber → Bool
  | .finite q, .finite r => q = r
  | .finite q, .negativeZero => q = 0
  | .negativeZero, .finite q => q = 0
  | .negativeZero, .negativeZero => true
  | .infinity a, .infinity b => a = b
  | _, _ => false

/-- `x === y` for plain data that shares no object. -/
def strictEquals : JsValue → JsValue → Bool
  | .null, .null => true
  | .bool a, .bool b => a = b
  | .number x, .number y => numberEquals x y
  | .string s, .string t => s = t
  | _, _ => false

/-- `x.key === y.key`, where `none` is an absent property. -/
def sameProperty (x y : Option JsValue) : Bool :=
  match x, y with
  | some v, some w => strictEquals v w
  | none, none => true
  | _, _ => false

theorem numberEquals_trans {x y : JsNumber} {n : ℤ} (h : numberEquals x y = true)
    (h' : numberEquals y (.ofInt n) = true) : numberEquals x (.ofInt n) = true := by
  cases x <;> cases y <;> simp_all [numberEquals, JsNumber.ofInt]

theorem strictEquals_trans {v w : JsValue} {n : ℤ} (h : strictEquals v w = true)
    (h' : strictEquals w (.number (.ofInt n)) = true) :
    strictEquals v (.number (.ofInt n)) = true := by
  cases w with
  | number y =>
    cases v with
    | number x => exact numberEquals_trans h h'
    | _ => cases h
  | _ => cases h'

theorem sameProperty_string (s : JsString) :
    sameProperty (some (.string s)) (some (.string s)) = true := by
  simp [sameProperty, strictEquals]

theorem sameProperty_natural (n : ℕ) :
    sameProperty (some (.number (.ofInt n))) (some (.number (.ofInt n))) = true := by
  simp [sameProperty, strictEquals, numberEquals, JsNumber.ofInt]

theorem sameProperty_string_iff {x : Option JsValue} {s : JsString} :
    sameProperty x (some (.string s)) = true ↔ x = some (.string s) := by
  cases x with
  | none => simp [sameProperty]
  | some v => cases v <;> simp [sameProperty, strictEquals]

theorem sameProperty_natural_iff {x : Option JsValue} {n : ℕ} (hn : 0 < n) :
    sameProperty x (some (.number (.ofInt n))) = true ↔ x = some (.number (.ofInt n)) := by
  cases x with
  | none => simp [sameProperty]
  | some v =>
    cases v with
    | number x =>
      cases x with
      | negativeZero =>
        simp [sameProperty, strictEquals, numberEquals, JsNumber.ofInt]
        omega
      | _ => simp [sameProperty, strictEquals, numberEquals, JsNumber.ofInt]
    | _ => simp [sameProperty, strictEquals]

end OpenRisk
