import OpenRisk.Json.Fuel
import OpenRisk.Json.RoundTrip

/-!
# The reader, form by form

How `parseValue`, `parseElements` and `parseMembers` read each kind of value, and how a string
literal is read inside a longer text.

Results:
* `scanString_append`, `parse_literal`: a string literal does not depend on what follows it.
* `parseValue_array`, `parseValue_object`, `parseValue_token`: one equation for each kind.
* `parseElements_eq_some`, `parseMembers_eq_some`: what a list that is read consists of.
-/

namespace OpenRisk.Json

open Text

/-! ## String literals -/

theorem scanString_hex {a b c d w : UInt16} (hw : hex4 a b c d = some w) (t : JsString) :
    scanString (0x5C :: 0x75 :: a :: b :: c :: d :: t) =
      (scanString t).map fun p => (w :: p.1, p.2) := by
  simp [scanString, hw]

theorem scanString_close (t : JsString) : scanString (0x22 :: t) = some ([], t) := by
  rw [scanString.eq_def]
  rfl

/-- A string ends at its closing quote, whatever follows it. -/
theorem scanString_append {t v r : JsString} (h : scanString t = some (v, r)) :
    ∃ c, t = c ++ r ∧ ∀ r', scanString (c ++ r') = some (v, r') := by
  fun_induction scanString t generalizing v with
  | case1 => cases h
  | case2 t =>
    cases h
    exact ⟨[0x22], rfl, scanString_close⟩
  | case3 => cases h
  | case4 a b c d t _ ih =>
    obtain ⟨w, hw, h⟩ := Option.bind_eq_some_iff.mp h
    obtain ⟨⟨v', r'⟩, hscan, heq⟩ := Option.map_eq_some_iff.mp h
    cases heq
    obtain ⟨used, rfl, hused⟩ := ih hscan
    refine ⟨0x5C :: 0x75 :: a :: b :: c :: d :: used, rfl, fun r' => ?_⟩
    exact (scanString_hex hw (used ++ r')).trans (by rw [hused]; rfl)
  | case5 => cases h
  | case6 e t he _ ih =>
    obtain ⟨w, hw, h⟩ := Option.bind_eq_some_iff.mp h
    obtain ⟨⟨v', r'⟩, hscan, heq⟩ := Option.map_eq_some_iff.mp h
    cases heq
    obtain ⟨used, rfl, hused⟩ := ih hscan
    refine ⟨0x5C :: e :: used, rfl, fun r' => ?_⟩
    exact (scanString_simple he hw (used ++ r')).trans (by rw [hused]; rfl)
  | case7 => cases h
  | case8 u t hquote hback hcontrol ih =>
    obtain ⟨⟨v', r'⟩, hscan, heq⟩ := Option.map_eq_some_iff.mp h
    cases heq
    obtain ⟨used, rfl, hused⟩ := ih hscan
    refine ⟨u :: used, rfl, fun r' => ?_⟩
    exact (scanString_plain hquote hback hcontrol (used ++ r')).trans (by rw [hused]; rfl)

/-- A string literal is a text of its own. -/
theorem parse_literal {c v : JsString} (h : scanString c = some (v, [])) :
    parse (0x22 :: c) = some (.string v) := by
  have hws : skipWs (0x22 :: c) = 0x22 :: c := skipWs_cons (by decide) c
  have hvalue : parseValue (textFuel (0x22 :: c)) (0x22 :: c) = some (.string v, []) := by
    rw [textFuel, parseValue, hws]
    simp [h]
  rw [parse, hvalue]
  rfl

/-! ## The units of a number -/

/-- The units that occur in numbers. -/
def isNumberUnit (u : UInt16) : Bool :=
  isDigit u || u = 0x2B || u = 0x2D || u = 0x2E || u = 0x45 || u = 0x65

theorem isNumberUnit_digits (s : JsString) : ∀ u ∈ s.takeWhile isDigit, isNumberUnit u = true := by
  intro u hu
  simp [isNumberUnit, List.mem_takeWhile_imp hu]

theorem scanFraction_append {s r : JsString} {f : Option (List (Fin 10))}
    (h : scanFraction s = some (f, r)) : ∃ c, s = c ++ r ∧ ∀ u ∈ c, isNumberUnit u = true := by
  unfold scanFraction at h
  split at h
  · rename_i u rest
    split_ifs at h with hu
    · split at h
      · cases h
      · rename_i htake
        cases h
        refine ⟨0x2E :: rest.takeWhile isDigit, ?_, ?_⟩
        · rw [hu, List.cons_append, List.takeWhile_append_dropWhile]
        · exact List.forall_mem_cons.mpr ⟨by decide, isNumberUnit_digits rest⟩
    · cases h
      exact ⟨[], rfl, by simp⟩
  · cases h
    exact ⟨[], rfl, by simp⟩

theorem scanExponentDigits_append {negative : Bool} {s r : JsString} {e : Option ℤ}
    (h : scanExponentDigits negative s = some (e, r)) :
    ∃ c, s = c ++ r ∧ ∀ u ∈ c, isNumberUnit u = true := by
  unfold scanExponentDigits at h
  split at h
  · cases h
  · cases h
    exact ⟨s.takeWhile isDigit, List.takeWhile_append_dropWhile.symm, isNumberUnit_digits s⟩

theorem scanExponent_append {s r : JsString} {e : Option ℤ} (h : scanExponent s = some (e, r)) :
    ∃ c, s = c ++ r ∧ ∀ u ∈ c, isNumberUnit u = true := by
  unfold scanExponent at h
  split at h
  · rename_i u rest
    split_ifs at h with hu
    · have hunit : isNumberUnit u = true := by
        rcases hu with rfl | rfl <;> decide
      split at h
      · rename_i sign rest'
        split_ifs at h with hplus hminus
        · obtain ⟨c, rfl, hc⟩ := scanExponentDigits_append h
          refine ⟨u :: sign :: c, rfl, List.forall_mem_cons.mpr ⟨hunit, ?_⟩⟩
          exact List.forall_mem_cons.mpr ⟨by rw [hplus]; decide, hc⟩
        · obtain ⟨c, rfl, hc⟩ := scanExponentDigits_append h
          refine ⟨u :: sign :: c, rfl, List.forall_mem_cons.mpr ⟨hunit, ?_⟩⟩
          exact List.forall_mem_cons.mpr ⟨by rw [hminus]; decide, hc⟩
        · obtain ⟨c, hrest, hc⟩ := scanExponentDigits_append h
          exact ⟨u :: c, by rw [hrest]; rfl, List.forall_mem_cons.mpr ⟨hunit, hc⟩⟩
      · cases h
    · cases h
      exact ⟨[], rfl, by simp⟩
  · cases h
    exact ⟨[], rfl, by simp⟩

theorem scanUnsigned_append {negative : Bool} {s r : JsString} {t : NumberToken}
    (h : scanUnsigned negative s = some (t, r)) :
    ∃ c, s = c ++ r ∧ ∀ u ∈ c, isNumberUnit u = true := by
  unfold scanUnsigned at h
  split at h
  · cases h
  · split_ifs at h
    obtain ⟨f, hf, h⟩ := Option.bind_eq_some_iff.mp h
    obtain ⟨e, he, h⟩ := Option.map_eq_some_iff.mp h
    cases h
    obtain ⟨c, hdrop, hc⟩ := scanFraction_append hf
    obtain ⟨c', hf2, hc'⟩ := scanExponent_append he
    refine ⟨s.takeWhile isDigit ++ (c ++ c'), ?_, ?_⟩
    · rw [List.append_assoc, List.append_assoc, ← hf2, ← hdrop, List.takeWhile_append_dropWhile]
    · exact List.forall_mem_append.mpr
        ⟨isNumberUnit_digits s, List.forall_mem_append.mpr ⟨hc, hc'⟩⟩

/-- A number that is read consists of units of numbers. -/
theorem scanNumber_append {s r : JsString} {t : NumberToken} (h : scanNumber s = some (t, r)) :
    ∃ c, s = c ++ r ∧ ∀ u ∈ c, isNumberUnit u = true := by
  cases s with
  | nil => cases h
  | cons u rest =>
    dsimp only [scanNumber] at h
    split_ifs at h with hu
    · obtain ⟨c, rfl, hc⟩ := scanUnsigned_append h
      exact ⟨u :: c, rfl, List.forall_mem_cons.mpr ⟨by rw [hu]; decide, hc⟩⟩
    · exact scanUnsigned_append h

/-! ## White space in front of a value -/

theorem skipWs_idem (t : JsString) : skipWs (skipWs t) = skipWs t :=
  List.dropWhile_idempotent _ t

theorem parseValue_skipWs (fuel : ℕ) (t : JsString) :
    parseValue fuel (skipWs t) = parseValue fuel t := by
  cases fuel with
  | zero => rfl
  | succ fuel => rw [parseValue, parseValue, skipWs_idem]

theorem parseElements_skipWs (fuel : ℕ) (t : JsString) :
    parseElements fuel (skipWs t) = parseElements fuel t := by
  cases fuel with
  | zero => rfl
  | succ fuel => rw [parseElements, parseElements, parseValue_skipWs]

theorem parseMembers_skipWs (fuel : ℕ) (t : JsString) :
    parseMembers fuel (skipWs t) = parseMembers fuel t := by
  cases fuel with
  | zero => rfl
  | succ fuel => rw [parseMembers, parseMembers, skipWs_idem]

theorem parseValue_nil (fuel : ℕ) : parseValue fuel [] = none := by
  cases fuel <;> rfl

theorem parseElements_nil (fuel : ℕ) : parseElements fuel [] = none := by
  cases fuel with
  | zero => rfl
  | succ fuel => rw [parseElements, parseValue_nil]; rfl

theorem parseMembers_nil (fuel : ℕ) : parseMembers fuel [] = none := by
  cases fuel <;> rfl

/-! ## Values -/

/-- How the reader reads an array. -/
theorem parseValue_array {fuel : ℕ} {t rest : JsString} (ht : skipWs t = 0x5B :: rest) :
    parseValue (fuel + 1) t =
      if (skipWs rest).head? = some 0x5D then some (.array [], (skipWs rest).drop 1)
      else (parseElements fuel (skipWs rest)).map fun p => (.array p.1, p.2) := by
  rw [parseValue, ht, parseElements_skipWs]
  cases hrest : skipWs rest with
  | nil =>
    rw [← parseElements_skipWs, hrest, parseElements_nil]
    simp [hrest]
  | cons v r =>
    by_cases hv : v = 0x5D <;> simp [hrest, hv]

/-- How the reader reads an object. -/
theorem parseValue_object {fuel : ℕ} {t rest : JsString} (ht : skipWs t = 0x7B :: rest) :
    parseValue (fuel + 1) t =
      if (skipWs rest).head? = some 0x7D then some (.object [], (skipWs rest).drop 1)
      else (parseMembers fuel (skipWs rest)).map fun p => (.object p.1, p.2) := by
  rw [parseValue, ht, parseMembers_skipWs]
  cases hrest : skipWs rest with
  | nil =>
    rw [← parseMembers_skipWs, hrest, parseMembers_nil]
    simp [hrest]
  | cons v r =>
    by_cases hv : v = 0x7D <;> simp [hrest, hv]

/-- How the reader reads a value that is no container and no string. -/
theorem parseValue_token {fuel : ℕ} {t rest : JsString} {u : UInt16}
    (ht : skipWs t = u :: rest) (hobject : u ≠ 0x7B) (harray : u ≠ 0x5B) (hstring : u ≠ 0x22) :
    parseValue (fuel + 1) t =
      if u = 0x74 then scanLiteral (js "true") (.bool true) (u :: rest)
      else if u = 0x66 then scanLiteral (js "false") (.bool false) (u :: rest)
      else if u = 0x6E then scanLiteral (js "null") .null (u :: rest)
      else (scanNumber (u :: rest)).map fun p => (.number p.1, p.2) := by
  rw [parseValue, ht]
  dsimp only
  rw [if_neg hobject, if_neg harray, if_neg hstring]

/-- The reader takes a number only where one starts. -/
theorem number_start {u : UInt16} {t r : JsString} {token : NumberToken}
    (h : scanNumber (u :: t) = some (token, r)) : u = 0x2D ∨ isDigit u = true := by
  rw [scanNumber] at h
  by_cases hu : u = 0x2D
  · exact .inl hu
  · rw [if_neg hu, scanUnsigned] at h
    by_cases hdigit : isDigit u = true
    · exact .inr hdigit
    · rw [List.takeWhile_cons, if_neg hdigit] at h
      cases h

theorem parseElements_eq_some {fuel : ℕ} {t r : JsString} {xs : List Json}
    (h : parseElements (fuel + 1) t = some (xs, r)) :
    ∃ j r₁ u t', parseValue fuel t = some (j, r₁) ∧ skipWs r₁ = u :: t' ∧
      ((u = 0x5D ∧ xs = [j] ∧ r = t') ∨
        (u = 0x2C ∧ ∃ xs', xs = j :: xs' ∧ parseElements fuel t' = some (xs', r))) := by
  rw [parseElements] at h
  obtain ⟨⟨j, r₁⟩, hvalue, h⟩ := Option.bind_eq_some_iff.mp h
  dsimp only at h
  cases hskip : skipWs r₁ with
  | nil =>
    rw [hskip] at h
    cases h
  | cons u t' =>
    rw [hskip] at h
    refine ⟨j, r₁, u, t', hvalue, hskip, ?_⟩
    dsimp only at h
    split_ifs at h with hcomma hclose
    · obtain ⟨⟨xs', r'⟩, hrest, heq⟩ := Option.map_eq_some_iff.mp h
      cases heq
      exact .inr ⟨hcomma, xs', rfl, hrest⟩
    · cases h
      exact .inl ⟨hclose, rfl, rfl⟩

theorem parseMembers_eq_some {fuel : ℕ} {t r : JsString} {ms : List (JsString × Json)}
    (h : parseMembers (fuel + 1) t = some (ms, r)) :
    ∃ t₀ key r₀ r' j r₁ u t', skipWs t = 0x22 :: t₀ ∧ scanString t₀ = some (key, r₀) ∧
      skipWs r₀ = 0x3A :: r' ∧ parseValue fuel r' = some (j, r₁) ∧
      skipWs r₁ = u :: t' ∧
      ((u = 0x7D ∧ ms = [(key, j)] ∧ r = t') ∨
        (u = 0x2C ∧ ∃ ms', ms = (key, j) :: ms' ∧ parseMembers fuel t' = some (ms', r))) := by
  rw [parseMembers] at h
  cases hopen : skipWs t with
  | nil =>
    rw [hopen] at h
    cases h
  | cons q t₀ =>
    rw [hopen] at h
    dsimp only at h
    split_ifs at h with hquote
    obtain ⟨⟨key, r₀⟩, hread, h⟩ := Option.bind_eq_some_iff.mp h
    dsimp only at h
    cases hcolon : skipWs r₀ with
    | nil =>
      rw [hcolon] at h
      cases h
    | cons c r' =>
      rw [hcolon] at h
      dsimp only at h
      split_ifs at h with hc
      obtain ⟨⟨j, r₁⟩, hvalue, h⟩ := Option.bind_eq_some_iff.mp h
      dsimp only at h
      cases hskip : skipWs r₁ with
      | nil =>
        rw [hskip] at h
        cases h
      | cons u t' =>
        rw [hskip] at h
        refine ⟨t₀, key, r₀, r', j, r₁, u, t', by rw [hquote], hread, by rw [hcolon, hc], hvalue, hskip, ?_⟩
        dsimp only at h
        split_ifs at h with hcomma hclose
        · obtain ⟨⟨ms', r'⟩, hrest, heq⟩ := Option.map_eq_some_iff.mp h
          cases heq
          exact .inr ⟨hcomma, ms', rfl, hrest⟩
        · cases h
          exact .inl ⟨hclose, rfl, rfl⟩

end OpenRisk.Json
