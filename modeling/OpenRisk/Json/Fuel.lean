import OpenRisk.Json.Syntax

/-!
# The fuel of the reader

A value that is read is shorter than the text it is read from, so two nested calls read at
least one unit and the fuel of a text is enough.

Results:
* `length_lt_of_parseValue`, `length_lt_of_parseElements`, `length_lt_of_parseMembers`: reading
  shortens the text.
* `denotes_iff`: the fuel does not decide what a text denotes.
-/

namespace OpenRisk.Json

open Text

/-! ## Reading shortens the text -/

theorem skipWs_length_le (s : JsString) : (skipWs s).length ≤ s.length :=
  (List.dropWhile_sublist isWs).length_le

/-- A text whose first unit after white space is `u` is longer than what follows `u`. -/
theorem length_of_skipWs {s rest : JsString} {u : UInt16} (h : skipWs s = u :: rest) :
    rest.length < s.length := by
  have hle := skipWs_length_le s
  rw [h, List.length_cons] at hle
  omega

theorem length_lt_of_scanString {s v r : JsString} (h : scanString s = some (v, r)) :
    r.length < s.length := by
  fun_induction scanString s generalizing v r with
  | case1 | case5 | case7 => simp at h
  | case2 rest =>
    cases h
    simp
  | case3 => simp at h
  | case4 _ a b c d rest ih =>
    obtain ⟨x, -, h⟩ := Option.bind_eq_some_iff.mp h
    obtain ⟨p, hp, hq⟩ := Option.map_eq_some_iff.mp h
    cases hq
    have := ih hp
    simp only [List.length_cons]
    omega
  | case6 _ e rest he ih =>
    obtain ⟨x, -, h⟩ := Option.bind_eq_some_iff.mp h
    obtain ⟨p, hp, hq⟩ := Option.map_eq_some_iff.mp h
    cases hq
    have := ih hp
    simp only [List.length_cons]
    omega
  | case8 u rest hu hesc hctl ih =>
    obtain ⟨p, hp, hq⟩ := Option.map_eq_some_iff.mp h
    cases hq
    have := ih hp
    simp only [List.length_cons]
    omega

theorem length_le_of_scanFraction {s r : JsString} {f : Option (List (Fin 10))}
    (h : scanFraction s = some (f, r)) : r.length ≤ s.length := by
  unfold scanFraction at h
  split at h
  · rename_i u rest
    split_ifs at h
    · have hle := (List.dropWhile_sublist isDigit (l := rest)).length_le
      split at h
      · cases h
      · cases h
        rw [List.length_cons]
        omega
    · cases h
      exact Nat.le_refl _
  · cases h
    exact Nat.le_refl _

theorem length_le_of_scanExponentDigits {negative : Bool} {s r : JsString} {e : Option ℤ}
    (h : scanExponentDigits negative s = some (e, r)) : r.length ≤ s.length := by
  unfold scanExponentDigits at h
  split at h
  · cases h
  · cases h
    exact (List.dropWhile_sublist isDigit).length_le

theorem length_le_of_scanExponent {s r : JsString} {e : Option ℤ}
    (h : scanExponent s = some (e, r)) : r.length ≤ s.length := by
  unfold scanExponent at h
  split at h
  · split_ifs at h
    · split at h
      · split_ifs at h
        all_goals
          have := length_le_of_scanExponentDigits h
          simp only [List.length_cons] at this ⊢
          omega
      · cases h
    · cases h
      exact Nat.le_refl _
  · cases h
    exact Nat.le_refl _

theorem length_lt_of_scanUnsigned {negative : Bool} {s r : JsString} {t : NumberToken}
    (h : scanUnsigned negative s = some (t, r)) : r.length < s.length := by
  unfold scanUnsigned at h
  have hsplit := congrArg List.length (List.takeWhile_append_dropWhile (p := isDigit) (l := s))
  rw [List.length_append] at hsplit
  split at h
  · cases h
  · rename_i d ds htake
    rw [htake, List.length_cons] at hsplit
    split_ifs at h
    obtain ⟨f, hf, h⟩ := Option.bind_eq_some_iff.mp h
    obtain ⟨e, he, h⟩ := Option.map_eq_some_iff.mp h
    cases h
    have h₁ := length_le_of_scanFraction hf
    have h₂ := length_le_of_scanExponent he
    omega

theorem length_lt_of_scanNumber {s r : JsString} {t : NumberToken}
    (h : scanNumber s = some (t, r)) : r.length < s.length := by
  cases s with
  | nil => cases h
  | cons u rest =>
    dsimp only [scanNumber] at h
    split_ifs at h
    · have := length_lt_of_scanUnsigned h
      rw [List.length_cons]
      omega
    · exact length_lt_of_scanUnsigned h

theorem length_lt_of_scanLiteral {name s r : JsString} {j j' : Json} (hname : name ≠ [])
    (h : scanLiteral name j s = some (j', r)) : r.length < s.length := by
  unfold scanLiteral at h
  split_ifs at h with hprefix
  cases h
  have hpos := List.length_pos_iff.mpr hname
  have hle := hprefix.length_le
  rw [List.length_drop]
  omega

mutual

theorem length_lt_of_parseValue {fuel : ℕ} {s r : JsString} {j : Json}
    (h : parseValue fuel s = some (j, r)) : r.length < s.length := by
  match fuel with
  | 0 => cases h
  | fuel + 1 =>
    rw [parseValue] at h
    split at h
    · cases h
    · rename_i u rest hskip
      have hrest := length_of_skipWs hskip
      have hcons : (u :: rest).length ≤ s.length := by
        rw [← hskip]
        exact skipWs_length_le s
      split_ifs at h with hobject harray
      · split at h
        · cases h
        · rename_i v r' hskip'
          have hafter := length_of_skipWs hskip'
          split_ifs at h
          · cases h
            omega
          · obtain ⟨p, hp, hq⟩ := Option.map_eq_some_iff.mp h
            cases hq
            have := length_lt_of_parseMembers hp
            omega
      · split at h
        · cases h
        · rename_i v r' hskip'
          have hafter := length_of_skipWs hskip'
          split_ifs at h
          · cases h
            omega
          · obtain ⟨p, hp, hq⟩ := Option.map_eq_some_iff.mp h
            cases hq
            have := length_lt_of_parseElements hp
            omega
      · obtain ⟨p, hp, hq⟩ := Option.map_eq_some_iff.mp h
        cases hq
        have := length_lt_of_scanString hp
        omega
      · exact (length_lt_of_scanLiteral (by decide) h).trans_le hcons
      · exact (length_lt_of_scanLiteral (by decide) h).trans_le hcons
      · exact (length_lt_of_scanLiteral (by decide) h).trans_le hcons
      · obtain ⟨p, hp, hq⟩ := Option.map_eq_some_iff.mp h
        cases hq
        exact (length_lt_of_scanNumber hp).trans_le hcons

theorem length_lt_of_parseElements {fuel : ℕ} {s r : JsString} {xs : List Json}
    (h : parseElements fuel s = some (xs, r)) : r.length < s.length := by
  match fuel with
  | 0 => cases h
  | fuel + 1 =>
    rw [parseElements] at h
    obtain ⟨p, hp, h⟩ := Option.bind_eq_some_iff.mp h
    have hvalue := length_lt_of_parseValue hp
    split at h
    · cases h
    · rename_i u rest hskip
      have hrest := length_of_skipWs hskip
      split_ifs at h
      · obtain ⟨q, hq, hcons⟩ := Option.map_eq_some_iff.mp h
        cases hcons
        have := length_lt_of_parseElements hq
        omega
      · cases h
        omega

theorem length_lt_of_parseMembers {fuel : ℕ} {s r : JsString} {ms : List (JsString × Json)}
    (h : parseMembers fuel s = some (ms, r)) : r.length < s.length := by
  match fuel with
  | 0 => cases h
  | fuel + 1 =>
    rw [parseMembers] at h
    split at h
    · cases h
    · rename_i u rest hskip
      have hrest := length_of_skipWs hskip
      split_ifs at h
      obtain ⟨k, hk, h⟩ := Option.bind_eq_some_iff.mp h
      have hkey := length_lt_of_scanString hk
      split at h
      · cases h
      · rename_i c rest' hskip'
        have hcolon := length_of_skipWs hskip'
        split_ifs at h
        obtain ⟨p, hp, h⟩ := Option.bind_eq_some_iff.mp h
        have hvalue := length_lt_of_parseValue hp
        split at h
        · cases h
        · rename_i u' rest'' hskip''
          have hafter := length_of_skipWs hskip''
          split_ifs at h
          · obtain ⟨q, hq, hcons⟩ := Option.map_eq_some_iff.mp h
            cases hcons
            have := length_lt_of_parseMembers hq
            omega
          · cases h
            omega

end

/-! ## The fuel of a text is enough -/

mutual

/-- One more call of fuel changes nothing, once there are two for each unit. -/
theorem parseValue_succ {fuel : ℕ} {s : JsString} (h : 2 * s.length + 1 ≤ fuel) :
    parseValue (fuel + 1) s = parseValue fuel s := by
  match fuel with
  | 0 => omega
  | fuel + 1 =>
    rw [parseValue, parseValue]
    cases hskip : skipWs s with
    | nil => rfl
    | cons u rest =>
      have hrest := length_of_skipWs hskip
      have hmembers : parseMembers (fuel + 1) rest = parseMembers fuel rest :=
        parseMembers_succ (by omega)
      have helements : parseElements (fuel + 1) rest = parseElements fuel rest :=
        parseElements_succ (by omega)
      dsimp only
      rw [hmembers, helements]

theorem parseElements_succ {fuel : ℕ} {s : JsString} (h : 2 * s.length + 2 ≤ fuel) :
    parseElements (fuel + 1) s = parseElements fuel s := by
  match fuel with
  | 0 => omega
  | fuel + 1 =>
    rw [parseElements, parseElements]
    have hvalue : parseValue (fuel + 1) s = parseValue fuel s := parseValue_succ (by omega)
    rw [hvalue]
    refine Option.bind_congr fun p hp => ?_
    have hshorter := length_lt_of_parseValue hp
    cases hskip : skipWs p.2 with
    | nil => rfl
    | cons u rest =>
      have hrest := length_of_skipWs hskip
      have helements : parseElements (fuel + 1) rest = parseElements fuel rest :=
        parseElements_succ (by omega)
      dsimp only
      rw [helements]

theorem parseMembers_succ {fuel : ℕ} {s : JsString} (h : 2 * s.length + 1 ≤ fuel) :
    parseMembers (fuel + 1) s = parseMembers fuel s := by
  match fuel with
  | 0 => omega
  | fuel + 1 =>
    rw [parseMembers, parseMembers]
    cases hskip : skipWs s with
    | nil => rfl
    | cons u rest =>
      have hrest := length_of_skipWs hskip
      dsimp only
      congr 1
      refine Option.bind_congr fun k hk => ?_
      have hkey := length_lt_of_scanString hk
      cases hskip' : skipWs k.2 with
      | nil => rfl
      | cons c rest' =>
        have hcolon := length_of_skipWs hskip'
        have hvalue : parseValue (fuel + 1) rest' = parseValue fuel rest' :=
          parseValue_succ (by omega)
        dsimp only
        rw [hvalue]
        congr 1
        refine Option.bind_congr fun p hp => ?_
        have hshorter := length_lt_of_parseValue hp
        cases hskip'' : skipWs p.2 with
        | nil => rfl
        | cons u' rest'' =>
          have hafter := length_of_skipWs hskip''
          have hmembers : parseMembers (fuel + 1) rest'' = parseMembers fuel rest'' :=
            parseMembers_succ (by omega)
          dsimp only
          rw [hmembers]

end

theorem parseValue_of_le {fuel fuel' : ℕ} {s : JsString} (h : 2 * s.length + 1 ≤ fuel)
    (hle : fuel ≤ fuel') : parseValue fuel' s = parseValue fuel s := by
  induction fuel', hle using Nat.le_induction with
  | base => rfl
  | succ n hn ih => rw [parseValue_succ (h.trans hn), ih]

/-- `JSON.parse` with a bound on the nesting of calls. -/
def readText (fuel : ℕ) (s : JsString) : Option Json :=
  (parseValue fuel s).bind fun p => if skipWs p.2 = [] then some p.1 else none

/-- The text is a JSON text of the value: it is read with every fuel from some bound on. -/
def Denotes (s : JsString) (j : Json) : Prop := ∃ n, ∀ fuel, n ≤ fuel → readText fuel s = some j

theorem readText_of_le {fuel : ℕ} {s : JsString} (h : textFuel s ≤ fuel) :
    readText fuel s = parse s := by
  have hvalue : parseValue fuel s = parseValue (textFuel s) s :=
    parseValue_of_le (by rw [textFuel]; omega) h
  rw [readText, hvalue, parse]

theorem denotes_iff {s : JsString} {j : Json} : Denotes s j ↔ parse s = some j := by
  constructor
  · rintro ⟨n, h⟩
    have hmax := h (max n (textFuel s)) (le_max_left _ _)
    rwa [readText_of_le (le_max_right _ _)] at hmax
  · intro h
    exact ⟨textFuel s, fun fuel hfuel => by rw [readText_of_le hfuel, h]⟩

end OpenRisk.Json
