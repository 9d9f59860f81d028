import OpenRisk.Json.RoundTrip
import OpenRisk.Text.Scalar

/-!
# JSON texts as bytes

`JSON.stringify` escapes lone surrogates, so a compact text has none and is determined by
its UTF-8 encoding.

Results:
* `codePoints_quote`: the code points of a string literal.
* `scalar_print`: a compact text has no surrogates.
-/

namespace OpenRisk.Json

open Text

theorem hexDigit_lt (d : ℕ) : (hexDigit (d % 16)).toNat < 0x80 := by
  have hd : ∀ d, d < 16 → (hexDigit d).toNat < 0x80 := by decide
  exact hd _ (Nat.mod_lt _ (by norm_num))

theorem unicodeEscape_ascii (n : ℕ) : ∀ u ∈ unicodeEscape n, u.toNat < 0x80 := by
  intro u hu
  simp only [unicodeEscape, List.mem_cons, List.not_mem_nil, or_false] at hu
  rcases hu with rfl | rfl | rfl | rfl | rfl | rfl
  · decide
  · decide
  all_goals exact hexDigit_lt _

/-- The escape of a code point is ASCII, or the code point itself when it is no surrogate. -/
theorem escape_cases (c : CodePoint) :
    (∀ u ∈ escape c, u.toNat < 0x80) ∨ (escape c = utf16 c ∧ isSurrogate c = false) := by
  fun_cases escape c
  iterate 7 exact .inl (by simp)
  · exact .inl (unicodeEscape_ascii _)
  next hplain => exact .inr ⟨rfl, by simpa using fun h => hplain (.inr h)⟩

theorem scalar_codePoints_escape (c : CodePoint) : Scalar (codePoints (escape c)) := by
  rcases escape_cases c with h | ⟨h, hc⟩
  · rw [codePoints_of_ascii h]
    exact scalar_map_unitPoint h
  · rw [h, codePoints_utf16]
    simpa [Scalar] using hc

/-- Escaped text has no surrogates, so its code points are those of its pieces. -/
theorem codePoints_flatMap_escape (l : List CodePoint) :
    codePoints (l.flatMap escape) = l.flatMap fun c => codePoints (escape c) := by
  have hflat : l.flatMap escape =
      (l.flatMap fun c => codePoints (escape c)).flatMap utf16 := by
    rw [List.flatMap_assoc]
    exact List.flatMap_congr fun c _ => (flatMap_utf16_codePoints _).symm
  have hscalar : Scalar (l.flatMap fun c => codePoints (escape c)) := by
    intro c hc
    obtain ⟨d, -, hd⟩ := List.mem_flatMap.mp hc
    exact scalar_codePoints_escape d c hd
  rw [hflat, codePoints_flatMap_utf16 _ hscalar.noSplitPair]

theorem codePoints_quote (s : JsString) :
    codePoints (quote s) =
      0x22 :: ((codePoints s).flatMap (fun c => codePoints (escape c)) ++ [0x22]) := by
  rw [quote, codePoints_cons_ascii (by decide), codePoints_append_cons_ascii (by decide),
    codePoints_flatMap_escape]
  rfl

theorem decimal_ascii (n : ℕ) : ∀ u ∈ decimal n, u.toNat < 0x80 := by
  intro u hu
  have := decimal_isDigit n u hu
  simp only [isDigit, Bool.and_eq_true, decide_eq_true_eq] at this
  omega

theorem decimalInt_ascii (n : ℤ) : ∀ u ∈ decimalInt n, u.toNat < 0x80 := by
  rw [decimalInt]
  split_ifs
  · exact List.forall_mem_cons.mpr ⟨by decide, decimal_ascii _⟩
  · exact decimal_ascii _

theorem scalar_quote (s : JsString) : Scalar (codePoints (quote s)) := by
  rw [codePoints_quote, scalar_wrap (by decide) (by decide)]
  intro c hc
  obtain ⟨d, -, hd⟩ := List.mem_flatMap.mp hc
  exact scalar_codePoints_escape d c hd

theorem scalar_ascii {s : JsString} (h : ∀ u ∈ s, u.toNat < 0x80) : Scalar (codePoints s) := by
  rw [codePoints_of_ascii h]
  exact scalar_map_unitPoint h

theorem scalar_append_cons {u : UInt16} (hu : u.toNat < 0x80) {s t : JsString} :
    Scalar (codePoints (s ++ u :: t)) ↔ Scalar (codePoints s) ∧ Scalar (codePoints t) := by
  rw [codePoints_append_cons_ascii hu, scalar_append, scalar_cons,
    and_iff_right (isSurrogate_of_lt (by rw [unitPoint_val]; omega))]

mutual

/-- A compact text has no surrogates. -/
theorem scalar_print (j : Json) (hj : Integral j) : Scalar (codePoints (print j)) := by
  cases j with
  | null => exact scalar_ascii (ascii_of_all (by decide +kernel))
  | bool b => cases b <;> exact scalar_ascii (ascii_of_all (by decide +kernel))
  | number t =>
    rw [print, printNumber_integer hj]
    refine scalar_ascii (List.forall_mem_append.mpr ⟨?_, decimal_ascii _⟩)
    split_ifs <;> simp
  | string s => exact scalar_quote s
  | array xs =>
    rw [print, codePoints_cons_ascii (by decide), codePoints_append_cons_ascii (by decide)]
    exact (scalar_wrap (by decide) (by decide)).mpr (scalar_printElements xs hj)
  | object ms =>
    rw [print, codePoints_cons_ascii (by decide), codePoints_append_cons_ascii (by decide)]
    exact (scalar_wrap (by decide) (by decide)).mpr (scalar_printMembers ms hj)

theorem scalar_printElements (xs : List Json) (hx : IntegralElements xs) :
    Scalar (codePoints (printElements xs)) := by
  match xs, hx with
  | [], _ => simp [printElements, codePoints, Scalar]
  | [x], hx => exact scalar_print x hx.1
  | x :: y :: xs, hx =>
    rw [printElements, scalar_append_cons (by decide)]
    exact ⟨scalar_print x hx.1, scalar_printElements (y :: xs) hx.2⟩

theorem scalar_printMembers (ms : List (JsString × Json)) (hm : IntegralMembers ms) :
    Scalar (codePoints (printMembers ms)) := by
  match ms, hm with
  | [], _ => simp [printMembers, codePoints, Scalar]
  | [(k, x)], hm =>
    rw [printMembers, scalar_append_cons (by decide)]
    exact ⟨scalar_quote k, scalar_print x hm.1⟩
  | (k, x) :: m :: ms, hm =>
    rw [printMembers, scalar_append_cons (by decide), scalar_append_cons (by decide)]
    exact ⟨scalar_quote k, scalar_print x hm.1, scalar_printMembers (m :: ms) hm.2⟩

end

/-- A compact text starts with an ASCII unit. -/
theorem print_head_ascii (j : Json) (hj : Integral j) : ∃ u us, print j = u :: us ∧ u.toNat < 0x80 := by
  cases j with
  | null => exact ⟨_, _, rfl, by decide⟩
  | bool b => cases b <;> exact ⟨_, _, rfl, by decide⟩
  | string s => exact ⟨_, _, rfl, by decide⟩
  | array xs => exact ⟨_, _, by rw [print], by decide⟩
  | object ms => exact ⟨_, _, by rw [print], by decide⟩
  | number t =>
    rw [print, printNumber_integer hj]
    cases t.negative with
    | true => exact ⟨_, _, rfl, by decide⟩
    | false =>
      obtain ⟨u, us, hu, -⟩ := decimal_cons t.integer
      have hascii := decimal_ascii t.integer u (by simp [hu])
      simp only [Bool.false_eq_true, if_false, List.nil_append]
      exact ⟨u, us, hu, hascii⟩

end OpenRisk.Json
