import OpenRisk.Text.Utf16

/-!
# Texts without surrogates

A text whose code points are scalar values is determined by its UTF-8 encoding; a lone
surrogate is encoded as U+FFFD.

Results:
* `codePoints_append_cons_ascii`: an ASCII character separates the code points of a text.
* `flatMap_utf8_injective`: UTF-8 is injective on scalar values.
* `utf8Encode_eq_iff`: two strings have the same bytes exactly when they are the same after
  `toWellFormed`.
-/

namespace OpenRisk.Text

/-! ## ASCII -/

theorem codePoints_of_ascii {s : JsString} (h : ∀ u ∈ s, u.toNat < 0x80) :
    codePoints s = s.map unitPoint := by
  induction s with
  | nil => rfl
  | cons u s ih =>
    rw [codePoints_cons_of_not_pair, ih fun v hv => h v (by simp [hv]), List.map_cons]
    rintro v rest rfl ⟨hu, -⟩
    have := h u (by simp)
    simp only [isHigh, Bool.and_eq_true, decide_eq_true_eq] at hu
    omega

theorem codePoints_cons_ascii {u : UInt16} (h : u.toNat < 0x80) (s : JsString) :
    codePoints (u :: s) = unitPoint u :: codePoints s := by
  refine codePoints_cons_of_not_pair fun v rest _ huv => ?_
  have := huv.1
  simp only [isHigh, Bool.and_eq_true, decide_eq_true_eq] at this
  omega

theorem codePoints_append_cons_ascii {u : UInt16} (h : u.toNat < 0x80) (s t : JsString) :
    codePoints (s ++ u :: t) = codePoints s ++ unitPoint u :: codePoints t := by
  rw [codePoints_append_of_isolated, codePoints_cons_ascii h]
  rintro _ v rest - hv ⟨-, hlow⟩
  rw [List.cons.injEq] at hv
  rw [← hv.1] at hlow
  simp only [isLow, Bool.and_eq_true, decide_eq_true_eq] at hlow
  omega

theorem codePoints_append_ascii {s : JsString} (h : ∀ u ∈ s, u.toNat < 0x80) (t : JsString) :
    codePoints (s ++ t) = s.map unitPoint ++ codePoints t := by
  induction s with
  | nil => rfl
  | cons u s ih =>
    rw [List.cons_append, codePoints_cons_ascii (h u (by simp)), ih fun v hv => h v (by simp [hv])]
    rfl

/-! ## Scalar values -/

/-- A text without surrogate code points: one that has a UTF-8 encoding. -/
def Scalar (l : List CodePoint) : Prop := ∀ c ∈ l, isSurrogate c = false

theorem isSurrogate_of_lt {c : CodePoint} (h : c.val < 0xD800) : isSurrogate c = false := by
  have : ¬ 0xD800 ≤ c.val := by omega
  simp [isSurrogate, this]

theorem scalar_append {l m : List CodePoint} : Scalar (l ++ m) ↔ Scalar l ∧ Scalar m := by
  simp only [Scalar, List.mem_append, or_imp, forall_and]

theorem scalar_cons {c : CodePoint} {l : List CodePoint} :
    Scalar (c :: l) ↔ isSurrogate c = false ∧ Scalar l := by
  simp only [Scalar, List.mem_cons, forall_eq_or_imp]

theorem scalar_wrap {c d : CodePoint} (hc : c.val < 0xD800) (hd : d.val < 0xD800)
    {l : List CodePoint} : Scalar (c :: (l ++ [d])) ↔ Scalar l := by
  rw [scalar_cons, scalar_append, scalar_cons, isSurrogate_of_lt hc, isSurrogate_of_lt hd]
  simp [Scalar]

theorem scalar_map_unitPoint {s : JsString} (h : ∀ u ∈ s, u.toNat < 0x80) :
    Scalar (s.map unitPoint) := by
  intro c hc
  obtain ⟨u, hu, rfl⟩ := List.mem_map.mp hc
  have hu := h u hu
  exact isSurrogate_of_lt (by rw [unitPoint_val]; omega)

theorem Scalar.noSplitPair {l : List CodePoint} (h : Scalar l) : NoSplitPair l := by
  induction l with
  | nil => trivial
  | cons c l ih =>
    have ih := ih fun d hd => h d (by simp [hd])
    cases l with
    | nil => trivial
    | cons d l =>
      have hc := h c (by simp)
      refine ⟨?_, ih⟩
      simp only [isSurrogate, Bool.and_eq_false_iff, decide_eq_false_iff_not] at hc
      omega

theorem codePoints_utf16 (c : CodePoint) : codePoints (utf16 c) = [c] := by
  have := codePoints_flatMap_utf16 [c] (by simp only [NoSplitPair])
  rwa [List.flatMap_singleton] at this

/-! ## UTF-8 -/

theorem toUInt8_inj {m n : ℕ} (hm : m < 256) (hn : n < 256) (h : m.toUInt8 = n.toUInt8) : m = n := by
  have := congrArg UInt8.toNat h
  simp at this
  omega

theorem toUInt8_of_eq {n : ℕ} {b : UInt8} (h : n = b.toNat) : n.toUInt8 = b := by
  rw [h]
  exact UInt8.ofNat_toNat

theorem toNat_toUInt8 {n : ℕ} (h : n < 256) : n.toUInt8.toNat = n := by
  simp
  omega

/-- The first byte gives the number of bytes, so no code is the beginning of another. -/
theorem utf8_append_inj {c d : CodePoint} (hc : isSurrogate c = false) (hd : isSurrogate d = false)
    {x y : List UInt8} (h : utf8 c ++ x = utf8 d ++ y) : c = d ∧ x = y := by
  have hcv := c.isLt
  have hdv := d.isLt
  have key : ∀ m n : ℕ, m < 256 → n < 256 → m.toUInt8 = n.toUInt8 → m = n := fun m n => toUInt8_inj
  unfold utf8 at h
  simp only [hc, hd, Bool.false_eq_true, if_false] at h
  rw [Fin.ext_iff]
  split_ifs at h
  all_goals
    simp only [List.cons_append, List.nil_append, List.cons.injEq] at h
    have h1 := key _ _ (by omega) (by omega) h.1
    try omega
  -- both have one, two, three or four bytes
  · exact ⟨h1, h.2⟩
  · have h2 := key _ _ (by omega) (by omega) h.2.1
    exact ⟨by omega, h.2.2⟩
  · have h2 := key _ _ (by omega) (by omega) h.2.1
    have h3 := key _ _ (by omega) (by omega) h.2.2.1
    exact ⟨by omega, h.2.2.2⟩
  · have h2 := key _ _ (by omega) (by omega) h.2.1
    have h3 := key _ _ (by omega) (by omega) h.2.2.1
    have h4 := key _ _ (by omega) (by omega) h.2.2.2.1
    exact ⟨by omega, h.2.2.2.2⟩

theorem utf8_ne_nil (c : CodePoint) : utf8 c ≠ [] := by
  unfold utf8
  split_ifs <;> simp

theorem flatMap_utf8_injective {l m : List CodePoint} (hl : Scalar l) (hm : Scalar m)
    (h : l.flatMap utf8 = m.flatMap utf8) : l = m := by
  induction l generalizing m with
  | nil =>
    cases m with
    | nil => rfl
    | cons d m => simp [utf8_ne_nil] at h
  | cons c l ih =>
    cases m with
    | nil => simp [utf8_ne_nil] at h
    | cons d m =>
      obtain ⟨hc, hl'⟩ := scalar_cons.mp hl
      obtain ⟨hd, hm'⟩ := scalar_cons.mp hm
      rw [List.flatMap_cons, List.flatMap_cons] at h
      obtain ⟨rfl, hrest⟩ := utf8_append_inj hc hd h
      rw [ih hl' hm' hrest]

/-- Strings without lone surrogates are determined by their bytes. -/
theorem utf8Encode_injective {s t : JsString} (hs : Scalar (codePoints s))
    (ht : Scalar (codePoints t)) (h : utf8Encode s = utf8Encode t) : s = t := by
  rw [utf8Encode_eq, utf8Encode_eq] at h
  exact codePoints_injective (flatMap_utf8_injective hs ht h)

/-! ## Well-formed strings -/

/-- A lone surrogate is replaced by U+FFFD. -/
def wellFormedPoint (c : CodePoint) : CodePoint := if isSurrogate c then 0xFFFD else c

/-- `s.toWellFormed()`. -/
def toWellFormed (s : JsString) : JsString := ((codePoints s).map wellFormedPoint).flatMap utf16

theorem scalar_map_wellFormedPoint (l : List CodePoint) : Scalar (l.map wellFormedPoint) := by
  intro c hc
  obtain ⟨d, -, rfl⟩ := List.mem_map.mp hc
  unfold wellFormedPoint
  split_ifs with hd
  · rfl
  · exact Bool.eq_false_of_not_eq_true hd

theorem codePoints_toWellFormed (s : JsString) :
    codePoints (toWellFormed s) = (codePoints s).map wellFormedPoint :=
  codePoints_flatMap_utf16 _ (scalar_map_wellFormedPoint _).noSplitPair

/-- A surrogate is encoded as U+FFFD. -/
theorem utf8_wellFormedPoint (c : CodePoint) : utf8 (wellFormedPoint c) = utf8 c := by
  unfold wellFormedPoint
  split_ifs with hc
  · have hrange : 0xD800 ≤ c.val ∧ c.val < 0xE000 := by
      simpa only [isSurrogate, Bool.and_eq_true, decide_eq_true_eq] using hc
    have hutf8 : utf8 c = [0xEF, 0xBF, 0xBD] := by
      rw [utf8, if_neg (by omega), if_neg (by omega), if_pos hc]
    rw [hutf8]
    rfl
  · rfl

theorem utf8Encode_toWellFormed (s : JsString) : utf8Encode (toWellFormed s) = utf8Encode s := by
  rw [utf8Encode_eq, utf8Encode_eq]
  rw [codePoints_toWellFormed, List.flatMap_map]
  exact congrArg (List.flatMap · _) (funext utf8_wellFormedPoint)

theorem toWellFormed_of_scalar {s : JsString} (h : Scalar (codePoints s)) : toWellFormed s = s := by
  apply codePoints_injective
  rw [codePoints_toWellFormed]
  refine (List.map_congr_left fun c hc => ?_).trans (List.map_id _)
  show wellFormedPoint c = c
  rw [wellFormedPoint, h c hc]
  rfl

/-- Two strings have the same bytes when only their lone surrogates differ. -/
theorem utf8Encode_eq_iff {s t : JsString} :
    utf8Encode s = utf8Encode t ↔ toWellFormed s = toWellFormed t := by
  constructor
  · intro h
    rw [← utf8Encode_toWellFormed s, ← utf8Encode_toWellFormed t] at h
    refine utf8Encode_injective ?_ ?_ h
    all_goals
      rw [codePoints_toWellFormed]
      exact scalar_map_wellFormedPoint _
  · intro h
    rw [← utf8Encode_toWellFormed s, h, utf8Encode_toWellFormed]

end OpenRisk.Text
