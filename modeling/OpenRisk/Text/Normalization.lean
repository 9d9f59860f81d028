import OpenRisk.Text.Utf16

/-!
# Unicode normalization forms

The normalization functions of a runtime, with the properties of UAX #15 the
development relies on. JavaScript and Python normalize the same sequence of code
points, so one `Normalization` serves both languages.

* Normalizing twice is normalizing once.
* ASCII text is in every normalization form.
* A surrogate code point has no decomposition, takes part in no composition and
  has combining class 0: normalization keeps the surrogates of a text and brings
  no high surrogate next to a low one.
-/

namespace OpenRisk.Text

/-- A text of code points below U+0080. -/
def Ascii (l : List CodePoint) : Prop := ∀ c ∈ l, c.val < 0x80

/-- `normalize('NFC')` and `normalize('NFKC')` on code points. -/
structure Normalization where
  nfc : List CodePoint → List CodePoint
  nfkc : List CodePoint → List CodePoint
  nfc_idem : ∀ l, nfc (nfc l) = nfc l
  nfc_ascii : ∀ l, Ascii l → nfc l = l
  nfkc_ascii : ∀ l, Ascii l → nfkc l = l
  nfc_surrogates : ∀ l, (nfc l).filter isSurrogate = l.filter isSurrogate
  nfc_noSplitPair : ∀ l, NoSplitPair l → NoSplitPair (nfc l)

namespace Normalization

variable (N : Normalization)

/-- `s.normalize('NFC')`. -/
def normalizeNfc (s : JsString) : JsString := (N.nfc (codePoints s)).flatMap utf16

/-- `s.normalize('NFKC')`. -/
def normalizeNfkc (s : JsString) : JsString := (N.nfkc (codePoints s)).flatMap utf16

theorem codePoints_normalizeNfc (s : JsString) :
    codePoints (N.normalizeNfc s) = N.nfc (codePoints s) :=
  codePoints_flatMap_utf16 _ (N.nfc_noSplitPair _ (noSplitPair_codePoints s))

@[simp] theorem normalizeNfc_idem (s : JsString) :
    N.normalizeNfc (N.normalizeNfc s) = N.normalizeNfc s := by
  rw [normalizeNfc, codePoints_normalizeNfc, N.nfc_idem]
  rfl

end Normalization

/-! ## A piece of the real table

The Devanagari letters U+0958 to U+095F decompose canonically into a consonant and
the nukta U+093C and are excluded from composition, so NFC replaces each of them by
two letters. `devanagari` is NFC on the texts in which these are the only code
points that normalization changes.
-/

/-- The consonant a composed letter decomposes into. -/
def nuktaBase (c : ℕ) : Option ℕ :=
  if c = 0x0958 then some 0x0915
  else if c = 0x0959 then some 0x0916
  else if c = 0x095A then some 0x0917
  else if c = 0x095B then some 0x091C
  else if c = 0x095C then some 0x0921
  else if c = 0x095D then some 0x0922
  else if c = 0x095E then some 0x092B
  else if c = 0x095F then some 0x092F
  else none

theorem nuktaBase_bounds {c b : ℕ} (h : nuktaBase c = some b) :
    0x0958 ≤ c ∧ c ≤ 0x095F ∧ 0x0915 ≤ b ∧ b ≤ 0x092F := by
  unfold nuktaBase at h
  split_ifs at h <;> simp_all <;> omega

theorem nuktaBase_eq_none {c : ℕ} (h : c < 0x0958 ∨ 0x095F < c) : nuktaBase c = none := by
  cases hc : nuktaBase c with
  | none => rfl
  | some b => have := nuktaBase_bounds hc; omega

def devanagariNfc (c : CodePoint) : List CodePoint :=
  match nuktaBase c.val with
  | some b => [Fin.ofNat 0x110000 b, ⟨0x093C, by norm_num⟩]
  | none => [c]

/-- A code point is kept, or becomes two code points that are kept. -/
theorem devanagariNfc_cases (c : CodePoint) :
    devanagariNfc c = [c] ∨
      (0x0958 ≤ c.val ∧ c.val ≤ 0x095F ∧ ∃ d e : CodePoint, devanagariNfc c = [d, e] ∧
        devanagariNfc d = [d] ∧ devanagariNfc e = [e] ∧ d.val < 0xD800 ∧ e.val < 0xD800) := by
  unfold devanagariNfc
  cases hc : nuktaBase c.val with
  | none => exact .inl rfl
  | some b =>
    obtain ⟨h1, h2, h3, h4⟩ := nuktaBase_bounds hc
    have hb : (Fin.ofNat 0x110000 b).val = b := Nat.mod_eq_of_lt (by omega)
    refine .inr ⟨h1, h2, _, _, rfl, ?_, ?_, by rw [hb]; omega, by norm_num⟩
    · rw [hb, nuktaBase_eq_none (by omega)]
    · rw [nuktaBase_eq_none (by norm_num)]

theorem devanagariNfc_idem (l : List CodePoint) :
    (l.flatMap devanagariNfc).flatMap devanagariNfc = l.flatMap devanagariNfc := by
  induction l with
  | nil => rfl
  | cons c l ih =>
    rw [List.flatMap_cons, List.flatMap_append, ih]
    congr 1
    obtain h | ⟨-, -, d, e, h, hd, he, -, -⟩ := devanagariNfc_cases c
    · simp [h]
    · simp [h, hd, he]

theorem devanagariNfc_ascii (l : List CodePoint) (h : Ascii l) : l.flatMap devanagariNfc = l := by
  induction l with
  | nil => rfl
  | cons c l ih =>
    have hc := h c (by simp)
    rw [List.flatMap_cons, ih fun x hx => h x (by simp [hx]), devanagariNfc,
      nuktaBase_eq_none (by omega)]
    rfl

theorem devanagariNfc_surrogates (l : List CodePoint) :
    (l.flatMap devanagariNfc).filter isSurrogate = l.filter isSurrogate := by
  induction l with
  | nil => rfl
  | cons c l ih =>
    rw [List.flatMap_cons, List.filter_append, ih]
    obtain h | ⟨h1, h2, d, e, h, -, -, hd, he⟩ := devanagariNfc_cases c
    · rw [h, ← List.filter_append]; rfl
    · have e1 : isSurrogate d = false := by simp [isSurrogate]; omega
      have e2 : isSurrogate e = false := by simp [isSurrogate]; omega
      have e3 : isSurrogate c = false := by simp [isSurrogate]; omega
      simp [h, e1, e2, e3]

theorem devanagariNfc_noSplitPair (l : List CodePoint) (h : NoSplitPair l) :
    NoSplitPair (l.flatMap devanagariNfc) := by
  -- the first code point of the result is below the surrogates, or is the one of `l`
  have hhead : ∀ (l : List CodePoint) (d : CodePoint) (r : List CodePoint),
      l.flatMap devanagariNfc = d :: r → d.val < 0xD800 ∨ ∃ r', l = d :: r' := by
    rintro (_ | ⟨c, l⟩) d r hd
    · cases hd
    · rw [List.flatMap_cons] at hd
      obtain hc | ⟨-, -, d', e, hc, -, -, hd', -⟩ := devanagariNfc_cases c
      · rw [hc] at hd
        simp only [List.singleton_append, List.cons.injEq] at hd
        exact .inr ⟨l, by rw [hd.1]⟩
      · rw [hc] at hd
        simp only [List.cons_append, List.cons.injEq] at hd
        rw [← hd.1]
        exact .inl hd'
  -- a code point below the low surrogates may stand before any text without split pairs
  have hcons : ∀ (c : CodePoint) (l : List CodePoint), c.val < 0xD800 → NoSplitPair l →
      NoSplitPair (c :: l) := by
    rintro c (_ | ⟨d, l⟩) hc hl
    · trivial
    · exact ⟨by omega, hl⟩
  induction l with
  | nil => trivial
  | cons c l ih =>
    have ih := ih h.tail
    rw [List.flatMap_cons]
    obtain hc | ⟨-, -, d, e, hc, -, -, hd, he⟩ := devanagariNfc_cases c
    · rw [hc, List.singleton_append]
      cases hl : l.flatMap devanagariNfc with
      | nil => trivial
      | cons d r =>
        rw [hl] at ih
        refine ⟨?_, ih⟩
        rcases hhead l d r hl with hd | ⟨r', rfl⟩
        · omega
        · exact h.1
    · rw [hc]
      exact hcons d _ hd (hcons e _ he ih)

/-- NFC restricted to the table above, and the identity for NFKC. -/
def devanagari : Normalization where
  nfc l := l.flatMap devanagariNfc
  nfkc l := l
  nfc_idem := devanagariNfc_idem
  nfc_ascii := devanagariNfc_ascii
  nfkc_ascii _ _ := rfl
  nfc_surrogates := devanagariNfc_surrogates
  nfc_noSplitPair := devanagariNfc_noSplitPair

end OpenRisk.Text
