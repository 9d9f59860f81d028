import OpenRisk.Text.Scalar

/-!
# Decoding UTF-8

The decoder of the Encoding standard. A byte that cannot continue a sequence ends it, and
is then read again as the start of the next one. `TextDecoder` with `fatal: true` refuses a
malformed sequence; `readFile(path, 'utf8')` puts U+FFFD in its place.

Results:
* `decodeFatal_eq_some`: what the decoder accepts are the bytes of the texts without lone
  surrogates.
* `decodeLossy_ascii`: the bytes of an ASCII text are decoded to that text.
-/

namespace OpenRisk.Text.Utf8

/-- What a first byte says: how many bytes follow, the range of the next one, and its own
    payload bits. -/
structure Lead where
  needed : ℕ
  lower : ℕ
  upper : ℕ
  bits : ℕ

/-- The first bytes of sequences. -/
def lead (b : ℕ) : Option Lead :=
  if b < 0x80 then some ⟨0, 0x80, 0xBF, b⟩
  else if b < 0xC2 then none
  else if b < 0xE0 then some ⟨1, 0x80, 0xBF, b % 32⟩
  else if b < 0xF0 then
    some ⟨2, if b = 0xE0 then 0xA0 else 0x80, if b = 0xED then 0x9F else 0xBF, b % 16⟩
  else if b < 0xF5 then
    some ⟨3, if b = 0xF0 then 0x90 else 0x80, if b = 0xF4 then 0x8F else 0xBF, b % 8⟩
  else none

/-- Read `needed` continuation bytes; the first of them is in a range of its own. -/
def continuation : ℕ → ℕ → ℕ → ℕ → List UInt8 → Option ℕ × List UInt8
  | 0, _, _, bits, bs => (some bits, bs)
  | _ + 1, _, _, _, [] => (none, [])
  | needed + 1, lower, upper, bits, b :: bs =>
    if lower ≤ b.toNat ∧ b.toNat ≤ upper then
      continuation needed 0x80 0xBF (bits * 64 + b.toNat % 64) bs
    else (none, b :: bs)

/-- The decoded code points, `none` for each malformed sequence. Every sequence has at least
    one byte, so the number of bytes is enough fuel. -/
def decodeFrom : ℕ → List UInt8 → List (Option CodePoint)
  | 0, _ => []
  | _, [] => []
  | fuel + 1, b :: bs =>
    match lead b.toNat with
    | none => none :: decodeFrom fuel bs
    | some l =>
      let (value, rest) := continuation l.needed l.lower l.upper l.bits bs
      value.map (Fin.ofNat 0x110000) :: decodeFrom fuel rest

/-- The decoded code points, `none` for each malformed sequence. -/
def decode (bytes : List UInt8) : List (Option CodePoint) := decodeFrom bytes.length bytes

/-- `new TextDecoder('utf-8', { fatal: true }).decode(bytes)` for bytes that do not start
    with a byte order mark. -/
def decodeFatal (bytes : List UInt8) : Option JsString :=
  ((decode bytes).mapM id).map fun cs => cs.flatMap utf16

/-- `buffer.toString('utf8')`. -/
def decodeLossy (bytes : List UInt8) : JsString :=
  (decode bytes).flatMap fun c => utf16 (c.getD 0xFFFD)

/-! ## Bytes of a code point -/

theorem utf8_three {c : CodePoint} (hlow : 0x800 ≤ c.val) (hhigh : c.val < 0x10000)
    (hc : isSurrogate c = false) :
    utf8 c = [(0xE0 + c.val / 0x1000).toUInt8, (0x80 + c.val / 0x40 % 0x40).toUInt8,
      (0x80 + c.val % 0x40).toUInt8] := by
  unfold utf8
  rw [if_neg (by omega), if_neg (by omega), if_neg (by rw [hc]; decide), if_pos hhigh]

theorem utf8_four {c : CodePoint} (hlow : 0x10000 ≤ c.val) :
    utf8 c = [(0xF0 + c.val / 0x40000).toUInt8, (0x80 + c.val / 0x1000 % 0x40).toUInt8,
      (0x80 + c.val / 0x40 % 0x40).toUInt8, (0x80 + c.val % 0x40).toUInt8] := by
  have hc : isSurrogate c = false := by
    simp only [isSurrogate, Bool.and_eq_false_iff, decide_eq_false_iff_not]
    omega
  unfold utf8
  rw [if_neg (by omega), if_neg (by omega), if_neg (by rw [hc]; decide), if_neg (by omega)]

theorem continuation_cons {needed lower upper bits n : ℕ} (hn : n < 256) (hlower : lower ≤ n)
    (hupper : n ≤ upper) (rest : List UInt8) :
    continuation (needed + 1) lower upper bits (n.toUInt8 :: rest) =
      continuation needed 0x80 0xBF (bits * 64 + n % 64) rest := by
  rw [continuation, toNat_toUInt8 hn, if_pos ⟨hlower, hupper⟩]

/-- The bytes of a code point are read as it. -/
theorem continuation_utf8 {c : CodePoint} (hc : isSurrogate c = false) (rest : List UInt8) :
    ∃ b l bs, utf8 c = b :: bs ∧ lead b.toNat = some l ∧
      continuation l.needed l.lower l.upper l.bits (bs ++ rest) = (some c.val, rest) := by
  have hmax := c.isLt
  simp only [isSurrogate, Bool.and_eq_false_iff, decide_eq_false_iff_not] at hc
  by_cases h1 : c.val < 0x80
  · refine ⟨_, ⟨0, 0x80, 0xBF, c.val⟩, [], by rw [utf8, if_pos h1], ?_, rfl⟩
    rw [toNat_toUInt8 (by omega), lead, if_pos h1]
  by_cases h2 : c.val < 0x800
  · refine ⟨_, ⟨1, 0x80, 0xBF, (0xC0 + c.val / 0x40) % 32⟩, _,
      by rw [utf8, if_neg h1, if_pos h2], ?_, ?_⟩
    · rw [toNat_toUInt8 (by omega), lead, if_neg (by omega), if_neg (by omega), if_pos (by omega)]
    · dsimp only
      rw [List.singleton_append, continuation_cons (by omega) (by omega) (by omega), continuation]
      congr 2
      omega
  by_cases h3 : c.val < 0x10000
  · refine ⟨_, ⟨2, if 0xE0 + c.val / 0x1000 = 0xE0 then 0xA0 else 0x80,
        if 0xE0 + c.val / 0x1000 = 0xED then 0x9F else 0xBF, (0xE0 + c.val / 0x1000) % 16⟩, _,
      utf8_three (by omega) h3 ?_, ?_, ?_⟩
    · simp only [isSurrogate, Bool.and_eq_false_iff, decide_eq_false_iff_not]
      omega
    · rw [toNat_toUInt8 (by omega), lead, if_neg (by omega), if_neg (by omega), if_neg (by omega),
        if_pos (by omega)]
    · dsimp only
      rw [List.cons_append, List.singleton_append, continuation_cons (by omega) (by split <;> omega)
        (by split <;> omega), continuation_cons (by omega) (by omega) (by omega), continuation]
      congr 2
      omega
  · refine ⟨_, ⟨3, if 0xF0 + c.val / 0x40000 = 0xF0 then 0x90 else 0x80,
        if 0xF0 + c.val / 0x40000 = 0xF4 then 0x8F else 0xBF, (0xF0 + c.val / 0x40000) % 8⟩, _,
      utf8_four (by omega), ?_, ?_⟩
    · rw [toNat_toUInt8 (by omega), lead, if_neg (by omega), if_neg (by omega), if_neg (by omega),
        if_neg (by omega), if_pos (by omega)]
    · dsimp only
      rw [List.cons_append, List.cons_append, List.singleton_append,
        continuation_cons (by omega) (by split <;> omega) (by split <;> omega),
        continuation_cons (by omega) (by omega) (by omega),
        continuation_cons (by omega) (by omega) (by omega), continuation]
      congr 2
      omega

theorem decodeFrom_flatMap_utf8 {l : List CodePoint} (h : Scalar l) {fuel : ℕ}
    (hfuel : (l.flatMap utf8).length ≤ fuel) : decodeFrom fuel (l.flatMap utf8) = l.map some := by
  induction l generalizing fuel with
  | nil => cases fuel <;> rfl
  | cons c l ih =>
    obtain ⟨hc, hl⟩ := scalar_cons.mp h
    obtain ⟨b, lead', bs, hutf8, hlead, hrest⟩ := continuation_utf8 hc (l.flatMap utf8)
    rw [List.flatMap_cons, hutf8, List.cons_append] at hfuel ⊢
    cases fuel with
    | zero => cases hfuel
    | succ fuel =>
      have hpoint : Fin.ofNat 0x110000 c.val = c := Fin.ofNat_val_eq_self c
      rw [List.length_cons, List.length_append] at hfuel
      simp only [decodeFrom, hlead, hrest, Option.map_some, hpoint, List.map_cons,
        ih hl (show (l.flatMap utf8).length ≤ fuel by omega)]

theorem continuation_eq_some {needed lower upper bits value : ℕ} {bs rest : List UInt8}
    (h : continuation (needed + 1) lower upper bits bs = (some value, rest)) :
    ∃ b bs', bs = b :: bs' ∧ lower ≤ b.toNat ∧ b.toNat ≤ upper ∧
      continuation needed 0x80 0xBF (bits * 64 + b.toNat % 64) bs' = (some value, rest) := by
  cases bs with
  | nil => cases h
  | cons b bs =>
    rw [continuation] at h
    split_ifs at h with hrange
    · exact ⟨b, bs, rfl, hrange.1, hrange.2, h⟩
    · cases h

/-- A sequence that is read is the bytes of a code point. -/
theorem eq_utf8_of_continuation {b : UInt8} {l : Lead} {bs rest : List UInt8} {value : ℕ}
    (hlead : lead b.toNat = some l)
    (h : continuation l.needed l.lower l.upper l.bits bs = (some value, rest)) :
    ∃ c : CodePoint, c.val = value ∧ isSurrogate c = false ∧ b :: bs = utf8 c ++ rest := by
  unfold lead at hlead
  by_cases h1 : b.toNat < 0x80
  · rw [if_pos h1] at hlead
    cases hlead
    cases h
    have hc : isSurrogate ⟨b.toNat, by omega⟩ = false := isSurrogate_of_lt (by simp; omega)
    refine ⟨⟨b.toNat, by omega⟩, rfl, hc, ?_⟩
    rw [utf8, if_pos h1, toUInt8_of_eq rfl]
    rfl
  by_cases h2 : b.toNat < 0xC2
  · rw [if_neg h1, if_pos h2] at hlead
    cases hlead
  by_cases h3 : b.toNat < 0xE0
  · rw [if_neg h1, if_neg h2, if_pos h3] at hlead
    cases hlead
    obtain ⟨b1, bs, rfl, hlow, hhigh, h⟩ := continuation_eq_some h
    cases h
    dsimp only at hlow hhigh
    refine ⟨⟨b.toNat % 32 * 64 + b1.toNat % 64, by omega⟩, rfl, isSurrogate_of_lt (by simp; omega), ?_⟩
    rw [utf8, if_neg (by simp; omega), if_pos (by simp; omega), toUInt8_of_eq (b := b) (by simp; omega),
      toUInt8_of_eq (b := b1) (by simp; omega)]
    rfl
  by_cases h4 : b.toNat < 0xF0
  · rw [if_neg h1, if_neg h2, if_neg h3, if_pos h4] at hlead
    cases hlead
    obtain ⟨b1, bs, rfl, hlow, hhigh, h⟩ := continuation_eq_some h
    obtain ⟨b2, bs, rfl, hlow2, hhigh2, h⟩ := continuation_eq_some h
    cases h
    have hfirst : 0x80 ≤ b1.toNat ∧ (b.toNat = 0xE0 → 0xA0 ≤ b1.toNat) := by
      dsimp only at hlow
      split at hlow <;> omega
    have hfirst' : b1.toNat ≤ 0xBF ∧ (b.toNat = 0xED → b1.toNat ≤ 0x9F) := by
      dsimp only at hhigh
      split at hhigh <;> omega
    clear hlow hhigh
    have hc : isSurrogate ⟨(b.toNat % 16 * 64 + b1.toNat % 64) * 64 + b2.toNat % 64, by omega⟩ =
        false := by
      simp only [isSurrogate, Bool.and_eq_false_iff, decide_eq_false_iff_not]
      omega
    refine ⟨_, rfl, hc, ?_⟩
    rw [utf8_three (by dsimp only; omega) (by simp; omega) hc,
      toUInt8_of_eq (b := b) (by simp; omega), toUInt8_of_eq (b := b1) (by simp; omega),
      toUInt8_of_eq (b := b2) (by simp; omega)]
    rfl
  by_cases h5 : b.toNat < 0xF5
  · rw [if_neg h1, if_neg h2, if_neg h3, if_neg h4, if_pos h5] at hlead
    cases hlead
    obtain ⟨b1, bs, rfl, hlow, hhigh, h⟩ := continuation_eq_some h
    obtain ⟨b2, bs, rfl, hlow2, hhigh2, h⟩ := continuation_eq_some h
    obtain ⟨b3, bs, rfl, hlow3, hhigh3, h⟩ := continuation_eq_some h
    cases h
    have hfirst : 0x80 ≤ b1.toNat ∧ (b.toNat = 0xF0 → 0x90 ≤ b1.toNat) := by
      dsimp only at hlow
      split at hlow <;> omega
    have hfirst' : b1.toNat ≤ 0xBF ∧ (b.toNat = 0xF4 → b1.toNat ≤ 0x8F) := by
      dsimp only at hhigh
      split at hhigh <;> omega
    clear hlow hhigh
    have hmax : ((b.toNat % 8 * 64 + b1.toNat % 64) * 64 + b2.toNat % 64) * 64 + b3.toNat % 64 <
        0x110000 := by
      omega
    have hmin : 0x10000 ≤
        ((b.toNat % 8 * 64 + b1.toNat % 64) * 64 + b2.toNat % 64) * 64 + b3.toNat % 64 := by
      omega
    have hc : isSurrogate ⟨_, hmax⟩ = false := by
      simp only [isSurrogate, Bool.and_eq_false_iff, decide_eq_false_iff_not]
      omega
    refine ⟨⟨_, hmax⟩, rfl, hc, ?_⟩
    rw [utf8_four hmin,
      toUInt8_of_eq (b := b) (by simp; omega), toUInt8_of_eq (b := b1) (by simp; omega),
      toUInt8_of_eq (b := b2) (by simp; omega), toUInt8_of_eq (b := b3) (by simp; omega)]
    rfl
  · rw [if_neg h1, if_neg h2, if_neg h3, if_neg h4, if_neg h5] at hlead
    cases hlead

theorem length_continuation_le (needed lower upper bits : ℕ) (bs : List UInt8) :
    (continuation needed lower upper bits bs).2.length ≤ bs.length := by
  fun_induction continuation needed lower upper bits bs with
  | case1 => exact le_refl _
  | case2 => exact le_refl _
  | case3 _ _ _ _ b bs _ ih =>
    rw [List.length_cons]
    omega
  | case4 => exact le_refl _

theorem eq_of_decodeFrom {fuel : ℕ} {bytes : List UInt8} {l : List CodePoint}
    (hfuel : bytes.length ≤ fuel) (h : decodeFrom fuel bytes = l.map some) :
    bytes = l.flatMap utf8 ∧ Scalar l := by
  induction fuel generalizing bytes l with
  | zero =>
    cases bytes with
    | nil =>
      cases l with
      | nil => exact ⟨rfl, by simp [Scalar]⟩
      | cons c l => cases h
    | cons b bs => cases hfuel
  | succ fuel ih =>
    cases bytes with
    | nil =>
      cases l with
      | nil => exact ⟨rfl, by simp [Scalar]⟩
      | cons c l => cases h
    | cons b bs =>
      rw [List.length_cons] at hfuel
      rw [decodeFrom] at h
      cases hlead : lead b.toNat with
      | none =>
        rw [hlead] at h
        cases l <;> simp at h
      | some ld =>
        have hlen := length_continuation_le ld.needed ld.lower ld.upper ld.bits bs
        rcases hcont : continuation ld.needed ld.lower ld.upper ld.bits bs with ⟨value, rest⟩
        simp only [hlead, hcont] at h hlen
        cases l with
        | nil => cases h
        | cons c l =>
          rw [List.map_cons, List.cons.injEq] at h
          obtain ⟨hvalue, hrest⟩ := h
          obtain ⟨v, rfl, hv⟩ := Option.map_eq_some_iff.mp hvalue
          obtain ⟨d, rfl, hd, hbytes⟩ := eq_utf8_of_continuation hlead hcont
          obtain ⟨rfl, hl⟩ := ih (by omega) hrest
          have hpoint : Fin.ofNat 0x110000 d.val = d := Fin.ofNat_val_eq_self d
          rw [hpoint] at hv
          subst hv
          exact ⟨hbytes, scalar_cons.mpr ⟨hd, hl⟩⟩

theorem mapM_id_eq_some {α : Type} {l : List (Option α)} {m : List α} :
    l.mapM id = some m ↔ l = m.map some := by
  induction l generalizing m with
  | nil => cases m <;> simp
  | cons x l ih =>
    rw [List.mapM_cons, Option.bind_eq_bind, Option.bind_eq_some_iff]
    constructor
    · rintro ⟨y, rfl, h⟩
      obtain ⟨ys, hys, hm⟩ := Option.bind_eq_some_iff.mp h
      cases hm
      rw [ih.mp hys]
      rfl
    · intro h
      cases m with
      | nil => cases h
      | cons y ys =>
        rw [List.map_cons, List.cons.injEq] at h
        exact ⟨y, h.1, Option.bind_eq_some_iff.mpr ⟨ys, ih.mpr h.2, rfl⟩⟩

/-- The decoder accepts the bytes of the texts without lone surrogates, as those texts. -/
theorem decodeFatal_eq_some {bytes : List UInt8} {s : JsString} :
    decodeFatal bytes = some s ↔ bytes = utf8Encode s ∧ Scalar (codePoints s) := by
  rw [decodeFatal, Option.map_eq_some_iff]
  constructor
  · rintro ⟨l, hl, rfl⟩
    rw [mapM_id_eq_some] at hl
    obtain ⟨hbytes, hscalar⟩ := eq_of_decodeFrom (le_refl _) hl
    rw [utf8Encode_eq, codePoints_flatMap_utf16 l hscalar.noSplitPair]
    exact ⟨hbytes, hscalar⟩
  · rintro ⟨rfl, hscalar⟩
    refine ⟨codePoints s, mapM_id_eq_some.mpr ?_, flatMap_utf16_codePoints s⟩
    rw [decode, utf8Encode_eq]
    exact decodeFrom_flatMap_utf8 hscalar (le_refl _)

/-! ## ASCII -/

theorem decodeFrom_ascii {s : JsString} (h : ∀ u ∈ s, u.toNat < 0x80) {fuel : ℕ}
    (hfuel : s.length ≤ fuel) :
    decodeFrom fuel (s.map fun u => u.toNat.toUInt8) = s.map fun u => some (unitPoint u) := by
  induction s generalizing fuel with
  | nil => cases fuel <;> rfl
  | cons u s ih =>
    have hu := h u List.mem_cons_self
    have hs : ∀ v ∈ s, v.toNat < 0x80 := fun v hv => h v (List.mem_cons_of_mem u hv)
    cases fuel with
    | zero => cases hfuel
    | succ fuel =>
      rw [List.length_cons] at hfuel
      have hbyte : u.toNat.toUInt8.toNat = u.toNat := by
        simp
        omega
      have hlead : lead u.toNat = some ⟨0, 0x80, 0xBF, u.toNat⟩ := if_pos hu
      have hpoint : Fin.ofNat 0x110000 u.toNat = unitPoint u := by
        apply Fin.ext
        show u.toNat % 0x110000 = u.toNat
        omega
      have hrest := @ih hs fuel (by omega)
      simp only [List.map_cons, decodeFrom, hbyte, hlead, continuation, Option.map_some, hpoint,
        hrest]

theorem utf8Encode_of_ascii {s : JsString} (h : ∀ u ∈ s, u.toNat < 0x80) :
    utf8Encode s = s.map fun u => u.toNat.toUInt8 := by
  have hall : (s.all fun u => u.toNat.ble 0x7F) = true :=
    List.all_eq_true.mpr fun u hu => Nat.ble_eq.mpr (Nat.le_of_lt_succ (h u hu))
  rw [utf8Encode, if_pos hall]

/-- The bytes of an ASCII text are decoded to that text. -/
theorem decodeLossy_ascii {s : JsString} (h : ∀ u ∈ s, u.toNat < 0x80) :
    decodeLossy (utf8Encode s) = s := by
  rw [utf8Encode_of_ascii h, decodeLossy, decode, List.length_map, decodeFrom_ascii h le_rfl,
    List.flatMap_map]
  simp only [Option.getD_some, utf16_unitPoint]
  exact List.flatMap_singleton' s

theorem decodeFatal_ascii {s : JsString} (h : ∀ u ∈ s, u.toNat < 0x80) :
    decodeFatal (utf8Encode s) = some s := by
  refine decodeFatal_eq_some.mpr ⟨rfl, ?_⟩
  rw [codePoints_of_ascii h]
  exact scalar_map_unitPoint h

end OpenRisk.Text.Utf8
