import OpenRisk.Json.Bytes
import OpenRisk.Sdk.CanonicalForm

/-!
# The size of canonical texts

`canonicalizePayload` compares the number of bytes of the canonical text with a bound.
The number is a sum over the value: the order of the members does not matter.

Results:
* `byteLength_canonicalizeValue_eq`: the size of the canonical text is `canonicalBytes`.
* `byteLength_quote_plain`: what a literal without escapes takes.
* `entries_fit`: members within bounds take the sum of the bounds and of their names.
-/

namespace OpenRisk.Sdk

open Text

/-! ## Bytes of a text -/

theorem byteLength_cons_ascii {u : UInt16} (h : u.toNat < 0x80) (s : JsString) :
    byteLength (u :: s) = byteLength s + 1 := by
  rw [byteLength_eq, codePoints_cons_ascii h, List.flatMap_cons, List.length_append, utf8,
    if_pos (by rw [unitPoint_val]; exact h)]
  rw [byteLength_eq, List.length_singleton, Nat.add_comm]

theorem byteLength_append_cons_ascii {u : UInt16} (h : u.toNat < 0x80) (s t : JsString) :
    byteLength (s ++ u :: t) = byteLength s + byteLength t + 1 := by
  rw [byteLength_eq, codePoints_append_cons_ascii h, ← codePoints_cons_ascii h,
    List.flatMap_append, List.length_append]
  rw [Nat.add_assoc, ← byteLength_cons_ascii h, byteLength_eq, byteLength_eq]

theorem byteLength_ascii {s : JsString} (h : ∀ u ∈ s, u.toNat < 0x80) :
    byteLength s = s.length := by
  induction s with
  | nil => rfl
  | cons u s ih =>
    rw [byteLength_cons_ascii (h u (by simp)), ih fun v hv => h v (by simp [hv]), List.length_cons]

/-- The bytes a code point takes inside a string literal. -/
def escapedBytes (c : CodePoint) : ℕ :=
  if c.val = 0x08 ∨ c.val = 0x09 ∨ c.val = 0x0A ∨ c.val = 0x0C ∨ c.val = 0x0D ∨ c.val = 0x22 ∨
      c.val = 0x5C then 2
  else if c.val < 0x20 ∨ isSurrogate c = true then 6
  else if c.val < 0x80 then 1
  else if c.val < 0x800 then 2
  else if c.val < 0x10000 then 3
  else 4

theorem byteLength_escape (c : CodePoint) : byteLength (Json.escape c) = escapedBytes c := by
  by_cases htwo : c.val = 0x08 ∨ c.val = 0x09 ∨ c.val = 0x0A ∨ c.val = 0x0C ∨ c.val = 0x0D ∨
      c.val = 0x22 ∨ c.val = 0x5C
  · rw [escapedBytes, if_pos htwo]
    unfold Json.escape
    rcases htwo with h | h | h | h | h | h | h
    all_goals
      rw [h]
      rfl
  · rw [escapedBytes, if_neg htwo]
    obtain ⟨h1, h2, h3, h4, h5, h6, h7⟩ := by simpa only [not_or] using htwo
    rw [Json.escape, if_neg h1, if_neg h2, if_neg h3, if_neg h4, if_neg h5, if_neg h6, if_neg h7]
    by_cases hesc : c.val < 0x20 ∨ isSurrogate c = true
    · rw [if_pos hesc, if_pos hesc]
      exact byteLength_ascii (Json.unicodeEscape_ascii _)
    · have hc : isSurrogate c = false := Bool.eq_false_iff.mpr fun h => hesc (.inr h)
      rw [if_neg hesc, if_neg hesc, byteLength_eq, codePoints_utf16,
        List.flatMap_singleton, utf8, hc, if_neg Bool.false_ne_true]
      split_ifs
      all_goals rfl

theorem byteLength_quote (s : JsString) :
    byteLength (Json.quote s) = ((codePoints s).map escapedBytes).sum + 2 := by
  have hflat : ∀ l : List CodePoint,
      byteLength (l.flatMap Json.escape) = (l.map escapedBytes).sum := by
    intro l
    rw [byteLength_eq, Json.codePoints_flatMap_escape]
    induction l with
    | nil => rfl
    | cons c l ih =>
      rw [List.flatMap_cons, List.flatMap_append, List.length_append, ih, List.map_cons,
        List.sum_cons, ← byteLength_escape, byteLength_eq]
  rw [Json.quote, byteLength_cons_ascii (by decide), byteLength_append_cons_ascii (by decide),
    hflat]
  rfl

theorem byteLength_joinComma (ts : List JsString) :
    byteLength (joinComma ts) = (ts.map byteLength).sum + (ts.length - 1) := by
  induction ts with
  | nil => rfl
  | cons t ts ih =>
    cases ts with
    | nil => simp [joinComma]
    | cons u ts =>
      rw [joinComma, byteLength_append_cons_ascii (by decide), ih]
      simp
      omega

/-- A printable ASCII unit that a string literal does not escape. -/
def isPlainUnit (u : UInt16) : Bool :=
  0x20 ≤ u.toNat && u.toNat < 0x80 && u.toNat ≠ 0x22 && u.toNat ≠ 0x5C

theorem isPlainUnit_of_isKeyUnit {u : UInt16} (h : isKeyUnit u = true) : isPlainUnit u = true := by
  simp only [isKeyUnit, isAlphaNumeric, isLowerAlpha, isUpperAlpha, Json.isDigit,
    Bool.or_eq_true, Bool.and_eq_true, decide_eq_true_eq] at h
  simp only [isPlainUnit, Bool.and_eq_true, decide_eq_true_eq]
  rcases h with ((((h | h) | h) | rfl) | rfl) | rfl
  · omega
  · omega
  · omega
  all_goals decide

/-- A text without escapes takes its length and two quotes. -/
theorem byteLength_quote_plain {s : JsString} (h : ∀ u ∈ s, isPlainUnit u = true) :
    byteLength (Json.quote s) = s.length + 2 := by
  simp only [isPlainUnit, Bool.and_eq_true, decide_eq_true_eq] at h
  rw [byteLength_quote, codePoints_of_ascii fun u hu => (h u hu).1.1.2, List.map_map]
  have hone : ∀ u ∈ s, (escapedBytes ∘ unitPoint) u = 1 := by
    intro u hu
    obtain ⟨⟨⟨hlow, hhigh⟩, hquote⟩, hbackslash⟩ := h u hu
    have hsurrogate : isSurrogate (unitPoint u) = false :=
      isSurrogate_of_lt (by rw [unitPoint_val]; omega)
    rw [Function.comp_apply, escapedBytes, unitPoint_val, hsurrogate, if_neg (by omega),
      if_neg (by simp; omega), if_pos hhigh]
  rw [List.map_congr_left hone, List.map_const', List.sum_replicate]
  simp

/-- A text of at most `n` units that a string literal does not escape. -/
def PlainWithin (n : ℕ) (s : JsString) : Prop := (∀ u ∈ s, isPlainUnit u = true) ∧ s.length ≤ n

theorem PlainWithin.cons {n : ℕ} {u : UInt16} {s : JsString} (hu : isPlainUnit u = true)
    (h : PlainWithin n s) : PlainWithin (n + 1) (u :: s) :=
  ⟨List.forall_mem_cons.mpr ⟨hu, h.1⟩, Nat.succ_le_succ h.2⟩

theorem PlainWithin.append {m n : ℕ} {s t : JsString} (hs : PlainWithin m s)
    (ht : PlainWithin n t) : PlainWithin (m + n) (s ++ t) := by
  refine ⟨List.forall_mem_append.mpr ⟨hs.1, ht.1⟩, ?_⟩
  rw [List.length_append]
  exact Nat.add_le_add hs.2 ht.2

theorem PlainWithin.mono {m n : ℕ} {s : JsString} (h : PlainWithin m s) (hle : m ≤ n) :
    PlainWithin n s :=
  ⟨h.1, h.2.trans hle⟩

theorem isPlainUnit_of_isDigit {u : UInt16} (h : Json.isDigit u = true) : isPlainUnit u = true :=
  isPlainUnit_of_isKeyUnit (by simp [isKeyUnit, isAlphaNumeric, h])

theorem ascii_of_plain {s : JsString} (h : ∀ u ∈ s, isPlainUnit u = true) :
    ∀ u ∈ s, u.toNat < 0x80 := by
  intro u hu
  have hplain := h u hu
  simp only [isPlainUnit, Bool.and_eq_true, decide_eq_true_eq] at hplain
  exact hplain.1.1.2

theorem normalizeNfc_ascii {N : Normalization} {s : JsString} (h : ∀ u ∈ s, u.toNat < 0x80) :
    N.normalizeNfc s = s := by
  have hascii : Ascii (s.map unitPoint) := by
    intro c hc
    obtain ⟨u, hu, rfl⟩ := List.mem_map.mp hc
    exact h u hu
  rw [Normalization.normalizeNfc, codePoints_of_ascii h, N.nfc_ascii _ hascii,
    ← codePoints_of_ascii h, flatMap_utf16_codePoints]

/-! ## Bytes of a canonical text -/

mutual

/-- The number of bytes of the canonical text of a value. -/
def canonicalBytes (N : Normalization) : JsValue → ℕ
  | .null => 4
  | .bool true => 4
  | .bool false => 5
  | .number x => x.text.length
  | .string s => byteLength (Json.quote (N.normalizeNfc s))
  | .array xs => itemsBytes N xs + (xs.length - 1) + 2
  | .object es => entriesBytes N es + (es.length - 1) + 2

def itemsBytes (N : Normalization) : List JsValue → ℕ
  | [] => 0
  | x :: xs => canonicalBytes N x + itemsBytes N xs

/-- A name takes its literal and a colon. -/
def entriesBytes (N : Normalization) : List (JsString × JsValue) → ℕ
  | [] => 0
  | (key, x) :: es => byteLength (Json.quote key) + 1 + canonicalBytes N x + entriesBytes N es

end

section Size

variable {N : Normalization}

theorem itemsBytes_eq (xs : List JsValue) : itemsBytes N xs = (xs.map (canonicalBytes N)).sum := by
  induction xs with
  | nil => rfl
  | cons x xs ih => rw [itemsBytes, ih]; rfl

theorem entriesBytes_eq (es : List (JsString × JsValue)) :
    entriesBytes N es =
      (es.map fun e => byteLength (Json.quote e.1) + 1 + canonicalBytes N e.2).sum := by
  induction es with
  | nil => rfl
  | cons e es ih => rw [entriesBytes, ih]; rfl

/-- The size of the canonical text of any value. -/
theorem byteLength_canonicalizeValue_eq (v : JsValue) :
    byteLength (canonicalizeValue N v) = canonicalBytes N v := by
  induction v using JsValue.induct with
  | null => rfl
  | bool b => cases b <;> rfl
  | number x =>
    rw [canonicalizeValue, canonicalBytes]
    exact byteLength_ascii (Json.decimalInt_ascii _)
  | string s => rw [canonicalizeValue, canonicalBytes]
  | array xs ih =>
    rw [canonicalizeValue, canonicalBytes, byteLength_cons_ascii (by decide),
      byteLength_append_cons_ascii (by decide), byteLength_joinComma, canonicalizeItems_eq,
      itemsBytes_eq, List.map_map, List.length_map]
    rw [← List.map_congr_left ih]
    rfl
  | object es ih =>
    have hperm := List.perm_insertionSort keyLE (canonicalizeEntries N es)
    rw [canonicalizeValue, canonicalBytes, byteLength_cons_ascii (by decide),
      byteLength_append_cons_ascii (by decide), byteLength_joinComma, List.map_map, List.length_map,
      (hperm.map _).sum_eq, hperm.length_eq, canonicalizeEntries_eq, entriesBytes_eq, List.map_map,
      List.length_map]
    have hentry : ∀ e ∈ es, byteLength (Json.quote e.1 ++ 0x3A :: canonicalizeValue N e.2) =
        byteLength (Json.quote e.1) + 1 + canonicalBytes N e.2 := by
      intro e he
      rw [byteLength_append_cons_ascii (by decide), ih e he]
      omega
    rw [← List.map_congr_left hentry]
    rfl

theorem canonicalBytes_plain {s : JsString} (h : ∀ u ∈ s, isPlainUnit u = true) :
    canonicalBytes N (.string s) = s.length + 2 := by
  rw [canonicalBytes, normalizeNfc_ascii (ascii_of_plain h), byteLength_quote_plain h]

theorem length_decimal_le {n k : ℕ} (hk : 0 < k) (h : n < 10 ^ k) : (Json.decimal n).length ≤ k := by
  unfold Json.decimal Json.radixText
  split_ifs with hn
  · exact hk
  · rw [List.length_map, List.length_reverse]
    exact (Nat.digits_length_le_iff (by norm_num) n).mpr h

theorem length_decimal_pow (k : ℕ) : (Json.decimal (10 ^ k)).length = k + 1 := by
  have hpos : 10 ^ k ≠ 0 := pow_ne_zero k (by norm_num)
  rw [Json.decimal, Json.radixText, if_neg hpos, List.length_map, List.length_reverse,
    Nat.digits_len 10 _ (by norm_num) hpos, Nat.log_pow (by norm_num)]

theorem canonicalBytes_natural {n k : ℕ} (hk : 0 < k) (h : n < 10 ^ k) :
    canonicalBytes N (.number (.ofInt n)) ≤ k := by
  rw [canonicalBytes, JsNumber.text, JsNumber.toInt_ofInt]
  exact length_decimal_le hk h

/-! ## Names -/

/-- The two checks of a name, without normalization. -/
def isPlainKey (key : JsString) : Bool :=
  PAYLOAD_KEY_PATTERN key &&
    !sensitivePayloadKeys.contains ((toLowerAscii key).filter fun u => isLowerAlpha u || Json.isDigit u)

theorem plain_of_payloadKey {key : JsString} (h : PAYLOAD_KEY_PATTERN key = true) :
    ∀ u ∈ key, isPlainUnit u = true := by
  intro u hu
  simp only [PAYLOAD_KEY_PATTERN, Bool.and_eq_true, List.all_eq_true] at h
  exact isPlainUnit_of_isKeyUnit (h.2 u hu)

/-- Compatibility normalization does not change a name of the accepted form. -/
theorem safeKey_of_isPlainKey {key : JsString} (h : isPlainKey key = true) : SafeKey N key := by
  simp only [isPlainKey, Bool.and_eq_true, Bool.not_eq_true', List.contains_eq_mem,
    decide_eq_false_iff_not] at h
  refine ⟨h.1, ?_⟩
  have hascii := ascii_of_plain (plain_of_payloadKey h.1)
  have hpoints : Ascii (key.map unitPoint) := by
    intro c hc
    obtain ⟨u, hu, rfl⟩ := List.mem_map.mp hc
    exact hascii u hu
  rw [normalizedSensitiveKey, Normalization.normalizeNfkc, codePoints_of_ascii hascii,
    N.nfkc_ascii _ hpoints, ← codePoints_of_ascii hascii, flatMap_utf16_codePoints]
  exact h.2

theorem byteLength_quote_key {key : JsString} (h : isPlainKey key = true) :
    byteLength (Json.quote key) = key.length + 2 := by
  rw [isPlainKey, Bool.and_eq_true] at h
  exact byteLength_quote_plain (plain_of_payloadKey h.1)

/-! ## Members -/

/-- A member that is no array or object, of at most `n` bytes. -/
structure Fits (N : Normalization) (n : ℕ) (v : JsValue) : Prop where
  clean : Clean N v
  bytes : canonicalBytes N v ≤ n
  nodes : nodeCount v = 1
  flat : height v = 0

theorem PlainWithin.fits {n : ℕ} {s : JsString} (h : PlainWithin n s) (hn : n ≤ 2048) :
    Fits N (n + 2) (.string s) where
  clean := h.2.trans hn
  bytes := by
    rw [canonicalBytes_plain h.1]
    exact Nat.add_le_add_right h.2 2
  nodes := rfl
  flat := rfl

theorem Fits.null {n : ℕ} (hn : 4 ≤ n) : Fits N n .null := ⟨trivial, hn, rfl, rfl⟩

theorem Fits.bool (b : Bool) : Fits N 5 (.bool b) where
  clean := trivial
  bytes := by
    cases b with
    | true => exact Nat.le_succ 4
    | false => exact le_refl 5
  nodes := rfl
  flat := rfl

/-- Members that fit take the sum of their bounds, and of their names. -/
theorem entries_fit {bounds : List ℕ} {es : List (JsString × JsValue)}
    (hkeys : ∀ key ∈ es.map Prod.fst, isPlainKey key = true)
    (h : List.Forall₂ (fun n e => Fits N n e.2) bounds es) :
    CleanEntries N es ∧ nodeCountEntries es = es.length ∧ heightEntries es ≤ 1 ∧
      entriesBytes N es ≤ bounds.sum + ((es.map Prod.fst).map fun key => key.length + 3).sum := by
  induction h with
  | nil => exact ⟨trivial, rfl, Nat.zero_le _, le_refl _⟩
  | @cons n e bounds es hfits _ ih =>
    rw [List.map_cons, List.forall_mem_cons] at hkeys
    obtain ⟨hclean, hnodes, hheight, hbytes⟩ := ih hkeys.2
    have hname := byteLength_quote_key hkeys.1
    have hvalue := hfits.bytes
    refine ⟨⟨safeKey_of_isPlainKey hkeys.1, hfits.clean, hclean⟩, ?_, ?_, ?_⟩
    · rw [nodeCountEntries, hfits.nodes, hnodes, List.length_cons, Nat.add_comm]
    · rw [heightEntries, hfits.flat]
      exact max_le (by norm_num) hheight
    · simp only [entriesBytes, List.map_cons, List.sum_cons]
      omega

/-- An object of members that fit is accepted, if the sum of their bounds is small. -/
theorem canonicalizePayload_of_fits {bounds : List ℕ} {es : List (JsString × JsValue)}
    (hkeys : ∀ key ∈ es.map Prod.fst, isPlainKey key = true)
    (h : List.Forall₂ (fun n e => Fits N n e.2) bounds es) (hcount : es.length < MAX_NODES)
    (hsize : bounds.sum + ((es.map Prod.fst).map fun key => key.length + 3).sum + es.length + 2 ≤
      MAX_CANONICAL_BYTES) :
    ∃ t, canonicalizePayload N (.object es) = .ok t := by
  obtain ⟨hclean, hnodes, hheight, hbytes⟩ := entries_fit hkeys h
  refine ⟨_, (canonicalizePayload_eq_ok_iff _ _).mpr ⟨⟨es, rfl⟩, ?_, hclean, ?_, ?_, rfl⟩⟩
  · have : MAX_DEPTH = 8 := rfl
    rw [height]
    omega
  · rw [nodeCount, hnodes]
    omega
  · rw [byteLength_canonicalizeValue_eq, canonicalBytes]
    omega

end Size

end OpenRisk.Sdk
