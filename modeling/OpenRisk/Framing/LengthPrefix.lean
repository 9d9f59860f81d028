import Mathlib.Data.UInt

/-!
# Length-prefixed blocks

`bigEndian width n` is the number `n` in `width` bytes, the most significant first. A frame is
a block behind the number of its bytes; a list of blocks is written as its frames, one after
another.

Results:
* `bigEndian_injective`: numbers that fit in the width are read back.
* `frames_injective`: a list of blocks whose lengths fit in the width is read back from its
  frames.
-/

namespace OpenRisk.Framing

/-- The number `n` in `width` bytes, the most significant first. -/
def bigEndian : ℕ → ℕ → List UInt8
  | 0, _ => []
  | width + 1, n => bigEndian width (n / 256) ++ [(n % 256).toUInt8]

/-- A block behind the number of its bytes. -/
def frame (width : ℕ) (block : List UInt8) : List UInt8 := bigEndian width block.length ++ block

/-- The frames of the blocks, one after another. -/
def frames (width : ℕ) (blocks : List (List UInt8)) : List UInt8 := blocks.flatMap (frame width)

@[simp] theorem length_bigEndian (width n : ℕ) : (bigEndian width n).length = width := by
  induction width generalizing n with
  | zero => rfl
  | succ width ih => rw [bigEndian, List.length_append, ih, List.length_singleton]

@[simp] theorem frames_nil (width : ℕ) : frames width [] = [] := rfl

@[simp] theorem frames_cons (width : ℕ) (b : List UInt8) (bs : List (List UInt8)) :
    frames width (b :: bs) = bigEndian width b.length ++ (b ++ frames width bs) := by
  rw [frames, List.flatMap_cons, frame, List.append_assoc]
  rfl

/-- A digit is read back from its byte. -/
theorem digit_injective {m n : ℕ} (h : (m % 256).toUInt8 = (n % 256).toUInt8) :
    m % 256 = n % 256 := by
  have h := congrArg UInt8.toNat h
  rw [UInt8.toNat_ofNat', UInt8.toNat_ofNat'] at h
  omega

/-- Numbers that fit in the width are read back. -/
theorem bigEndian_injective {width m n : ℕ} (hm : m < 256 ^ width) (hn : n < 256 ^ width)
    (h : bigEndian width m = bigEndian width n) : m = n := by
  induction width generalizing m n with
  | zero => omega
  | succ width ih =>
    rw [pow_succ] at hm hn
    rw [bigEndian, bigEndian] at h
    obtain ⟨hhigh, hlow⟩ := List.append_inj' h rfl
    have hhigh := ih (by omega) (by omega) hhigh
    have hlow := digit_injective (List.singleton_inj.mp hlow)
    omega

/-- The first block is read back, and what follows it. -/
theorem frame_append_inj {width : ℕ} {b c x y : List UInt8} (hb : b.length < 256 ^ width)
    (hc : c.length < 256 ^ width)
    (h : bigEndian width b.length ++ (b ++ x) = bigEndian width c.length ++ (c ++ y)) :
    b = c ∧ x = y := by
  obtain ⟨hstarts, hrest⟩ := List.append_inj h (by rw [length_bigEndian, length_bigEndian])
  exact List.append_inj hrest (bigEndian_injective hb hc hstarts)

/-- A list of blocks is read back from its frames. -/
theorem frames_injective {width : ℕ} (hwidth : 0 < width) {l m : List (List UInt8)}
    (hl : ∀ b ∈ l, b.length < 256 ^ width) (hm : ∀ b ∈ m, b.length < 256 ^ width)
    (h : frames width l = frames width m) : l = m := by
  -- a frame is never empty
  have hne : ∀ (b : List UInt8) (bs : List (List UInt8)), frames width (b :: bs) ≠ [] := by
    intro b bs heq
    have hlength := congrArg List.length heq
    rw [frames_cons, List.length_append, length_bigEndian, List.length_nil] at hlength
    omega
  induction l generalizing m with
  | nil =>
    cases m with
    | nil => rfl
    | cons c cs => exact absurd h.symm (hne c cs)
  | cons b bs ih =>
    cases m with
    | nil => exact absurd h (hne b bs)
    | cons c cs =>
      rw [frames_cons, frames_cons] at h
      obtain ⟨hb, hbs⟩ := List.forall_mem_cons.mp hl
      obtain ⟨hc, hcs⟩ := List.forall_mem_cons.mp hm
      obtain ⟨rfl, hrest⟩ := frame_append_inj hb hc h
      rw [ih hbs hcs hrest]

end OpenRisk.Framing
