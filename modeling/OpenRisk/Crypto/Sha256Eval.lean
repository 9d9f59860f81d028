import OpenRisk.Crypto.Sha256

/-!
# SHA-256 with strict intermediate values

The definition of `Sha256.digest` follows the standard; evaluated in the kernel it builds
large unevaluated terms. Here the same function computes each word before it goes on, and
keeps only a window of the message schedule.

Results:
* `sha256_eq_strict`: the two functions are equal.
-/

namespace OpenRisk

namespace Sha256

/-- `f n`, where `n` is evaluated first. -/
def force {α : Type} (n : ℕ) (f : ℕ → α) : α := Nat.rec (f 0) (fun m _ => f (Nat.succ m)) n

theorem force_eq {α : Type} (n : ℕ) (f : ℕ → α) : force n f = f n := by
  cases n <;> rfl

def strictAdd (x y : ℕ) : ℕ := Nat.mod (Nat.add x y) 4294967296

def strictRotr (n m x : ℕ) : ℕ :=
  Nat.lor (Nat.shiftRight x n) (Nat.mod (Nat.shiftLeft x m) 4294967296)

def strictCh (x y z : ℕ) : ℕ := Nat.xor (Nat.land x y) (Nat.land (Nat.sub 4294967295 x) z)

def strictMaj (x y z : ℕ) : ℕ := Nat.xor (Nat.xor (Nat.land x y) (Nat.land x z)) (Nat.land y z)

/-- The exclusive or of three rotations. -/
def strictBig (i i' j j' k k' x : ℕ) : ℕ :=
  Nat.xor (Nat.xor (strictRotr i i' x) (strictRotr j j' x)) (strictRotr k k' x)

/-- The exclusive or of two rotations and a shift. -/
def strictSmall (i i' j j' k x : ℕ) : ℕ :=
  Nat.xor (Nat.xor (strictRotr i i' x) (strictRotr j j' x)) (Nat.shiftRight x k)

/-- A list that depends on a window of sixteen words. -/
abbrev Window := ℕ → ℕ → ℕ → ℕ → ℕ → ℕ → ℕ → ℕ → ℕ → ℕ → ℕ → ℕ → ℕ → ℕ → ℕ → ℕ → List ℕ

/-- The first word of a window, and `next` of the window that begins with the second. -/
def shift (next : Window) : Window := fun w0 w1 w2 w3 w4 w5 w6 w7 w8 w9 w10 w11 w12 w13 w14 w15 =>
  force (strictAdd (strictAdd (strictSmall 17 15 19 13 10 w14) w9)
      (strictAdd (strictSmall 7 25 18 14 3 w1) w0)) fun w16 =>
    w0 :: next w1 w2 w3 w4 w5 w6 w7 w8 w9 w10 w11 w12 w13 w14 w15 w16

/-- The message schedule, extended by `n` words. -/
def strictSchedule (n : ℕ) : Window :=
  Nat.repeat shift n fun w0 w1 w2 w3 w4 w5 w6 w7 w8 w9 w10 w11 w12 w13 w14 w15 =>
    [w0, w1, w2, w3, w4, w5, w6, w7, w8, w9, w10, w11, w12, w13, w14, w15]

def strictRounds : List ℕ → List ℕ → State → State
  | k :: ks, w :: ws, ⟨a, b, c, d, e, f, g, h⟩ =>
    force (strictAdd (strictAdd (strictAdd h (strictBig 6 26 11 21 25 7 e))
        (strictAdd (strictCh e f g) k)) w) fun t1 =>
    force (strictAdd t1 (strictAdd (strictBig 2 30 13 19 22 10 a) (strictMaj a b c))) fun a' =>
    force (strictAdd d t1) fun e' => strictRounds ks ws ⟨a', a, b, c, e', e, f, g⟩
  | _, _, s => s

def strictSum (s r : State) : State :=
  force (strictAdd s.a r.a) fun a => force (strictAdd s.b r.b) fun b =>
  force (strictAdd s.c r.c) fun c => force (strictAdd s.d r.d) fun d =>
  force (strictAdd s.e r.e) fun e => force (strictAdd s.f r.f) fun f =>
  force (strictAdd s.g r.g) fun g => force (strictAdd s.h r.h) fun h => ⟨a, b, c, d, e, f, g, h⟩

def strictCompress (s : State) (block : List ℕ) : State :=
  match block with
  | [w0, w1, w2, w3, w4, w5, w6, w7, w8, w9, w10, w11, w12, w13, w14, w15] =>
    strictSum s (strictRounds K
      (strictSchedule 48 w0 w1 w2 w3 w4 w5 w6 w7 w8 w9 w10 w11 w12 w13 w14 w15) s)
  | _ => s

theorem strictSchedule_succ (n : ℕ) : strictSchedule (n + 1) = shift (strictSchedule n) := rfl

theorem strictSchedule_eq (n : ℕ) (pre : List ℕ)
    (w0 w1 w2 w3 w4 w5 w6 w7 w8 w9 w10 w11 w12 w13 w14 w15 : ℕ) :
    schedule n (pre ++ [w0, w1, w2, w3, w4, w5, w6, w7, w8, w9, w10, w11, w12, w13, w14, w15]) =
      pre ++ strictSchedule n w0 w1 w2 w3 w4 w5 w6 w7 w8 w9 w10 w11 w12 w13 w14 w15 := by
  induction n generalizing pre w0 w1 w2 w3 w4 w5 w6 w7 w8 w9 w10 w11 w12 w13 w14 w15 with
  | zero => rfl
  | succ n ih =>
    have hnext : pre ++ [w0, w1, w2, w3, w4, w5, w6, w7, w8, w9, w10, w11, w12, w13, w14, w15] ++
        [add (add (smallSigma1 w14) w9) (add (smallSigma0 w1) w0)] =
        (pre ++ [w0]) ++ [w1, w2, w3, w4, w5, w6, w7, w8, w9, w10, w11, w12, w13, w14, w15,
          add (add (smallSigma1 w14) w9) (add (smallSigma0 w1) w0)] := by simp
    have hword : ∀ i, (pre ++ [w0, w1, w2, w3, w4, w5, w6, w7, w8, w9, w10, w11, w12, w13, w14,
        w15]).getD (pre.length + i) 0 =
        [w0, w1, w2, w3, w4, w5, w6, w7, w8, w9, w10, w11, w12, w13, w14, w15].getD i 0 := by
      intro i
      rw [List.getD_append_right _ _ _ _ (Nat.le_add_right _ _), Nat.add_sub_cancel_left]
    have hfirst := hword 0
    rw [Nat.add_zero] at hfirst
    rw [schedule]
    simp only [List.length_append, List.length_cons, List.length_nil, Nat.reduceAdd,
      Nat.reduceSubDiff, Nat.add_sub_cancel_right, hword, hfirst]
    simp only [List.getD_cons_zero, List.getD_cons_succ]
    rw [hnext, ih, List.append_assoc, strictSchedule_succ, shift, force_eq]
    rfl

theorem strictRounds_eq (ks ws : List ℕ) (s : State) :
    strictRounds ks ws s = (ks.zip ws).foldl round s := by
  induction ks generalizing ws s with
  | nil => rfl
  | cons k ks ih =>
    cases ws with
    | nil => rfl
    | cons w ws =>
      rw [List.zip_cons_cons, List.foldl_cons, ← ih, strictRounds, force_eq, force_eq, force_eq]
      rfl

theorem strictCompress_eq (s : State) (block : List ℕ) (h : block.length = 16) :
    strictCompress s block = compress s block := by
  match block, h with
  | [w0, w1, w2, w3, w4, w5, w6, w7, w8, w9, w10, w11, w12, w13, w14, w15], _ =>
    have hschedule := strictSchedule_eq 48 [] w0 w1 w2 w3 w4 w5 w6 w7 w8 w9 w10 w11 w12 w13 w14 w15
    rw [List.nil_append, List.nil_append] at hschedule
    rw [strictCompress, compress, hschedule, strictRounds_eq, strictSum]
    simp only [force_eq]
    rfl

def strictDigest (m : List UInt8) : List UInt8 :=
  let words := toWords (pad m)
  let s := (blocks words.length words).foldl strictCompress initial
  [s.a, s.b, s.c, s.d, s.e, s.f, s.g, s.h].flatMap wordBytes

theorem length_toWords {w : List ℕ} {n : ℕ} (h : w.length = 4 * n) : (toWords w).length = n := by
  induction n generalizing w with
  | zero =>
    rw [List.eq_nil_of_length_eq_zero h]
    rfl
  | succ n ih =>
    match w, h with
    | a :: b :: c :: d :: rest, h =>
      rw [toWords, List.length_cons, ih]
      simp only [List.length_cons] at h
      omega

theorem length_pad (m : List UInt8) : ∃ n, (pad m).length = 4 * (16 * n) := by
  refine ⟨(m.length + 9 + (55 + 64 - m.length % 64) % 64) / 64, ?_⟩
  simp [pad]
  omega

theorem length_of_mem_blocks {fuel n : ℕ} {w block : List ℕ} (hw : w.length = 16 * n)
    (h : block ∈ blocks fuel w) : block.length = 16 := by
  induction fuel generalizing w n with
  | zero => cases h
  | succ fuel ih =>
    rw [blocks] at h
    split_ifs at h with hnil
    · cases h
    · have hpos : 0 < w.length := List.length_pos_iff.mpr hnil
      rcases List.mem_cons.mp h with rfl | h
      · rw [List.length_take]
        omega
      · refine ih (n := n - 1) ?_ h
        rw [List.length_drop]
        omega

theorem foldl_strictCompress {bs : List (List ℕ)} (hbs : ∀ b ∈ bs, b.length = 16) (s : State) :
    bs.foldl strictCompress s = bs.foldl compress s := by
  induction bs generalizing s with
  | nil => rw [List.foldl_nil, List.foldl_nil]
  | cons b bs ih =>
    have hb : b.length = 16 := hbs b List.mem_cons_self
    rw [List.foldl_cons, List.foldl_cons, strictCompress_eq s b hb]
    exact ih (fun b' hb' => hbs b' (List.mem_cons_of_mem _ hb')) _

theorem digest_eq_strict (m : List UInt8) : digest m = strictDigest m := by
  obtain ⟨n, hn⟩ := length_pad m
  rw [digest, strictDigest, foldl_strictCompress fun b hb => length_of_mem_blocks (length_toWords hn) hb]

end Sha256

/-- SHA-256, for evaluation. -/
def strictSha256 : Hash where
  digest := Sha256.strictDigest
  length_digest m := by
    rw [← Sha256.digest_eq_strict]
    exact sha256.length_digest m

theorem sha256_eq_strict : sha256 = strictSha256 := by
  rw [sha256, strictSha256, Hash.mk.injEq]
  funext m
  exact Sha256.digest_eq_strict m

end OpenRisk
