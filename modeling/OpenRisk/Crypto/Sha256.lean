import OpenRisk.Json.RoundTrip

/-!
# SHA-256 and hexadecimal digests

`Hash` is a hash function with 32-byte digests, a parameter of the development:
`node:crypto` and `hashlib` are not part of the repository. `sha256` is the function
of FIPS 180-4 itself, on 32-bit words as natural numbers.

A digest travels as 64 lower-case hexadecimal digits, `HashText`.
-/

namespace OpenRisk

open Text

/-! ## Hash functions -/

/-- A hash function with 32-byte digests. -/
structure Hash where
  digest : List UInt8 → List UInt8
  length_digest : ∀ m, (digest m).length = 32

namespace Sha256

/-- Addition modulo `2^32`. -/
def add (x y : ℕ) : ℕ := (x + y) % 2 ^ 32

def rotr (n x : ℕ) : ℕ := (x >>> n) ||| ((x <<< (32 - n)) % 2 ^ 32)

def ch (x y z : ℕ) : ℕ := (x &&& y) ^^^ ((2 ^ 32 - 1 - x) &&& z)

def maj (x y z : ℕ) : ℕ := (x &&& y) ^^^ (x &&& z) ^^^ (y &&& z)

def bigSigma0 (x : ℕ) : ℕ := rotr 2 x ^^^ rotr 13 x ^^^ rotr 22 x

def bigSigma1 (x : ℕ) : ℕ := rotr 6 x ^^^ rotr 11 x ^^^ rotr 25 x

def smallSigma0 (x : ℕ) : ℕ := rotr 7 x ^^^ rotr 18 x ^^^ (x >>> 3)

def smallSigma1 (x : ℕ) : ℕ := rotr 17 x ^^^ rotr 19 x ^^^ (x >>> 10)

/-- The round constants. -/
def K : List ℕ :=
  [0x428a2f98, 0x71374491, 0xb5c0fbcf, 0xe9b5dba5, 0x3956c25b, 0x59f111f1, 0x923f82a4, 0xab1c5ed5,
    0xd807aa98, 0x12835b01, 0x243185be, 0x550c7dc3, 0x72be5d74, 0x80deb1fe, 0x9bdc06a7, 0xc19bf174,
    0xe49b69c1, 0xefbe4786, 0x0fc19dc6, 0x240ca1cc, 0x2de92c6f, 0x4a7484aa, 0x5cb0a9dc, 0x76f988da,
    0x983e5152, 0xa831c66d, 0xb00327c8, 0xbf597fc7, 0xc6e00bf3, 0xd5a79147, 0x06ca6351, 0x14292967,
    0x27b70a85, 0x2e1b2138, 0x4d2c6dfc, 0x53380d13, 0x650a7354, 0x766a0abb, 0x81c2c92e, 0x92722c85,
    0xa2bfe8a1, 0xa81a664b, 0xc24b8b70, 0xc76c51a3, 0xd192e819, 0xd6990624, 0xf40e3585, 0x106aa070,
    0x19a4c116, 0x1e376c08, 0x2748774c, 0x34b0bcb5, 0x391c0cb3, 0x4ed8aa4a, 0x5b9cca4f, 0x682e6ff3,
    0x748f82ee, 0x78a5636f, 0x84c87814, 0x8cc70208, 0x90befffa, 0xa4506ceb, 0xbef9a3f7, 0xc67178f2]

/-- The eight working variables. -/
structure State where
  a : ℕ
  b : ℕ
  c : ℕ
  d : ℕ
  e : ℕ
  f : ℕ
  g : ℕ
  h : ℕ

def initial : State :=
  ⟨0x6a09e667, 0xbb67ae85, 0x3c6ef372, 0xa54ff53a, 0x510e527f, 0x9b05688c, 0x1f83d9ab, 0x5be0cd19⟩

/-- The message as padded bytes: a one bit, zeros and the length in bits. -/
def pad (m : List UInt8) : List ℕ :=
  let zeros := (55 + 64 - m.length % 64) % 64
  m.map UInt8.toNat ++ 0x80 :: (List.replicate zeros 0 ++
    (List.range 8).map fun i => 8 * m.length / 256 ^ (7 - i) % 256)

def toWords : List ℕ → List ℕ
  | a :: b :: c :: d :: rest => (((a * 256 + b) * 256 + c) * 256 + d) :: toWords rest
  | _ => []

/-- The message schedule, extended by `n` words. -/
def schedule : ℕ → List ℕ → List ℕ
  | 0, w => w
  | n + 1, w =>
    let t := w.length
    schedule n (w ++ [add (add (smallSigma1 (w.getD (t - 2) 0)) (w.getD (t - 7) 0))
      (add (smallSigma0 (w.getD (t - 15) 0)) (w.getD (t - 16) 0))])

def round (s : State) (kw : ℕ × ℕ) : State :=
  let t1 := add (add (add s.h (bigSigma1 s.e)) (add (ch s.e s.f s.g) kw.1)) kw.2
  let t2 := add (bigSigma0 s.a) (maj s.a s.b s.c)
  ⟨add t1 t2, s.a, s.b, s.c, add s.d t1, s.e, s.f, s.g⟩

/-- One block of sixteen words. -/
def compress (s : State) (block : List ℕ) : State :=
  let r := (K.zip (schedule 48 block)).foldl round s
  ⟨add s.a r.a, add s.b r.b, add s.c r.c, add s.d r.d, add s.e r.e, add s.f r.f, add s.g r.g,
    add s.h r.h⟩

/-- The blocks of a list of words, at most `n` of them. -/
def blocks : ℕ → List ℕ → List (List ℕ)
  | 0, _ => []
  | n + 1, w => if w = [] then [] else w.take 16 :: blocks n (w.drop 16)

def wordBytes (w : ℕ) : List UInt8 :=
  [(w / 0x1000000 % 256).toUInt8, (w / 0x10000 % 256).toUInt8, (w / 0x100 % 256).toUInt8,
    (w % 256).toUInt8]

def digest (m : List UInt8) : List UInt8 :=
  let words := toWords (pad m)
  let s := (blocks words.length words).foldl compress initial
  [s.a, s.b, s.c, s.d, s.e, s.f, s.g, s.h].flatMap wordBytes

end Sha256

/-- SHA-256. -/
def sha256 : Hash where
  digest := Sha256.digest
  length_digest m := by simp [Sha256.digest, Sha256.wordBytes]

/-! ## Digests as text -/

/-- The class `[a-f0-9]`. -/
def isHashUnit (u : UInt16) : Bool := Json.isDigit u || (0x61 ≤ u.toNat && u.toNat ≤ 0x66)

/-- `/^[a-f0-9]{64}$/`. -/
def HASH_PATTERN (s : JsString) : Bool := s.length = 64 && s.all isHashUnit

/-- A string that matches `HASH_PATTERN`. -/
def HashText := { s : JsString // HASH_PATTERN s = true }

instance : DecidableEq HashText := inferInstanceAs (DecidableEq { s : JsString // HASH_PATTERN s = true })

namespace HashText

theorem length (h : HashText) : h.val.length = 64 := by
  have := h.property
  simp only [HASH_PATTERN, Bool.and_eq_true, decide_eq_true_eq] at this
  exact this.1

theorem isHashUnit_of_mem (h : HashText) {u : UInt16} (hu : u ∈ h.val) : isHashUnit u = true := by
  have := h.property
  simp only [HASH_PATTERN, Bool.and_eq_true, List.all_eq_true] at this
  exact this.2 u hu

end HashText

/-- The two hexadecimal digits of a byte. -/
def hexByte (b : UInt8) : JsString := [Json.hexDigit (b.toNat / 16), Json.hexDigit (b.toNat % 16)]

theorem isHashUnit_hexDigit : ∀ d, d < 16 → isHashUnit (Json.hexDigit d) = true := by decide

theorem hexByte_isHashUnit (b : UInt8) : ∀ u ∈ hexByte b, isHashUnit u = true := by
  have hb := b.toNat_lt
  intro u hu
  simp only [hexByte, List.mem_cons, List.not_mem_nil, or_false] at hu
  rcases hu with rfl | rfl
  · exact isHashUnit_hexDigit _ (by omega)
  · exact isHashUnit_hexDigit _ (by omega)

theorem HASH_PATTERN_digest (S : Hash) (m : List UInt8) :
    HASH_PATTERN ((S.digest m).flatMap hexByte) = true := by
  have hlen : ∀ l : List UInt8, (l.flatMap hexByte).length = 2 * l.length := by
    intro l
    induction l with
    | nil => rfl
    | cons b l ih => rw [List.flatMap_cons, List.length_append, ih, List.length_cons, hexByte]; simp; omega
  simp only [HASH_PATTERN, Bool.and_eq_true, decide_eq_true_eq, List.all_eq_true]
  refine ⟨by rw [hlen, S.length_digest], ?_⟩
  intro u hu
  obtain ⟨b, -, hb⟩ := List.mem_flatMap.mp hu
  exact hexByte_isHashUnit b u hb

/-- `sha256Hex(value)`: the digest of the UTF-8 encoding, in hexadecimal. -/
def sha256Hex (S : Hash) (value : JsString) : HashText :=
  ⟨(S.digest (utf8Encode value)).flatMap hexByte, HASH_PATTERN_digest S _⟩

example : (sha256Hex sha256 (js "abc")).val =
    js "ba7816bf8f01cfea414140de5dae2223b00361a396177a9cb410ff61f20015ad" := by decide +kernel

/-! ## Collisions -/

/-- Two different messages with the same digest. -/
def Hash.Collides (S : Hash) (x y : List UInt8) : Prop := x ≠ y ∧ S.digest x = S.digest y

theorem hexByte_injective : Function.Injective hexByte := by
  have hdigit : ∀ d, d < 16 → ∀ e, e < 16 → Json.hexDigit d = Json.hexDigit e → d = e := by decide
  intro b c h
  have hb := b.toNat_lt
  have hc := c.toNat_lt
  simp only [hexByte, List.cons.injEq, and_true] at h
  have h1 := hdigit _ (by omega) _ (by omega) h.1
  have h2 := hdigit _ (by omega) _ (by omega) h.2
  exact UInt8.toNat_inj.mp (by omega)

theorem flatMap_hexByte_injective {l m : List UInt8} (h : l.flatMap hexByte = m.flatMap hexByte) :
    l = m := by
  induction l generalizing m with
  | nil =>
    cases m with
    | nil => rfl
    | cons c m => simp [hexByte] at h
  | cons b l ih =>
    cases m with
    | nil => simp [hexByte] at h
    | cons c m =>
      rw [List.flatMap_cons, List.flatMap_cons] at h
      obtain ⟨hbyte, hrest⟩ := List.append_inj h rfl
      rw [hexByte_injective hbyte, ih hrest]

/-- Equal hashes of two texts come from equal bytes or from a collision. -/
theorem utf8Encode_eq_or_collides {S : Hash} {a b : JsString} (h : sha256Hex S a = sha256Hex S b) :
    utf8Encode a = utf8Encode b ∨ S.Collides (utf8Encode a) (utf8Encode b) := by
  by_cases heq : utf8Encode a = utf8Encode b
  · exact .inl heq
  · exact .inr ⟨heq, flatMap_hexByte_injective (congrArg Subtype.val h)⟩

end OpenRisk
