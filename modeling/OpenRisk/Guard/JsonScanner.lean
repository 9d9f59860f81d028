import OpenRisk.Json.Bytes
import OpenRisk.Json.Data
import OpenRisk.Json.Reader
import OpenRisk.Sdk.Canonical

/-!
# The strict JSON scanner

Model of `StrictJsonScanner` of `applications/blockchain-digital-assets/wallet-guard/
json-ingress.mjs`: a recursive scanner that moves an index over the text and counts the
values. `fuel` bounds the calls of the model; the source has no such bound.

Results:
* `scan_sound`, `scan_complete`, `scan_eq_ok`: the scanner accepts the texts that `JSON.parse`
  reads as a strict value within its bounds.
* `scan_ends`, `scan_ne_outOfFuel`: the fuel of a text is enough.
-/

namespace OpenRisk.Guard.JsonIngress

open Text

/-! ## Errors and bounds -/

/-- `WalletGuardJsonIngressError`. -/
structure IngressError where
  code : JsString
  message : JsString
  deriving DecidableEq

/-- An error of the source, or the end of the fuel. -/
inductive IngressFailure where
  | error (e : IngressError)
  | outOfFuel
  deriving DecidableEq

def ingressFail {α : Type} (code : String) (message : JsString) : Except IngressFailure α :=
  .error (.error ⟨js code, message⟩)

def syntaxFail {α : Type} (message : String) : Except IngressFailure α :=
  ingressFail "POMRX_WG_JSON_E_SYNTAX" (js message)

def boundsFail {α : Type} (message : String) : Except IngressFailure α :=
  ingressFail "POMRX_WG_JSON_E_BOUNDS" (js message)

def MAX_RAW_BYTES : ℕ := 64 * 1024

def MAX_DEPTH : ℕ := 8

def MAX_NODES : ℕ := 1000

def MAX_STRING_LENGTH : ℕ := 2048

def MAX_KEY_LENGTH : ℕ := 64

def FORBIDDEN_KEYS : List JsString := ["__proto__", "constructor", "prototype"].map js

/-! ## Surrogates -/

/-- The first unpaired surrogate of a text: high, low or none. -/
def unpairedSurrogate : JsString → Option String
  | [] => none
  | [u] => if isHigh u then some "high" else if isLow u then some "low" else none
  | u :: v :: rest =>
    if isHigh u then if isLow v then unpairedSurrogate rest else some "high"
    else if isLow u then some "low"
    else unpairedSurrogate (v :: rest)

/-- `assertUnicodeScalarString(value, label)`. -/
def assertUnicodeScalarString (value : JsString) (label : String) : Except IngressFailure JsString :=
  match unpairedSurrogate value with
  | some kind => ingressFail "POMRX_WG_JSON_E_UNICODE"
      (js label ++ js " contains an unpaired " ++ js kind ++ js " surrogate")
  | none => .ok value

/-! ## The scanner -/

structure Scanner where
  raw : JsString
  index : ℕ
  nodes : ℕ

namespace Scanner

/-- `raw[index]`, `none` for `undefined`. -/
def peek (s : Scanner) : Option UInt16 := s.raw[s.index]?

/-- `raw.slice(index)`. -/
def rest (s : Scanner) : JsString := s.raw.drop s.index

/-- `index += n`. -/
def advance (s : Scanner) (n : ℕ) : Scanner := { s with index := s.index + n }

end Scanner

def isWhitespace (u : UInt16) : Bool := u = 0x20 || u = 0x0A || u = 0x0D || u = 0x09

/-- `skipWhitespace()`. -/
def skipWhitespace (s : Scanner) : Scanner := s.advance (s.rest.takeWhile isWhitespace).length

/-- `countNode()`. -/
def countNode (s : Scanner) : Except IngressFailure Scanner :=
  if MAX_NODES < s.nodes + 1 then boundsFail "JSON exceeds the maximum node count"
  else .ok { s with nodes := s.nodes + 1 }

/-- `[0-9a-fA-F]`. -/
def isHexDigit (u : UInt16) : Bool := (Json.hexValue u).isSome

/-- The units that may follow a backslash, besides `u`. -/
def simpleEscapes : JsString := js "\"\\/bfnrt"

/-- The loop of `scanString()` from `index` on, over the text that is left there; returns
    the index after the closing quote. -/
def stringEnd : JsString → ℕ → Except IngressFailure ℕ
  | [], _ => syntaxFail "JSON string is not closed"
  | u :: rest, index =>
    if u = 0x22 then .ok (index + 1)
    else if u = 0x5C then
      match rest with
      | [] => syntaxFail "JSON string escape is incomplete"
      | escaped :: rest =>
        if escaped = 0x75 then
          match rest with
          | a :: b :: c :: d :: rest =>
            if isHexDigit a && isHexDigit b && isHexDigit c && isHexDigit d then
              stringEnd rest (index + 6)
            else syntaxFail "JSON unicode escape is invalid"
          | _ => syntaxFail "JSON unicode escape is invalid"
        else if escaped ∈ simpleEscapes then stringEnd rest (index + 2)
        else syntaxFail "JSON string escape is invalid"
    else if u.toNat ≤ 0x1F then syntaxFail "JSON string contains an unescaped control character"
    else stringEnd rest (index + 1)

/-- `scanString()`: the decoded string. -/
def scanString (s : Scanner) : Except IngressFailure (JsString × Scanner) := do
  let start := s.index
  let s := s.advance 1
  let index ← stringEnd s.rest s.index
  let token := (s.raw.drop start).take (index - start)
  match jsonParse token with
  | none => syntaxFail "JSON string escape sequence is invalid"
  | some (.string decoded) =>
    let decoded ← assertUnicodeScalarString decoded "JSON string"
    .ok (decoded, { s with index })
  | some _ => syntaxFail "JSON string token is invalid"

/-- `scanLiteral(literal)`. -/
def scanLiteral (literal : JsString) (s : Scanner) : Except IngressFailure Scanner :=
  if s.rest.take literal.length ≠ literal then syntaxFail "JSON literal is invalid"
  else .ok (s.advance literal.length)

/-- `0|[1-9][0-9]*` at the start of a text. -/
def matchInteger (t : JsString) : Option JsString :=
  match t with
  | [] => none
  | u :: rest =>
    if u = 0x30 then some [u]
    else if Json.isDigit u then some (u :: rest.takeWhile Json.isDigit)
    else none

/-- `(?:\.[0-9]+)?` at the start of a text. -/
def matchFraction (t : JsString) : JsString :=
  match t with
  | [] => []
  | u :: rest =>
    if u = 0x2E ∧ rest.takeWhile Json.isDigit ≠ [] then u :: rest.takeWhile Json.isDigit else []

/-- `[+-]?` at the start of a text. -/
def matchSign (t : JsString) : JsString := t.take 1 |>.filter fun u => u = 0x2B || u = 0x2D

/-- `(?:[eE][+-]?[0-9]+)?` at the start of a text. -/
def matchExponent (t : JsString) : JsString :=
  match t with
  | [] => []
  | u :: rest =>
    let digits := (rest.drop (matchSign rest).length).takeWhile Json.isDigit
    if (u = 0x65 ∨ u = 0x45) ∧ digits ≠ [] then u :: matchSign rest ++ digits else []

/-- The match of `^-?(?:0|[1-9][0-9]*)(?:\.[0-9]+)?(?:[eE][+-]?[0-9]+)?`. -/
def matchNumber (t : JsString) : Option JsString :=
  let sign := if t.head? = some 0x2D then [0x2D] else []
  let t := t.drop sign.length
  (matchInteger t).map fun integer =>
    let t := t.drop integer.length
    let fraction := matchFraction t
    sign ++ integer ++ fraction ++ matchExponent (t.drop fraction.length)

/-- `scanNumber()`. -/
def scanNumber (s : Scanner) : Except IngressFailure Scanner :=
  match matchNumber s.rest with
  | none => syntaxFail "JSON number is invalid"
  | some token =>
    if token = js "-0" ∨ 0x2E ∈ token ∨ 0x65 ∈ token ∨ 0x45 ∈ token then
      ingressFail "POMRX_WG_JSON_E_NUMBER"
        (js "Wallet Guard JSON numbers must use canonical integer syntax")
    else .ok (s.advance token.length)

/-- The branch of `scanValue` for a string. -/
def scanStringValue (s : Scanner) : Except IngressFailure Scanner := do
  let (value, s) ← scanString s
  if MAX_STRING_LENGTH < value.length then boundsFail "JSON string exceeds the maximum length"
  else .ok s

/-- The key of a member, among the `keys` before it, up to the start of the value. -/
def scanKey (keys : List JsString) (s : Scanner) : Except IngressFailure (JsString × Scanner) :=
  if s.peek ≠ some 0x22 then syntaxFail "JSON object key must be a string"
  else do
    let (key, s) ← scanString s
    if key.length = 0 ∨ MAX_KEY_LENGTH < key.length then
      boundsFail "JSON object key has an invalid length"
    else if key ∈ FORBIDDEN_KEYS then
      ingressFail "POMRX_WG_JSON_E_UNSAFE_KEY" (js "JSON contains a forbidden object key")
    else if key ∈ keys then
      ingressFail "POMRX_WG_JSON_E_DUPLICATE_KEY" (js "JSON contains duplicate object key: " ++ key)
    else
      let s := skipWhitespace s
      if s.peek ≠ some 0x3A then syntaxFail "JSON object key is missing a colon"
      else .ok (key, skipWhitespace (s.advance 1))

/-- The start of `scanObject(depth)` and of `scanArray(depth)`: a container that is closed
    at once, or its loop. -/
def scanContainer (close : UInt16) (loop : Scanner → Except IngressFailure Scanner) (s : Scanner) :
    Except IngressFailure Scanner :=
  let s := skipWhitespace (s.advance 1)
  if s.peek = some close then .ok (s.advance 1) else loop s

mutual

/-- `scanValue(depth)`. -/
def scanValue : ℕ → ℕ → Scanner → Except IngressFailure Scanner
  | 0, _, _ => .error .outOfFuel
  | fuel + 1, depth, s =>
    if MAX_DEPTH < depth then boundsFail "JSON exceeds the maximum depth"
    else
      match s.peek with
      | none => syntaxFail "JSON ended before a value was complete"
      | some u => do
        let s ← countNode s
        if u = 0x7B then scanContainer 0x7D (scanMembers fuel depth []) s
        else if u = 0x5B then scanContainer 0x5D (scanElements fuel depth) s
        else if u = 0x22 then scanStringValue s
        else if u = 0x74 then scanLiteral (js "true") s
        else if u = 0x66 then scanLiteral (js "false") s
        else if u = 0x6E then scanLiteral (js "null") s
        else if u = 0x2D ∨ Json.isDigit u then scanNumber s
        else syntaxFail "JSON contains an invalid value token"

/-- The loop of `scanArray(depth)`. -/
def scanElements : ℕ → ℕ → Scanner → Except IngressFailure Scanner
  | 0, _, _ => .error .outOfFuel
  | fuel + 1, depth, s =>
    if s.index < s.raw.length then do
      let s ← scanValue fuel (depth + 1) s
      let s := skipWhitespace s
      if s.peek = some 0x5D then .ok (s.advance 1)
      else if s.peek ≠ some 0x2C then
        syntaxFail "JSON array is missing a comma or closing bracket"
      else scanElements fuel depth (skipWhitespace (s.advance 1))
    else syntaxFail "JSON array is not closed"

/-- The loop of `scanObject(depth)`. -/
def scanMembers : ℕ → ℕ → List JsString → Scanner → Except IngressFailure Scanner
  | 0, _, _, _ => .error .outOfFuel
  | fuel + 1, depth, keys, s =>
    if s.index < s.raw.length then do
      let (key, s) ← scanKey keys s
      let s ← scanValue fuel (depth + 1) s
      let s := skipWhitespace s
      if s.peek = some 0x7D then .ok (s.advance 1)
      else if s.peek ≠ some 0x2C then
        syntaxFail "JSON object is missing a comma or closing brace"
      else scanMembers fuel depth (key :: keys) (skipWhitespace (s.advance 1))
    else syntaxFail "JSON object is not closed"

end

/-- `new StrictJsonScanner(raw).scan()`. -/
def scan (fuel : ℕ) (raw : JsString) : Except IngressFailure Unit := do
  let s ← scanValue fuel 0 (skipWhitespace ⟨raw, 0, 0⟩)
  let s := skipWhitespace s
  if s.index ≠ s.raw.length then syntaxFail "JSON contains trailing data" else .ok ()

/-! ## The text that is left -/

section Scanner

variable {s s' : Scanner}

@[simp] theorem rest_advance (s : Scanner) (n : ℕ) : (s.advance n).rest = s.rest.drop n := by
  simp [Scanner.rest, Scanner.advance, List.drop_drop, Nat.add_comm]

@[simp] theorem nodes_advance (s : Scanner) (n : ℕ) : (s.advance n).nodes = s.nodes := rfl

theorem peek_eq_head? (s : Scanner) : s.peek = s.rest.head? := by
  rw [Scanner.peek, Scanner.rest, List.head?_drop]

theorem index_lt_iff : s.index < s.raw.length ↔ s.rest ≠ [] := by
  rw [Scanner.rest, ne_eq, List.drop_eq_nil_iff, Nat.not_le]

theorem drop_length_takeWhile (p : UInt16 → Bool) (t : JsString) :
    t.drop (t.takeWhile p).length = t.dropWhile p := by
  have hdrop : (t.takeWhile p ++ t.dropWhile p).drop (t.takeWhile p).length = t.dropWhile p :=
    List.drop_left
  rwa [List.takeWhile_append_dropWhile] at hdrop

theorem isWhitespace_eq : isWhitespace = Json.isWs := by
  funext u
  rw [Bool.eq_iff_iff]
  simp only [isWhitespace, Json.isWs, Bool.or_eq_true, decide_eq_true_eq]
  tauto

@[simp] theorem rest_skipWhitespace (s : Scanner) : (skipWhitespace s).rest = Json.skipWs s.rest := by
  rw [skipWhitespace, rest_advance, isWhitespace_eq, drop_length_takeWhile, Json.skipWs]

@[simp] theorem nodes_skipWhitespace (s : Scanner) : (skipWhitespace s).nodes = s.nodes := rfl

theorem countNode_eq_ok : countNode s = .ok s' ↔
    s.nodes + 1 ≤ MAX_NODES ∧ s' = { s with nodes := s.nodes + 1 } := by
  unfold countNode
  split_ifs with h
  · have : ¬ s.nodes + 1 ≤ MAX_NODES := by omega
    simp [boundsFail, ingressFail, this]
  · have : s.nodes + 1 ≤ MAX_NODES := by omega
    simp [this, eq_comm]

/-- `assertUnicodeScalarString` accepts the texts that are well-formed UTF-16. -/
theorem unpairedSurrogate_eq_none (t : JsString) :
    unpairedSurrogate t = none ↔ Scalar (codePoints t) := by
  have hsingle : ∀ u, isSurrogate (unitPoint u) = (isHigh u || isLow u) := by
    intro u
    rw [Bool.eq_iff_iff]
    simp only [isSurrogate, isHigh, isLow, Bool.or_eq_true, Bool.and_eq_true, decide_eq_true_eq]
    rw [unitPoint_val]
    omega
  fun_induction unpairedSurrogate t with
  | case1 => simp [codePoints, Scalar]
  | case2 u hu => simp [codePoints, Scalar, hsingle, hu]
  | case3 u hu hl => simp [codePoints, Scalar, hsingle, hl]
  | case4 u hu hl => simp [codePoints, Scalar, hsingle, hu, hl]
  | case5 u v rest hu hv ih =>
    have hpair : isSurrogate (joinPair u v) = false := by
      rw [← Bool.not_eq_true]
      simp only [isSurrogate, Bool.and_eq_true, decide_eq_true_eq]
      rw [joinPair_val]
      omega
    rw [codePoints, hu, hv, Bool.true_and, if_pos rfl, scalar_cons, hpair]
    exact ih.trans (and_iff_right rfl).symm
  | case6 u v rest hu hv => simp [codePoints, hu, hv, scalar_cons, hsingle]
  | case7 u v rest hu hl => simp [codePoints, hu, scalar_cons, hsingle, hl]
  | case8 u v rest hu hl ih =>
    rw [codePoints, Bool.eq_false_iff.mpr hu, Bool.false_and, if_neg Bool.false_ne_true, scalar_cons,
      hsingle, Bool.eq_false_iff.mpr hu, Bool.eq_false_iff.mpr hl]
    exact ih.trans (and_iff_right rfl).symm

theorem assertUnicodeScalarString_eq_ok {t v : JsString} {label : String} :
    assertUnicodeScalarString t label = .ok v ↔ Scalar (codePoints t) ∧ v = t := by
  rw [← unpairedSurrogate_eq_none]
  unfold assertUnicodeScalarString
  cases unpairedSurrogate t with
  | none => simp [eq_comm]
  | some kind => simp [ingressFail]

/-! ## Strings -/

theorem mem_simpleEscapes (u : UInt16) : u ∈ simpleEscapes ↔ (Json.simpleEscape u).isSome := by
  have hlist : simpleEscapes = [0x22, 0x5C, 0x2F, 0x62, 0x66, 0x6E, 0x72, 0x74] := by decide
  rw [hlist]
  fun_cases Json.simpleEscape u <;> simp_all

theorem isSome_hex4 (a b c d : UInt16) : (Json.hex4 a b c d).isSome =
    (isHexDigit a && isHexDigit b && isHexDigit c && isHexDigit d) := by
  unfold Json.hex4 isHexDigit
  cases Json.hexValue a <;> cases Json.hexValue b <;> cases Json.hexValue c <;>
    cases Json.hexValue d <;> rfl

/-- A unit in front of a string does not change where the string ends. -/
theorem exists_scanString_map {t : JsString} {w : UInt16} {P : JsString → Prop} :
    (∃ v r, ((Json.scanString t).map fun p => (w :: p.1, p.2)) = some (v, r) ∧ P r) ↔
      ∃ v r, Json.scanString t = some (v, r) ∧ P r := by
  constructor
  · rintro ⟨v, r, h, hP⟩
    obtain ⟨⟨v', r'⟩, hscan, heq⟩ := Option.map_eq_some_iff.mp h
    cases heq
    exact ⟨v', r', hscan, hP⟩
  · rintro ⟨v, r, h, hP⟩
    exact ⟨w :: v, r, by rw [h]; rfl, hP⟩

/-- The loop ends where the string ends. -/
theorem stringEnd_eq_ok (t : JsString) (i k : ℕ) : stringEnd t i = .ok k ↔
    ∃ v r, Json.scanString t = some (v, r) ∧ k + r.length = i + t.length := by
  fun_induction stringEnd t i with
  | case1 i => simp [Json.scanString, syntaxFail, ingressFail]
  | case2 rest i =>
    have hscan : Json.scanString (0x22 :: rest) = some ([], rest) := by
      rw [Json.scanString.eq_def]
      rfl
    simp only [hscan, Except.ok.injEq, Option.some.injEq, Prod.mk.injEq, List.length_cons]
    constructor
    · intro h
      exact ⟨[], rest, ⟨rfl, rfl⟩, by omega⟩
    · rintro ⟨v, r, ⟨-, rfl⟩, h⟩
      omega
  | case3 i => simp [Json.scanString, syntaxFail, ingressFail]
  | case4 i a b c d rest hhex _ ih =>
    rw [← isSome_hex4, Option.isSome_iff_exists] at hhex
    obtain ⟨w, hw⟩ := hhex
    have hscan : Json.scanString (0x5C :: 0x75 :: a :: b :: c :: d :: rest) =
        (Json.scanString rest).map fun p => (w :: p.1, p.2) := by
      simp [Json.scanString, hw]
    rw [hscan, exists_scanString_map]
    refine ih.trans (exists_congr fun v => exists_congr fun r => and_congr_right fun _ => ?_)
    simp only [List.length_cons]
    omega
  | case5 i a b c d rest hhex =>
    rw [← isSome_hex4, Option.not_isSome_iff_eq_none] at hhex
    have hscan : Json.scanString (0x5C :: 0x75 :: a :: b :: c :: d :: rest) = none := by
      simp [Json.scanString, hhex]
    simp [hscan, syntaxFail, ingressFail]
  | case6 i rest hshort =>
    have hscan : Json.scanString (0x5C :: 0x75 :: rest) = none := by
      rcases rest with _ | ⟨a, _ | ⟨b, _ | ⟨c, _ | ⟨d, rest⟩⟩⟩⟩
      · rfl
      · rfl
      · rfl
      · rfl
      · exact (hshort a b c d rest rfl).elim
    simp [hscan, syntaxFail, ingressFail]
  | case7 i e rest hu he _ ih =>
    rw [mem_simpleEscapes, Option.isSome_iff_exists] at he
    obtain ⟨w, hw⟩ := he
    have hscan : Json.scanString (0x5C :: e :: rest) =
        (Json.scanString rest).map fun p => (w :: p.1, p.2) := by
      rw [Json.scanString.eq_def]
      simp [hu, hw]
    rw [hscan, exists_scanString_map]
    refine ih.trans (exists_congr fun v => exists_congr fun r => and_congr_right fun _ => ?_)
    simp only [List.length_cons]
    omega
  | case8 i e rest hu he =>
    rw [mem_simpleEscapes, Option.not_isSome_iff_eq_none] at he
    have hscan : Json.scanString (0x5C :: e :: rest) = none := by
      rw [Json.scanString.eq_def]
      simp [hu, he]
    simp [hscan, syntaxFail, ingressFail]
  | case9 u rest i hquote hback hcontrol =>
    have hlt : u.toNat < 0x20 := by omega
    have hscan : Json.scanString (u :: rest) = none := by
      unfold Json.scanString
      rw [if_neg hquote, if_neg hback, if_pos hlt]
    simp [hscan, syntaxFail, ingressFail]
  | case10 u rest i hquote hback hcontrol ih =>
    have hlt : ¬ u.toNat < 0x20 := by omega
    have hscan : Json.scanString (u :: rest) =
        (Json.scanString rest).map fun p => (u :: p.1, p.2) := by
      rw [Json.scanString.eq_def]
      simp only [if_neg hquote, if_neg hback, if_neg hlt]
    rw [hscan, exists_scanString_map]
    refine ih.trans (exists_congr fun v => exists_congr fun r => and_congr_right fun _ => ?_)
    simp only [List.length_cons]
    omega

/-- `JSON.parse` reads the token of a string. -/
theorem jsonParse_token {c v : JsString} (h : Json.scanString c = some (v, [])) :
    jsonParse (0x22 :: c) = some (.string v) := by
  rw [jsonParse, Json.parse_literal h]
  rfl

/-- Where a string is read, `scanString()` decodes it and stops behind it. -/
theorem scanString_of_some {t v r : JsString} (hs : s.rest = 0x22 :: t)
    (hscan : Json.scanString t = some (v, r)) : scanString s =
      (assertUnicodeScalarString v "JSON string").map fun v => (v, s.advance (t.length + 1 - r.length)) := by
  obtain ⟨c, rfl, hc⟩ := Json.scanString_append hscan
  have hend : stringEnd (s.advance 1).rest (s.advance 1).index = .ok (s.index + 1 + c.length) := by
    rw [rest_advance, hs, stringEnd_eq_ok]
    refine ⟨v, r, hscan, ?_⟩
    simp only [Scanner.advance, List.drop_succ_cons, List.drop_zero, List.length_append]
    omega
  have htoken : ((s.advance 1).raw.drop s.index).take (s.index + 1 + c.length - s.index) = 0x22 :: c := by
    rw [show (s.advance 1).raw.drop s.index = s.rest from rfl, hs,
      show s.index + 1 + c.length - s.index = c.length + 1 by omega, List.take_succ_cons, List.take_left]
  have hparse : jsonParse (0x22 :: c) = some (.string v) := by
    have := hc []
    rw [List.append_nil] at this
    exact jsonParse_token this
  have hadvance : { s.advance 1 with index := s.index + 1 + c.length } =
      s.advance ((c ++ r).length + 1 - r.length) := by
    rw [List.length_append, show c.length + r.length + 1 - r.length = 1 + c.length by omega,
      Scanner.advance, Scanner.advance, Nat.add_assoc]
  unfold scanString
  simp only [hend, htoken, hparse, hadvance, bind, Except.bind]
  cases assertUnicodeScalarString v "JSON string" <;> rfl

/-- `scanString()` reads a well-formed string and stops behind it. -/
theorem scanString_eq_ok {t v : JsString} (hs : s.rest = 0x22 :: t) : scanString s = .ok (v, s') ↔
    ∃ r, Json.scanString t = some (v, r) ∧ Scalar (codePoints v) ∧
      s' = s.advance (t.length + 1 - r.length) := by
  cases hscan : Json.scanString t with
  | none =>
    have hrest : (s.advance 1).rest = t := by rw [rest_advance, hs]; rfl
    simp only [reduceCtorEq, false_and, exists_false, iff_false]
    intro h
    obtain ⟨k, hk, -⟩ := bind_eq_ok.mp h
    rw [hrest, stringEnd_eq_ok, hscan] at hk
    obtain ⟨_, _, hnone, -⟩ := hk
    cases hnone
  | some p =>
    obtain ⟨w, r⟩ := p
    rw [scanString_of_some hs hscan, map_eq_ok]
    simp only [assertUnicodeScalarString_eq_ok, Option.some.injEq, Prod.mk.injEq]
    constructor
    · rintro ⟨_, ⟨hw, rfl⟩, rfl, rfl⟩
      exact ⟨r, ⟨rfl, rfl⟩, hw, rfl⟩
    · rintro ⟨_, ⟨rfl, rfl⟩, hw, rfl⟩
      exact ⟨w, ⟨hw, rfl⟩, rfl, rfl⟩

/-- The text behind a string. -/
theorem rest_advance_string {t v r : JsString} (hs : s.rest = 0x22 :: t)
    (h : Json.scanString t = some (v, r)) : (s.advance (t.length + 1 - r.length)).rest = r := by
  obtain ⟨c, rfl, -⟩ := Json.scanString_append h
  rw [rest_advance, hs, List.length_append,
    show c.length + r.length + 1 - r.length = c.length + 1 by omega, List.drop_succ_cons,
    List.drop_left]

/-! ## Numbers -/

/-- The text does not go on with a digit, a fraction or an exponent. -/
def Delimited (t : JsString) : Prop :=
  ∀ u rest, t = u :: rest → Json.isDigit u = false ∧ u ≠ 0x2E ∧ u ≠ 0x65 ∧ u ≠ 0x45

theorem scanFraction_eq_none {t r : JsString} :
    Json.scanFraction t = some (none, r) ↔ r = t ∧ ∀ u rest, t = u :: rest → u ≠ 0x2E := by
  cases t with
  | nil => simp [Json.scanFraction, eq_comm]
  | cons u rest =>
    rw [Json.scanFraction]
    by_cases hu : u = 0x2E
    · rw [if_pos hu]
      have hnot : ¬ ∀ v rest', u :: rest = v :: rest' → v ≠ 0x2E := fun h => h u rest rfl hu
      rw [iff_false_right (fun h => hnot h.2)]
      cases rest.takeWhile Json.isDigit <;> simp
    · rw [if_neg hu]
      simp only [Option.some.injEq, Prod.mk.injEq, true_and, List.cons.injEq]
      constructor
      · rintro rfl
        refine ⟨rfl, ?_⟩
        rintro v rest' ⟨rfl, -⟩
        exact hu
      · exact fun h => h.1.symm

theorem scanExponent_eq_none {t r : JsString} : Json.scanExponent t = some (none, r) ↔
    r = t ∧ ∀ u rest, t = u :: rest → u ≠ 0x65 ∧ u ≠ 0x45 := by
  cases t with
  | nil => simp [Json.scanExponent, eq_comm]
  | cons u rest =>
    have hdigits : ∀ negative t, Json.scanExponentDigits negative t ≠ some (none, r) := by
      intro negative t
      unfold Json.scanExponentDigits
      cases t.takeWhile Json.isDigit <;> simp
    rw [Json.scanExponent.eq_def]
    dsimp only
    by_cases hu : u = 0x65 ∨ u = 0x45
    · rw [if_pos hu]
      have hnot : ¬ ∀ v rest', u :: rest = v :: rest' → v ≠ 0x65 ∧ v ≠ 0x45 := by
        intro h
        obtain ⟨h₁, h₂⟩ := h u rest rfl
        exact hu.elim h₁ h₂
      rw [iff_false_right (fun h => hnot h.2)]
      cases rest with
      | nil => simp
      | cons sign rest =>
        dsimp only
        split_ifs
        · exact hdigits _ _
        · exact hdigits _ _
        · exact hdigits _ _
    · rw [if_neg hu]
      simp only [Option.some.injEq, Prod.mk.injEq, true_and, List.cons.injEq]
      constructor
      · rintro rfl
        refine ⟨rfl, ?_⟩
        rintro v rest' ⟨rfl, -⟩
        exact not_or.mp hu
      · exact fun h => h.1.symm

theorem delimited_iff {t : JsString} : Delimited t ↔ (t.takeWhile Json.isDigit = [] ∧
    (∀ u rest, t = u :: rest → u ≠ 0x2E) ∧ ∀ u rest, t = u :: rest → u ≠ 0x65 ∧ u ≠ 0x45) := by
  cases t with
  | nil => simp [Delimited]
  | cons u rest =>
    simp only [Delimited, List.cons.injEq, List.takeWhile_cons]
    constructor
    · intro h
      obtain ⟨hdigit, hpoint, hexp⟩ := h u rest ⟨rfl, rfl⟩
      refine ⟨by simp [hdigit], ?_, ?_⟩
      · rintro _ _ ⟨rfl, rfl⟩
        exact hpoint
      · rintro _ _ ⟨rfl, rfl⟩
        exact hexp
    · rintro ⟨hdigit, hpoint, hexp⟩ _ _ ⟨rfl, rfl⟩
      refine ⟨?_, hpoint _ _ ⟨rfl, rfl⟩, hexp _ _ ⟨rfl, rfl⟩⟩
      by_contra h
      simp [h] at hdigit

theorem takeWhile_dropWhile_isDigit (t : JsString) :
    (t.dropWhile Json.isDigit).takeWhile Json.isDigit = [] := by
  cases hdrop : t.dropWhile Json.isDigit with
  | nil => rfl
  | cons u rest =>
    have hu := List.head_dropWhile_not Json.isDigit (l := t) (by rw [hdrop]; simp)
    simp only [hdrop, List.head_cons] at hu
    simp [hu]

/-- An unsigned integer, read by the pattern and by the reader. -/
theorem scanUnsigned_eq_some {negative : Bool} {t r : JsString} {token : NumberToken} :
    Json.scanUnsigned negative t = some (token, r) ∧ token.isInteger = true ↔
      ∃ i, matchInteger t = some i ∧ Delimited r ∧ r = t.drop i.length ∧
        token = ⟨negative, Json.radixValue 10 i, none, none⟩ := by
  have hdrop := drop_length_takeWhile Json.isDigit t
  unfold Json.scanUnsigned
  constructor
  · rintro ⟨h, hinteger⟩
    split at h
    · cases h
    · rename_i d ds htake
      split_ifs at h with hzero
      obtain ⟨⟨f, r₁⟩, hf, h⟩ := Option.bind_eq_some_iff.mp h
      obtain ⟨⟨e, r₂⟩, he, heq⟩ := Option.map_eq_some_iff.mp h
      cases heq
      simp only [NumberToken.isInteger, Bool.and_eq_true, Option.isNone_iff_eq_none] at hinteger
      obtain ⟨rfl, rfl⟩ := hinteger
      obtain ⟨rfl, hpoint⟩ := scanFraction_eq_none.mp hf
      obtain ⟨rfl, hexp⟩ := scanExponent_eq_none.mp he
      rw [htake] at hdrop
      refine ⟨d :: ds, ?_, delimited_iff.mpr ⟨takeWhile_dropWhile_isDigit t, hpoint, hexp⟩,
        hdrop.symm, rfl⟩
      cases t with
      | nil => cases htake
      | cons u rest =>
        rw [List.takeWhile_cons] at htake
        split_ifs at htake with hu
        obtain ⟨rfl, rfl⟩ := List.cons.inj htake
        rw [matchInteger]
        by_cases h0 : u = 0x30
        · rw [if_pos h0]
          by_contra hne
          exact hzero ⟨h0, fun hnil => hne (by rw [hnil])⟩
        · rw [if_neg h0, if_pos hu]
  · rintro ⟨i, hmatch, hdelimited, rfl, rfl⟩
    obtain ⟨hdigits, hpoint, hexp⟩ := delimited_iff.mp hdelimited
    have hspan : t.takeWhile Json.isDigit = i ∧ ∃ d ds, i = d :: ds ∧ ¬ (d = 0x30 ∧ ds ≠ []) := by
      cases t with
      | nil => cases hmatch
      | cons u rest =>
        rw [matchInteger] at hmatch
        by_cases h0 : u = 0x30
        · rw [if_pos h0] at hmatch
          cases hmatch
          rw [h0]
          refine ⟨?_, 0x30, [], rfl, by simp⟩
          rw [List.takeWhile_cons, if_pos (by decide)]
          exact congrArg (List.cons 0x30) hdigits
        · rw [if_neg h0] at hmatch
          split_ifs at hmatch with hu
          cases hmatch
          exact ⟨by rw [List.takeWhile_cons, if_pos hu], u, _, rfl, fun h => h0 h.1⟩
    obtain ⟨htake, d, ds, rfl, hzero⟩ := hspan
    have hfraction := scanFraction_eq_none.mpr ⟨rfl, hpoint⟩
    have hexponent := scanExponent_eq_none.mpr ⟨rfl, hexp⟩
    rw [htake] at hdrop
    rw [htake, ← hdrop]
    refine ⟨?_, rfl⟩
    dsimp only
    rw [if_neg hzero, hfraction]
    dsimp only [Option.bind_some]
    rw [hexponent]
    rfl

theorem isDigit_of_matchInteger {t i : JsString} (h : matchInteger t = some i) :
    ∀ u ∈ i, Json.isDigit u = true := by
  cases t with
  | nil => cases h
  | cons u rest =>
    rw [matchInteger] at h
    split_ifs at h with h0 hu
    · cases h
      rw [List.forall_mem_singleton, h0]
      decide
    · cases h
      rw [List.forall_mem_cons]
      exact ⟨hu, fun v hv => List.mem_takeWhile_imp hv⟩

/-- The value of a run of digits is at least its first digit. -/
theorem hexValue_le_radixValue (u : UInt16) (ds : JsString) :
    (Json.hexValue u).getD 0 ≤ Json.radixValue 10 (u :: ds) := by
  induction ds using List.reverseRecOn with
  | nil => simp [Json.radixValue]
  | append_singleton ds v ih =>
    rw [← List.cons_append, Json.radixValue_append]
    omega

theorem radixValue_eq_zero {t i : JsString} (h : matchInteger t = some i) :
    Json.radixValue 10 i = 0 ↔ i = [0x30] := by
  cases t with
  | nil => cases h
  | cons u rest =>
    rw [matchInteger] at h
    split_ifs at h with h0 hu
    · cases h
      rw [h0]
      exact iff_of_true (by decide) rfl
    · cases h
      have hle := hexValue_le_radixValue u (rest.takeWhile Json.isDigit)
      have hpos : 0 < (Json.hexValue u).getD 0 := by
        simp only [Json.isDigit, Bool.and_eq_true, decide_eq_true_eq] at hu
        have hne : u.toNat ≠ 0x30 := fun heq => h0 (UInt16.toNat_inj.mp heq)
        rw [Json.hexValue, if_pos hu, Option.getD_some]
        omega
      refine iff_of_false (by omega) (fun heq => ?_)
      exact h0 (List.cons.inj heq).1

theorem matchFraction_cases (t : JsString) : matchFraction t = [] ∨ 0x2E ∈ matchFraction t := by
  cases t with
  | nil => exact .inl rfl
  | cons u rest =>
    rw [matchFraction]
    split_ifs with h
    · rw [h.1]
      exact .inr List.mem_cons_self
    · exact .inl rfl

theorem matchExponent_cases (t : JsString) :
    matchExponent t = [] ∨ 0x65 ∈ matchExponent t ∨ 0x45 ∈ matchExponent t := by
  cases t with
  | nil => exact .inl rfl
  | cons u rest =>
    rw [matchExponent]
    split_ifs with h
    · rcases h.1 with rfl | rfl
      · exact .inr (.inl (by simp))
      · exact .inr (.inr (by simp))
    · exact .inl rfl

/-- Nothing more of a number matches at a text that does not go on with one. -/
theorem Delimited.match_eq_nil {t : JsString} (h : Delimited t) :
    matchFraction t = [] ∧ matchExponent t = [] := by
  cases t with
  | nil => exact ⟨rfl, rfl⟩
  | cons u rest =>
    obtain ⟨-, hpoint, he, hE⟩ := h u rest rfl
    refine ⟨?_, ?_⟩
    · rw [matchFraction, if_neg (fun h => hpoint h.1)]
    · rw [matchExponent, if_neg (fun h => h.1.elim he hE)]

/-- An integer token other than `-0`. -/
def CanonicalInteger (token : NumberToken) : Prop :=
  token.isInteger = true ∧ ¬ (token.negative = true ∧ token.integer = 0)

/-- What the pattern and the reader take of a number with its sign. -/
theorem matchNumber_sign (t : JsString) : ∃ sign t', ∃ negative : Bool, t = sign ++ t' ∧
    sign = (if negative then [0x2D] else []) ∧
    Json.scanNumber t = Json.scanUnsigned negative t' ∧
    matchNumber t = (matchInteger t').map fun i => sign ++ i ++ matchFraction (t'.drop i.length) ++
      matchExponent ((t'.drop i.length).drop (matchFraction (t'.drop i.length)).length) := by
  cases t with
  | nil => exact ⟨[], [], false, rfl, rfl, rfl, rfl⟩
  | cons u rest =>
    by_cases hu : u = 0x2D
    · refine ⟨[0x2D], rest, true, by rw [hu]; rfl, rfl, ?_, ?_⟩
      · rw [Json.scanNumber, if_pos hu]
      · rw [hu]
        rfl
    · refine ⟨[], u :: rest, false, rfl, rfl, ?_, ?_⟩
      · rw [Json.scanNumber, if_neg hu]
      · simp [matchNumber, hu]

theorem length_matchInteger {t i : JsString} (h : matchInteger t = some i) : i.length ≤ t.length := by
  cases t with
  | nil => cases h
  | cons u rest =>
    rw [matchInteger] at h
    split_ifs at h with h0 hu
    · cases h
      simp
    · cases h
      have := (List.takeWhile_prefix (l := rest) Json.isDigit).length_le
      simp only [List.length_cons]
      omega

/-- `scanNumber()` takes the integer tokens other than `-0` that the reader takes. -/
theorem scanNumber_eq_ok : scanNumber s = .ok s' ∧ Delimited s'.rest ↔ ∃ token r,
    Json.scanNumber s.rest = some (token, r) ∧ CanonicalInteger token ∧
      s' = s.advance (s.rest.length - r.length) ∧ s'.rest = r := by
  obtain ⟨sign, t, negative, hs, hsign, hread, hmatch⟩ := matchNumber_sign s.rest
  have hminus : ∀ i, matchInteger t = some i → (sign ++ i = js "-0" ↔
      negative = true ∧ Json.radixValue 10 i = 0) := by
    intro i hi
    have htext : js "-0" = [0x2D, 0x30] := by decide
    rw [radixValue_eq_zero hi, hsign, htext]
    cases negative with
    | true => simp
    | false =>
      refine iff_of_false (fun heq => ?_) (fun h => Bool.false_ne_true h.1)
      have := isDigit_of_matchInteger hi 0x2D (by rw [show i = [0x2D, 0x30] from heq]; simp)
      exact absurd this (by decide)
  have hlength : ∀ i, matchInteger t = some i →
      s.rest.length - (t.drop i.length).length = (sign ++ i).length := by
    intro i hi
    have := length_matchInteger hi
    rw [hs, List.length_append, List.length_append, List.length_drop]
    omega
  have hrest : ∀ i, (s.advance (sign ++ i).length).rest = t.drop i.length := by
    intro i
    rw [rest_advance, hs, List.length_append, List.drop_append, List.drop_of_length_le (by omega)]
    simp
  unfold scanNumber
  rw [hmatch, hread]
  constructor
  · rintro ⟨h, hdelimited⟩
    cases hi : matchInteger t with
    | none =>
      rw [hi] at h
      cases h
    | some i =>
      rw [hi] at h
      dsimp only [Option.map_some] at h
      split_ifs at h with hbad
      · cases h
      · simp only [not_or, List.mem_append] at hbad
        obtain ⟨hzero, hpoint, he, hE⟩ := hbad
        have hfraction := (matchFraction_cases (t.drop i.length)).resolve_right hpoint.1.2
        have hexponent := (matchExponent_cases ((t.drop i.length).drop
          (matchFraction (t.drop i.length)).length)).resolve_right (not_or.mpr ⟨he.2, hE.2⟩)
        rw [hfraction] at hexponent h hzero
        rw [hexponent] at h hzero
        rw [List.append_nil, List.append_nil] at h hzero
        cases h
        rw [hrest] at hdelimited
        obtain ⟨hscan, hinteger⟩ := scanUnsigned_eq_some.mpr ⟨i, hi, hdelimited, rfl, rfl⟩
        exact ⟨_, _, hscan, ⟨hinteger, fun hz => hzero ((hminus i hi).mpr hz)⟩,
          by rw [hlength i hi], hrest i⟩
  · rintro ⟨token, r, hscan, ⟨hinteger, hzero⟩, hs', hr⟩
    obtain ⟨i, hi, hdelimited, rfl, rfl⟩ := scanUnsigned_eq_some.mp ⟨hscan, hinteger⟩
    obtain ⟨hfraction, hexponent⟩ := hdelimited.match_eq_nil
    have hdigits := isDigit_of_matchInteger hi
    have hbad : ¬ (sign ++ i = js "-0" ∨ 0x2E ∈ sign ++ i ∨ 0x65 ∈ sign ++ i ∨ 0x45 ∈ sign ++ i) := by
      have hnot : ∀ u, Json.isDigit u = false → u ≠ 0x2D → u ∉ sign ++ i := by
        intro u hu hne hmem
        rcases List.mem_append.mp hmem with hmem | hmem
        · rw [hsign] at hmem
          split_ifs at hmem
          · exact hne (List.mem_singleton.mp hmem)
          · cases hmem
        · rw [hdigits u hmem] at hu
          cases hu
      rw [hminus i hi]
      exact fun h => h.elim (fun h => hzero h) fun h => h.elim (hnot _ (by decide) (by decide))
        fun h => h.elim (hnot _ (by decide) (by decide)) (hnot _ (by decide) (by decide))
    rw [hi]
    dsimp only [Option.map_some]
    rw [hfraction, List.length_nil, List.drop_zero, hexponent, List.append_nil, List.append_nil,
      if_neg hbad, hr]
    refine ⟨?_, hdelimited⟩
    rw [hs', hlength i hi]

/-! ## What the scanner accepts -/

mutual

/-- The number of array and object levels below the root of a text's value. -/
def levels : Json → ℕ
  | .array xs => levelsElements xs
  | .object ms => levelsMembers ms
  | _ => 0

def levelsElements : List Json → ℕ
  | [] => 0
  | x :: xs => max (levels x + 1) (levelsElements xs)

def levelsMembers : List (JsString × Json) → ℕ
  | [] => 0
  | (_, x) :: ms => max (levels x + 1) (levelsMembers ms)

end

mutual

/-- The number of values in a text. -/
def values : Json → ℕ
  | .array xs => valuesElements xs + 1
  | .object ms => valuesMembers ms + 1
  | _ => 1

def valuesElements : List Json → ℕ
  | [] => 0
  | x :: xs => values x + valuesElements xs

def valuesMembers : List (JsString × Json) → ℕ
  | [] => 0
  | (_, x) :: ms => values x + valuesMembers ms

end

/-- A string within the limit, without unpaired surrogates. -/
def BoundedString (t : JsString) : Prop := t.length ≤ MAX_STRING_LENGTH ∧ Scalar (codePoints t)

/-- A key of 1 to 64 units without unpaired surrogates that is not forbidden. -/
def SafeName (k : JsString) : Prop :=
  1 ≤ k.length ∧ k.length ≤ MAX_KEY_LENGTH ∧ k ∉ FORBIDDEN_KEYS ∧ Scalar (codePoints k)

/-- Distinct safe keys, bounded strings and canonical integers, at every level. -/
def Strict (j : Json) : Prop := j.UniqueNames ∧ j.All BoundedString CanonicalInteger SafeName

theorem strict_array {xs : List Json} : Strict (.array xs) ↔ ∀ x ∈ xs, Strict x := by
  simp only [Strict, Json.UniqueNames, Json.All, Json.uniqueNamesElements_iff, Json.allElements_iff,
    forall_and]

theorem strict_object {ms : List (JsString × Json)} : Strict (.object ms) ↔
    (ms.map Prod.fst).Nodup ∧ ∀ m ∈ ms, SafeName m.1 ∧ Strict m.2 := by
  simp only [Strict, Json.UniqueNames, Json.All, Json.uniqueNamesMembers_iff, Json.allMembers_iff,
    forall_and]
  tauto

theorem isWs_of_number {u : UInt16} (h : u = 0x2D ∨ Json.isDigit u = true) : Json.isWs u = false := by
  by_contra hws
  simp only [Bool.not_eq_false, Json.isWs, Bool.or_eq_true, decide_eq_true_eq] at hws
  rcases hws with ((rfl | rfl) | rfl) | rfl <;> exact absurd h (by decide)

/-- White space, a comma or a closing bracket delimits a number. -/
theorem delimited_of_skipWs {t : JsString}
    (h : ∀ u rest, Json.skipWs t = u :: rest → u = 0x2C ∨ u = 0x5D ∨ u = 0x7D) : Delimited t := by
  intro u rest ht
  by_cases hu : Json.isWs u = true
  · simp only [Json.isWs, Bool.or_eq_true, decide_eq_true_eq] at hu
    rcases hu with ((rfl | rfl) | rfl) | rfl <;> decide
  · have hskip : Json.skipWs t = u :: rest := by
      rw [ht]
      exact Json.skipWs_cons (Bool.eq_false_iff.mpr hu) rest
    rcases h u rest hskip with rfl | rfl | rfl <;> decide

/-! ## What is accepted is read -/

/-- A scan passed a value of this height and size within the bounds. -/
structure Passed (depth : ℕ) (s s' : Scanner) (height size : ℕ) : Prop where
  depth : depth + height ≤ MAX_DEPTH
  nodes : s'.nodes = s.nodes + size
  bound : s'.nodes ≤ MAX_NODES

/-- The scanner has gone on in the same text, and not beyond its end. -/
structure Moved (s s' : Scanner) : Prop where
  raw : s'.raw = s.raw
  index : s.index ≤ s'.index
  within : s.index ≤ s.raw.length → s'.index ≤ s'.raw.length

theorem Moved.trans {s s₁ s' : Scanner} (h : Moved s s₁) (h' : Moved s₁ s') : Moved s s' :=
  ⟨h'.raw.trans h.raw, h.index.trans h'.index, fun hs => h'.within (h.within hs)⟩

theorem moved_advance {s : Scanner} {n : ℕ} (h : n ≤ s.rest.length) : Moved s (s.advance n) := by
  rw [Scanner.rest, List.length_drop] at h
  refine ⟨rfl, Nat.le_add_right _ _, fun hs => ?_⟩
  simp only [Scanner.advance]
  omega

theorem moved_skipWhitespace (s : Scanner) : Moved s (skipWhitespace s) :=
  moved_advance (List.takeWhile_prefix _).length_le

/-- Less text is left than before. -/
theorem Moved.length_rest_le {s s' : Scanner} (h : Moved s s') : s'.rest.length ≤ s.rest.length := by
  have := h.index
  rw [Scanner.rest, Scanner.rest, h.raw, List.length_drop, List.length_drop]
  omega

theorem exists_of_peek {u : UInt16} (h : s.peek = some u) : ∃ rest, s.rest = u :: rest := by
  rw [peek_eq_head?, List.head?_eq_some_iff] at h
  exact h

theorem scanStringValue_sound {t : JsString} (hs : s.rest = 0x22 :: t)
    (h : scanStringValue s = .ok s') : ∃ v, Json.scanString t = some (v, s'.rest) ∧ BoundedString v ∧
      s'.nodes = s.nodes := by
  obtain ⟨⟨v, s₁⟩, hscan, h⟩ := bind_eq_ok.mp h
  dsimp only at h
  split_ifs at h with hlong
  · cases h
  · cases h
    obtain ⟨r, hread, hscalar, rfl⟩ := (scanString_eq_ok hs).mp hscan
    rw [rest_advance_string hs hread]
    exact ⟨v, hread, ⟨Nat.not_lt.mp hlong, hscalar⟩, rfl⟩

theorem scanLiteral_eq_ok {literal : JsString} : scanLiteral literal s = .ok s' ↔
    literal <+: s.rest ∧ s' = s.advance literal.length := by
  unfold scanLiteral
  rw [List.prefix_iff_eq_take]
  split_ifs with h
  · simp [syntaxFail, ingressFail, Ne.symm h]
  · simp [not_not.mp h, eq_comm]

theorem scanLiteral_sound {literal : JsString} (j : Json) (h : scanLiteral literal s = .ok s') :
    Json.scanLiteral literal j s.rest = some (j, s'.rest) ∧ s'.nodes = s.nodes := by
  obtain ⟨hstarts, rfl⟩ := scanLiteral_eq_ok.mp h
  rw [Json.scanLiteral, if_pos hstarts, rest_advance]
  exact ⟨rfl, rfl⟩

/-- A key that is accepted is a string that passes the checks, up to its colon. -/
theorem exists_of_scanKey {keys : List JsString} {key : JsString}
    (h : scanKey keys s = .ok (key, s')) :
    ∃ t s₁ r, s.rest = 0x22 :: t ∧ scanString s = .ok (key, s₁) ∧
      (key.length ≠ 0 ∧ key.length ≤ MAX_KEY_LENGTH) ∧ key ∉ FORBIDDEN_KEYS ∧ key ∉ keys ∧
      (skipWhitespace s₁).rest = 0x3A :: r ∧
      s' = skipWhitespace ((skipWhitespace s₁).advance 1) := by
  unfold scanKey at h
  rcases ite_eq_iff.mp h with ⟨-, h⟩ | ⟨hpeek, h⟩
  · cases h
  obtain ⟨t, ht⟩ := exists_of_peek (not_not.mp hpeek)
  obtain ⟨⟨k, s₁⟩, hscan, h⟩ := bind_eq_ok.mp h
  rcases ite_eq_iff.mp h with ⟨-, h⟩ | ⟨hlength, h⟩
  · cases h
  rcases ite_eq_iff.mp h with ⟨-, h⟩ | ⟨hforbidden, h⟩
  · cases h
  rcases ite_eq_iff.mp h with ⟨-, h⟩ | ⟨hduplicate, h⟩
  · cases h
  rcases ite_eq_iff.mp h with ⟨-, h⟩ | ⟨hcolon, h⟩
  · cases h
  cases h
  obtain ⟨r, hr⟩ := exists_of_peek (not_not.mp hcolon)
  simp only [not_or, Nat.not_lt] at hlength
  exact ⟨t, s₁, r, ht, hscan, hlength, hforbidden, hduplicate, hr, rfl⟩

theorem scanKey_sound {keys : List JsString} {key : JsString} (h : scanKey keys s = .ok (key, s')) :
    ∃ t r r', s.rest = 0x22 :: t ∧ Json.scanString t = some (key, r) ∧ Json.skipWs r = 0x3A :: r' ∧
      s'.rest = Json.skipWs r' ∧ SafeName key ∧ key ∉ keys ∧ s'.nodes = s.nodes := by
  obtain ⟨t, s₁, r', ht, hscan, hlength, hforbidden, hduplicate, hr', rfl⟩ := exists_of_scanKey h
  obtain ⟨r, hread, hscalar, hs₁⟩ := (scanString_eq_ok ht).mp hscan
  have hrest := rest_advance_string ht hread
  rw [← hs₁] at hrest
  have hskip : Json.skipWs r = 0x3A :: r' := by
    rw [← hrest, ← rest_skipWhitespace]
    exact hr'
  refine ⟨t, r, r', ht, hread, hskip, ?_, ⟨by omega, hlength.2, hforbidden, hscalar⟩, hduplicate,
    by rw [hs₁]; rfl⟩
  rw [rest_skipWhitespace, rest_advance, hr']
  rfl

/-- A container is closed at once or goes on with its loop. -/
theorem scanContainer_eq_ok {close : UInt16} {loop : Scanner → Except IngressFailure Scanner}
    {u : UInt16} {t : JsString} (hs : s.rest = u :: t) (h : scanContainer close loop s = .ok s') :
    ((Json.skipWs t).head? = some close ∧ s'.rest = (Json.skipWs t).drop 1 ∧ s'.nodes = s.nodes ∧
      Moved s s') ∨
      ((Json.skipWs t).head? ≠ some close ∧ ∃ s₁, s₁.rest = Json.skipWs t ∧ s₁.nodes = s.nodes ∧
        Moved s s₁ ∧ loop s₁ = .ok s') := by
  have hrest : (skipWhitespace (s.advance 1)).rest = Json.skipWs t := by
    rw [rest_skipWhitespace, rest_advance, hs]
    rfl
  have hmoved : Moved s (skipWhitespace (s.advance 1)) :=
    (moved_advance (by rw [hs, List.length_cons]; omega)).trans (moved_skipWhitespace _)
  unfold scanContainer at h
  dsimp only at h
  rw [peek_eq_head?, hrest] at h
  split_ifs at h with hclose
  · cases h
    have hone : 1 ≤ (skipWhitespace (s.advance 1)).rest.length := by
      obtain ⟨t', ht'⟩ := List.head?_eq_some_iff.mp hclose
      rw [hrest, ht', List.length_cons]
      omega
    exact .inl ⟨hclose, by rw [rest_advance, hrest], rfl, hmoved.trans (moved_advance hone)⟩
  · exact .inr ⟨hclose, _, hrest, rfl, hmoved, h⟩

/-- Behind an item of a container stands its end, or a comma and the next item. -/
theorem itemEnd_eq_ok {close : UInt16} {next : Scanner → Except IngressFailure Scanner}
    {message : String}
    (h : (if (skipWhitespace s).peek = some close then .ok ((skipWhitespace s).advance 1)
      else if (skipWhitespace s).peek ≠ some 0x2C then syntaxFail message
      else next (skipWhitespace ((skipWhitespace s).advance 1))) = .ok s') :
    ∃ u t, Json.skipWs s.rest = u :: t ∧
      ((u = close ∧ s'.rest = t ∧ s'.nodes = s.nodes ∧ Moved s s') ∨
      (u = 0x2C ∧ ∃ s₁, s₁.rest = Json.skipWs t ∧ s₁.nodes = s.nodes ∧ Moved s s₁ ∧
        next s₁ = .ok s')) := by
  have hmoved : ∀ {u t}, (skipWhitespace s).rest = u :: t →
      Moved s ((skipWhitespace s).advance 1) := by
    intro u t ht
    refine (moved_skipWhitespace s).trans (moved_advance ?_)
    rw [ht, List.length_cons]
    omega
  rw [← rest_skipWhitespace]
  by_cases hclose : (skipWhitespace s).peek = some close
  · rw [if_pos hclose] at h
    obtain ⟨t, ht⟩ := exists_of_peek hclose
    cases h
    refine ⟨close, t, ht, .inl ⟨rfl, ?_, rfl, hmoved ht⟩⟩
    rw [rest_advance, ht]
    rfl
  · rw [if_neg hclose] at h
    by_cases hcomma : (skipWhitespace s).peek = some 0x2C
    · rw [if_neg (not_not.mpr hcomma)] at h
      obtain ⟨t, ht⟩ := exists_of_peek hcomma
      refine ⟨0x2C, t, ht, .inr ⟨rfl, skipWhitespace ((skipWhitespace s).advance 1), ?_, rfl,
        (hmoved ht).trans (moved_skipWhitespace _), h⟩⟩
      rw [rest_skipWhitespace, rest_advance, ht]
      rfl
    · rw [if_pos hcomma] at h
      cases h

/-- What the recursive functions accept is read by the reader with the same fuel. -/
theorem scan_sound (fuel : ℕ) :
    (∀ depth s s', scanValue fuel depth s = .ok s' → Delimited s'.rest →
      ∃ j, Json.parseValue fuel s.rest = some (j, s'.rest) ∧ Strict j ∧
        Passed depth s s' (levels j) (values j)) ∧
    (∀ depth s s', scanElements fuel depth s = .ok s' →
      ∃ xs, Json.parseElements fuel s.rest = some (xs, s'.rest) ∧ (∀ x ∈ xs, Strict x) ∧
        Passed depth s s' (levelsElements xs) (valuesElements xs)) ∧
    (∀ depth keys s s', scanMembers fuel depth keys s = .ok s' →
      ∃ ms, Json.parseMembers fuel s.rest = some (ms, s'.rest) ∧ (ms.map Prod.fst).Nodup ∧
        (∀ m ∈ ms, m.1 ∉ keys ∧ SafeName m.1 ∧ Strict m.2) ∧
        Passed depth s s' (levelsMembers ms) (valuesMembers ms)) := by
  induction fuel with
  | zero =>
    refine ⟨fun _ _ _ h => ?_, fun _ _ _ h => ?_, fun _ _ _ _ h => ?_⟩
    · cases h
    · cases h
    · cases h
  | succ fuel ih =>
    obtain ⟨ihValue, ihElements, ihMembers⟩ := ih
    refine ⟨fun depth s s' h hdelimited => ?_, fun depth s s' h => ?_, fun depth keys s s' h => ?_⟩
    · rw [scanValue] at h
      rcases ite_eq_iff.mp h with ⟨-, h⟩ | ⟨hdepth, h⟩
      · cases h
      · cases hpeek : s.peek with
        | none =>
          rw [hpeek] at h
          cases h
        | some u =>
          obtain ⟨t, ht⟩ := exists_of_peek hpeek
          rw [hpeek] at h
          obtain ⟨s₁, hcount, h⟩ := bind_eq_ok.mp h
          obtain ⟨hnodes, rfl⟩ := countNode_eq_ok.mp hcount
          have ht₁ : ({ s with nodes := s.nodes + 1 } : Scanner).rest = u :: t := ht
          by_cases hobject : u = 0x7B
          · rw [if_pos hobject] at h
            have hskip : Json.skipWs s.rest = 0x7B :: t := by
              rw [ht, hobject]
              exact Json.skipWs_cons (by decide) t
            rw [Json.parseValue_object hskip]
            rcases scanContainer_eq_ok ht₁ h with ⟨hclose, hrest, hsame, -⟩ |
                ⟨hopen, s₁, hrest, hsame, -, hloop⟩
            · rw [if_pos hclose, hrest]
              refine ⟨.object [], rfl, strict_object.mpr ⟨List.nodup_nil, by simp⟩, ⟨?_, hsame, ?_⟩⟩
              · simp only [levels, levelsMembers]
                omega
              · rw [hsame]
                exact hnodes
            · rw [if_neg hopen]
              obtain ⟨ms, hparse, hnodup, hall, hpassed⟩ := ihMembers depth [] s₁ s' hloop
              rw [hrest] at hparse
              rw [hparse]
              refine ⟨.object ms, rfl, strict_object.mpr ⟨hnodup, fun m hm => (hall m hm).2⟩,
                ⟨hpassed.depth, ?_, hpassed.bound⟩⟩
              rw [hpassed.nodes, hsame, values]
              exact Nat.add_right_comm _ _ _
          · rw [if_neg hobject] at h
            by_cases harray : u = 0x5B
            · rw [if_pos harray] at h
              have hskip : Json.skipWs s.rest = 0x5B :: t := by
                rw [ht, harray]
                exact Json.skipWs_cons (by decide) t
              rw [Json.parseValue_array hskip]
              rcases scanContainer_eq_ok ht₁ h with ⟨hclose, hrest, hsame, -⟩ |
                ⟨hopen, s₁, hrest, hsame, -, hloop⟩
              · rw [if_pos hclose, hrest]
                refine ⟨.array [], rfl, strict_array.mpr (by simp), ⟨?_, hsame, ?_⟩⟩
                · simp only [levels, levelsElements]
                  omega
                · rw [hsame]
                  exact hnodes
              · rw [if_neg hopen]
                obtain ⟨xs, hparse, hall, hpassed⟩ := ihElements depth s₁ s' hloop
                rw [hrest] at hparse
                rw [hparse]
                refine ⟨.array xs, rfl, strict_array.mpr hall, ⟨hpassed.depth, ?_, hpassed.bound⟩⟩
                rw [hpassed.nodes, hsame, values]
                exact Nat.add_right_comm _ _ _
            · rw [if_neg harray] at h
              -- the other values are read in one piece
              have hpassed : ∀ j, levels j = 0 → values j = 1 → s'.nodes = s.nodes + 1 →
                  Passed depth s s' (levels j) (values j) := by
                intro j hlevels hvalues hsame
                rw [hlevels, hvalues]
                exact ⟨by omega, hsame, by omega⟩
              by_cases hstring : u = 0x22
              · rw [if_pos hstring] at h
                rw [hstring] at ht ht₁
                obtain ⟨v, hread, hbounded, hsame⟩ := scanStringValue_sound ht₁ h
                refine ⟨.string v, ?_, ⟨trivial, hbounded⟩, hpassed _ rfl rfl hsame⟩
                rw [Json.parseValue, ht, Json.skipWs_cons (by decide)]
                simp [hread]
              · rw [if_neg hstring] at h
                have hread : Json.isWs u = false → _ := fun hws =>
                  @Json.parseValue_token fuel s.rest t u
                    (by rw [ht]; exact Json.skipWs_cons hws t) hobject harray hstring
                rw [← ht] at hread
                by_cases htrue : u = 0x74
                · rw [if_pos htrue] at h
                  obtain ⟨hscan, hsame⟩ := scanLiteral_sound (.bool true) h
                  refine ⟨.bool true, ?_, ⟨trivial, trivial⟩, hpassed _ rfl rfl hsame⟩
                  rw [hread (by rw [htrue]; decide), if_pos htrue]
                  exact hscan
                · rw [if_neg htrue] at h
                  by_cases hfalse : u = 0x66
                  · rw [if_pos hfalse] at h
                    obtain ⟨hscan, hsame⟩ := scanLiteral_sound (.bool false) h
                    refine ⟨.bool false, ?_, ⟨trivial, trivial⟩, hpassed _ rfl rfl hsame⟩
                    rw [hread (by rw [hfalse]; decide), if_neg htrue, if_pos hfalse]
                    exact hscan
                  · rw [if_neg hfalse] at h
                    by_cases hnull : u = 0x6E
                    · rw [if_pos hnull] at h
                      obtain ⟨hscan, hsame⟩ := scanLiteral_sound .null h
                      refine ⟨.null, ?_, ⟨trivial, trivial⟩, hpassed _ rfl rfl hsame⟩
                      rw [hread (by rw [hnull]; decide), if_neg htrue, if_neg hfalse, if_pos hnull]
                      exact hscan
                    · rw [if_neg hnull] at h
                      split_ifs at h with hnumber
                      · obtain ⟨token, r, hscan, hcanonical, hs', hr⟩ :=
                          scanNumber_eq_ok.mp ⟨h, hdelimited⟩
                        refine ⟨.number token, ?_, ⟨trivial, hcanonical⟩,
                          hpassed _ rfl rfl (by rw [hs']; rfl)⟩
                        rw [hread (isWs_of_number hnumber), if_neg htrue, if_neg hfalse, if_neg hnull,
                          hr]
                        exact congrArg (Option.map fun p => (Json.number p.1, p.2)) hscan
                      · cases h
    · rw [scanElements] at h
      rcases ite_eq_iff.mp h with ⟨-, h⟩ | ⟨-, h⟩
      · obtain ⟨s₁, hvalue, h⟩ := bind_eq_ok.mp h
        obtain ⟨u, t, hskip, hend⟩ := itemEnd_eq_ok h
        have hdelimited : Delimited s₁.rest := by
          apply delimited_of_skipWs
          rw [hskip]
          rintro _ _ ⟨⟩
          exact hend.elim (fun h => .inr (.inl h.1)) (fun h => .inl h.1)
        obtain ⟨j, hparse, hstrict, hpassed⟩ := ihValue (depth + 1) s s₁ hvalue hdelimited
        have hdepth := hpassed.depth
        have hnodes := hpassed.nodes
        rcases hend with ⟨rfl, hrest, hsame, -⟩ | ⟨rfl, s₂, hrest, hsame, -, hnext⟩
        · refine ⟨[j], ?_, by simpa using hstrict, ⟨?_, ?_, by rw [hsame]; exact hpassed.bound⟩⟩
          · rw [Json.parseElements, hparse, hrest]
            simp [hskip]
          · simp only [levelsElements]
            omega
          · simp only [valuesElements]
            omega
        · obtain ⟨xs, hparse', hstrict', hpassed'⟩ := ihElements depth s₂ s' hnext
          have hdepth' := hpassed'.depth
          have hnodes' := hpassed'.nodes
          refine ⟨j :: xs, ?_, ?_, ⟨?_, ?_, hpassed'.bound⟩⟩
          · rw [hrest, Json.parseElements_skipWs] at hparse'
            rw [Json.parseElements, hparse]
            simp [hskip, hparse']
          · rw [List.forall_mem_cons]
            exact ⟨hstrict, hstrict'⟩
          · simp only [levelsElements]
            omega
          · simp only [valuesElements]
            omega
      · cases h
    · rw [scanMembers] at h
      rcases ite_eq_iff.mp h with ⟨-, h⟩ | ⟨-, h⟩
      · obtain ⟨⟨key, s₀⟩, hkey, h⟩ := bind_eq_ok.mp h
        obtain ⟨s₁, hvalue, h⟩ := bind_eq_ok.mp h
        obtain ⟨t₀, r, r', hopen, hread, hcolon, hafter, hsafe, hfresh, hsame₀⟩ := scanKey_sound hkey
        obtain ⟨u, t, hskip, hend⟩ := itemEnd_eq_ok h
        have hdelimited : Delimited s₁.rest := by
          apply delimited_of_skipWs
          rw [hskip]
          rintro _ _ ⟨⟩
          exact hend.elim (fun h => .inr (.inr h.1)) (fun h => .inl h.1)
        obtain ⟨j, hparse, hstrict, hpassed⟩ := ihValue (depth + 1) s₀ s₁ hvalue hdelimited
        rw [hafter, Json.parseValue_skipWs] at hparse
        have hdepth := hpassed.depth
        have hnodes := hpassed.nodes
        have hopened : Json.skipWs s.rest = 0x22 :: t₀ := by
          rw [hopen]
          exact Json.skipWs_cons (by decide) t₀
        rcases hend with ⟨rfl, hrest, hsame, -⟩ | ⟨rfl, s₂, hrest, hsame, -, hnext⟩
        · refine ⟨[(key, j)], ?_, List.nodup_singleton _, by simp [hfresh, hsafe, hstrict],
            ⟨?_, ?_, by rw [hsame]; exact hpassed.bound⟩⟩
          · rw [Json.parseMembers, hopened, hrest]
            simp [hread, hcolon, hparse, hskip]
          · simp only [levelsMembers]
            omega
          · simp only [valuesMembers]
            omega
        · obtain ⟨ms, hparse', hnodup, hall, hpassed'⟩ := ihMembers depth (key :: keys) s₂ s' hnext
          have hdepth' := hpassed'.depth
          have hnodes' := hpassed'.nodes
          refine ⟨(key, j) :: ms, ?_, ?_, ?_, ⟨?_, ?_, hpassed'.bound⟩⟩
          · rw [hrest, Json.parseMembers_skipWs] at hparse'
            rw [Json.parseMembers, hopened]
            simp [hread, hcolon, hparse, hskip, hparse']
          · rw [List.map_cons, List.nodup_cons]
            refine ⟨fun hmem => ?_, hnodup⟩
            obtain ⟨m, hm, hname⟩ := List.mem_map.mp hmem
            exact (hall m hm).1 (hname ▸ List.mem_cons_self)
          · rw [List.forall_mem_cons]
            refine ⟨⟨hfresh, hsafe, hstrict⟩, fun m hm => ?_⟩
            exact ⟨fun hmem => (hall m hm).1 (List.mem_cons_of_mem _ hmem), (hall m hm).2⟩
          · simp only [levelsMembers]
            omega
          · simp only [valuesMembers]
            omega
      · cases h

/-! ## What is read within the bounds is accepted -/

theorem peek_of_rest {u : UInt16} {t : JsString} (h : s.rest = u :: t) : s.peek = some u := by
  rw [peek_eq_head?, h]
  rfl

theorem scanLiteral_complete {literal r : JsString} {j j' : Json}
    (h : Json.scanLiteral literal j s.rest = some (j', r)) :
    j' = j ∧ ∃ s', scanLiteral literal s = .ok s' ∧ s'.rest = r ∧ s'.nodes = s.nodes := by
  unfold Json.scanLiteral at h
  split_ifs at h with hstarts
  cases h
  exact ⟨rfl, _, scanLiteral_eq_ok.mpr ⟨hstarts, rfl⟩, rest_advance _ _, rfl⟩

theorem scanString_complete {t v r : JsString} (hs : s.rest = 0x22 :: t)
    (hread : Json.scanString t = some (v, r)) (hv : Scalar (codePoints v)) :
    ∃ s', scanString s = .ok (v, s') ∧ s'.rest = r ∧ s'.nodes = s.nodes :=
  ⟨_, (scanString_eq_ok hs).mpr ⟨r, hread, hv, rfl⟩, rest_advance_string hs hread, rfl⟩

theorem scanStringValue_complete {t v r : JsString} (hs : s.rest = 0x22 :: t)
    (hread : Json.scanString t = some (v, r)) (hv : BoundedString v) :
    ∃ s', scanStringValue s = .ok s' ∧ s'.rest = r ∧ s'.nodes = s.nodes := by
  obtain ⟨s', hscan, hrest, hsame⟩ := scanString_complete hs hread hv.2
  refine ⟨s', ?_, hrest, hsame⟩
  unfold scanStringValue
  rw [hscan]
  exact if_neg (Nat.not_lt.mpr hv.1)

theorem scanNumber_complete {r : JsString} {token : NumberToken}
    (h : Json.scanNumber s.rest = some (token, r)) (hcanonical : CanonicalInteger token) :
    ∃ s', scanNumber s = .ok s' ∧ s'.rest = r ∧ s'.nodes = s.nodes := by
  obtain ⟨sign, t, negative, hs, -, hread, -⟩ := matchNumber_sign s.rest
  obtain ⟨i, -, -, hr, -⟩ := scanUnsigned_eq_some.mp ⟨hread.symm.trans h, hcanonical.1⟩
  have hsuffix : r <:+ s.rest := by
    rw [hs, hr]
    exact (List.drop_suffix _ _).trans (List.suffix_append _ _)
  have hrest : (s.advance (s.rest.length - r.length)).rest = r := by
    rw [rest_advance]
    exact (List.suffix_iff_eq_drop.mp hsuffix).symm
  exact ⟨_, (scanNumber_eq_ok.mpr ⟨token, r, h, hcanonical, rfl, hrest⟩).1, hrest, rfl⟩

theorem scanKey_complete {keys : List JsString} {key t r r' : JsString} (hs : s.rest = 0x22 :: t)
    (hread : Json.scanString t = some (key, r)) (hcolon : Json.skipWs r = 0x3A :: r')
    (hsafe : SafeName key) (hfresh : key ∉ keys) :
    ∃ s₁, scanKey keys s = .ok (key, skipWhitespace s₁) ∧ s₁.rest = r' ∧ s₁.nodes = s.nodes := by
  obtain ⟨hpos, hlength, hforbidden, hscalar⟩ := hsafe
  obtain ⟨s₀, hscan, hrest, hsame⟩ := scanString_complete hs hread hscalar
  have hskip : (skipWhitespace s₀).rest = 0x3A :: r' := by
    rw [rest_skipWhitespace, hrest, hcolon]
  refine ⟨(skipWhitespace s₀).advance 1, ?_, by rw [rest_advance, hskip]; rfl, hsame⟩
  have hbounds : ¬ (key.length = 0 ∨ MAX_KEY_LENGTH < key.length) := by omega
  unfold scanKey
  rw [if_neg (not_not.mpr (peek_of_rest hs)), hscan]
  simp only [bind, Except.bind]
  rw [if_neg hbounds, if_neg hforbidden, if_neg hfresh, if_neg (not_not.mpr (peek_of_rest hskip))]

theorem scanContainer_closed {close : UInt16} {loop : Scanner → Except IngressFailure Scanner}
    {u : UInt16} {t : JsString} (hs : s.rest = u :: t) (h : (Json.skipWs t).head? = some close) :
    ∃ s', scanContainer close loop s = .ok s' ∧ s'.rest = (Json.skipWs t).drop 1 ∧
      s'.nodes = s.nodes := by
  have hrest : (skipWhitespace (s.advance 1)).rest = Json.skipWs t := by
    rw [rest_skipWhitespace, rest_advance, hs]
    rfl
  have hpeek : (skipWhitespace (s.advance 1)).peek = some close := by rw [peek_eq_head?, hrest, h]
  refine ⟨(skipWhitespace (s.advance 1)).advance 1, ?_, by rw [rest_advance, hrest], rfl⟩
  exact if_pos hpeek

theorem scanContainer_open {close : UInt16} {loop : Scanner → Except IngressFailure Scanner}
    {u : UInt16} {t : JsString} (hs : s.rest = u :: t) (h : (Json.skipWs t).head? ≠ some close) :
    scanContainer close loop s = loop (skipWhitespace (s.advance 1)) := by
  have hrest : (skipWhitespace (s.advance 1)).rest = Json.skipWs t := by
    rw [rest_skipWhitespace, rest_advance, hs]
    rfl
  refine if_neg ?_
  rw [peek_eq_head?, hrest]
  exact h

theorem itemEnd_closed {close : UInt16} {next : Scanner → Except IngressFailure Scanner}
    {message : String} {t : JsString} (hskip : Json.skipWs s.rest = close :: t) :
    ∃ s', (if (skipWhitespace s).peek = some close then .ok ((skipWhitespace s).advance 1)
      else if (skipWhitespace s).peek ≠ some 0x2C then syntaxFail message
      else next (skipWhitespace ((skipWhitespace s).advance 1))) = .ok s' ∧ s'.rest = t ∧
        s'.nodes = s.nodes := by
  have hrest : (skipWhitespace s).rest = close :: t := by rw [rest_skipWhitespace, hskip]
  refine ⟨(skipWhitespace s).advance 1, if_pos (peek_of_rest hrest), ?_, rfl⟩
  rw [rest_advance, hrest]
  rfl

theorem itemEnd_comma {close : UInt16} {next : Scanner → Except IngressFailure Scanner}
    {message : String} {t : JsString} (hclose : close ≠ 0x2C)
    (hskip : Json.skipWs s.rest = 0x2C :: t) :
    ∃ s₁, (if (skipWhitespace s).peek = some close then .ok ((skipWhitespace s).advance 1)
      else if (skipWhitespace s).peek ≠ some 0x2C then syntaxFail message
      else next (skipWhitespace ((skipWhitespace s).advance 1))) = next (skipWhitespace s₁) ∧
        s₁.rest = t ∧ s₁.nodes = s.nodes := by
  have hrest : (skipWhitespace s).rest = 0x2C :: t := by rw [rest_skipWhitespace, hskip]
  have hpeek := peek_of_rest hrest
  refine ⟨(skipWhitespace s).advance 1, ?_, by rw [rest_advance, hrest]; rfl, rfl⟩
  rw [hpeek, if_neg (fun h => hclose (Option.some.inj h).symm), if_neg (not_not.mpr rfl)]

/-- What the reader reads within the bounds is accepted with the same fuel. -/
theorem scan_complete (fuel : ℕ) :
    (∀ depth s j r, Json.parseValue fuel s.rest = some (j, r) → Strict j →
      depth + levels j ≤ MAX_DEPTH → s.nodes + values j ≤ MAX_NODES →
      ∃ s', scanValue fuel depth (skipWhitespace s) = .ok s' ∧ s'.rest = r ∧
        s'.nodes = s.nodes + values j) ∧
    (∀ depth s xs r, Json.parseElements fuel s.rest = some (xs, r) → (∀ x ∈ xs, Strict x) →
      depth + levelsElements xs ≤ MAX_DEPTH → s.nodes + valuesElements xs ≤ MAX_NODES →
      ∃ s', scanElements fuel depth (skipWhitespace s) = .ok s' ∧ s'.rest = r ∧
        s'.nodes = s.nodes + valuesElements xs) ∧
    (∀ depth keys s ms r, Json.parseMembers fuel s.rest = some (ms, r) → (ms.map Prod.fst).Nodup →
      (∀ m ∈ ms, m.1 ∉ keys ∧ SafeName m.1 ∧ Strict m.2) →
      depth + levelsMembers ms ≤ MAX_DEPTH → s.nodes + valuesMembers ms ≤ MAX_NODES →
      ∃ s', scanMembers fuel depth keys (skipWhitespace s) = .ok s' ∧ s'.rest = r ∧
        s'.nodes = s.nodes + valuesMembers ms) := by
  induction fuel with
  | zero =>
    refine ⟨fun _ _ _ _ h => ?_, fun _ _ _ _ h => ?_, fun _ _ _ _ _ h => ?_⟩
    · cases h
    · cases h
    · cases h
  | succ fuel ih =>
    obtain ⟨ihValue, ihElements, ihMembers⟩ := ih
    refine ⟨fun depth s j r h hstrict hdepth hnodes => ?_, fun depth s xs r h hstrict hdepth hnodes => ?_,
      fun depth keys s ms r h hnodup hall hdepth hnodes => ?_⟩
    · have hdeep : ¬ MAX_DEPTH < depth := by omega
      rw [scanValue, if_neg hdeep]
      cases hskip : Json.skipWs s.rest with
      | nil =>
        rw [← Json.parseValue_skipWs, hskip, Json.parseValue_nil] at h
        cases h
      | cons u t =>
        have hrest : (skipWhitespace s).rest = u :: t := by rw [rest_skipWhitespace, hskip]
        have hcount : countNode (skipWhitespace s) =
            .ok { skipWhitespace s with nodes := s.nodes + 1 } := by
          refine countNode_eq_ok.mpr ⟨?_, rfl⟩
          have : 1 ≤ values j := by cases j <;> simp [values]
          rw [nodes_skipWhitespace]
          omega
        have hrest₁ : ({ skipWhitespace s with nodes := s.nodes + 1 } : Scanner).rest = u :: t := hrest
        rw [peek_of_rest hrest]
        dsimp only [bind, Except.bind]
        rw [hcount]
        dsimp only
        by_cases hobject : u = 0x7B
        · rw [if_pos hobject]
          rw [hobject] at hskip
          rw [Json.parseValue_object hskip] at h
          by_cases hclose : (Json.skipWs t).head? = some 0x7D
          · rw [if_pos hclose] at h
            cases h
            exact scanContainer_closed hrest₁ hclose
          · rw [if_neg hclose] at h
            obtain ⟨⟨ms, r'⟩, hparse, heq⟩ := Option.map_eq_some_iff.mp h
            cases heq
            obtain ⟨hnodup, hall⟩ := strict_object.mp hstrict
            rw [scanContainer_open hrest₁ hclose]
            rw [Json.parseMembers_skipWs] at hparse
            simp only [levels, values] at hdepth hnodes
            have hinner : (Scanner.advance { skipWhitespace s with nodes := s.nodes + 1 } 1).rest = t := by
              rw [rest_advance, hrest₁]
              rfl
            obtain ⟨s', hscan, hrest', hsame⟩ := ihMembers depth []
              (Scanner.advance { skipWhitespace s with nodes := s.nodes + 1 } 1) ms r'
              (by rw [hinner]; exact hparse) hnodup
              (fun m hm => ⟨List.not_mem_nil, hall m hm⟩) hdepth
              (by rw [nodes_advance]; dsimp only; omega)
            refine ⟨s', hscan, hrest', ?_⟩
            rw [hsame, nodes_advance, values]
            exact Nat.add_right_comm _ _ _
        · rw [if_neg hobject]
          by_cases harray : u = 0x5B
          · rw [if_pos harray]
            rw [harray] at hskip
            rw [Json.parseValue_array hskip] at h
            by_cases hclose : (Json.skipWs t).head? = some 0x5D
            · rw [if_pos hclose] at h
              cases h
              exact scanContainer_closed hrest₁ hclose
            · rw [if_neg hclose] at h
              obtain ⟨⟨xs, r'⟩, hparse, heq⟩ := Option.map_eq_some_iff.mp h
              cases heq
              rw [scanContainer_open hrest₁ hclose]
              rw [Json.parseElements_skipWs] at hparse
              simp only [levels, values] at hdepth hnodes
              have hinner : (Scanner.advance { skipWhitespace s with nodes := s.nodes + 1 } 1).rest = t := by
                rw [rest_advance, hrest₁]
                rfl
              obtain ⟨s', hscan, hrest', hsame⟩ := ihElements depth
                (Scanner.advance { skipWhitespace s with nodes := s.nodes + 1 } 1) xs r'
                (by rw [hinner]; exact hparse) (strict_array.mp hstrict) hdepth
                (by rw [nodes_advance]; dsimp only; omega)
              refine ⟨s', hscan, hrest', ?_⟩
              rw [hsame, nodes_advance, values]
              exact Nat.add_right_comm _ _ _
          · rw [if_neg harray]
            by_cases hstring : u = 0x22
            · rw [if_pos hstring]
              rw [hstring] at hskip hrest₁
              rw [Json.parseValue, hskip] at h
              obtain ⟨⟨v, r'⟩, hread, heq⟩ := Option.map_eq_some_iff.mp h
              cases heq
              exact scanStringValue_complete hrest₁ hread hstrict.2
            · rw [if_neg hstring]
              rw [Json.parseValue_token hskip hobject harray hstring, ← hrest₁] at h
              by_cases htrue : u = 0x74
              · rw [if_pos htrue] at h ⊢
                obtain ⟨rfl, hscan⟩ := scanLiteral_complete h
                exact hscan
              · rw [if_neg htrue] at h ⊢
                by_cases hfalse : u = 0x66
                · rw [if_pos hfalse] at h ⊢
                  obtain ⟨rfl, hscan⟩ := scanLiteral_complete h
                  exact hscan
                · rw [if_neg hfalse] at h ⊢
                  by_cases hnull : u = 0x6E
                  · rw [if_pos hnull] at h ⊢
                    obtain ⟨rfl, hscan⟩ := scanLiteral_complete h
                    exact hscan
                  · rw [if_neg hnull] at h ⊢
                    obtain ⟨⟨token, r'⟩, hread, heq⟩ := Option.map_eq_some_iff.mp h
                    cases heq
                    have hstart := Json.number_start (hrest₁ ▸ hread)
                    rw [if_pos hstart]
                    exact scanNumber_complete hread hstrict.2
    · obtain ⟨j, r₁, u, t', hvalue, hskip, hend⟩ := Json.parseElements_eq_some h
      have hopen : (skipWhitespace s).index < (skipWhitespace s).raw.length := by
        rw [index_lt_iff, rest_skipWhitespace]
        intro hnil
        rw [← Json.parseValue_skipWs, hnil, Json.parseValue_nil] at hvalue
        cases hvalue
      have hx : j ∈ xs := by
        rcases hend with ⟨-, rfl, -⟩ | ⟨-, xs', rfl, -⟩
        · exact List.mem_singleton_self _
        · exact List.mem_cons_self
      have hbounds : depth + 1 + levels j ≤ MAX_DEPTH ∧ s.nodes + values j ≤ MAX_NODES := by
        rcases hend with ⟨-, rfl, -⟩ | ⟨-, xs', rfl, -⟩
        · simp only [levelsElements, valuesElements] at hdepth hnodes
          omega
        · simp only [levelsElements, valuesElements] at hdepth hnodes
          omega
      obtain ⟨s₁, hscan, hrest₁, hnodes₁⟩ :=
        ihValue (depth + 1) s j r₁ hvalue (hstrict j hx) hbounds.1 hbounds.2
      rw [scanElements, if_pos hopen, hscan]
      rw [← hrest₁] at hskip
      rcases hend with ⟨rfl, rfl, rfl⟩ | ⟨rfl, xs', rfl, hmore⟩
      · obtain ⟨s', heq, hrest, hsame⟩ := itemEnd_closed hskip
        exact ⟨s', heq, hrest, by rw [hsame, hnodes₁]; rfl⟩
      · have hclose : (0x5D : UInt16) ≠ 0x2C := by decide
        obtain ⟨s₂, heq, hrest, hsame⟩ := itemEnd_comma hclose hskip
        simp only [levelsElements, valuesElements] at hdepth hnodes
        obtain ⟨s', hscan', hrest', hnodes'⟩ := ihElements depth s₂ xs' r (by rw [hrest]; exact hmore)
          (fun x hx => hstrict x (List.mem_cons_of_mem _ hx)) (by omega) (by omega)
        refine ⟨s', heq.trans hscan', hrest', ?_⟩
        simp only [valuesElements]
        omega
    · obtain ⟨t₀, key, r₀, r', j, r₁, u, t', hopened, hread, hcolon, hvalue, hskip, hend⟩ :=
        Json.parseMembers_eq_some h
      have hrest₀ : (skipWhitespace s).rest = 0x22 :: t₀ := by rw [rest_skipWhitespace, hopened]
      have hopen : (skipWhitespace s).index < (skipWhitespace s).raw.length := by
        rw [index_lt_iff, hrest₀]
        exact List.cons_ne_nil _ _
      have hm : (key, j) ∈ ms := by
        rcases hend with ⟨-, rfl, -⟩ | ⟨-, ms', rfl, -⟩
        · exact List.mem_singleton_self _
        · exact List.mem_cons_self
      have hbounds : depth + 1 + levels j ≤ MAX_DEPTH ∧ s.nodes + values j ≤ MAX_NODES := by
        rcases hend with ⟨-, rfl, -⟩ | ⟨-, ms', rfl, -⟩
        · simp only [levelsMembers, valuesMembers] at hdepth hnodes
          omega
        · simp only [levelsMembers, valuesMembers] at hdepth hnodes
          omega
      obtain ⟨hfresh, hsafe, hstrict⟩ := hall _ hm
      obtain ⟨s₀, hkey, hafter, hsame₀⟩ := scanKey_complete hrest₀ hread hcolon hsafe hfresh
      rw [nodes_skipWhitespace] at hsame₀
      obtain ⟨s₁, hscan, hrest₁, hnodes₁⟩ := ihValue (depth + 1) s₀ j r₁ (by rw [hafter]; exact hvalue)
        hstrict hbounds.1 (by rw [hsame₀]; exact hbounds.2)
      rw [scanMembers, if_pos hopen, hkey]
      dsimp only [bind, Except.bind]
      rw [hscan]
      rw [← hrest₁] at hskip
      rcases hend with ⟨rfl, rfl, rfl⟩ | ⟨rfl, ms', rfl, hmore⟩
      · obtain ⟨s', heq, hrest, hsame⟩ := itemEnd_closed hskip
        exact ⟨s', heq, hrest, by rw [hsame, hnodes₁, hsame₀]; rfl⟩
      · have hclose : (0x7D : UInt16) ≠ 0x2C := by decide
        obtain ⟨s₂, heq, hrest, hsame⟩ := itemEnd_comma hclose hskip
        simp only [levelsMembers, valuesMembers] at hdepth hnodes
        rw [List.map_cons, List.nodup_cons] at hnodup
        have hlater : ∀ m ∈ ms', m.1 ∉ key :: keys ∧ SafeName m.1 ∧ Strict m.2 := by
          intro m hm'
          have hm'' := hall m (List.mem_cons_of_mem _ hm')
          refine ⟨fun hmem => ?_, hm''.2⟩
          rcases List.mem_cons.mp hmem with heq | hmem
          · have hname : m.1 ∈ ms'.map Prod.fst := List.mem_map_of_mem hm'
            rw [show m.1 = key from heq] at hname
            exact hnodup.1 hname
          · exact hm''.1 hmem
        obtain ⟨s', hscan', hrest', hnodes'⟩ := ihMembers depth (key :: keys) s₂ ms' r
          (by rw [hrest]; exact hmore) hnodup.2 hlater (by omega) (by omega)
        refine ⟨s', heq.trans hscan', hrest', ?_⟩
        simp only [valuesMembers]
        omega

/-! ## The scan ends -/

/-- The key of a member is read from the text. -/
theorem length_scanKey_lt {keys : List JsString} {key : JsString}
    (h : scanKey keys s = .ok (key, s')) : s'.rest.length < s.rest.length := by
  obtain ⟨t, r, r', hs, hread, hcolon, hafter, -⟩ := scanKey_sound h
  have h₁ := Json.length_lt_of_scanString hread
  have h₂ := Json.skipWs_length_le r
  have h₃ := Json.skipWs_length_le r'
  rw [hcolon, List.length_cons] at h₂
  rw [hs, hafter, List.length_cons]
  omega

theorem moved_scanString {t v : JsString} (hs : s.rest = 0x22 :: t)
    (h : scanString s = .ok (v, s')) : Moved s s' := by
  obtain ⟨r, -, -, rfl⟩ := (scanString_eq_ok hs).mp h
  apply moved_advance
  rw [hs, List.length_cons]
  omega

theorem moved_scanKey {keys : List JsString} {key : JsString} (h : scanKey keys s = .ok (key, s')) :
    Moved s s' := by
  obtain ⟨t, s₁, r, ht, hscan, -, -, -, hr, rfl⟩ := exists_of_scanKey h
  have hmoved := (moved_scanString ht hscan).trans (moved_skipWhitespace s₁)
  refine (hmoved.trans (moved_advance ?_)).trans (moved_skipWhitespace _)
  rw [hr, List.length_cons]
  omega

theorem moved_scanLiteral {literal : JsString} (h : scanLiteral literal s = .ok s') : Moved s s' := by
  obtain ⟨hstarts, rfl⟩ := scanLiteral_eq_ok.mp h
  exact moved_advance hstarts.length_le

theorem prefix_append_of_drop {a b t : JsString} (ha : a <+: t) (hb : b <+: t.drop a.length) :
    a ++ b <+: t := by
  obtain ⟨r, rfl⟩ := ha
  rw [List.drop_left] at hb
  exact (List.prefix_append_right_inj a).mpr hb

theorem matchInteger_isPrefix {t i : JsString} (h : matchInteger t = some i) : i <+: t := by
  cases t with
  | nil => cases h
  | cons u rest =>
    rw [matchInteger] at h
    split_ifs at h
    · cases h
      exact List.prefix_append [u] rest
    · cases h
      exact (List.prefix_cons_inj u).mpr (List.takeWhile_prefix _)

theorem matchFraction_isPrefix (t : JsString) : matchFraction t <+: t := by
  cases t with
  | nil => exact List.nil_prefix
  | cons u rest =>
    rw [matchFraction]
    split_ifs
    · exact (List.prefix_cons_inj u).mpr (List.takeWhile_prefix _)
    · exact List.nil_prefix

theorem matchSign_isPrefix (t : JsString) : matchSign t <+: t := by
  cases t with
  | nil => exact List.nil_prefix
  | cons u rest =>
    have hsign : matchSign (u :: rest) = [u].filter fun u => u = 0x2B || u = 0x2D := rfl
    rw [hsign, List.filter_singleton]
    cases decide (u = 0x2B) || decide (u = 0x2D) with
    | true => exact List.prefix_append [u] rest
    | false => exact List.nil_prefix

theorem matchExponent_isPrefix (t : JsString) : matchExponent t <+: t := by
  cases t with
  | nil => exact List.nil_prefix
  | cons u rest =>
    rw [matchExponent]
    split_ifs
    · rw [List.cons_append, List.prefix_cons_inj]
      exact prefix_append_of_drop (matchSign_isPrefix rest) (List.takeWhile_prefix _)
    · exact List.nil_prefix

/-- A number matches a part of the text. -/
theorem length_matchNumber {t token : JsString} (h : matchNumber t = some token) :
    token.length ≤ t.length := by
  obtain ⟨sign, t', negative, rfl, -, -, hmatch⟩ := matchNumber_sign t
  rw [hmatch] at h
  obtain ⟨i, hi, rfl⟩ := Option.map_eq_some_iff.mp h
  have htail := prefix_append_of_drop (matchFraction_isPrefix (t'.drop i.length))
    (matchExponent_isPrefix ((t'.drop i.length).drop (matchFraction (t'.drop i.length)).length))
  have hunsigned := prefix_append_of_drop (matchInteger_isPrefix hi) htail
  rw [List.append_assoc, List.append_assoc]
  exact ((List.prefix_append_right_inj sign).mpr hunsigned).length_le

theorem moved_scanNumber (h : scanNumber s = .ok s') : Moved s s' := by
  unfold scanNumber at h
  split at h
  · cases h
  · rename_i token hmatch
    split_ifs at h
    · cases h
    · cases h
      exact moved_advance (length_matchNumber hmatch)

/-- What a value is read by, by its first unit. -/
theorem token_cases {β : Type} {u : UInt16} {object array string true false null number other r : β}
    (h : (if u = 0x7B then object else if u = 0x5B then array else if u = 0x22 then string
      else if u = 0x74 then true else if u = 0x66 then false else if u = 0x6E then null
      else if u = 0x2D ∨ Json.isDigit u then number else other) = r) :
    object = r ∨ array = r ∨ (u = 0x22 ∧ string = r) ∨ true = r ∨ false = r ∨ null = r ∨
      number = r ∨ other = r := by
  rcases ite_eq_iff.mp h with ⟨-, h⟩ | ⟨-, h⟩
  · exact .inl h
  rcases ite_eq_iff.mp h with ⟨-, h⟩ | ⟨-, h⟩
  · exact .inr (.inl h)
  rcases ite_eq_iff.mp h with ⟨hquote, h⟩ | ⟨-, h⟩
  · exact .inr (.inr (.inl ⟨hquote, h⟩))
  refine .inr (.inr (.inr ?_))
  rcases ite_eq_iff.mp h with ⟨-, h⟩ | ⟨-, h⟩
  · exact .inl h
  rcases ite_eq_iff.mp h with ⟨-, h⟩ | ⟨-, h⟩
  · exact .inr (.inl h)
  rcases ite_eq_iff.mp h with ⟨-, h⟩ | ⟨-, h⟩
  · exact .inr (.inr (.inl h))
  · exact .inr (.inr (.inr ((ite_eq_iff.mp h).imp And.right And.right)))

/-- The recursive functions go on in the text. -/
theorem scan_moved (fuel : ℕ) :
    (∀ depth s s', scanValue fuel depth s = .ok s' → Moved s s') ∧
    (∀ depth s s', scanElements fuel depth s = .ok s' → Moved s s') ∧
    (∀ depth keys s s', scanMembers fuel depth keys s = .ok s' → Moved s s') := by
  induction fuel with
  | zero =>
    refine ⟨fun _ _ _ h => ?_, fun _ _ _ h => ?_, fun _ _ _ _ h => ?_⟩
    · cases h
    · cases h
    · cases h
  | succ fuel ih =>
    obtain ⟨ihValue, ihElements, ihMembers⟩ := ih
    have hcontainer : ∀ {close loop} {s s' : Scanner} {u t},
        (∀ s s', loop s = .ok s' → Moved s s') → s.rest = u :: t →
        scanContainer close loop s = .ok s' → Moved s s' := by
      intro close loop s s' u t hloop hs h
      rcases scanContainer_eq_ok hs h with ⟨-, -, -, hmoved⟩ | ⟨-, s₁, -, -, hmoved, hok⟩
      · exact hmoved
      · exact hmoved.trans (hloop s₁ s' hok)
    refine ⟨fun depth s s' h => ?_, fun depth s s' h => ?_, fun depth keys s s' h => ?_⟩
    · rw [scanValue] at h
      rcases ite_eq_iff.mp h with ⟨-, h⟩ | ⟨-, h⟩
      · cases h
      · cases hpeek : s.peek with
        | none =>
          rw [hpeek] at h
          cases h
        | some u =>
          obtain ⟨t, ht⟩ := exists_of_peek hpeek
          rw [hpeek] at h
          obtain ⟨s₁, hcount, h⟩ := bind_eq_ok.mp h
          obtain ⟨-, rfl⟩ := countNode_eq_ok.mp hcount
          have ht₁ : ({ s with nodes := s.nodes + 1 } : Scanner).rest = u :: t := ht
          have hcounted : Moved s { s with nodes := s.nodes + 1 } := ⟨rfl, le_rfl, id⟩
          refine hcounted.trans ?_
          generalize ({ s with nodes := s.nodes + 1 } : Scanner) = s₁ at h ht₁
          rcases token_cases h with h | h | ⟨hquote, h⟩ | h | h | h | h | h
          · exact hcontainer (ihMembers depth []) ht₁ h
          · exact hcontainer (ihElements depth) ht₁ h
          · rw [hquote] at ht₁
            obtain ⟨⟨v, s₂⟩, hscan, h⟩ := bind_eq_ok.mp h
            dsimp only at h
            split_ifs at h
            · cases h
            · cases h
              exact moved_scanString ht₁ hscan
          · exact moved_scanLiteral h
          · exact moved_scanLiteral h
          · exact moved_scanLiteral h
          · exact moved_scanNumber h
          · cases h
    · rw [scanElements] at h
      rcases ite_eq_iff.mp h with ⟨-, h⟩ | ⟨-, h⟩
      · obtain ⟨s₁, hvalue, h⟩ := bind_eq_ok.mp h
        obtain ⟨u, t, -, hend⟩ := itemEnd_eq_ok h
        have hmoved := ihValue (depth + 1) s s₁ hvalue
        rcases hend with ⟨-, -, -, hend⟩ | ⟨-, s₂, -, -, hend, hnext⟩
        · exact hmoved.trans hend
        · exact (hmoved.trans hend).trans (ihElements depth s₂ s' hnext)
      · cases h
    · rw [scanMembers] at h
      rcases ite_eq_iff.mp h with ⟨-, h⟩ | ⟨-, h⟩
      · obtain ⟨⟨key, s₀⟩, hkey, h⟩ := bind_eq_ok.mp h
        obtain ⟨s₁, hvalue, h⟩ := bind_eq_ok.mp h
        obtain ⟨u, t, -, hend⟩ := itemEnd_eq_ok h
        have hmoved := (moved_scanKey hkey).trans (ihValue (depth + 1) s₀ s₁ hvalue)
        rcases hend with ⟨-, -, -, hend⟩ | ⟨-, s₂, -, -, hend, hnext⟩
        · exact hmoved.trans hend
        · exact (hmoved.trans hend).trans (ihMembers depth (key :: keys) s₂ s' hnext)
      · cases h

theorem bind_eq_outOfFuel {α β : Type} {x : Except IngressFailure α}
    {k : α → Except IngressFailure β} (h : (x >>= k) = .error .outOfFuel) :
    x = .error .outOfFuel ∨ ∃ a, x = .ok a ∧ k a = .error .outOfFuel := by
  cases x with
  | error e => exact .inl (congrArg Except.error (Except.error.inj h))
  | ok a => exact .inr ⟨a, rfl, h⟩

theorem stringEnd_ends (t : JsString) (i : ℕ) : stringEnd t i ≠ .error .outOfFuel := by
  fun_induction stringEnd t i with
  | case4 _ _ _ _ _ _ _ _ ih => exact ih
  | case7 _ _ _ _ _ _ ih => exact ih
  | case10 _ _ _ _ _ _ ih => exact ih
  | _ => simp [syntaxFail, ingressFail]

theorem scanString_ends (s : Scanner) : scanString s ≠ .error .outOfFuel := by
  intro h
  unfold scanString at h
  dsimp only at h
  rcases bind_eq_outOfFuel h with h | ⟨k, -, h⟩
  · exact stringEnd_ends _ _ h
  · split at h
    · cases h
    · unfold assertUnicodeScalarString at h
      split at h <;> cases h
    · cases h

theorem scanKey_ends (keys : List JsString) (s : Scanner) : scanKey keys s ≠ .error .outOfFuel := by
  intro h
  unfold scanKey at h
  rcases ite_eq_iff.mp h with ⟨-, h⟩ | ⟨-, h⟩
  · cases h
  rcases bind_eq_outOfFuel h with h | ⟨⟨key, s₁⟩, -, h⟩
  · exact scanString_ends _ h
  rcases ite_eq_iff.mp h with ⟨-, h⟩ | ⟨-, h⟩
  · cases h
  rcases ite_eq_iff.mp h with ⟨-, h⟩ | ⟨-, h⟩
  · cases h
  rcases ite_eq_iff.mp h with ⟨-, h⟩ | ⟨-, h⟩
  · cases h
  rcases ite_eq_iff.mp h with ⟨-, h⟩ | ⟨-, h⟩
  · cases h
  · cases h

/-- The scan of a value ends: of two nested calls at least one has read a unit. -/
theorem scan_ends (fuel : ℕ) :
    (∀ depth (s : Scanner), 2 * s.rest.length + 1 ≤ fuel →
      scanValue fuel depth s ≠ .error .outOfFuel) ∧
    (∀ depth (s : Scanner), 2 * s.rest.length + 2 ≤ fuel →
      scanElements fuel depth s ≠ .error .outOfFuel) ∧
    (∀ depth keys (s : Scanner), 2 * s.rest.length + 2 ≤ fuel →
      scanMembers fuel depth keys s ≠ .error .outOfFuel) := by
  induction fuel with
  | zero =>
    refine ⟨fun _ _ h => ?_, fun _ _ h => ?_, fun _ _ _ h => ?_⟩
    · omega
    · omega
    · omega
  | succ fuel ih =>
    obtain ⟨ihValue, ihElements, ihMembers⟩ := ih
    have hcontainer : ∀ {close loop} {s : Scanner} {u t},
        (∀ s : Scanner, 2 * s.rest.length + 2 ≤ fuel → loop s ≠ .error .outOfFuel) →
        s.rest = u :: t → 2 * s.rest.length + 1 ≤ fuel + 1 →
        scanContainer close loop s ≠ .error .outOfFuel := by
      intro close loop s u t hloop hs hfuel h
      unfold scanContainer at h
      dsimp only at h
      split_ifs at h
      · have hskip := Json.skipWs_length_le t
        rw [hs, List.length_cons] at hfuel
        refine hloop _ ?_ h
        rw [rest_skipWhitespace, rest_advance, hs]
        show 2 * (Json.skipWs t).length + 2 ≤ fuel
        omega
    have hitem : ∀ {s₁ : Scanner} {close} {next : Scanner → Except IngressFailure Scanner}
        {message} {n : ℕ},
        (∀ s : Scanner, 2 * s.rest.length + 2 ≤ fuel → next s ≠ .error .outOfFuel) →
        s₁.rest.length ≤ n → 2 * n + 2 ≤ fuel + 1 →
        (if (skipWhitespace s₁).peek = some close then .ok ((skipWhitespace s₁).advance 1)
          else if (skipWhitespace s₁).peek ≠ some 0x2C then syntaxFail message
          else next (skipWhitespace ((skipWhitespace s₁).advance 1))) ≠ .error .outOfFuel := by
      intro s₁ close next message n hnext hle hfuel h
      split_ifs at h with _ hcomma
      · cases h
      · obtain ⟨t, ht⟩ := exists_of_peek (not_not.mp hcomma)
        have h₁ := Json.skipWs_length_le s₁.rest
        have h₂ := Json.skipWs_length_le t
        rw [← rest_skipWhitespace, ht, List.length_cons] at h₁
        refine hnext _ ?_ h
        rw [rest_skipWhitespace, rest_advance, ht]
        show 2 * (Json.skipWs t).length + 2 ≤ fuel
        omega
    refine ⟨fun depth s hfuel h => ?_, fun depth s hfuel h => ?_, fun depth keys s hfuel h => ?_⟩
    · rw [scanValue] at h
      rcases ite_eq_iff.mp h with ⟨-, h⟩ | ⟨-, h⟩
      · cases h
      · cases hpeek : s.peek with
        | none =>
          rw [hpeek] at h
          cases h
        | some u =>
          obtain ⟨t, ht⟩ := exists_of_peek hpeek
          rw [hpeek] at h
          rcases bind_eq_outOfFuel h with h | ⟨s₁, hcount, h⟩
          · unfold countNode at h
            split_ifs at h <;> cases h
          · obtain ⟨-, rfl⟩ := countNode_eq_ok.mp hcount
            have ht₁ : ({ s with nodes := s.nodes + 1 } : Scanner).rest = u :: t := ht
            replace hfuel : 2 * ({ s with nodes := s.nodes + 1 } : Scanner).rest.length + 1 ≤ fuel + 1 :=
              hfuel
            generalize ({ s with nodes := s.nodes + 1 } : Scanner) = s₁ at h ht₁ hfuel
            have hliteral : ∀ {literal}, scanLiteral literal s₁ ≠ .error .outOfFuel := by
              intro literal hok
              unfold scanLiteral at hok
              split_ifs at hok <;> cases hok
            rcases token_cases h with h | h | ⟨-, h⟩ | h | h | h | h | h
            · exact hcontainer (ihMembers depth []) ht₁ hfuel h
            · exact hcontainer (ihElements depth) ht₁ hfuel h
            · rcases bind_eq_outOfFuel h with h | ⟨⟨v, s₂⟩, -, h⟩
              · exact scanString_ends _ h
              · dsimp only at h
                split_ifs at h <;> cases h
            · exact hliteral h
            · exact hliteral h
            · exact hliteral h
            · unfold scanNumber at h
              split at h
              · cases h
              · split_ifs at h <;> cases h
            · cases h
    · rw [scanElements] at h
      rcases ite_eq_iff.mp h with ⟨-, h⟩ | ⟨-, h⟩
      · rcases bind_eq_outOfFuel h with h | ⟨s₁, hvalue, h⟩
        · exact ihValue (depth + 1) s (by omega) h
        · exact hitem (ihElements depth) ((scan_moved fuel).1 _ _ _ hvalue).length_rest_le hfuel h
      · cases h
    · rw [scanMembers] at h
      rcases ite_eq_iff.mp h with ⟨-, h⟩ | ⟨-, h⟩
      · rcases bind_eq_outOfFuel h with h | ⟨⟨key, s₀⟩, hkey, h⟩
        · exact scanKey_ends _ _ h
        · have hlt := length_scanKey_lt hkey
          rcases bind_eq_outOfFuel h with h | ⟨s₁, hvalue, h⟩
          · exact ihValue (depth + 1) s₀ (by omega) h
          · have hle := ((scan_moved fuel).1 _ _ _ hvalue).length_rest_le
            exact hitem (ihMembers depth (key :: keys)) (hle.trans hlt.le) hfuel h
      · cases h

/-- The scanner accepts the texts that `JSON.parse` reads as a value within its bounds. -/
theorem scan_eq_ok (raw : JsString) : scan (Json.textFuel raw) raw = .ok () ↔
    ∃ j, Json.parse raw = some j ∧ Strict j ∧ levels j ≤ MAX_DEPTH ∧ values j ≤ MAX_NODES := by
  have hend : ∀ s : Scanner, Moved ⟨raw, 0, 0⟩ s →
      ((skipWhitespace s).index = (skipWhitespace s).raw.length ↔ Json.skipWs s.rest = []) := by
    intro s hs
    have hwithin := (hs.trans (moved_skipWhitespace s)).within (Nat.zero_le _)
    rw [← rest_skipWhitespace, Scanner.rest, List.drop_eq_nil_iff]
    omega
  constructor
  · intro h
    obtain ⟨s, hvalue, h⟩ := bind_eq_ok.mp h
    dsimp only at h
    split_ifs at h with hindex
    · cases h
    · have hmoved := (moved_skipWhitespace ⟨raw, 0, 0⟩).trans ((scan_moved _).1 _ _ _ hvalue)
      have hnil := (hend s hmoved).mp (not_not.mp hindex)
      have hdelimited : Delimited s.rest := by
        apply delimited_of_skipWs
        rw [hnil]
        intro u rest hcons
        cases hcons
      obtain ⟨j, hparse, hstrict, hpassed⟩ := (scan_sound _).1 _ _ _ hvalue hdelimited
      have hdepth := hpassed.depth
      have hnodes := hpassed.nodes
      have hbound := hpassed.bound
      rw [nodes_skipWhitespace] at hnodes
      dsimp only at hnodes
      refine ⟨j, ?_, hstrict, by omega, by omega⟩
      rw [rest_skipWhitespace, Json.parseValue_skipWs] at hparse
      have hread : Json.parseValue (Json.textFuel raw) raw = some (j, s.rest) := hparse
      rw [Json.parse, hread]
      exact if_pos hnil
  · rintro ⟨j, hparse, hstrict, hdepth, hnodes⟩
    obtain ⟨⟨j', r⟩, hvalue, hrest⟩ := Option.bind_eq_some_iff.mp hparse
    dsimp only at hrest
    split_ifs at hrest with hnil
    cases hrest
    obtain ⟨s', hscan, rfl, -⟩ := (scan_complete (Json.textFuel raw)).1 0 ⟨raw, 0, 0⟩ j r hvalue hstrict
      (by omega) (by dsimp only; omega)
    have hmoved := (moved_skipWhitespace ⟨raw, 0, 0⟩).trans ((scan_moved _).1 _ _ _ hscan)
    unfold scan
    rw [hscan]
    exact if_neg (not_not.mpr ((hend s' hmoved).mpr hnil))

theorem scan_ne_outOfFuel (raw : JsString) : scan (Json.textFuel raw) raw ≠ .error .outOfFuel := by
  intro h
  have hlength : (skipWhitespace ⟨raw, 0, 0⟩).rest.length ≤ raw.length := by
    rw [rest_skipWhitespace]
    exact Json.skipWs_length_le raw
  rcases bind_eq_outOfFuel h with h | ⟨s, -, h⟩
  · refine (scan_ends _).1 _ _ ?_ h
    rw [Json.textFuel]
    omega
  · dsimp only at h
    split_ifs at h <;> cases h

end Scanner

end OpenRisk.Guard.JsonIngress
