import OpenRisk.Text.Utf16

/-!
# JSON texts (RFC 8259)

The abstract syntax of a JSON text, a recursive-descent reader of it and a
compact writer of it, over UTF-16 strings as `JSON.parse` and `JSON.stringify`
see them. A number keeps its spelling (`NumberToken`): what it denotes differs
between languages, which read the same text as a binary64 number or as an
unbounded integer.

Objects keep their members in text order, repeated names included; the reader of
a language decides what a repeated name means.
-/

namespace OpenRisk

open Text

/-- A number as RFC 8259 spells it. The integer part has no leading zeros, so the
    natural number determines its digits. -/
structure NumberToken where
  negative : Bool
  integer : ℕ
  fraction : Option (List (Fin 10))
  exponent : Option ℤ
  deriving DecidableEq

/-- A number spelled as an integer, without fraction and exponent. -/
def NumberToken.isInteger (t : NumberToken) : Bool := t.fraction.isNone && t.exponent.isNone

/-- The abstract syntax of a JSON text. -/
inductive Json where
  | null
  | bool (b : Bool)
  | number (t : NumberToken)
  | string (s : JsString)
  | array (xs : List Json)
  | object (ms : List (JsString × Json))

namespace Json

/-! ## Digits -/

/-- The value of a hexadecimal digit of either case. -/
def hexValue (u : UInt16) : Option ℕ :=
  if 0x30 ≤ u.toNat ∧ u.toNat ≤ 0x39 then some (u.toNat - 0x30)
  else if 0x61 ≤ u.toNat ∧ u.toNat ≤ 0x66 then some (u.toNat - 0x57)
  else if 0x41 ≤ u.toNat ∧ u.toNat ≤ 0x46 then some (u.toNat - 0x37)
  else none

/-- A digit below 16, in lower case. -/
def hexDigit (d : ℕ) : UInt16 := (if d < 10 then 0x30 + d else 0x57 + d).toUInt16

def isDigit (u : UInt16) : Bool := 0x30 ≤ u.toNat && u.toNat ≤ 0x39

/-- The digits of `n` in base `b ≤ 16`, most significant first, without leading
    zeros: `BigInt.prototype.toString(b)`. -/
def radixText (b n : ℕ) : JsString := if n = 0 then [0x30] else (b.digits n).reverse.map hexDigit

/-- The number a run of digits denotes in base `b`. -/
def radixValue (b : ℕ) (ds : JsString) : ℕ :=
  ds.foldl (fun acc u => acc * b + (hexValue u).getD 0) 0

/-- The decimal digits of `n`. -/
def decimal (n : ℕ) : JsString := radixText 10 n

/-- `String(n)` for an integer below `10^21` in absolute value. -/
def decimalInt (n : ℤ) : JsString := if n < 0 then 0x2D :: decimal n.natAbs else decimal n.natAbs

/-! ## Reading -/

def isWs (u : UInt16) : Bool := u = 0x20 || u = 0x09 || u = 0x0A || u = 0x0D

def skipWs (s : JsString) : JsString := s.dropWhile isWs

/-- The unit a two-character escape stands for. -/
def simpleEscape (u : UInt16) : Option UInt16 :=
  if u = 0x22 then some 0x22       -- \"
  else if u = 0x5C then some 0x5C  -- \\
  else if u = 0x2F then some 0x2F  -- \/
  else if u = 0x62 then some 0x08  -- \b
  else if u = 0x66 then some 0x0C  -- \f
  else if u = 0x6E then some 0x0A  -- \n
  else if u = 0x72 then some 0x0D  -- \r
  else if u = 0x74 then some 0x09  -- \t
  else none

/-- The unit of a `\uXXXX` escape. -/
def hex4 (a b c d : UInt16) : Option UInt16 :=
  (hexValue a).bind fun a => (hexValue b).bind fun b => (hexValue c).bind fun c =>
    (hexValue d).map fun d => (((a * 16 + b) * 16 + c) * 16 + d).toUInt16

/-- The rest of a string after its opening quote: its units and what follows the
    closing quote. -/
def scanString : JsString → Option (JsString × JsString)
  | [] => none
  | u :: rest =>
    if u = 0x22 then some ([], rest)
    else if u = 0x5C then
      match rest with
      | [] => none
      | e :: rest =>
        if e = 0x75 then
          match rest with
          | a :: b :: c :: d :: rest =>
            (hex4 a b c d).bind fun v => (scanString rest).map fun p => (v :: p.1, p.2)
          | _ => none
        else (simpleEscape e).bind fun v => (scanString rest).map fun p => (v :: p.1, p.2)
    else if u.toNat < 0x20 then none
    else (scanString rest).map fun p => (u :: p.1, p.2)

/-- An optional fraction: `none` where a point is not followed by a digit. -/
def scanFraction : JsString → Option (Option (List (Fin 10)) × JsString)
  | u :: rest =>
    if u = 0x2E then
      match rest.takeWhile isDigit with
      | [] => none
      | d :: ds =>
        some (some ((d :: ds).map fun u => Fin.ofNat 10 ((hexValue u).getD 0)), rest.dropWhile isDigit)
    else some (none, u :: rest)
  | [] => some (none, [])

/-- The digits of an exponent, after its sign. -/
def scanExponentDigits (negative : Bool) (s : JsString) : Option (Option ℤ × JsString) :=
  match s.takeWhile isDigit with
  | [] => none
  | d :: ds =>
    let n : ℤ := radixValue 10 (d :: ds)
    some (some (if negative then -n else n), s.dropWhile isDigit)

/-- An optional exponent. -/
def scanExponent : JsString → Option (Option ℤ × JsString)
  | u :: rest =>
    if u = 0x65 ∨ u = 0x45 then
      match rest with
      | sign :: rest' =>
        if sign = 0x2B then scanExponentDigits false rest'
        else if sign = 0x2D then scanExponentDigits true rest'
        else scanExponentDigits false rest
      | [] => none
    else some (none, u :: rest)
  | [] => some (none, [])

/-- The part of a number after its sign. -/
def scanUnsigned (negative : Bool) (s : JsString) : Option (NumberToken × JsString) :=
  match s.takeWhile isDigit with
  | [] => none
  | d :: ds =>
    if d = 0x30 ∧ ds ≠ [] then none
    else
      (scanFraction (s.dropWhile isDigit)).bind fun f => (scanExponent f.2).map fun e =>
        (⟨negative, radixValue 10 (d :: ds), f.1, e.1⟩, e.2)

def scanNumber : JsString → Option (NumberToken × JsString)
  | [] => none
  | u :: rest => if u = 0x2D then scanUnsigned true rest else scanUnsigned false (u :: rest)

/-- A literal name `true`, `false` or `null`. -/
def scanLiteral (name : JsString) (j : Json) (s : JsString) : Option (Json × JsString) :=
  if name <+: s then some (j, s.drop name.length) else none

mutual

/-- A value, with the white space before it; `fuel` bounds the nesting of calls. -/
def parseValue : ℕ → JsString → Option (Json × JsString)
  | 0, _ => none
  | fuel + 1, s =>
    match skipWs s with
    | [] => none
    | u :: rest =>
      if u = 0x7B then
        match skipWs rest with
        | [] => none
        | v :: r =>
          if v = 0x7D then some (.object [], r)
          else (parseMembers fuel rest).map fun p => (.object p.1, p.2)
      else if u = 0x5B then
        match skipWs rest with
        | [] => none
        | v :: r =>
          if v = 0x5D then some (.array [], r)
          else (parseElements fuel rest).map fun p => (.array p.1, p.2)
      else if u = 0x22 then (scanString rest).map fun p => (.string p.1, p.2)
      else if u = 0x74 then scanLiteral (js "true") (.bool true) (u :: rest)
      else if u = 0x66 then scanLiteral (js "false") (.bool false) (u :: rest)
      else if u = 0x6E then scanLiteral (js "null") .null (u :: rest)
      else (scanNumber (u :: rest)).map fun p => (.number p.1, p.2)

/-- One or more elements of an array and its closing bracket. -/
def parseElements : ℕ → JsString → Option (List Json × JsString)
  | 0, _ => none
  | fuel + 1, s =>
    (parseValue fuel s).bind fun p =>
      match skipWs p.2 with
      | [] => none
      | u :: rest =>
        if u = 0x2C then (parseElements fuel rest).map fun q => (p.1 :: q.1, q.2)
        else if u = 0x5D then some ([p.1], rest)
        else none

/-- One or more members of an object and its closing brace. -/
def parseMembers : ℕ → JsString → Option (List (JsString × Json) × JsString)
  | 0, _ => none
  | fuel + 1, s =>
    match skipWs s with
    | [] => none
    | u :: rest =>
      if u = 0x22 then
        (scanString rest).bind fun k =>
          match skipWs k.2 with
          | [] => none
          | c :: rest =>
            if c = 0x3A then
              (parseValue fuel rest).bind fun p =>
                match skipWs p.2 with
                | [] => none
                | u :: rest =>
                  if u = 0x2C then
                    (parseMembers fuel rest).map fun q => ((k.1, p.1) :: q.1, q.2)
                  else if u = 0x7D then some ([(k.1, p.1)], rest)
                  else none
            else none
      else none

end

/-- The fuel of a text: two calls for each unit are enough, since of two nested
    calls at least one has read a unit. -/
def textFuel (s : JsString) : ℕ := 2 * s.length + 2

/-- A whole JSON text. -/
def parse (s : JsString) : Option Json :=
  (parseValue (textFuel s) s).bind fun p => if skipWs p.2 = [] then some p.1 else none

/-! ## Writing -/

/-- `\uXXXX` with lower-case digits. -/
def unicodeEscape (n : ℕ) : JsString :=
  [0x5C, 0x75, hexDigit (n / 0x1000 % 16), hexDigit (n / 0x100 % 16), hexDigit (n / 0x10 % 16),
    hexDigit (n % 16)]

/-- A code point inside a string literal, as `QuoteJSONString` writes it: lone
    surrogates are escaped. -/
def escape (c : CodePoint) : JsString :=
  if c.val = 0x08 then [0x5C, 0x62]
  else if c.val = 0x09 then [0x5C, 0x74]
  else if c.val = 0x0A then [0x5C, 0x6E]
  else if c.val = 0x0C then [0x5C, 0x66]
  else if c.val = 0x0D then [0x5C, 0x72]
  else if c.val = 0x22 then [0x5C, 0x22]
  else if c.val = 0x5C then [0x5C, 0x5C]
  else if c.val < 0x20 ∨ isSurrogate c = true then unicodeEscape c.val
  else utf16 c

/-- `JSON.stringify` of a string. -/
def quote (s : JsString) : JsString := 0x22 :: ((codePoints s).flatMap escape ++ [0x22])

def printNumber (t : NumberToken) : JsString :=
  (if t.negative then [0x2D] else []) ++ decimal t.integer ++
    (match t.fraction with
      | none => []
      | some ds => 0x2E :: ds.map fun d => (0x30 + d.val).toUInt16) ++
    match t.exponent with
      | none => []
      | some e => 0x65 :: decimalInt e

mutual

/-- The compact text of a value: no white space, members in the given order. -/
def print : Json → JsString
  | .null => js "null"
  | .bool true => js "true"
  | .bool false => js "false"
  | .number t => printNumber t
  | .string s => quote s
  | .array xs => 0x5B :: (printElements xs ++ [0x5D])
  | .object ms => 0x7B :: (printMembers ms ++ [0x7D])

def printElements : List Json → JsString
  | [] => []
  | [x] => print x
  | x :: y :: xs => print x ++ 0x2C :: printElements (y :: xs)

def printMembers : List (JsString × Json) → JsString
  | [] => []
  | [(k, x)] => quote k ++ 0x3A :: print x
  | (k, x) :: m :: ms => quote k ++ 0x3A :: (print x ++ 0x2C :: printMembers (m :: ms))

end

end Json

end OpenRisk
