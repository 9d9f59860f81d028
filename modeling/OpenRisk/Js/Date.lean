import OpenRisk.Json.Syntax

/-!
# JavaScript dates

A `Date` is a time value: milliseconds since 1970-01-01T00:00:00Z, at most
`8.64·10^15` in absolute value. `toISOString` writes it in the proleptic Gregorian
calendar. What `new Date(text)` reads is up to the runtime for most texts, so the
reader is a parameter, `DateParser`.
-/

namespace OpenRisk

open Text

/-- `maxTimeValue` of ECMAScript. -/
def maxTimeValue : ℕ := 8640000000000000

/-- `new Date(text).getTime()`, `none` for `NaN`. -/
structure DateParser where
  parse : JsString → Option ℤ
  bounded : ∀ s t, parse s = some t → t.natAbs ≤ maxTimeValue

namespace Date

def msPerDay : ℤ := 86400000

/-- Year, month and day of a day number, counted from 1970-01-01. Years start in March
    here, so that the leap day is the last day; `era` is a period of 400 years. -/
def civil (days : ℤ) : ℤ × ℤ × ℤ :=
  let z := days + 719468
  let era := z / 146097
  let doe := z % 146097
  let yoe := (doe - doe / 1460 + doe / 36524 - doe / 146096) / 365
  let doy := doe - (365 * yoe + yoe / 4 - yoe / 100)
  let mp := (5 * doy + 2) / 153
  let day := doy - (153 * mp + 2) / 5 + 1
  let month := if mp < 10 then mp + 3 else mp - 9
  let year := yoe + era * 400 + if month ≤ 2 then 1 else 0
  (year, month, day)

/-- A number with leading zeros up to `width` digits. -/
def padded (width n : ℕ) : JsString :=
  List.replicate (width - (Json.decimal n).length) 0x30 ++ Json.decimal n

/-- Four digits, or a sign and six digits outside 0..9999. -/
def yearText (year : ℤ) : JsString :=
  if 0 ≤ year ∧ year ≤ 9999 then padded 4 year.toNat
  else if year < 0 then 0x2D :: padded 6 year.natAbs
  else 0x2B :: padded 6 year.natAbs

/-- `Date.prototype.toISOString`. -/
def toISOString (t : ℤ) : JsString :=
  let (year, month, day) := civil (t / msPerDay)
  let ms := (t % msPerDay).toNat
  yearText year ++ 0x2D :: padded 2 month.toNat ++ 0x2D :: padded 2 day.toNat ++
    0x54 :: padded 2 (ms / 3600000) ++ 0x3A :: padded 2 (ms / 60000 % 60) ++
    0x3A :: padded 2 (ms / 1000 % 60) ++ 0x2E :: padded 3 (ms % 1000) ++ [0x5A]

example : toISOString 1709210096789 = js "2024-02-29T12:34:56.789Z" := by decide +kernel

/-- The day number of a date, the inverse of `civil`. -/
def dayNumber (year month day : ℕ) : ℤ :=
  let y : ℤ := if month ≤ 2 then (year : ℤ) - 1 else year
  let yoe := y % 400
  let doy : ℤ := ((153 * ((month + 9) % 12) + 2) / 5 : ℕ) + day - 1
  y / 400 * 146097 + (yoe * 365 + yoe / 4 - yoe / 100 + doy) - 719468

/-- The number written with `width` digits at `offset`. -/
def digitsAt (s : JsString) (offset width : ℕ) : ℕ :=
  Json.radixValue 10 ((s.drop offset).take width)

/-- The time value of a text `YYYY-MM-DDTHH:mm:ss.sssZ`. -/
def isoValue (s : JsString) : ℤ :=
  dayNumber (digitsAt s 0 4) (digitsAt s 5 2) (digitsAt s 8 2) * msPerDay +
    ((digitsAt s 11 2 * 60 + digitsAt s 14 2) * 60 + digitsAt s 17 2) * 1000 + digitsAt s 20 3

/-- The reader of the texts that `toISOString` writes, and of no others. -/
def isoParser : DateParser where
  parse s :=
    if toISOString (isoValue s) = s ∧ (isoValue s).natAbs ≤ maxTimeValue then some (isoValue s)
    else none
  bounded s t h := by
    split_ifs at h with hs
    cases h
    exact hs.2

example : isoParser.parse (js "2024-02-29T12:34:56.789Z") = some 1709210096789 := by decide +kernel

end Date

/-- A text that `toISOString` gives for the instant it is read as. -/
structure UtcInstant (P : DateParser) where
  text : JsString
  ms : ℤ
  parse_text : P.parse text = some ms
  toISOString_ms : Date.toISOString ms = text

/-- The test of `canonicalUtcInstant`: the text ends with `Z`, `new Date` reads it, and
    `toISOString` gives it back. -/
def UtcInstant.ofText (P : DateParser) (s : JsString) : Option (UtcInstant P) :=
  if s.getLast? = some 0x5A then
    match h : P.parse s with
    | some t => if h' : Date.toISOString t = s then some ⟨s, t, h, h'⟩ else none
    | none => none
  else none

theorem UtcInstant.text_of_ofText {P : DateParser} {s : JsString} {i : UtcInstant P}
    (h : UtcInstant.ofText P s = some i) : i.text = s := by
  unfold UtcInstant.ofText at h
  split_ifs at h
  split at h
  · split_ifs at h
    cases h
    rfl
  · cases h

end OpenRisk
