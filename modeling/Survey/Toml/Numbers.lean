import Survey.Toml.Strings
import Survey.Float.Shortest

/-!
# TOML numbers, booleans and dates

Integers are decimal (with an optional sign, no leading zero), or `0x`, `0o`, `0b` followed
by digits of that base; `_` may stand between two digits. They must fit a signed 64-bit word.
A float is a decimal integer part followed by an exponent, a fraction, or a fraction and an
exponent, or one of `inf` and `nan` with an optional sign; its value is the double nearest to
the written number, and a positive one too large for a double is refused.

Dates and times follow RFC 3339: `YYYY-MM-DD`, `HH:MM:SS` with an optional fraction, the two
joined by `T`, `t` or a space, and an optional offset `Z` or `±HH:MM`. Months, days (by month
and leap year), hours, minutes and seconds (up to 60) are checked.
-/

namespace Survey

namespace Toml

/-- A TOML float: a double, or not-a-number with the sign it was written with. -/
inductive Float where
  | number (f : Binary64)
  | nan (negative : Bool)
  deriving DecidableEq, Repr

/-- A float as an error message shows it: plain digits with a point (`1.0`, `0.25`), `inf`,
`-inf`, or `NaN`. -/
def Float.withPoint : Float → String
  | .nan _ => "NaN"
  | .number f =>
    let t := f.toPlainText
    if f.isInfinite || t.contains '.' then t else t ++ ".0"

/-- The most a signed 64-bit integer holds. -/
def wordMax : Int := Int.pow 2 63 - 1

/-- The least a signed 64-bit integer holds. -/
def wordMin : Int := -(Int.pow 2 63)

/-- The text of an integer that does not fit a signed 64-bit word. -/
def tooLarge : String := "number too large to fit in target type"

/-- The text of a negative integer below a signed 64-bit word. -/
def tooSmall : String := "number too small to fit in target type"

/-- The value of digits in a base; `_` is skipped. -/
def digitsIn (base : Nat) (ds : List Char) : Nat :=
  ds.foldl (fun acc c =>
    if c == '_' then acc
    else
      let d := if c.isDigit then c.toNat - '0'.toNat
        else if c.isUpper then c.toNat - 'A'.toNat + 10 else c.toNat - 'a'.toNat + 10
      base * acc + d) 0

/-- A signed decimal integer's value. -/
def signedValue : List Char → Int
  | '-' :: ds => -(digitsIn 10 ds : Int)
  | '+' :: ds => digitsIn 10 ds
  | ds => digitsIn 10 ds

/-- The double nearest to `digits · 10^exponent` with a sign. Magnitudes far outside the
range of doubles are decided by their number of digits alone. -/
def decimalDouble (negative : Bool) (digits : Nat) (exponent : Int) : Binary64 :=
  if digits = 0 then Binary64.zero negative
  else
    let magnitude := ((Nat.toDigits 10 digits).length : Int) + exponent
    if 310 < magnitude then .infinite negative
    else if magnitude < -330 then Binary64.zero negative
    else if 0 ≤ exponent then Binary64.ofQuotient negative (digits * Nat.pow 10 exponent.toNat) 1 0
    else Binary64.ofQuotient negative digits (Nat.pow 10 (-exponent).toNat) 0

/-- The value of a float written `[sign] digits [. digits] [e [sign] digits]`, `_` removed. -/
def floatValue (cs : List Char) : Binary64 :=
  let (negative, rest) := match cs with
    | '-' :: r => (true, r)
    | '+' :: r => (false, r)
    | r => (false, r)
  let (whole, rest) := rest.span Char.isDigit
  let (fraction, rest) := match rest with
    | '.' :: r => r.span Char.isDigit
    | r => ([], r)
  let exponent : Int := match rest with
    | _ :: r => signedValue r
    | [] => 0
  decimalDouble negative (digitsIn 10 (whole ++ fraction)) (exponent - fraction.length)

/-- The number of days in a month of a year. -/
def daysIn (year month : Nat) : Nat :=
  if month = 2 then
    if year % 4 = 0 && (year % 100 != 0 || year % 400 = 0) then 29 else 28
  else if month = 4 || month = 6 || month = 9 || month = 11 then 30
  else 31

section Bytes

variable (s : ByteArray)

/-- The characters between two offsets with the underscores left out. -/
def digitText (i j : Nat) : List Char := ((textOf s i j).toList.filter (· != '_'))

/-- Digits of a class from `i`, where one `_` may stand between two digits. -/
def digitRun (p : UInt8 → Bool) : Nat → Nat → Except Fault Nat
  | 0, i => .ok i
  | fuel + 1, i =>
    if holds s i p then digitRun p fuel (i + 1)
    else if hasChar s i '_' then
      if holds s (i + 1) p then digitRun p fuel (i + 2)
      else .error ⟨i + 1, true, [.expected (.description "digit")], none⟩
    else .ok i

/-- A decimal integer: a sign, then `0` or digits that do not start with `0`. -/
def decimalInteger (i : Nat) : Except Fault Nat :=
  noted [label "integer"] <|
    let j := if holds s i isSign then i + 1 else i
    if holds s j isNonZeroDigit then digitRun s isDigit (s.size + 1) (j + 1)
    else if holds s j isDigit then .ok (j + 1)
    else .error (.soft j [])

/-- Digits that may start with `0`. -/
def digitsFrom (i : Nat) : Except Fault Nat :=
  if holds s i isDigit then digitRun s isDigit (s.size + 1) (i + 1) else .error (.soft i [])

/-- An exponent: `e` or `E`, a sign, digits. -/
def exponentPart (i : Nat) : Except Fault Nat :=
  if holds s i (fun b => b == code 'e' || b == code 'E') then
    final (digitsFrom s (if holds s (i + 1) isSign then i + 2 else i + 1))
  else .error (.soft i [])

/-- A fraction: a point and digits. -/
def fractionPart (i : Nat) : Except Fault Nat :=
  if hasChar s i '.' then final (noted [.expected (.description "digit")] (digitsFrom s (i + 1)))
  else .error (.soft i [])

/-- The text of a float that is not `inf` or `nan`. -/
def floatToken (i : Nat) : Except Fault Nat := do
  let j ← decimalInteger s i
  match exponentPart s j with
  | .ok k => .ok k
  | .error f =>
    if f.cut then .error f
    else do
      let k ← fractionPart s j
      match exponentPart s k with
      | .ok m => .ok m
      | .error f => if f.cut then .error f else .ok k

/-- `inf` or `nan` with an optional sign. -/
def specialFloat (i : Nat) : Except Fault (Float × Nat) :=
  let (negative, j) :=
    if hasChar s i '-' then (true, i + 1) else if hasChar s i '+' then (false, i + 1) else (false, i)
  if hasText s j ['i', 'n', 'f'] then .ok (.number (.infinite negative), j + 3)
  else if hasText s j ['n', 'a', 'n'] then .ok (.nan negative, j + 3)
  else .error (.soft j [])

/-- A float. -/
def float (i : Nat) : Except Fault (Float × Nat) :=
  noted [label "floating-point number"] <|
    match floatToken s i with
    | .ok e =>
      let f := floatValue (digitText s i e)
      if f = .infinite false then .error ⟨i, true, [], none⟩ else .ok (.number f, e)
    | .error f => if f.cut then .error f else specialFloat s i

/-- Digits of a base after a two-character prefix, checked against the 64-bit range. -/
def radixInteger (name : String) (base : Nat) (p : UInt8 → Bool) (i : Nat) :
    Except Fault (Int × Nat) :=
  final <| do
    let e ← noted [label name] <|
      if holds s (i + 2) p then digitRun s p (s.size + 1) (i + 3) else .error ⟨i + 2, true, [], none⟩
    let v : Int := digitsIn base (digitText s (i + 2) e)
    if wordMax < v then .error (.caused i true tooLarge) else .ok (v, e)

/-- An integer. -/
def integer (i : Nat) : Except Fault (Int × Nat) :=
  if hasText s i ['0', 'x'] then radixInteger s "hexadecimal integer" 16 isHexDigit i
  else if hasText s i ['0', 'o'] then radixInteger s "octal integer" 8 isOctalDigit i
  else if hasText s i ['0', 'b'] then radixInteger s "binary integer" 2 isBinaryDigit i
  else do
    let e ← decimalInteger s i
    let v := signedValue (digitText s i e)
    if wordMax < v then .error (.caused i true tooLarge)
    else if v < wordMin then .error (.caused i true tooSmall)
    else .ok (v, e)

/-- Two digits and their value. -/
def twoDigits (i : Nat) : Option Nat :=
  if holds s i isDigit && holds s (i + 1) isDigit then
    some (digitsIn 10 (textOf s i (i + 2)).toList)
  else none

/-- A date `YYYY-MM-DD`. -/
def fullDate (i : Nat) : Except Fault Nat :=
  if !(holds s i isDigit && holds s (i + 1) isDigit && holds s (i + 2) isDigit && holds s (i + 3) isDigit) then
    .error (.soft i [])
  else if !hasChar s (i + 4) '-' then .error (.soft (i + 4) [])
  else
    let year := digitsIn 10 (textOf s i (i + 4)).toList
    match twoDigits s (i + 5) with
    | none => .error ⟨i + 5, true, [], none⟩
    | some month =>
      if month < 1 || 12 < month then .error (.caused (i + 5) true outOfRange)
      else if !hasChar s (i + 7) '-' then .error ⟨i + 7, true, [], none⟩
      else match twoDigits s (i + 8) with
        | none => .error ⟨i + 8, true, [], none⟩
        | some day =>
          if day < 1 || 31 < day || daysIn year month < day then .error (.caused (i + 8) true outOfRange)
          else .ok (i + 10)

/-- A time `HH:MM:SS` with an optional fraction of a second. -/
def partialTime (i : Nat) : Except Fault Nat :=
  match twoDigits s i with
  | none => .error (.soft i [])
  | some hour =>
    if 23 < hour then .error (.caused i false outOfRange)
    else if !hasChar s (i + 2) ':' then .error (.soft (i + 2) [])
    else match twoDigits s (i + 3) with
      | none => .error ⟨i + 3, true, [], none⟩
      | some minute =>
        if 59 < minute then .error (.caused (i + 3) true outOfRange)
        else if !hasChar s (i + 5) ':' then .error ⟨i + 5, true, [], none⟩
        else match twoDigits s (i + 6) with
          | none => .error ⟨i + 6, true, [], none⟩
          | some second =>
            if 60 < second then .error (.caused (i + 6) true outOfRange)
            else if hasChar s (i + 8) '.' && holds s (i + 9) isDigit then .ok (scan s isDigit (i + 9))
            else .ok (i + 8)

/-- A time offset: `Z` or `±HH:MM`. -/
def timeOffset (i : Nat) : Except Fault Nat :=
  noted [label "time offset"] <|
    if holds s i (fun b => b == code 'Z' || b == code 'z') then .ok (i + 1)
    else if holds s i isSign then
      final <| match twoDigits s (i + 1) with
        | none => .error (.soft (i + 1) [])
        | some hour =>
          if 23 < hour then .error (.caused (i + 1) false outOfRange)
          else if !hasChar s (i + 3) ':' then .error (.soft (i + 3) [])
          else match twoDigits s (i + 4) with
            | none => .error (.soft (i + 4) [])
            | some minute =>
              if 59 < minute then .error (.caused (i + 4) false outOfRange) else .ok (i + 6)
    else .error (.soft i [])

/-- A date, a date and time, or a time. -/
def dateTime (i : Nat) : Except Fault Nat :=
  match fullDate s i with
  | .ok d =>
    if holds s d (fun b => b == code 'T' || b == code 't' || b == code ' ') then
      match partialTime s (d + 1) with
      | .ok t =>
        match timeOffset s t with
        | .ok o => .ok o
        | .error f => if f.cut then noted [label "date-time"] (.error f) else .ok t
      | .error f => if f.cut then noted [label "date-time"] (.error f) else .ok d
    else .ok d
  | .error f =>
    if f.cut then noted [label "date-time"] (.error f)
    else noted [label "time"] (partialTime s i)

end Bytes

end Toml

end Survey
