import Survey.Decimal.Basic
import Survey.Text.Blank

/-!
# Decimal text

The grammar a respondent's number must follow, and the canonical way it is written back.

Reading (`Decimal.parse`): the text is trimmed of blanks (Unicode White_Space), one leading
`-` or `+` is taken off, and the rest is split at its first `.` into whole and fraction
digits. The errors are checked in this order:

* `empty` when nothing is left, or only a point;
* `invalidCharacter c` for the first character, whole part first, that is not an ASCII
  digit (a second point included);
* `tooPrecise` for more than 18 fraction digits;
* `tooLarge` for more than 20 digits once the leading zeros of the whole and fraction digits
  together are dropped.

The scale is the number of fraction digits, so `5.` has scale 0, and `-0` reads as zero units.

Writing (`Decimal.render`): the units at scale 0; otherwise a `-` when the units are
negative, the whole part, a point, and the fraction zero-padded to the scale.
-/

namespace Survey

/-- Why a text is not a decimal number. -/
inductive NumberError where
  /-- Nothing but a sign or a point. -/
  | empty
  /-- The first character that is not a digit. -/
  | invalidCharacter (c : Char)
  /-- More than 18 decimal places. -/
  | tooPrecise
  /-- More than 20 significant digits. -/
  | tooLarge
  deriving DecidableEq, Repr

/-- The error's text. -/
def NumberError.message : NumberError → String
  | .empty => "empty number"
  | .invalidCharacter c => "invalid character '" ++ c.toString ++ "' in number"
  | .tooPrecise => "more than 18 decimal places"
  | .tooLarge => "more than 20 significant digits"

namespace Decimal

/-- Most decimal places a number may be written with. -/
def maxPlaces : Nat := 18

/-- Most significant digits a number may be written with. -/
def maxDigits : Nat := 20

/-- The value of a string of decimal digits. -/
def digitsValue (ds : List Char) : Nat :=
  ds.foldl (fun acc c => 10 * acc + (c.toNat - '0'.toNat)) 0

/-- The characters before the first point and those after it (empty when there is none). -/
def splitAtPoint (cs : List Char) : List Char × List Char :=
  match cs.span (· != '.') with
  | (whole, _ :: fraction) => (whole, fraction)
  | (whole, []) => (whole, [])

/-- Read the body of a number, its sign already taken off. -/
def parseBody (negative : Bool) (body : List Char) : Except NumberError Decimal :=
  let (whole, fraction) := splitAtPoint body
  if whole.isEmpty && fraction.isEmpty then .error .empty
  else
    match (whole ++ fraction).find? (fun c => !c.isDigit) with
    | some c => .error (.invalidCharacter c)
    | none =>
      if maxPlaces < fraction.length then .error .tooPrecise
      else
        let significant := (whole ++ fraction).dropWhile (· == '0')
        if maxDigits < significant.length then .error .tooLarge
        else
          let magnitude : Int := digitsValue significant
          .ok ⟨if negative then -magnitude else magnitude, fraction.length⟩

/-- Read a number from text (see the module header for the grammar). -/
def parse (text : String) : Except NumberError Decimal :=
  match trimBlank text.toList with
  | [] => .error .empty
  | '-' :: body => parseBody true body
  | '+' :: body => parseBody false body
  | body => parseBody false body

/-- The number a text reads as, if it reads as one. -/
def read? (text : String) : Option Decimal :=
  match parse text with
  | .ok d => some d
  | .error _ => none

/-- A natural number's digits, left-padded with zeros to at least `width` characters. -/
def padded (n width : Nat) : String :=
  let ds := Nat.toDigits 10 n
  String.ofList (List.replicate (width - ds.length) '0' ++ ds)

/-- The canonical text of a number. The divisor is ten to the scale as an unsigned 128-bit
product, which wraps: below scale 39 it is the exact power, and from scale 128 on it is zero
(`2 ^ 128` divides `10 ^ 128`), so capping the exponent there changes nothing. -/
def render (d : Decimal) : String :=
  if d.scale = 0 then toString d.units
  else
    let divisor := Nat.pow 10 (min d.scale 128) % Nat.pow 2 128
    let magnitude := d.units.natAbs
    let sign := if d.units < 0 then "-" else ""
    sign ++ toString (magnitude / divisor) ++ "." ++ padded (magnitude % divisor) d.scale

end Decimal

end Survey
