import Survey.Decimal.Text
import Survey.Json.Decode

/-!
# Decimals in JSON

A decimal is written to JSON as a string holding its text, so no digit is lost. It is read
from a string (parsed as typed text), from an integer (exactly), or from any other number,
which JSON has already made a double: the double's shortest plain text is parsed, so `1.0`
reads as `1` and `100.50` as `100.5`.
-/

namespace Survey

namespace Decimal

/-- A decimal as JSON: its text as a string. -/
def toJson (d : Decimal) : Json := .string d.render

/-- The text of a decimal read from a string, or the message of its fault. -/
def parseMessage (text : String) : Except String Decimal :=
  match parse text with
  | .ok d => .ok d
  | .error e => .error e.message

/-- A decimal read from a number or from a string holding one. -/
def decoder : Decoder Decimal := fun c =>
  let fromText (text : String) : Except DecodeError Decimal :=
    match parseMessage text with
    | .ok d => .ok d
    | .error m => c.custom m
  match c.doc with
  | .string (.ok s) .. => fromText s
  | .number (.ok (.nat n)) .. => .ok (ofInt n)
  | .number (.ok (.negative i)) .. => .ok (ofInt i)
  | .number (.ok (.float f)) .. => fromText f.toPlainText
  | _ => c.invalidType "a decimal number or a string holding one"

end Decimal

end Survey
