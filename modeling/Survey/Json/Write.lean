import Survey.Json.Value
import Survey.Float.Shortest

/-!
# Writing JSON text

Compact JSON text: no whitespace between tokens, members in the order the object lists them.
Inside strings the quote, the backslash and the control characters are escaped (the short
forms `\b \f \n \r \t` where they exist, `\u00XX` in lowercase hex otherwise); every other
character is written as itself. Integers are written in full, doubles in their compact
shortest text, and an infinite double (which JSON cannot hold) as `null`.
-/

namespace Survey

namespace Json

/-- Two lowercase hexadecimal digits. -/
def hexByte (n : Nat) : String :=
  let ds := Nat.toDigits 16 n
  String.ofList (List.replicate (2 - ds.length) '0' ++ ds)

/-- A character as it is written inside a quoted string. -/
def escapeChar (c : Char) : String :=
  if c == '"' then "\\\""
  else if c == '\\' then "\\\\"
  else if c == '\n' then "\\n"
  else if c == '\r' then "\\r"
  else if c == '\t' then "\\t"
  else if c == '\x08' then "\\b"
  else if c == '\x0c' then "\\f"
  else if c.toNat < 0x20 then "\\u00" ++ hexByte c.toNat
  else c.toString

/-- A string as a quoted JSON string. -/
def quote (s : String) : String :=
  "\"" ++ String.join (s.toList.map escapeChar) ++ "\""

/-- A number's text. -/
def renderNumber : JsonNumber → String
  | .nat n => toString n
  | .negative i => toString i
  | .float f => if f.isInfinite then "null" else f.toShortText

mutual

/-- Compact JSON text of a value. -/
def render : Json → String
  | .null => "null"
  | .bool b => if b then "true" else "false"
  | .number n => renderNumber n
  | .string s => quote s
  | .array items => "[" ++ renderItems items ++ "]"
  | .object members => "\x7b" ++ renderMembers members ++ "\x7d"

/-- Array items separated by commas. -/
def renderItems : List Json → String
  | [] => ""
  | [x] => render x
  | x :: xs => render x ++ "," ++ renderItems xs

/-- Object members separated by commas. -/
def renderMembers : List (String × Json) → String
  | [] => ""
  | [(k, v)] => quote k ++ ":" ++ render v
  | (k, v) :: ms => quote k ++ ":" ++ render v ++ "," ++ renderMembers ms

end

end Json

end Survey
