import Survey.Text.Unprintable

/-!
# Quoted text in messages

How a string is quoted when an error message shows it: between double quotes, with the quote
and the backslash escaped, the usual short escapes for NUL, tab, line feed and carriage return,
and every other character that `isUnprintable` names written as `\u` with its code in
lowercase hex between braces.
-/

namespace Survey

/-- A character as a message shows it inside double quotes. -/
def quotedChar (c : Char) : String :=
  if c == '\x00' then "\\0"
  else if c == '\t' then "\\t"
  else if c == '\r' then "\\r"
  else if c == '\n' then "\\n"
  else if c == '\\' then "\\\\"
  else if c == '"' then "\\\""
  else if isUnprintable c then
    "\\u\x7b" ++ String.ofList (Nat.toDigits 16 c.toNat) ++ "\x7d"
  else c.toString

/-- A string as a message shows it: quoted, with escapes. -/
def quotedText (s : String) : String :=
  "\"" ++ String.join (s.toList.map quotedChar) ++ "\""

end Survey
