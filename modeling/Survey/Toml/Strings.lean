import Survey.Toml.Scan

/-!
# TOML strings

The four kinds of string, tried in this order wherever a string may stand:

* multi-line basic `"""…"""`: escapes, raw line ends, a `\` at the end of a line trims the
  blanks and line ends after it, and up to two quotes may stand anywhere inside;
* basic `"…"`: escapes, no line end;
* multi-line literal `'''…'''`: no escapes, `CR LF` read as `LF`;
* literal `'…'`: no escapes, no line end.

A line end right after an opening delimiter of three is dropped. Once an opening delimiter is
read, a failure is final. Escapes are `\b \t \n \f \r \" \\`, `\uXXXX` and `\UXXXXXXXX` for a
Unicode scalar value; any other character after a backslash is refused just after it.
-/

namespace Survey

namespace Toml

/-- The notes of a refused escape. -/
def escapeNotes : List Context :=
  label "escape sequence" :: ['b', 'f', 'n', 'r', 't', 'u', 'U', '\\', '"'].map expectChar

/-- The text of a fault that reads past a range. -/
def outOfRange : String := "value is out of range"

/-- The value of hexadecimal digits. -/
def hexValue (ds : List UInt8) : Nat :=
  ds.foldl (fun acc b =>
    let d := if isDigit b then b.toNat - 0x30
      else if b ≤ 0x46 then b.toNat - 0x41 + 10 else b.toNat - 0x61 + 10
    16 * acc + d) 0

/-- Whether a number is a Unicode scalar value. -/
def isScalarValue (n : Nat) : Bool := n < 0xD800 || (0xDFFF < n && n ≤ 0x10FFFF)

section Bytes

variable (s : ByteArray)

/-- Exactly `n` hexadecimal digits naming a scalar value. -/
def hexEscape (n i : Nat) : Except Fault (Char × Nat) :=
  let e := scanUpTo s isHexDigit n i
  if e - i != n then .error (.soft i [])
  else
    let v := hexValue (s.extract i e).toList
    if isScalarValue v then .ok (Char.ofNat v, e) else .error (.caused i false outOfRange)

/-- An escape: a backslash and what it stands for. -/
def escape (i : Nat) : Except Fault (Char × Nat) :=
  if !hasChar s i '\\' then .error (.soft i [])
  else
    match byteAt s (i + 1) with
    | none => .error (.soft (i + 1) [])
    | some b =>
      if b == code 'b' then .ok ('\x08', i + 2)
      else if b == code 'f' then .ok ('\x0c', i + 2)
      else if b == code 'n' then .ok ('\n', i + 2)
      else if b == code 'r' then .ok ('\r', i + 2)
      else if b == code 't' then .ok ('\t', i + 2)
      else if b == code '\\' then .ok ('\\', i + 2)
      else if b == code '"' then .ok ('"', i + 2)
      else if b == code 'u' then final (noted [label "unicode 4-digit hex code"] (hexEscape s 4 (i + 2)))
      else if b == code 'U' then final (noted [label "unicode 8-digit hex code"] (hexEscape s 8 (i + 2)))
      else .error ⟨i + 2, true, escapeNotes, none⟩

/-- One piece of a basic string: a run of plain bytes, or an escape. -/
def basicPiece (i : Nat) : Except Fault (String × Nat) :=
  let e := scan s isBasicByte i
  if i < e then .ok (textOf s i e, e)
  else (escape s i).map fun (c, j) => (c.toString, j)

/-- The pieces of a basic string from `i` on, up to the first that does not read. -/
def basicPieces : Nat → String → Nat → Except Fault (String × Nat)
  | 0, acc, i => .ok (acc, i)
  | fuel + 1, acc, i =>
    match basicPiece s i with
    | .ok (t, j) => basicPieces fuel (acc ++ t) j
    | .error f => if f.cut then .error f else .ok (acc, i)

/-- A basic string. -/
def basicString (i : Nat) : Except Fault (String × Nat) :=
  if !hasChar s i '"' then .error (.soft i [])
  else do
    let (text, j) ← basicPieces s (s.size + 1) "" (i + 1)
    if hasChar s j '"' then .ok (text, j + 1) else .error ⟨j, true, [label "basic string"], none⟩

/-- Backslashes that end their lines, with the blanks and line ends after them. -/
def trimmedBreaksFrom : Nat → Nat → Nat
  | 0, i => i
  | fuel + 1, i =>
    if hasChar s i '\\' then
      match newlineThenBlankLines s (blanks s (i + 1)) with
      | .ok j => trimmedBreaksFrom fuel j
      | .error _ => i
    else i

/-- A trimmed line break, if one starts here. -/
def trimmedBreaks (i : Nat) : Option Nat :=
  let j := trimmedBreaksFrom s (s.size + 1) i
  if i < j then some j else none

/-- One piece of a multi-line basic string: plain bytes, a trimmed line break, an escape, or
a line end. -/
def multiBasicPiece (i : Nat) : Except Fault (String × Nat) :=
  let e := scan s isBasicByte i
  if i < e then .ok (textOf s i e, e)
  else match trimmedBreaks s i with
    | some j => .ok ("", j)
    | none =>
      match escape s i with
      | .ok (c, j) => .ok (c.toString, j)
      | .error f =>
        if f.cut then .error f
        else (newline s i).map fun j => ("\n", j)

/-- Pieces of a multi-line basic string, up to the first that does not read. -/
def multiBasicPieces : Nat → String → Nat → Except Fault (String × Nat)
  | 0, acc, i => .ok (acc, i)
  | fuel + 1, acc, i =>
    match multiBasicPiece s i with
    | .ok (t, j) => multiBasicPieces fuel (acc ++ t) j
    | .error f => if f.cut then .error f else .ok (acc, i)

/-- One or two quotes that are followed by what `follows` accepts. -/
def innerQuotes (quote : Char) (follows : Nat → Bool) (i : Nat) : Option (String × Nat) :=
  if hasChar s i quote && hasChar s (i + 1) quote && follows (i + 2) then
    some (String.ofList [quote, quote], i + 2)
  else if hasChar s i quote && follows (i + 1) then some (quote.toString, i + 1)
  else none

/-- Quotes inside a multi-line basic string, each run followed by more pieces. A run of quotes
with no piece after it is read but stops the body. -/
def quotedRuns : Nat → String → Nat → Except Fault (String × Nat)
  | 0, acc, i => .ok (acc, i)
  | fuel + 1, acc, i =>
    match innerQuotes s '"' (fun j => holds s j (· != code '"')) i with
    | none => .ok (acc, i)
    | some (q, j) =>
      match multiBasicPiece s j with
      | .error f => if f.cut then .error f else .ok (acc, j)
      | .ok (t, k) => do
        let (more, m) ← multiBasicPieces s (s.size + 1) "" k
        quotedRuns fuel (acc ++ q ++ t ++ more) m

/-- The body of a multi-line basic string. -/
def multiBasicBody (i : Nat) : Except Fault (String × Nat) := do
  let (text, j) ← multiBasicPieces s (s.size + 1) "" i
  let (text, k) ← quotedRuns s (s.size + 1) text j
  match innerQuotes s '"' (fun m => hasText s m ['"', '"', '"']) k with
  | some (q, m) => .ok (text ++ q, m)
  | none => .ok (text, k)

/-- A multi-line basic string. -/
def multiBasicString (i : Nat) : Except Fault (String × Nat) :=
  noted [label "multiline basic string"] <|
    if !hasText s i ['"', '"', '"'] then .error (.soft i [])
    else do
      let j := match newline s (i + 3) with
        | .ok j => j
        | .error _ => i + 3
      let (text, k) ← final (multiBasicBody s j)
      if hasText s k ['"', '"', '"'] then .ok (text, k + 3) else .error ⟨k, true, [], none⟩

/-- A literal string. -/
def literalString (i : Nat) : Except Fault (String × Nat) :=
  noted [label "literal string"] <|
    if !hasChar s i apostrophe then .error (.soft i [])
    else
      let e := scan s isLiteralByte (i + 1)
      if hasChar s e apostrophe then .ok (textOf s (i + 1) e, e + 1)
      else .error ⟨e, true, [], none⟩

/-- One piece of a multi-line literal string: a byte it may hold, or a line end. -/
def multiLiteralPiece (i : Nat) : Except Fault Nat :=
  if holds s i isLiteralByte then .ok (i + 1) else newline s i

/-- Pieces of a multi-line literal string. -/
def multiLiteralPieces : Nat → Nat → Nat
  | 0, i => i
  | fuel + 1, i =>
    match multiLiteralPiece s i with
    | .ok j => multiLiteralPieces fuel j
    | .error _ => i

/-- Apostrophes inside a multi-line literal string, each run followed by at least one piece;
a run with none after it is left unread. -/
def apostropheRuns : Nat → Nat → Nat
  | 0, i => i
  | fuel + 1, i =>
    match innerQuotes s apostrophe (fun j => holds s j (· != code apostrophe)) i with
    | none => i
    | some (_, j) =>
      let k := multiLiteralPieces s (s.size + 1) j
      if j < k then apostropheRuns fuel k else i

/-- Three apostrophes. -/
def tripleApostrophe : List Char := [apostrophe, apostrophe, apostrophe]

/-- A multi-line literal string. -/
def multiLiteralString (i : Nat) : Except Fault (String × Nat) :=
  noted [label "multiline literal string"] <|
    if !hasText s i tripleApostrophe then .error (.soft i [])
    else
      let j := match newline s (i + 3) with
        | .ok j => j
        | .error _ => i + 3
      let k := apostropheRuns s (s.size + 1) (multiLiteralPieces s (s.size + 1) j)
      let k := match innerQuotes s apostrophe (fun m => hasText s m tripleApostrophe) k with
        | some (_, m) => m
        | none => k
      let text := (textOf s j k).replace "\r\n" "\n"
      if hasText s k tripleApostrophe then .ok (text, k + 3) else .error ⟨k, true, [], none⟩

/-- A string of any kind. -/
def string (i : Nat) : Except Fault (String × Nat) :=
  match multiBasicString s i with
  | .error f =>
    if f.cut then .error f
    else match basicString s i with
      | .error f =>
        if f.cut then .error f
        else match multiLiteralString s i with
          | .error f => if f.cut then .error f else literalString s i
          | ok => ok
      | ok => ok
  | ok => ok

end Bytes

end Toml

end Survey
