import Survey.Toml.Fault

/-!
# Scanning TOML bytes

The reader works on the UTF-8 bytes of the document, by offset. Every byte of a multi-byte
character is at least `0x80`, so a class that admits all such bytes (`isNonAscii`) takes whole
characters, and a run of bytes of one class never ends inside a character unless the class
says so.

This module holds the byte classes of the grammar and the trivia between its tokens:
blanks (space and tab), comments (`#` to the end of the line), and line ends (`LF` or
`CR LF`). Loops that read a token at a time take a `fuel` bound; every round reads at least
one byte, so the length of the document is always enough.
-/

namespace Survey

namespace Toml

/-- The byte of an ASCII character. -/
def code (c : Char) : UInt8 := c.toNat.toUInt8

/-- A blank: space or tab. -/
def isBlank (b : UInt8) : Bool := b == 0x20 || b == 0x09

/-- A byte of a character beyond ASCII. -/
def isNonAscii (b : UInt8) : Bool := 0x80 ≤ b

/-- A byte a comment may hold: tab, printable ASCII, or beyond ASCII. -/
def isCommentByte (b : UInt8) : Bool := b == 0x09 || (0x20 ≤ b && b ≤ 0x7E) || isNonAscii b

/-- An ASCII digit. -/
def isDigit (b : UInt8) : Bool := 0x30 ≤ b && b ≤ 0x39

/-- A digit from 1 to 9. -/
def isNonZeroDigit (b : UInt8) : Bool := 0x31 ≤ b && b ≤ 0x39

/-- A hexadecimal digit, either case. -/
def isHexDigit (b : UInt8) : Bool :=
  isDigit b || (0x41 ≤ b && b ≤ 0x46) || (0x61 ≤ b && b ≤ 0x66)

/-- An octal digit. -/
def isOctalDigit (b : UInt8) : Bool := 0x30 ≤ b && b ≤ 0x37

/-- A binary digit. -/
def isBinaryDigit (b : UInt8) : Bool := b == 0x30 || b == 0x31

/-- A byte of a bare key: ASCII letters and digits, `-` and `_`. -/
def isBareKeyByte (b : UInt8) : Bool :=
  (0x41 ≤ b && b ≤ 0x5A) || (0x61 ≤ b && b ≤ 0x7A) || isDigit b || b == code '-' || b == code '_'

/-- A byte a basic string holds as itself: blanks, printable ASCII but `"` and `\`, and
anything beyond ASCII. -/
def isBasicByte (b : UInt8) : Bool :=
  isBlank b || b == 0x21 || (0x23 ≤ b && b ≤ 0x5B) || (0x5D ≤ b && b ≤ 0x7E) || isNonAscii b

/-- A byte a literal string may hold: tab, printable ASCII but the apostrophe, and anything
beyond ASCII. -/
def isLiteralByte (b : UInt8) : Bool :=
  b == 0x09 || (0x20 ≤ b && b ≤ 0x26) || (0x28 ≤ b && b ≤ 0x7E) || isNonAscii b

/-- A sign. -/
def isSign (b : UInt8) : Bool := b == code '+' || b == code '-'

section Bytes

variable (s : ByteArray)

/-- The byte at an offset. -/
def byteAt (i : Nat) : Option UInt8 := s[i]?

/-- Whether the byte at an offset is in a class. -/
def holds (i : Nat) (p : UInt8 → Bool) : Bool := (s[i]?).any p

/-- Whether the byte at an offset is the given ASCII character. -/
def hasChar (i : Nat) (c : Char) : Bool := s[i]? == some (code c)

/-- Whether the text at an offset starts with the given ASCII characters. -/
def hasText (i : Nat) : List Char → Bool
  | [] => true
  | c :: rest => hasChar s i c && hasText (i + 1) rest

/-- The offset after the run of bytes of a class that starts at `i`. -/
def scan (p : UInt8 → Bool) (i : Nat) : Nat :=
  if h : i < s.size then
    if p s[i] then scan p (i + 1) else i
  else i
termination_by s.size - i

/-- The offset after at most `n` bytes of a class from `i`. -/
def scanUpTo (p : UInt8 → Bool) : Nat → Nat → Nat
  | 0, i => i
  | n + 1, i => if holds s i p then scanUpTo p n (i + 1) else i

/-- The text of the bytes between two offsets. -/
def textOf (i j : Nat) : String := (String.fromUTF8? (s.extract i j)).getD ""

/-- Blanks. -/
def blanks (i : Nat) : Nat := scan s isBlank i

/-- A comment, if one starts here: `#` and the bytes a comment may hold. -/
def comment (i : Nat) : Option Nat :=
  if hasChar s i '#' then some (scan s isCommentByte (i + 1)) else none

/-- A line end: `LF` or `CR LF`. Reading a byte that is neither fails after that byte. -/
def newline (i : Nat) : Except Fault Nat :=
  match byteAt s i with
  | none => .error (.soft i [])
  | some b =>
    if b == 0x0A then .ok (i + 1)
    else if b == 0x0D then
      if hasChar s (i + 1) '\n' then .ok (i + 2) else .error (.soft (i + 1) [])
    else .error (.soft (i + 1) [])

/-- Blanks and line ends, as many as there are. -/
def blankLinesFrom : Nat → Nat → Nat
  | 0, i => i
  | fuel + 1, i =>
    match newline s i with
    | .ok j => blankLinesFrom fuel j
    | .error _ =>
      let j := blanks s i
      if i < j then blankLinesFrom fuel j else i

/-- Blanks and line ends. -/
def blankLines (i : Nat) : Nat := blankLinesFrom s (s.size + 1) i

/-- A line end, then blanks and line ends. -/
def newlineThenBlankLines (i : Nat) : Except Fault Nat := do
  let j ← newline s i
  pure (blankLines s j)

/-- Blanks, comments and line ends, as many as there are; a comment must end its line. -/
def spacingFrom : Nat → Nat → Except Fault Nat
  | 0, i => .ok i
  | fuel + 1, i =>
    let j := blanks s i
    match comment s j with
    | some c => do
      let k ← newline s c
      spacingFrom fuel k
    | none =>
      if hasChar s j '\n' || hasChar s j '\r' then do
        let k ← newline s j
        spacingFrom fuel k
      else .ok j

/-- Blanks, comments and line ends. -/
def spacing (i : Nat) : Except Fault Nat := spacingFrom s (s.size + 1) i

/-- A line end, or the end of the document. -/
def lineEnd (i : Nat) : Except Fault Nat :=
  match newline s i with
  | .ok j => .ok j
  | .error _ => if i = s.size then .ok i else .error (.soft i [])

/-- What may follow a value or a header on its line: blanks, a comment, the line end. -/
def lineTail (i : Nat) : Except Fault Nat :=
  let j := blanks s i
  lineEnd s ((comment s j).getD j)

end Bytes

end Toml

end Survey
