import Survey.Json.Number

/-!
# Reading JSON text

A JSON text is read into a `Doc`: the tree of its values with the byte offsets a reader
reports in its errors. Reading stops at the first fault of the grammar; the tree then ends
in a `fault` that says what went wrong and where, so that a consumer walking the tree in
document order meets the fault exactly when a streaming reader would.

Some faults depend on what the consumer does with a value. A consumer that skips a value
checks only its grammar, while one that reads it also computes numbers and validates string
escapes. Such *soft* faults (a number out of range, a lone surrogate escape, nesting deeper
than 127 containers) are kept inside the node and reading goes on; a *hard* fault stops
reading and carries two versions, one for a reader and one for a skipper, since the two
report a trailing comma or an end of input at a few places differently.

Positions follow the reader: an error found on a byte it consumed is placed after that byte,
an error found by looking at the next byte is placed on it (`JsonText.peekFault`).
-/

namespace Survey

/-- What a JSON reader found wrong. -/
inductive ReadCode where
  | eofList
  | eofObject
  | eofString
  | eofValue
  | expectedColon
  | expectedListCommaOrEnd
  | expectedObjectCommaOrEnd
  | expectedIdent
  | expectedValue
  | invalidEscape
  | invalidNumber
  | numberOutOfRange
  | controlCharacter
  | keyMustBeString
  | loneLeadingSurrogate
  | trailingComma
  | trailingCharacters
  | unexpectedEndOfHexEscape
  | recursionLimit
  deriving DecidableEq, Repr

/-- The reader's text for a fault. -/
def ReadCode.message : ReadCode → String
  | .eofList => "EOF while parsing a list"
  | .eofObject => "EOF while parsing an object"
  | .eofString => "EOF while parsing a string"
  | .eofValue => "EOF while parsing a value"
  | .expectedColon => "expected `:`"
  | .expectedListCommaOrEnd => "expected `,` or `]`"
  | .expectedObjectCommaOrEnd => "expected `,` or `\x7d`"
  | .expectedIdent => "expected ident"
  | .expectedValue => "expected value"
  | .invalidEscape => "invalid escape"
  | .invalidNumber => "invalid number"
  | .numberOutOfRange => "number out of range"
  | .controlCharacter => "control character (\\u0000-\\u001F) found while parsing a string"
  | .keyMustBeString => "key must be a string"
  | .loneLeadingSurrogate => "lone leading surrogate in hex escape"
  | .trailingComma => "trailing comma"
  | .trailingCharacters => "trailing characters"
  | .unexpectedEndOfHexEscape => "unexpected end of hex escape"
  | .recursionLimit => "recursion limit exceeded"

/-- A fault and the byte offset its position is computed from. -/
structure ReadFault where
  code : ReadCode
  offset : Nat
  deriving DecidableEq, Repr

/-- Line and column of a byte offset: the line counts from 1, the column is the number of
bytes between the start of the line and the offset. -/
def textPosition (bytes : ByteArray) (offset : Nat) : Nat × Nat :=
  let before := (bytes.toList.take offset)
  let lineStart := before.length - (before.reverse.takeWhile (· != 10)).length
  let line := 1 + (before.take lineStart).count 10
  (line, offset - lineStart)

/-- A message placed in a text: `message at line L column C`. -/
def placedMessage (bytes : ByteArray) (message : String) (offset : Nat) : String :=
  let (line, column) := textPosition bytes offset
  message ++ " at line " ++ toString line ++ " column " ++ toString column

/-- The fault's message with its position in the text. -/
def ReadFault.describe (f : ReadFault) (bytes : ByteArray) : String :=
  placedMessage bytes f.code.message f.offset

/-- How a container's text ends: after its closing bracket, or at the fault that stopped
reading (for a reader and for a skipper). -/
inductive DocEnding where
  | closed (stop : Nat)
  | fault (read : ReadFault) (skip : ReadFault)
  deriving Inhabited

/-- A value of a JSON text, with the offsets its consumers report. -/
inductive Doc where
  /-- `null` from `start` to before `stop`. -/
  | null (start stop : Nat)
  | bool (value : Bool) (start stop : Nat)
  /-- A number, or the soft fault met when computing it. -/
  | number (value : Except ReadFault JsonNumber) (start stop : Nat)
  /-- A string, or the soft fault met when decoding its escapes. -/
  | string (value : Except ReadFault String) (start stop : Nat)
  /-- An array opening at `start`; `deep` is the fault of a reader that nests too deep. -/
  | array (start : Nat) (deep : Option ReadFault) (items : List Doc) (ending : DocEnding)
  /-- An object opening at `start`; each member has its key, the offset after the key, and
  its value (a `fault` when the colon is missing). -/
  | object (start : Nat) (deep : Option ReadFault)
      (members : List (Except ReadFault String × Nat × Doc)) (ending : DocEnding)
  /-- Reading stopped here: the fault a reader reports and the one a skipper reports. -/
  | fault (read : ReadFault) (skip : ReadFault)
  deriving Inhabited

namespace Doc

/-- The hard fault that stopped reading inside this value, if any. -/
def stopped? : Doc → Option (ReadFault × ReadFault)
  | .fault r s => some (r, s)
  | .array _ _ _ (.fault r s) => some (r, s)
  | .object _ _ _ (.fault r s) => some (r, s)
  | _ => none

/-- The offset after the value, for a value read to its end. -/
def stop : Doc → Nat
  | .null _ p | .bool _ _ p | .number _ _ p | .string _ _ p => p
  | .array _ _ _ (.closed p) | .object _ _ _ (.closed p) => p
  | .array start .. | .object start .. => start
  | .fault r _ => r.offset

/-- The offset where the value starts. -/
def start : Doc → Nat
  | .null p _ | .bool _ p _ | .number _ p _ | .string _ p _ => p
  | .array p .. | .object p .. => p
  | .fault r _ => r.offset

end Doc

namespace JsonText

/-- JSON whitespace: space, line feed, tab and carriage return. -/
def isSpace (b : UInt8) : Bool := b == 0x20 || b == 0x0A || b == 0x09 || b == 0x0D

/-- An ASCII digit. -/
def isDigit (b : UInt8) : Bool := 0x30 ≤ b && b ≤ 0x39

/-- The offset of the first byte from `p` on that is not whitespace. -/
def skipSpace (bytes : ByteArray) (p : Nat) : Nat :=
  if h : p < bytes.size then
    if isSpace bytes[p] then skipSpace bytes (p + 1) else p
  else p
termination_by bytes.size - p

/-- The offset of the first byte from `p` on that is not a digit. -/
def skipDigits (bytes : ByteArray) (p : Nat) : Nat :=
  if h : p < bytes.size then
    if isDigit bytes[p] then skipDigits bytes (p + 1) else p
  else p
termination_by bytes.size - p

/-- A fault found by looking at the byte at `p` without consuming it. -/
def peekFault (bytes : ByteArray) (code : ReadCode) (p : Nat) : ReadFault :=
  ⟨code, min bytes.size (p + 1)⟩

/-- The byte at `p`, if any. -/
def byteAt (bytes : ByteArray) (p : Nat) : Option UInt8 := bytes[p]?

/-- The greatest unsigned 64-bit integer. -/
def wordMax : Nat := Nat.pow 2 64 - 1

/-- The greatest signed 32-bit integer. -/
def exponentMax : Int := Int.pow 2 31 - 1

/-- Clamp to the signed 32-bit range. -/
def clampExponent (e : Int) : Int := max (min e exponentMax) (-(Int.pow 2 31))

/-- The result of reading a number: its value or a soft fault, and where it ends. -/
structure NumberRead where
  value : Except ReadFault JsonNumber
  stop : Nat

/-- Finish a number as a double from its parts, or fault as out of range at `p`. -/
def finishFloat (positive : Bool) (significand : Nat) (exponent : Int) (p : Nat) : NumberRead :=
  match Binary64.ofDecimalParts positive significand exponent with
  | some f => ⟨.ok (.float f), p⟩
  | none => ⟨.error ⟨.numberOutOfRange, p⟩, p⟩

/-- The digits of an exponent, accumulated while they fit a signed 32-bit integer. -/
def exponentDigits (bytes : ByteArray) (positive : Bool) (significand : Nat) (start : Int)
    (up : Bool) (exp : Nat) (p : Nat) : NumberRead :=
  if h : p < bytes.size then
    let b := bytes[p]
    if isDigit b then
      let d := (b - 0x30).toNat
      if exponentMax < ((exp * 10 + d : Nat) : Int) then
        let rest := skipDigits bytes (p + 1)
        if significand ≠ 0 && up then ⟨.error ⟨.numberOutOfRange, p + 1⟩, rest⟩
        else ⟨.ok (.float (Binary64.zero (!positive))), rest⟩
      else exponentDigits bytes positive significand start up (exp * 10 + d) (p + 1)
    else
      finishFloat positive significand
        (clampExponent (if up then start + exp else start - exp)) p
  else
    finishFloat positive significand (clampExponent (if up then start + exp else start - exp)) p
termination_by bytes.size - p

/-- An exponent part, `p` at its `e`. -/
def exponentPart (bytes : ByteArray) (positive : Bool) (significand : Nat) (start : Int)
    (p : Nat) : Except ReadFault NumberRead :=
  let q := p + 1
  let (up, q) :=
    match byteAt bytes q with
    | some 0x2B => (true, q + 1)
    | some 0x2D => (false, q + 1)
    | _ => (true, q)
  match byteAt bytes q with
  | none => .error ⟨.eofValue, q⟩
  | some b =>
    if isDigit b then .ok (exponentDigits bytes positive significand start up (b - 0x30).toNat (q + 1))
    else .error ⟨.invalidNumber, q + 1⟩

/-- After the significand stopped growing: skip further fraction digits, then an exponent. -/
def afterOverflow (bytes : ByteArray) (positive : Bool) (significand : Nat) (exponent : Int)
    (p : Nat) : Except ReadFault NumberRead :=
  let q := skipDigits bytes p
  match byteAt bytes q with
  | some 0x65 | some 0x45 => exponentPart bytes positive significand exponent q
  | _ => .ok (finishFloat positive significand exponent q)

/-- Fraction digits, each lowering the exponent, while the significand fits. -/
def fractionDigits (bytes : ByteArray) (positive : Bool) (significand : Nat) (before : Int)
    (after : Nat) (p : Nat) : Except ReadFault NumberRead :=
  if h : p < bytes.size then
    let b := bytes[p]
    if isDigit b then
      let d := (b - 0x30).toNat
      if wordMax < significand * 10 + d then
        afterOverflow bytes positive significand (before - after) p
      else fractionDigits bytes positive (significand * 10 + d) before (after + 1) (p + 1)
    else if after = 0 then .error (peekFault bytes .invalidNumber p)
    else if b == 0x65 || b == 0x45 then
      exponentPart bytes positive significand (before - after) p
    else .ok (finishFloat positive significand (before - after) p)
  else if after = 0 then .error (peekFault bytes .eofValue p)
  else .ok (finishFloat positive significand (before - after) p)
termination_by bytes.size - p

/-- Whole digits past the 64-bit range: each raises the exponent. -/
def longDigits (bytes : ByteArray) (positive : Bool) (significand : Nat) (exponent : Nat)
    (p : Nat) : Except ReadFault NumberRead :=
  if h : p < bytes.size then
    let b := bytes[p]
    if isDigit b then longDigits bytes positive significand (exponent + 1) (p + 1)
    else if b == 0x2E then fractionDigits bytes positive significand exponent 0 (p + 1)
    else if b == 0x65 || b == 0x45 then exponentPart bytes positive significand exponent p
    else .ok (finishFloat positive significand exponent p)
  else .ok (finishFloat positive significand exponent p)
termination_by bytes.size - p

/-- A number after its whole part: a fraction, an exponent, or an integer token. -/
def afterWhole (bytes : ByteArray) (positive : Bool) (significand : Nat) (p : Nat) :
    Except ReadFault NumberRead :=
  match byteAt bytes p with
  | some 0x2E => fractionDigits bytes positive significand 0 0 (p + 1)
  | some 0x65 | some 0x45 => exponentPart bytes positive significand 0 p
  | _ =>
    if positive then .ok ⟨.ok (.nat significand), p⟩
    else if significand = 0 ∨ Nat.pow 2 63 < significand then
      .ok ⟨.ok (.float (Binary64.ofNat significand).neg), p⟩
    else .ok ⟨.ok (.negative (-(significand : Int))), p⟩

/-- Whole digits while the significand fits an unsigned 64-bit word. -/
def wholeDigits (bytes : ByteArray) (positive : Bool) (significand : Nat) (p : Nat) :
    Except ReadFault NumberRead :=
  if h : p < bytes.size then
    let b := bytes[p]
    if isDigit b then
      let d := (b - 0x30).toNat
      if wordMax < significand * 10 + d then longDigits bytes positive significand 0 p
      else wholeDigits bytes positive (significand * 10 + d) (p + 1)
    else afterWhole bytes positive significand p
  else afterWhole bytes positive significand p
termination_by bytes.size - p

/-- Read a number as a reader does, `p` at its sign or first digit. -/
def readNumber (bytes : ByteArray) (p : Nat) : Except ReadFault NumberRead :=
  let (positive, q) := if byteAt bytes p == some 0x2D then (false, p + 1) else (true, p)
  match byteAt bytes q with
  | none => .error ⟨.eofValue, q⟩
  | some b =>
    if b == 0x30 then
      match byteAt bytes (q + 1) with
      | some c => if isDigit c then .error (peekFault bytes .invalidNumber (q + 1))
                  else afterWhole bytes positive 0 (q + 1)
      | none => afterWhole bytes positive 0 (q + 1)
    else if isDigit b then wholeDigits bytes positive (b - 0x30).toNat (q + 1)
    else .error ⟨.invalidNumber, q + 1⟩

/-- Skip an exponent as a skipper does, `p` at its `e`. -/
def skipExponent (bytes : ByteArray) (p : Nat) : Except ReadFault Nat :=
  let q := p + 1
  let q := match byteAt bytes q with
    | some 0x2B | some 0x2D => q + 1
    | _ => q
  match byteAt bytes q with
  | some b => if isDigit b then .ok (skipDigits bytes (q + 1)) else .error ⟨.invalidNumber, q + 1⟩
  | none => .error ⟨.invalidNumber, q⟩

/-- Skip the whole part of a number as a skipper does, `q` after the sign: a lone zero, or
digits that do not start with zero. -/
def skipWhole (bytes : ByteArray) (q : Nat) : Except ReadFault Nat :=
  match byteAt bytes q with
  | some 0x30 =>
    match byteAt bytes (q + 1) with
    | some c => if isDigit c then .error (peekFault bytes .invalidNumber (q + 1)) else .ok (q + 1)
    | none => .ok (q + 1)
  | some b => if isDigit b then .ok (skipDigits bytes (q + 1)) else .error ⟨.invalidNumber, q + 1⟩
  | none => .error ⟨.invalidNumber, q⟩

/-- Skip what may follow a number's whole part, `r` after it: a fraction, an exponent, or
nothing. -/
def skipAfterWhole (bytes : ByteArray) (r : Nat) : Except ReadFault Nat :=
  match byteAt bytes r with
  | some 0x2E =>
    let s := skipDigits bytes (r + 1)
    if s = r + 1 then .error (peekFault bytes .invalidNumber s)
    else match byteAt bytes s with
      | some 0x65 | some 0x45 => skipExponent bytes s
      | _ => .ok s
  | some 0x65 | some 0x45 => skipExponent bytes r
  | _ => .ok r

/-- Skip a number as a skipper does: only its grammar is checked. -/
def skipNumber (bytes : ByteArray) (p : Nat) : Except ReadFault Nat :=
  let q := if byteAt bytes p == some 0x2D then p + 1 else p
  match skipWhole bytes q with
  | .error f => .error f
  | .ok r => skipAfterWhole bytes r

/-- The value of a hexadecimal digit, in either case. -/
def hexValue (b : UInt8) : Option Nat :=
  if 0x30 ≤ b && b ≤ 0x39 then some (b - 0x30).toNat
  else if 0x61 ≤ b && b ≤ 0x66 then some ((b - 0x61).toNat + 10)
  else if 0x41 ≤ b && b ≤ 0x46 then some ((b - 0x41).toNat + 10)
  else none

/-- Four hexadecimal digits at `p`, or the fault of a short or malformed escape. -/
def hexEscape (bytes : ByteArray) (p : Nat) : Except ReadFault Nat :=
  if bytes.size < p + 4 then .error ⟨.eofString, bytes.size⟩
  else
    let digits := (List.range 4).map fun i => (byteAt bytes (p + i)).bind hexValue
    match digits with
    | [some a, some b, some c, some d] => .ok (((a * 16 + b) * 16 + c) * 16 + d)
    | _ => .error ⟨.invalidEscape, p + 4⟩

/-- The code point of the UTF-8 sequence led by the byte at `p`, and the number of bytes that
follow its lead byte. -/
def utf8At (bytes : ByteArray) (p : Nat) : Nat × Nat :=
  let b0 := (bytes.get! p).toNat
  let cont (i : Nat) : Nat := (bytes.get! (p + i)).toNat % 64
  if b0 < 0x80 then (b0, 0)
  else if b0 < 0xE0 then ((b0 % 32) * 64 + cont 1, 1)
  else if b0 < 0xF0 then (((b0 % 16) * 64 + cont 1) * 64 + cont 2, 2)
  else ((((b0 % 8) * 64 + cont 1) * 64 + cont 2) * 64 + cont 3, 3)

/-- Decode a string's characters as a reader does, `p` after its opening quote; the decoded
characters are gathered in reverse. -/
def decodeString (bytes : ByteArray) (acc : List Char) (p : Nat) :
    Except ReadFault (String × Nat) :=
  if h : p < bytes.size then
    let b := bytes[p]
    if b == 0x22 then .ok (String.ofList acc.reverse, p + 1)
    else if b == 0x5C then
      match byteAt bytes (p + 1) with
      | none => .error ⟨.eofString, p + 1⟩
      | some c =>
        let simple : Option Char :=
          if c == 0x22 then some '"' else if c == 0x5C then some '\\'
          else if c == 0x2F then some '/' else if c == 0x62 then some '\x08'
          else if c == 0x66 then some '\x0c' else if c == 0x6E then some '\n'
          else if c == 0x72 then some '\r' else if c == 0x74 then some '\t' else none
        match simple with
        | some ch => decodeString bytes (ch :: acc) (p + 2)
        | none =>
          if c != 0x75 then .error ⟨.invalidEscape, p + 2⟩
          else
            match hexEscape bytes (p + 2) with
            | .error f => .error f
            | .ok n =>
              if 0xDC00 ≤ n && n ≤ 0xDFFF then .error ⟨.loneLeadingSurrogate, p + 6⟩
              else if n < 0xD800 || 0xDBFF < n then decodeString bytes (Char.ofNat n :: acc) (p + 6)
              else
                match byteAt bytes (p + 6) with
                | none => .error ⟨.eofString, p + 6⟩
                | some 0x5C =>
                  match byteAt bytes (p + 7) with
                  | none => .error ⟨.eofString, p + 7⟩
                  | some 0x75 =>
                    match hexEscape bytes (p + 8) with
                    | .error f => .error f
                    | .ok m =>
                      if m < 0xDC00 || 0xDFFF < m then .error ⟨.loneLeadingSurrogate, p + 12⟩
                      else
                        let code := ((n - 0xD800) * 1024 + (m - 0xDC00)) + 0x10000
                        decodeString bytes (Char.ofNat code :: acc) (p + 12)
                  | some _ => .error ⟨.unexpectedEndOfHexEscape, p + 8⟩
                | some _ => .error ⟨.unexpectedEndOfHexEscape, p + 7⟩
    else if b < 0x20 then .error ⟨.controlCharacter, p + 1⟩
    else
      let (code, extra) := utf8At bytes p
      decodeString bytes (Char.ofNat code :: acc) (p + 1 + extra)
  else .error ⟨.eofString, p⟩
termination_by bytes.size - p

/-- Skip a string as a skipper does, `p` after its opening quote: escapes are checked for
their grammar only. -/
def skipString (bytes : ByteArray) (p : Nat) : Except ReadFault Nat :=
  if h : p < bytes.size then
    let b := bytes[p]
    if b == 0x22 then .ok (p + 1)
    else if b == 0x5C then
      match byteAt bytes (p + 1) with
      | none => .error ⟨.eofString, p + 1⟩
      | some c =>
        if c == 0x22 || c == 0x5C || c == 0x2F || c == 0x62 || c == 0x66 || c == 0x6E ||
            c == 0x72 || c == 0x74 then skipString bytes (p + 2)
        else if c == 0x75 then
          match hexEscape bytes (p + 2) with
          | .error f => .error f
          | .ok _ => skipString bytes (p + 6)
        else .error ⟨.invalidEscape, p + 2⟩
    else if b < 0x20 then .error ⟨.controlCharacter, p + 1⟩
    else skipString bytes (p + 1)
  else .error ⟨.eofString, p⟩
termination_by bytes.size - p

/-- A string token at `p` (its opening quote): the string or its soft fault, or the hard fault
of both a reader and a skipper. -/
def stringToken (bytes : ByteArray) (p : Nat) : Except (ReadFault × ReadFault) (Except ReadFault String × Nat) :=
  match skipString bytes (p + 1), decodeString bytes [] (p + 1) with
  | .ok stop, .ok (s, _) => .ok (.ok s, stop)
  | .ok stop, .error f => .ok (.error f, stop)
  | .error g, .error f => .error (f, g)
  | .error g, .ok _ => .error (g, g)

/-- A number token at `p`: its value or soft fault, or the hard faults. -/
def numberToken (bytes : ByteArray) (p : Nat) : Except (ReadFault × ReadFault) NumberRead :=
  match skipNumber bytes p, readNumber bytes p with
  | .ok stop, .ok r => .ok ⟨r.value, stop⟩
  | .error g, .error f => .error (f, g)
  | .ok stop, .error f => .ok ⟨.error f, stop⟩
  | .error g, .ok _ => .error (g, g)

/-- A literal's remaining letters from `p`: the offset after it, or the fault. -/
def literalRest (bytes : ByteArray) (rest : List UInt8) (p : Nat) : Except ReadFault Nat :=
  match rest with
  | [] => .ok p
  | c :: cs =>
    match byteAt bytes p with
    | none => .error ⟨.eofValue, p⟩
    | some b => if b == c then literalRest bytes cs (p + 1) else .error ⟨.expectedIdent, p + 1⟩

/-- A literal `null`, `true` or `false` at `p`. -/
def literal (bytes : ByteArray) (rest : List UInt8) (p : Nat) (make : Nat → Nat → Doc) :
    Doc × Nat :=
  match literalRest bytes rest (p + 1) with
  | .ok q => (make p q, q)
  | .error f => (.fault f f, f.offset)

/-- The deepest nesting a reader accepts: a container inside 127 others is refused. -/
def nestingLimit : Nat := 127

mutual

/-- Read a value starting at or after `p`, inside `nesting` containers. -/
def value (bytes : ByteArray) (fuel : Nat) (nesting : Nat) (p : Nat) : Doc × Nat :=
  match fuel with
  | 0 => (.fault (peekFault bytes .recursionLimit p) (peekFault bytes .recursionLimit p), p)
  | fuel + 1 =>
    let q := skipSpace bytes p
    match byteAt bytes q with
    | none => (.fault (peekFault bytes .eofValue q) (peekFault bytes .eofValue q), q)
    | some b =>
      if b == 0x6E then literal bytes [0x75, 0x6C, 0x6C] q .null
      else if b == 0x74 then literal bytes [0x72, 0x75, 0x65] q (.bool true)
      else if b == 0x66 then literal bytes [0x61, 0x6C, 0x73, 0x65] q (.bool false)
      else if b == 0x2D || isDigit b then
        match numberToken bytes q with
        | .ok r => (.number r.value q r.stop, r.stop)
        | .error (f, g) => (.fault f g, f.offset)
      else if b == 0x22 then
        match stringToken bytes q with
        | .ok (s, stop) => (.string s q stop, stop)
        | .error (f, g) => (.fault f g, f.offset)
      else if b == 0x5B then
        let deep := if nestingLimit ≤ nesting then some (peekFault bytes .recursionLimit q) else none
        let r := skipSpace bytes (q + 1)
        match byteAt bytes r with
        | none =>
          let f := peekFault bytes .eofList r
          (.array q deep [] (.fault f f), r)
        | some 0x5D => (.array q deep [] (.closed (r + 1)), r + 1)
        | some _ =>
          let (items, ending, stop) := arrayItems bytes fuel (nesting + 1) [] r
          (.array q deep items ending, stop)
      else if b == 0x7B then
        let deep := if nestingLimit ≤ nesting then some (peekFault bytes .recursionLimit q) else none
        let r := skipSpace bytes (q + 1)
        match byteAt bytes r with
        | none =>
          let f := peekFault bytes .eofObject r
          (.object q deep [] (.fault f f), r)
        | some 0x7D => (.object q deep [] (.closed (r + 1)), r + 1)
        | some 0x22 =>
          let (members, ending, stop) := objectMembers bytes fuel (nesting + 1) [] r
          (.object q deep members ending, stop)
        | some _ =>
          let f := peekFault bytes .keyMustBeString r
          (.object q deep [] (.fault f f), r)
      else
        let f := peekFault bytes .expectedValue q
        (.fault f f, q)

/-- Read the items of an array from the item at `p` on, gathering them in reverse. -/
def arrayItems (bytes : ByteArray) (fuel : Nat) (nesting : Nat) (acc : List Doc) (p : Nat) :
    List Doc × DocEnding × Nat :=
  match fuel with
  | 0 =>
    let f := peekFault bytes .recursionLimit p
    (acc.reverse, .fault f f, p)
  | fuel + 1 =>
    let (item, s) := value bytes fuel nesting p
    let acc := item :: acc
    match item.stopped? with
    | some (f, g) => (acc.reverse, .fault f g, s)
    | none =>
      let t := skipSpace bytes s
      match byteAt bytes t with
      | some 0x5D => (acc.reverse, .closed (t + 1), t + 1)
      | some 0x2C =>
        let u := skipSpace bytes (t + 1)
        match byteAt bytes u with
        | some 0x5D =>
          (acc.reverse, .fault (peekFault bytes .trailingComma u) (peekFault bytes .expectedValue u), u)
        | none =>
          let f := peekFault bytes .eofValue u
          (acc.reverse, .fault f f, u)
        | some _ => arrayItems bytes fuel nesting acc u
      | none =>
        let f := peekFault bytes .eofList t
        (acc.reverse, .fault f f, t)
      | some _ =>
        let f := peekFault bytes .expectedListCommaOrEnd t
        (acc.reverse, .fault f f, t)

/-- Read the members of an object from the key at `p` (its opening quote) on, gathering them
in reverse. -/
def objectMembers (bytes : ByteArray) (fuel : Nat) (nesting : Nat)
    (acc : List (Except ReadFault String × Nat × Doc)) (p : Nat) :
    List (Except ReadFault String × Nat × Doc) × DocEnding × Nat :=
  match fuel with
  | 0 =>
    let f := peekFault bytes .recursionLimit p
    (acc.reverse, .fault f f, p)
  | fuel + 1 =>
    match stringToken bytes p with
    | .error (f, g) => (acc.reverse, .fault f g, f.offset)
    | .ok (key, keyStop) =>
      let t := skipSpace bytes keyStop
      let (item, s) :=
        match byteAt bytes t with
        | some 0x3A => value bytes fuel nesting (t + 1)
        | none =>
          let f := peekFault bytes .eofObject t
          (Doc.fault f f, t)
        | some _ =>
          let f := peekFault bytes .expectedColon t
          (Doc.fault f f, t)
      let acc := (key, keyStop, item) :: acc
      match item.stopped? with
      | some (f, g) => (acc.reverse, .fault f g, s)
      | none =>
        let t := skipSpace bytes s
        match byteAt bytes t with
        | some 0x7D => (acc.reverse, .closed (t + 1), t + 1)
        | some 0x2C =>
          let u := skipSpace bytes (t + 1)
          match byteAt bytes u with
          | some 0x22 => objectMembers bytes fuel nesting acc u
          | some 0x7D =>
            (acc.reverse,
              .fault (peekFault bytes .trailingComma u) (peekFault bytes .keyMustBeString u), u)
          | none =>
            (acc.reverse,
              .fault (peekFault bytes .eofValue u) (peekFault bytes .eofObject u), u)
          | some _ =>
            let f := peekFault bytes .keyMustBeString u
            (acc.reverse, .fault f f, u)
        | none =>
          let f := peekFault bytes .eofObject t
          (acc.reverse, .fault f f, t)
        | some _ =>
          let f := peekFault bytes .expectedObjectCommaOrEnd t
          (acc.reverse, .fault f f, t)

end

end JsonText

/-- A JSON text read as a whole: its value, and the fault of anything but whitespace after
it. -/
structure JsonDocument where
  bytes : ByteArray
  root : Doc
  trailing : Option ReadFault

/-- Read a JSON text into its document. -/
def JsonDocument.read (text : String) : JsonDocument :=
  let bytes := text.toUTF8
  let (root, stop) := JsonText.value bytes (2 * bytes.size + 4) 0 0
  let trailing :=
    match root.stopped? with
    | some _ => none
    | none =>
      let t := JsonText.skipSpace bytes stop
      if t < bytes.size then some (JsonText.peekFault bytes .trailingCharacters t) else none
  ⟨bytes, root, trailing⟩

namespace Doc

mutual

/-- The value of a document read in full, with object members sorted by key and the last of
equal keys kept; the first fault in document order otherwise. -/
def toJson : Doc → Except ReadFault Json
  | .null .. => .ok .null
  | .bool b .. => .ok (.bool b)
  | .number v .. => v.map .number
  | .string v .. => v.map .string
  | .array _ deep items ending => do
    if let some f := deep then throw f
    let xs ← itemsToJson items
    match ending with
    | .closed _ => pure (.array xs)
    | .fault f _ => throw f
  | .object _ deep members ending => do
    if let some f := deep then throw f
    let ms ← membersToJson [] members
    match ending with
    | .closed _ => pure (.object ms)
    | .fault f _ => throw f
  | .fault f _ => .error f

/-- The values of array items. -/
def itemsToJson : List Doc → Except ReadFault (List Json)
  | [] => .ok []
  | d :: ds => do
    let x ← d.toJson
    let xs ← itemsToJson ds
    pure (x :: xs)

/-- Object members inserted into a sorted list of members. -/
def membersToJson (acc : List (String × Json)) :
    List (Except ReadFault String × Nat × Doc) → Except ReadFault (List (String × Json))
  | [] => .ok acc
  | (key, _, d) :: ms => do
    let k ← key
    let x ← d.toJson
    membersToJson (Json.insertMember k x acc) ms

end

end Doc

/-- Read a JSON text in full: the value, or the first fault with its position. -/
def Json.parse (text : String) : Except String Json :=
  let doc := JsonDocument.read text
  match doc.root.toJson with
  | .error f => .error (f.describe doc.bytes)
  | .ok v =>
    match doc.trailing with
    | some f => .error (f.describe doc.bytes)
    | none => .ok v

end Survey
