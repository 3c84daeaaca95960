import Survey.Toml.Tree

/-!
# Reading a TOML document

The document is read line by line: blank lines, comments, `key = value` lines and table
headers (`[a.b]`, `[[a.b]]`), each ending its line. A key is one or more parts (bare, basic
or literal) joined by `.`, with blanks around each part. The first byte of a value picks its
kind: quotes a string, `[` an array, `{` an inline table, a sign or digit a date, time, float or
integer (in that order), `t`/`f` a boolean, `i`/`n` the special floats; anything else, or a
misspelt word, is reported as a missing string.

Arrays may spread over lines and hold comments, and allow a trailing comma; inline tables
stay on one line and do not. Nesting is limited: each array or inline table counts once, and
the 80th level is refused at its opening bracket. Each definition is checked against the tables built so far as
soon as it is read (`Builder`); a failing check is reported at the start of its line.
-/

namespace Survey

namespace Toml

/-- Where the nesting of arrays and inline tables stops. -/
def nestingLimit : Nat := 80

/-- A bound on the steps of reading a document: each nesting level takes three, each
element after a comma one, and both consume bytes. -/
def readingFuel (s : ByteArray) : Nat := s.size + 4 * nestingLimit

/-- The text of a fault past the nesting limit. -/
def tooDeep : String := "recursion limit exceeded"

section Bytes

variable (s : ByteArray)

/-- One part of a key. -/
def keyPart (i : Nat) : Except Fault (Key × Nat) :=
  let quoted (r : Except Fault (String × Nat)) := r.map fun (name, e) => (⟨name, ⟨i, e⟩⟩, e)
  if hasChar s i '"' then quoted (basicString s i)
  else if hasChar s i apostrophe then quoted (literalString s i)
  else
    let e := scan s isBareKeyByte i
    if i < e then .ok (⟨textOf s i e, ⟨i, e⟩⟩, e) else .error (.soft i [])

/-- A key part with the blanks around it. -/
def spacedKeyPart (i : Nat) : Except Fault (Key × Nat) := do
  let (k, e) ← keyPart s (blanks s i)
  pure (k, blanks s e)

/-- The parts after the first, each after a `.`; a part that does not read ends the key
before its dot. -/
def keyRest : Nat → List Key → Nat → Except Fault (List Key × Nat)
  | 0, acc, i => .ok (acc, i)
  | fuel + 1, acc, i =>
    if hasChar s i '.' then
      match spacedKeyPart s (i + 1) with
      | .ok (k, e) => keyRest fuel (acc ++ [k]) e
      | .error f => if f.cut then .error f else .ok (acc, i)
    else .ok (acc, i)

/-- A key, possibly dotted. -/
def key (i : Nat) : Except Fault (List Key × Nat) := do
  let (keys, e) ← noted [label "key"] <| do
    let (first, e) ← spacedKeyPart s i
    keyRest s (s.size + 1) [first] e
  if nestingLimit ≤ keys.length then .error (.caused i false tooDeep) else .ok (keys, e)

/-- A scalar read by `r`, with its span. -/
def scalarAt (i : Nat) (make : α → Scalar) (r : Except Fault (α × Nat)) : Except Fault (Item × Nat) :=
  r.map fun (a, e) => (.scalar (make a) ⟨i, e⟩, e)

/-- The fixed word `word` as the boolean `b`. -/
def word (i : Nat) (w : List Char) (b : Bool) : Except Fault (Bool × Nat) :=
  if hasText s i w then .ok (b, i + w.length) else .error ⟨i, true, [], none⟩

mutual

/-- A value, `depth` being the number of arrays and inline tables around it. -/
def value : Nat → Nat → Nat → Except Fault (Item × Nat)
  | 0, _, i => .error (.soft i [])
  | fuel + 1, depth, i =>
    match byteAt s i with
    | none => .error (.soft i [])
    | some b =>
      if b == code '"' || b == code apostrophe then scalarAt i .string (string s i)
      else if b == code '[' then
        if nestingLimit ≤ depth + 1 then .error (.caused i true tooDeep) else array fuel (depth + 1) i
      else if b == code '\x7b' then
        if nestingLimit ≤ depth + 1 then .error (.caused i true tooDeep)
        else inlineTable fuel (depth + 1) i
      else if isSign b || isDigit b then
        match dateTime s i with
        | .ok e => .ok (.scalar .datetime ⟨i, e⟩, e)
        | .error f =>
          if f.cut then .error f
          else match float s i with
            | .ok (x, e) => .ok (.scalar (.float x) ⟨i, e⟩, e)
            | .error f => if f.cut then .error f else scalarAt i .integer (integer s i)
      else if b == code '_' then
        noted [.expected (.description "leading digit")] (scalarAt i .integer (integer s i))
      else if b == code '.' then
        noted [.expected (.description "leading digit")] (scalarAt i .float (float s i))
      else if b == code 't' then noted stringNotes (scalarAt i .boolean (word s i ['t', 'r', 'u', 'e'] true))
      else if b == code 'f' then
        noted stringNotes (scalarAt i .boolean (word s i ['f', 'a', 'l', 's', 'e'] false))
      else if b == code 'i' then
        noted stringNotes <|
          if hasText s i ['i', 'n', 'f'] then .ok (.scalar (.float (.number (.infinite false))) ⟨i, i + 3⟩, i + 3)
          else .error (.soft i [])
      else if b == code 'n' then
        noted stringNotes <|
          if hasText s i ['n', 'a', 'n'] then .ok (.scalar (.float (.nan false)) ⟨i, i + 3⟩, i + 3)
          else .error (.soft i [])
      else .error (.soft i stringNotes)

/-- An array value with the spacing around it. -/
def arrayValue : Nat → Nat → Nat → Except Fault (Item × Nat)
  | 0, _, i => .error (.soft i [])
  | fuel + 1, depth, i => do
    let j ← spacing s i
    let (v, e) ← value fuel depth j
    let k ← spacing s e
    pure (v, k)

/-- Array values after the first, each after a comma; a value that does not read ends the
values before its comma. -/
def arrayRest : Nat → Nat → List Item → Nat → Except Fault (List Item × Nat)
  | 0, _, acc, i => .ok (acc, i)
  | fuel + 1, depth, acc, i =>
    if hasChar s i ',' then
      match arrayValue fuel depth (i + 1) with
      | .ok (v, e) => arrayRest fuel depth (acc ++ [v]) e
      | .error f => if f.cut then .error f else .ok (acc, i)
    else .ok (acc, i)

/-- An array, `depth` levels deep counting itself. -/
def array : Nat → Nat → Nat → Except Fault (Item × Nat)
  | 0, _, i => .error (.soft i [])
  | fuel + 1, depth, i => do
    let j := i + 1
    let (items, e) ← final <|
      match arrayValue fuel depth j with
      | .error f => if f.cut then .error f else .ok ([], j)
      | .ok (v, e) => do
        let (items, e) ← arrayRest fuel depth [v] e
        pure (items, if hasChar s e ',' then e + 1 else e)
    let e ← final (spacing s e)
    if hasChar s e ']' then .ok (.array items ⟨i, e + 1⟩, e + 1)
    else .error ⟨e, true, [label "array", expectChar ']'], none⟩

/-- One `key = value` of an inline table. -/
def inlineEntry : Nat → Nat → Nat → Except Fault ((List Key × Key × Item) × Nat)
  | 0, _, i => .error (.soft i [])
  | fuel + 1, depth, i => do
    let (keys, e) ← key s i
    if !hasChar s e '=' then .error ⟨e, true, [expectChar '.', expectChar '='], none⟩
    else do
      let (v, r) ← final (value fuel depth (blanks s (e + 1)))
      let last := (keys.getLast?).getD ⟨"", ⟨0, 0⟩⟩
      pure ((keys.dropLast, last, v), blanks s r)

/-- Inline table entries after the first, each after a comma. -/
def inlineRest : Nat → Nat → List (List Key × Key × Item) → Nat →
    Except Fault (List (List Key × Key × Item) × Nat)
  | 0, _, acc, i => .ok (acc, i)
  | fuel + 1, depth, acc, i =>
    if hasChar s i ',' then
      match inlineEntry fuel depth (i + 1) with
      | .ok (p, e) => inlineRest fuel depth (acc ++ [p]) e
      | .error f => if f.cut then .error f else .ok (acc, i)
    else .ok (acc, i)

/-- An inline table, `depth` levels deep counting itself. -/
def inlineTable : Nat → Nat → Nat → Except Fault (Item × Nat)
  | 0, _, i => .error (.soft i [])
  | fuel + 1, depth, i => do
    let j := i + 1
    let (pairs, e) ← final <|
      match inlineEntry fuel depth j with
      | .error f => if f.cut then .error f else .ok ([], j)
      | .ok (p, e) => inlineRest fuel depth [p] e
    let e := blanks s e
    let table ← match Table.ofInlinePairs pairs with
      | .ok t => .ok t
      | .error err => .error (.caused j true err.message)
    if hasChar s e '\x7d' then .ok (.inline table.entries false false (some ⟨i, e + 1⟩), e + 1)
    else .error ⟨e, true, [label "inline table", expectChar '\x7d'], none⟩

end

/-- A `key = value` line. -/
def keyValueLine (b : Builder) (i : Nat) : Except Fault (Builder × Nat) := do
  let (keys, e) ← final (key s i)
  if !hasChar s e '=' then .error ⟨e, true, [expectChar '.', expectChar '='], none⟩
  else do
    let (v, r) ← final (value s (readingFuel s) 0 (blanks s (e + 1)))
    let t ← match lineTail s r with
      | .ok t => .ok t
      | .error f => .error ⟨f.pos, true, f.contexts ++ [expectChar '\n', expectChar '#'], f.cause⟩
    let last := (keys.getLast?).getD ⟨"", ⟨0, 0⟩⟩
    match b.keyValue keys.dropLast last v with
    | .ok b => .ok (b, t)
    | .error err => .error (.caused i true err.message)

/-- A table header line: `[key]`, or `[[key]]` for a table of an array. -/
def headerLine (b : Builder) (i : Nat) : Except Fault (Builder × Nat) :=
  noted [label "table header"] <| do
    let isArray := hasText s i ['[', '[']
    let width := if isArray then 2 else 1
    let (keys, e) ← final (key s (i + width))
    let close := if isArray then "]]" else "]"
    if !hasText s e close.toList then .error ⟨e, true, [expectChar '.', .expected (.text close)], none⟩
    else
      let stop := e + width
      let t ← match lineTail s stop with
        | .ok t => .ok t
        | .error f => .error ⟨f.pos, true, f.contexts ++ [expectChar '\n', expectChar '#'], f.cause⟩
      let opened := if isArray then b.openArrayTable keys ⟨i, stop⟩ else b.openTable keys ⟨i, stop⟩
      match opened with
      | .ok b => .ok (b, t)
      | .error err => .error (.caused i true err.message)

/-- Lines from `i` on, each followed by blanks. -/
def lines : Nat → Builder → Nat → Except Fault (Builder × Nat)
  | 0, b, i => .ok (b, i)
  | fuel + 1, b, i =>
    match byteAt s i with
    | none => .ok (b, i)
    | some c =>
      if c == code '#' then
        match lineEnd s ((comment s i).getD i) with
        | .ok j => lines fuel b (blanks s j)
        | .error f => .error { f with cut := true }
      else if c == code '[' then do
        let (b, j) ← headerLine s b i
        lines fuel b (blanks s j)
      else if c == 0x0A || c == 0x0D then
        match newline s i with
        | .ok j => lines fuel b (blanks s j)
        | .error _ => .ok (b, i)
      else do
        let (b, j) ← keyValueLine s b i
        lines fuel b (blanks s j)

end Bytes

/-- Why a document does not read: a message, and the byte range it points at when it points
at one. -/
structure ReadError where
  message : String
  span : Option Span
  deriving DecidableEq, Repr

/-- The byte offset where the character holding `i` starts. -/
def charStart (s : ByteArray) : Nat → Nat
  | 0 => 0
  | i + 1 =>
    if holds s (i + 1) (fun b => 0x80 ≤ b && b < 0xC0) then charStart s i else i + 1

/-- The range of the character at a byte offset: empty at the end of the document. -/
def charSpan (s : ByteArray) (pos : Nat) : Span :=
  let start := charStart s (min pos s.size)
  if s.size ≤ start then ⟨start, start⟩
  else
    let next := scan s (fun b => 0x80 ≤ b && b < 0xC0) (start + 1)
    ⟨start, next⟩

/-- The error a fault reports. -/
def Fault.toReadError (s : ByteArray) (f : Fault) : ReadError := ⟨f.message, some (charSpan s f.pos)⟩

/-- The table a document defines. -/
def readDocument (text : String) : Except ReadError Table :=
  let s := text.toUTF8
  let start := if s[0]? == some 0xEF && s[1]? == some 0xBB && s[2]? == some 0xBF then 3 else 0
  match lines s (s.size + 1) Builder.start (blanks s start) with
  | .error f => .error (f.toReadError s)
  | .ok (b, i) =>
    if i < s.size then .error ((Fault.soft i []).toReadError s)
    else
      match b.finish with
      | .ok b => .ok b.root
      | .error err => .error ⟨err.message, none⟩

end Toml

end Survey
