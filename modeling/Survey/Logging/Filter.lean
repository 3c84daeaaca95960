import Survey.Logging.Record
import Survey.Text.Blank
import Survey.Text.Word

/-!
# Which records are logged

A filter is a comma-separated list of directives, read from a setting such as `info` or
`warn,census_form::routing=trace`. A directive is one of:

* a level alone, which applies to every record: a level's name in any case, or a number from
  0 (`off`) to 5 (`trace`) written with decimal digits only;
* a target, then optionally a span part in brackets, then optionally `=` and a level; or a span
  part alone, then optionally `=` and a level. With no level, or an empty one, it lets
  everything through. After `=` a number may also carry a `+`.

A target is any run of characters up to `[` or `=`; it begins with a word character, `:` or
`-`, or, in a directive that is a target alone, also with a blank. A span part is `[name]` or
`[name{fields}]`, the name possibly empty and the fields a non-empty list of `field` or
`field=pattern`, each pattern well formed.

A directive whose span part names a span, has no fields, or has a field with a pattern only
judges records inside spans; the records here are never inside one, so such directives let
nothing through. Any other directive judges a record when its target begins the record's
target and the record has every field it names. Among the directives that judge a record the
most specific decides: the longest target, then the most fields; of two directives with the
same target and fields the later one counts. A record no directive judges is not logged.

A setting that is not a valid list is ignored, as is a missing one, and `info` is used instead;
an empty setting logs nothing.
-/

namespace Survey

namespace Logging

/-- The value of a numeral: an optional `+`, then one or more decimal digits. -/
def numeral? (s : String) : Option Nat :=
  let digits := match s.toList with
    | '+' :: rest => rest
    | cs => cs
  if !digits.isEmpty && digits.all Char.isDigit then
    some (digits.foldl (fun n d => 10 * n + (d.toNat - '0'.toNat)) 0)
  else none

/-- The level a directive names after `=`: its verbosity from 0 (`off`) to 5 (`trace`), from a
numeral or a level's name in any case. -/
def verbosityOf? (s : String) : Option Nat :=
  match numeral? s with
  | some n => if n ≤ 5 then some n else none
  | none =>
    match s.toLower with
    | "off" => some 0
    | "error" => some 1
    | "warn" => some 2
    | "info" => some 3
    | "debug" => some 4
    | "trace" => some 5
    | _ => none

/-- A level standing alone as a directive: as after `=`, but a numeral without a sign. -/
def bareVerbosity? (s : String) : Option Nat :=
  if s.startsWith "+" then none else verbosityOf? s

/-- The level after `=`: every level when it is empty. -/
def levelAfterEquals? : List Char → Option Nat
  | [] => some 5
  | cs => verbosityOf? (String.ofList cs)

/-- A directive of a filter. -/
structure Directive where
  target : Option String
  /-- The fields a record must have. -/
  fields : List String
  /-- The most verbose level let through, from 0 (`off`) to 5 (`trace`). -/
  verbosity : Nat
  /-- Whether the directive only judges records inside spans. -/
  spanOnly : Bool
  deriving DecidableEq, Repr

/-- Whether a character may begin a target: a word character, `:` or `-`, or a blank when the
directive is the target alone. -/
def startsTarget (alone : Bool) (c : Char) : Bool :=
  isWordChar c || c == ':' || c == '-' || (alone && isBlank c)

/-- The brackets around a span's field list. -/
def openBrace : Char := Char.ofNat 123

/-- The closing bracket of a span's field list. -/
def closeBrace : Char := Char.ofNat 125

/-- What came last in a pattern, for the repetitions that may follow it. -/
inductive PatternLast where
  /-- Nothing to repeat: the start, `(` or `|`. -/
  | nothing
  /-- Something to repeat. -/
  | atom
  /-- A repetition, which only `?` (making it lazy) may follow. -/
  | repetition
  deriving DecidableEq, Repr

/-- Where a pattern's scan stands: outside brackets, in a class `[...]`, or in the bounds
`{m,n}` of a counted repetition. -/
inductive PatternPlace where
  | plain
  | inClass
  | inBounds
  deriving DecidableEq, Repr

/-- Whether the rest of a pattern is well formed, `depth` groups being open: groups and classes
close, a backslash escapes the next character and never ends the pattern, and a repetition
(`*`, `+`, `?`, `{m,n}`) follows something to repeat. -/
def patternOk : List Char → PatternPlace → Nat → PatternLast → Bool
  | [], place, depth, _ => place == .plain && depth == 0
  | ['\\'], _, _, _ => false
  | '\\' :: _ :: more, .inClass, depth, last => patternOk more .inClass depth last
  | '\\' :: _ :: more, .plain, depth, _ => patternOk more .plain depth .atom
  | c :: rest, .inClass, depth, last =>
    if c == ']' then patternOk rest .plain depth .atom else patternOk rest .inClass depth last
  | c :: rest, .inBounds, depth, last =>
    if c == closeBrace then patternOk rest .plain depth .repetition
    else if c.isDigit || c == ',' then patternOk rest .inBounds depth last
    else false
  | '(' :: '?' :: more, .plain, depth, _ => patternOk more .plain (depth + 1) .nothing
  | c :: rest, .plain, depth, last =>
    if c == '(' then patternOk rest .plain (depth + 1) .nothing
    else if c == ')' then depth > 0 && patternOk rest .plain (depth - 1) .atom
    else if c == '|' then patternOk rest .plain depth .nothing
    else if c == '[' then patternOk rest .inClass depth last
    else if c == '?' then
      match last with
      | .atom => patternOk rest .plain depth .repetition
      | .repetition => patternOk rest .plain depth .nothing
      | .nothing => false
    else if c == '*' || c == '+' then last == .atom && patternOk rest .plain depth .repetition
    else if c == openBrace then last == .atom && patternOk rest .inBounds depth last
    else patternOk rest .plain depth .atom

/-- One field of a span part: a non-empty name, then optionally `=` and a well-formed pattern.
The field's name and whether it has a pattern. -/
def fieldOf? (text : List Char) : Option (String × Bool) :=
  let name := text.takeWhile (· != '=')
  if name.isEmpty then none
  else match text.dropWhile (· != '=') with
    | [] => some (String.ofList name, false)
    | _ :: pattern =>
      if patternOk pattern .plain 0 .nothing then some (String.ofList name, true) else none

/-- A span part after its `[`, up to the first `]`: the name up to `{`, then optionally a field
list in braces that ends the part. The name, the fields, and what follows the `]`. -/
def readSpan (cs : List Char) : Option ((String × List (String × Bool)) × List Char) :=
  let inner := cs.takeWhile (· != ']')
  match cs.dropWhile (· != ']') with
  | [] => none
  | _ :: after =>
    let name := String.ofList (inner.takeWhile (· != openBrace))
    match inner.dropWhile (· != openBrace) with
    | [] => some ((name, []), after)
    | _ :: fieldText =>
      match fieldText.reverse with
      | c :: body =>
        let fields := body.reverse
        if c != closeBrace || fields.isEmpty || fields.contains closeBrace then none
        else do
          let found ← ((String.ofList fields).splitOn ",").mapM fun f => fieldOf? f.toList
          pure ((name, found), after)
      | [] => none

namespace Directive

/-- A directive read from its text. -/
def parse? (text : String) : Option Directive :=
  match bareVerbosity? text with
  | some v => some ⟨none, [], v, false⟩
  | none => do
    let cs := text.toList
    let targetChars := cs.takeWhile fun c => c != '[' && c != '='
    let rest := cs.dropWhile fun c => c != '[' && c != '='
    let targetOk := match targetChars with
      | [] => rest.head? == some '['
      | c :: _ => startsTarget rest.isEmpty c
    if !targetOk then none
    else do
      let (span, rest) ← match rest with
        | '[' :: more => (readSpan more).map fun (part, after) => (some part, after)
        | other => some (none, other)
      let verbosity ← match rest with
        | [] => some 5
        | '=' :: level => levelAfterEquals? level
        | _ => none
      let target := if targetChars.isEmpty then none else some (String.ofList targetChars)
      let fields := (span.map (·.2)).getD []
      let spanOnly := match span with
        | some (name, found) => !name.isEmpty || found.isEmpty || found.any (·.2)
        | none => false
      pure ⟨target, fields.map (·.1), verbosity, spanOnly⟩

/-- Whether the directive judges a record. -/
def judges (d : Directive) (r : Record) : Bool :=
  !d.spanOnly && d.target.all (r.target.startsWith ·) && d.fields.all (r.fieldNames.contains ·)

/-- Whether two directives have the same target and fields and both judge records outside
spans or both only inside, so that the later one counts. -/
def sameScope (a b : Directive) : Bool :=
  a.target == b.target && a.fields == b.fields && a.spanOnly == b.spanOnly

/-- Whether one list of names comes after another, comparing name by name. -/
def namesAfter : List String → List String → Bool
  | [], _ => false
  | _ :: _, [] => true
  | a :: as, b :: bs => if a == b then namesAfter as bs else decide (b < a)

/-- Whether a directive is more specific than another: a longer target, then more fields,
then the later target and fields in text order. -/
def outranks (a b : Directive) : Bool :=
  let length (d : Directive) : Nat := (d.target.map (·.utf8ByteSize + 1)).getD 0
  if length a != length b then length a > length b
  else if a.fields.length != b.fields.length then a.fields.length > b.fields.length
  else if a.target != b.target then
    match a.target, b.target with
    | some x, some y => decide (y < x)
    | some _, none => true
    | _, _ => false
  else namesAfter a.fields b.fields

end Directive

/-- A filter: its directives in the order given. -/
structure Filter where
  directives : List Directive
  deriving DecidableEq, Repr

namespace Filter

/-- The filter used when none is set: `info` for everything. -/
def standard : Filter := ⟨[⟨none, [], 3, false⟩]⟩

/-- A filter read from its text. -/
def parse? (text : String) : Option Filter :=
  if text.isEmpty then some ⟨[]⟩
  else ((text.splitOn ",").filter (· != "")).mapM Directive.parse? |>.map Filter.mk

/-- The filter a setting asks for: a valid setting, or else the standard filter. -/
def ofSetting : Option String → Filter
  | some text => (parse? text).getD standard
  | none => standard

/-- The directives that count: of several with the same target and fields, the last. -/
def effective (f : Filter) : List Directive :=
  f.directives.zipIdx.filterMap fun (d, i) =>
    if (f.directives.drop (i + 1)).any d.sameScope then none else some d

/-- Whether a record is logged. -/
def allows (f : Filter) (r : Record) : Bool :=
  let judging := f.effective.filter (·.judges r)
  match judging.foldl (fun best d => match best with
      | some b => if d.outranks b then some d else some b
      | none => some d) none with
  | some d => r.level.rank ≤ d.verbosity
  | none => false

end Filter

end Logging

end Survey
