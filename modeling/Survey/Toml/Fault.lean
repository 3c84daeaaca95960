/-!
# Why a TOML document does not read

A reading step either succeeds, giving its result and the byte offset it stopped at, or fails
with a `Fault`. A fault records the offset the reader had reached, whether it is final (a
`cut`: the text cannot be read any other way, so alternatives are not tried), the context
notes gathered while it travelled out through the grammar (innermost first), and possibly a
cause, such as a duplicate key.

Its message names the first label among the notes (`invalid string`), then every expectation
(`expected newline, '#'`), then the cause, one per line.
-/

namespace Survey

namespace Toml

/-- Something the reader expected to see. -/
inductive Expectation where
  /-- One character. -/
  | char (c : Char)
  /-- A fixed piece of text. -/
  | text (s : String)
  /-- A kind of thing, described in words. -/
  | description (s : String)
  deriving DecidableEq, Repr

/-- An expectation as a message names it: characters and text between backticks, except
that a line feed is called `newline`. -/
def Expectation.render : Expectation → String
  | .char '\n' => "newline"
  | .char c => "`" ++ c.toString ++ "`"
  | .text s => "`" ++ s ++ "`"
  | .description s => s

/-- A note added to a fault on its way out of a grammar rule. -/
inductive Context where
  /-- The kind of thing being read. -/
  | label (s : String)
  /-- What would have been accepted. -/
  | expected (e : Expectation)
  deriving DecidableEq, Repr

/-- A failed reading step. -/
structure Fault where
  /-- The byte offset the reader had reached. -/
  pos : Nat
  /-- Whether no other reading may be tried. -/
  cut : Bool
  /-- Notes, innermost first. -/
  contexts : List Context
  /-- The reason, when one is known beyond the grammar. -/
  cause : Option String
  deriving DecidableEq, Repr

namespace Fault

/-- A failure at an offset that lets alternatives be tried. -/
def soft (pos : Nat) (contexts : List Context) : Fault := ⟨pos, false, contexts, none⟩

/-- A failure with a cause. -/
def caused (pos : Nat) (cut : Bool) (cause : String) : Fault := ⟨pos, cut, [], some cause⟩

/-- The fault's message. -/
def message (f : Fault) : String :=
  let label := f.contexts.findSome? fun
    | .label s => some s
    | .expected _ => none
  let expected := f.contexts.filterMap fun
    | .expected e => some e.render
    | .label _ => none
  let parts := (label.map ("invalid " ++ ·)).toList ++
    (if expected.isEmpty then [] else ["expected " ++ ", ".intercalate expected]) ++ f.cause.toList
  "\n".intercalate parts

end Fault

/-- Add notes to a failing step. -/
def noted (notes : List Context) : Except Fault α → Except Fault α
  | .error f => .error { f with contexts := f.contexts ++ notes }
  | .ok a => .ok a

/-- Make a failing step final. -/
def final : Except Fault α → Except Fault α
  | .error f => .error { f with cut := true }
  | .ok a => .ok a

/-- A label note. -/
def label (s : String) : Context := .label s

/-- An expected-character note. -/
def expectChar (c : Char) : Context := .expected (.char c)

/-- The apostrophe, which opens literal strings. -/
def apostrophe : Char := Char.ofNat 39

/-- The notes of a place where a string was expected. -/
def stringNotes : List Context := [label "string", expectChar '"', expectChar apostrophe]

end Toml

end Survey
