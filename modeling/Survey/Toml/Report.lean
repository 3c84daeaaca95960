import Survey.Toml.Parse

/-!
# Reporting TOML errors

An error that points into the document is shown with the line it points at:

```
TOML parse error at line 1, column 18
  |
1 | no_answer_text = 5
  |                  ^
invalid type: integer `5`, expected a string
```

Lines count from one. The column counts the characters before the error on its line, plus
one; but when the error starts inside a character beyond ASCII, it counts that line's bytes
instead, and an error past the end of the document counts from its last byte. The carets
cover the error's bytes, at least one and no further than the end of the line's bytes. An
error that points nowhere is only its message.
-/

namespace Survey

namespace Toml

/-- The number of line feeds in a list of bytes. -/
def lineFeeds (bs : List UInt8) : Nat := bs.count 0x0A

/-- The offset just after the last line feed before `stop`, or 0. -/
def lineStartBefore (s : ByteArray) (stop : Nat) : Nat :=
  ((s.extract 0 stop).toList.zipIdx.foldl (fun acc (b, i) => if b == 0x0A then some i else acc) none).elim
    0 (· + 1)

/-- The line and column, both from zero, of a byte offset. -/
def position (s : ByteArray) (index : Nat) : Nat × Nat :=
  if s.size = 0 then (0, index)
  else
    let safe := min index (s.size - 1)
    let beyond := index - safe
    let lineStart := lineStartBefore s safe
    let line := lineFeeds (s.extract 0 lineStart).toList
    let column := match String.fromUTF8? (s.extract lineStart (safe + 1)) with
      | some t => t.length - 1
      | none => safe - lineStart
    (line, column + beyond)

/-- Spaces. -/
def spaces (n : Nat) : String := String.ofList (List.replicate n ' ')

/-- The error as shown for a document `text`. -/
def ReadError.render (text : String) (e : ReadError) : String :=
  match e.span with
  | none => e.message ++ "\n"
  | some sp =>
    let (line, column) := position text.toUTF8 sp.start
    let lineNumber := toString (line + 1)
    let gutter := spaces (lineNumber.length + 1)
    let content := ((text.splitOn "\n")[line]?).getD ""
    let carets := min (sp.stop - sp.start) (content.utf8ByteSize - column)
    "TOML parse error at line " ++ lineNumber ++ ", column " ++ toString (column + 1) ++ "\n" ++
      gutter ++ "|\n" ++
      lineNumber ++ " | " ++ content ++ "\n" ++
      gutter ++ "|" ++ spaces (column + 1) ++ "^" ++ String.ofList (List.replicate (carets - 1) '^') ++
      "\n" ++ e.message ++ "\n"

end Toml

end Survey
