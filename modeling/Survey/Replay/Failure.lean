/-!
# How the command reports a failure

A failure is a message and the chain of causes behind it, outermost first. It is printed as
`Error: ` and the message; then, when there are causes, a blank line, `Caused by:`, and each
cause on its own line. A single cause is indented four spaces; several are numbered from 0,
the number right-aligned in five columns and followed by `: `. A cause that spans lines keeps
the indent on every line: four spaces, or seven under a number.
-/

namespace Survey

namespace Replay

/-- A failure: what went wrong, and the chain of its causes. -/
structure Failure where
  message : String
  causes : List String
  deriving DecidableEq, Repr

/-- A text with `first` before its first line and `rest` before each later one. -/
def indentLines (first rest text : String) : String :=
  first ++ ("\n" ++ rest).intercalate (text.splitOn "\n")

/-- A text right-aligned in `width` columns. -/
def rightAligned (width : Nat) (s : String) : String :=
  String.ofList (List.replicate (width - s.length) ' ') ++ s

namespace Failure

/-- A failure with no cause behind it. -/
def plain (message : String) : Failure := ⟨message, []⟩

/-- The causes as printed after `Caused by:`. -/
def causeLines : List String → String
  | [] => ""
  | [c] => "\n" ++ indentLines "    " "    " c
  | cs => String.join (cs.zipIdx.map fun (c, n) =>
      "\n" ++ indentLines (rightAligned 5 (toString n) ++ ": ") "       " c)

/-- The failure as the command prints it. -/
def render (f : Failure) : String :=
  "Error: " ++ f.message ++
    (if f.causes.isEmpty then "" else "\n\nCaused by:" ++ causeLines f.causes) ++ "\n"

end Failure

end Replay

end Survey
