import Survey.Engine.Error
import Survey.Engine.Session
import Survey.Exclusive.Json
import Survey.Summary.Rows

/-!
# Engine results as JSON

Where to go next is `{"block": Location}` or the string `"summary"`. A submission is written
as its errors and where to go next (`null` when rejected); its report adds whether it was
accepted and the errors' messages.
A live session shows what its snapshot holds plus its drafts, which no snapshot keeps.
-/

namespace Survey

/-- Where to go next, as JSON. -/
def Next.toJson : Next → Json
  | .block l => .object [("block", l.toJson)]
  | .summary => .string "summary"

/-- A submission as JSON. -/
def Submission.toJson (s : Submission) : Json :=
  .object [("errors", .array (s.errors.map (·.toJson))), ("next", optionalJson Next.toJson s.next)]

/-- A submission as JSON, with whether it was accepted and the errors' messages. -/
def Submission.report (s : Submission) : Json :=
  .object [("accepted", .bool s.isAccepted), ("errors", .array (s.errors.map (·.toJson))),
    ("messages", .array (s.errors.map fun e => .string e.message)),
    ("next", optionalJson Next.toJson s.next)]

/-- A live session as JSON: its answers, totals and progress, and its drafts. -/
def Session.toJson (s : Session) : Json :=
  .object (s.members ++ [("drafts", draftsJson s.drafts)])

end Survey
