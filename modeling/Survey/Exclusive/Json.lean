import Survey.Exclusive.Enforcer
import Survey.Answer.Json

/-!
# Edits and their results in JSON

An edit is tagged by `action` beside its `value`: `{"action":"set","value":<answer value>}` or
`{"action":"clear"}`. A phase is `"keystroke"` or `"commit"`. The result of applying an edit is
`{"cleared":[slot, ...],"drafted":bool,"state":"Unset"|"ExclusiveSet"|"OthersSet"}`.
-/

namespace Survey

namespace Edit

/-- An edit as JSON. -/
def toJson : Edit → Json
  | .set value => .object [("action", .string "set"), ("value", value.toJson)]
  | .clear => .object [("action", .string "clear")]

/-- An edit read from its action and value. -/
def decoder : Decoder Edit :=
  Decoder.adjacent "Edit" "action" "value"
    [("set", .newtype fun c => (AnswerValue.decoder c).map .set), ("clear", .unit .clear)]
    ["set", "clear"]

end Edit

namespace EditPhase

/-- A phase read from its name. -/
def decoder : Decoder EditPhase :=
  Decoder.external [("keystroke", .unit .keystroke), ("commit", .unit .commit)]

end EditPhase

namespace GroupState

/-- A group state read from its name. -/
def decoder : Decoder GroupState :=
  Decoder.external
    [("Unset", .unit .unset), ("ExclusiveSet", .unit .exclusiveSet), ("OthersSet", .unit .othersSet)]

end GroupState

/-- Drafts as JSON, by slot. -/
def draftsJson (drafts : Drafts) : Json := .object (drafts.map fun (k, e) => (k, e.toJson))

namespace Applied

/-- The result of an edit as JSON. -/
def toJson (a : Applied) : Json :=
  .object [("cleared", .array (a.cleared.map .string)), ("state", .string a.state.name),
    ("drafted", .bool a.drafted)]

end Applied

end Survey
