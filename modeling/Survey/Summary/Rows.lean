import Survey.Summary.Format
import Survey.Routing.Path
import Survey.Schema.Json

/-!
# The review page

One row per question shown on the routing path, in path order: the block's location, the
question's id and the title of the question shown (a variant's title when a variant is shown),
and the question's answered slots, formatted, one per line — or no answer.
-/

namespace Survey

/-- One question on the review page. -/
structure SummaryRow where
  location : Location
  question : QuestionId
  title : String
  value : DisplayValue
  deriving Repr

/-- What a shown question displays: its answered slots, one per line. -/
def questionDisplay (view : Lookup) (q : Question) : DisplayValue :=
  let lines := q.answers.filterMap fun s => (view s.id).map (formatValue s)
  if lines.isEmpty then .noAnswer else .provided ("\n".intercalate lines)

/-- The review page for the questions on a path, answers read through `view`. -/
def summarize (q : Questionnaire) (path : RoutingPath) (view : Lookup) : List SummaryRow :=
  path.locations.flatMap fun l =>
    match q.block? l.block with
    | none => []
    | some b => (b.questionsFor view).map fun qu => ⟨l, qu.id, qu.title, questionDisplay view qu⟩

namespace DisplayValue

/-- A display value as JSON, tagged by `kind`. -/
def toJson : DisplayValue → Json
  | .provided t => .object [("kind", .string "provided"), ("text", .string t)]
  | .noAnswer => .object [("kind", .string "no_answer")]

end DisplayValue

/-- A row as JSON. -/
def SummaryRow.toJson (r : SummaryRow) : Json :=
  .object [("location", r.location.toJson), ("question", .string r.question),
    ("title", .string r.title), ("value", r.value.toJson)]

end Survey
