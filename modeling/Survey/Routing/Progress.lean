import Survey.Routing.Path

/-!
# Progress

The blocks a respondent has submitted. Completion is always judged against a routing path:
skipped blocks need no submission, and a submitted block that falls off the path stops
counting. A section without any block on the path has nothing left to do and counts as
completed.
-/

namespace Survey

/-- How far a section or the questionnaire is done. -/
inductive CompletionStatus where
  | notStarted
  | inProgress
  | completed
  deriving DecidableEq, Repr

/-- The status's name. -/
def CompletionStatus.name : CompletionStatus → String
  | .notStarted => "not_started"
  | .inProgress => "in_progress"
  | .completed => "completed"

/-- The blocks accepted on submission. -/
structure ProgressStore where
  submitted : KeySet
  deriving Repr, Inhabited

namespace ProgressStore

/-- Nothing submitted. -/
def empty : ProgressStore := ⟨[]⟩

/-- Whether a block is submitted. -/
def isSubmitted (p : ProgressStore) (block : BlockId) : Bool := p.submitted.contains block

/-- Record a submission; false if it was recorded already. -/
def markSubmitted (p : ProgressStore) (block : BlockId) : Bool × ProgressStore :=
  (!p.isSubmitted block, ⟨KeySet.insert block p.submitted⟩)

/-- Drop a submission; false if there was none. -/
def forget (p : ProgressStore) (block : BlockId) : Bool × ProgressStore :=
  (p.isSubmitted block, ⟨KeySet.erase block p.submitted⟩)

/-- The status of a section along a path. -/
def sectionStatus (p : ProgressStore) (s : Section) (path : RoutingPath) : CompletionStatus :=
  let onPath := (s.blocks.map (·.id)).filter path.contains
  let done := (onPath.filter p.isSubmitted).length
  if done = onPath.length then .completed
  else if done = 0 then .notStarted
  else .inProgress

/-- The first block on the path not yet submitted. -/
def firstIncomplete? (p : ProgressStore) (path : RoutingPath) : Option Location :=
  path.locations.find? fun l => !p.isSubmitted l.block

/-- Whether every block on the path is submitted. -/
def isComplete (p : ProgressStore) (path : RoutingPath) : Bool := (p.firstIncomplete? path).isNone

end ProgressStore

end Survey
