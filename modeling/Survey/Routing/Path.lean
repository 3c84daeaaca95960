import Survey.Schema.Questionnaire

/-!
# Routing

After a block, its routing rules are tried in order and the first that applies picks where to
go; with none, the next block in order follows (crossing into the next section), and the
summary after the last block (`Questionnaire.nextDestination`).

Walking these decisions from the first block gives the routing path
(`Questionnaire.routingPath`). At each block the rules see only the answers of the blocks
visited so far, the block itself included (`Questionnaire.reachable`), so answers left behind
in skipped blocks never steer the route. Since every route points forward, the walk visits
each block at most once; it stops at the summary, or should a block come round again.
-/

namespace Survey

/-- Where the respondent goes after a block. -/
inductive Next where
  | block (location : Location)
  | summary
  deriving DecidableEq, Repr

/-- The blocks reachable from the start, in visiting order. -/
structure RoutingPath where
  locations : List Location
  deriving Repr, Inhabited

namespace RoutingPath

/-- Whether a block is on the path. -/
def contains (p : RoutingPath) (block : BlockId) : Bool := p.locations.any (·.block == block)

/-- The blocks on the path. -/
def blocks (p : RoutingPath) : List BlockId := p.locations.map (·.block)

/-- The position of a block on the path. -/
def position? (p : RoutingPath) (block : BlockId) : Option Nat :=
  p.locations.findIdx? (·.block == block)

/-- The block visited before this one. -/
def previous? (p : RoutingPath) (block : BlockId) : Option Location :=
  (p.position? block).bind fun i => if i = 0 then none else p.locations[i - 1]?

/-- Where the path continues after a block: the next block on it, or the summary. -/
def next? (p : RoutingPath) (block : BlockId) : Option Next :=
  (p.position? block).map fun i =>
    match p.locations[i + 1]? with
    | some l => .block l
    | none => .summary

end RoutingPath

namespace Questionnaire

/-- The answers of the given blocks only; every other answer reads as absent. -/
def reachable (q : Questionnaire) (answers : AnswerStore) (blocks : List BlockId) : Lookup :=
  fun slot =>
    match q.blockOf? slot with
    | some b => if blocks.contains b.id then answers.get? slot else none
    | none => none

/-- The answers of the blocks on a path. -/
def onPath (q : Questionnaire) (answers : AnswerStore) (path : RoutingPath) : Lookup :=
  q.reachable answers path.blocks

/-- Where a destination leads: a block's location, a section's first block, or the summary;
none for an unknown block or section. -/
def destinationNext (q : Questionnaire) : Destination → Option Next
  | .block id => (q.location? id).map .block
  | .section id => (q.sectionStart? id).map .block
  | .summary => some .summary

/-- The destination picked by the first routing rule of a block that applies, if one does. -/
def ruleChoice? (q : Questionnaire) (block : BlockId) (answers : Lookup) : Option (Option Next) :=
  (q.block? block).bind fun current =>
    (current.routing.find? (·.applies answers)).map fun rule => q.destinationNext rule.goto

/-- Where to go after a block: the first routing rule that applies, else the next block in
order, else the summary; none for an unknown block. -/
def nextDestination (q : Questionnaire) (block : BlockId) (answers : Lookup) : Option Next := do
  let _ ← q.block? block
  match q.ruleChoice? block answers with
  | some next => next
  | none =>
    pure (match q.nextInSequence? block with
      | some l => .block l
      | none => .summary)

/-- Walk from `location`, the blocks in `visited` already on the path; `fuel` bounds the walk
by the number of blocks. -/
def walk (q : Questionnaire) (answers : AnswerStore) : Nat → List Location → Location → List Location
  | 0, visited, _ => visited
  | fuel + 1, visited, location =>
    if visited.any (·.block == location.block) then visited
    else
      let blocks := visited.map (·.block) ++ [location.block]
      let visited := visited ++ [location]
      match q.nextDestination location.block (q.reachable answers blocks) with
      | some (.block next) => walk q answers fuel visited next
      | _ => visited

/-- The routing path for the answers. -/
def routingPath (q : Questionnaire) (answers : AnswerStore) : RoutingPath :=
  ⟨q.walk answers (q.locations.length + 1) [] q.firstLocation⟩

/-- The routing rules that decided the path, in walking order: each block on the path whose
rules picked its destination, with that destination. -/
def routeChoices (q : Questionnaire) (answers : AnswerStore) (path : RoutingPath) :
    List (BlockId × Option Next) :=
  path.locations.zipIdx.filterMap fun (l, i) =>
    let blocks := (path.locations.take (i + 1)).map (·.block)
    (q.ruleChoice? l.block (q.reachable answers blocks)).map fun next => (l.block, next)

end Questionnaire

end Survey
