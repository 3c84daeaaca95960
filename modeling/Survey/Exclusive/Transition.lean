/-!
# The exclusivity state machine

A question with an exclusive slot ("I prefer not to say") forms a group with its other slots,
and at most one side of the group holds answers. The group is in one of three states: nothing
answered, the exclusive slot set, or other slots set. Each edit is an event; `transition` gives
the next state and the side effect that keeps the invariant: ticking the exclusive slot while
others hold answers clears them, and committing another slot while the exclusive one is ticked
clears it. Drafts (keystrokes) never change the state.
-/

namespace Survey

/-- Which side of an exclusivity group holds answers. -/
inductive GroupState where
  | unset
  | exclusiveSet
  | othersSet
  deriving DecidableEq, Repr, Inhabited

/-- An edit, as the group sees it. -/
inductive GroupEvent where
  | exclusiveSet
  | exclusiveCleared
  /-- Another slot was given a value and committed. -/
  | otherCommitted
  /-- Another slot was typed into but not committed. -/
  | otherDrafted
  /-- Another slot was cleared; `othersRemain` tells whether any other slot still holds one. -/
  | otherCleared (othersRemain : Bool)
  deriving DecidableEq, Repr

/-- The side effect of a transition. -/
inductive Effect where
  | keep
  | clearOthers
  | clearExclusive
  deriving DecidableEq, Repr

/-- The next state of the group, and what must be cleared to reach it. -/
def transition : GroupState → GroupEvent → GroupState × Effect
  | .othersSet, .exclusiveSet => (.exclusiveSet, .clearOthers)
  | _, .exclusiveSet => (.exclusiveSet, .keep)
  | .exclusiveSet, .otherCommitted => (.othersSet, .clearExclusive)
  | _, .otherCommitted => (.othersSet, .keep)
  | .exclusiveSet, .exclusiveCleared => (.unset, .keep)
  | .othersSet, .otherCleared false => (.unset, .keep)
  | state, _ => (state, .keep)

namespace GroupState

/-- The state's name. -/
def name : GroupState → String
  | .unset => "Unset"
  | .exclusiveSet => "ExclusiveSet"
  | .othersSet => "OthersSet"

end GroupState

namespace Effect

/-- The effect's name. -/
def name : Effect → String
  | .keep => "Keep"
  | .clearOthers => "ClearOthers"
  | .clearExclusive => "ClearExclusive"

end Effect

end Survey
