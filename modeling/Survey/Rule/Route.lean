import Survey.Rule.Predicate

/-!
# Routing rules

A block may carry routing rules: each names where to go next (a block, the first block of a
section, or the summary) and, optionally, when. A rule without a condition always applies; the
first rule that applies wins.
-/

namespace Survey

/-- Where a routing rule sends the respondent. -/
inductive Destination where
  /-- A given block. -/
  | block (id : BlockId)
  /-- The first block of a section. -/
  | section (id : SectionId)
  /-- The end of the questionnaire. -/
  | summary
  deriving DecidableEq, Repr

/-- A jump attached to a block, taken when its condition holds or when it has none. -/
structure RoutingRule where
  when? : Option Predicate
  goto : Destination
  deriving BEq, Repr

namespace RoutingRule

/-- A rule that always applies. -/
def always (goto : Destination) : RoutingRule := ⟨none, goto⟩

/-- Whether the rule applies to the answers. -/
def applies (rule : RoutingRule) (answers : Lookup) : Bool :=
  match rule.when? with
  | some p => p.evaluate answers
  | none => true

end RoutingRule

end Survey
