import Survey.Schema.Definition

/-!
# Building definitions in code

A definition can be written in code as well as read from JSON: start from a questionnaire,
section, block or question that has only its id, and add the parts in order, each after those
added before. Slots have one constructor per common shape: percentages from 0 to 100, amounts
of money with two places, numbers within bounds, and lists of options.
-/

namespace Survey

namespace QuestionnaireDefinition

/-- A questionnaire with an id and nothing else. -/
def named (id : String) : QuestionnaireDefinition := ⟨id, none, []⟩

/-- Set the title. -/
def withTitle (d : QuestionnaireDefinition) (title : String) : QuestionnaireDefinition :=
  { d with title := some title }

/-- Add a section after the others. -/
def withSection (d : QuestionnaireDefinition) (s : Section) : QuestionnaireDefinition :=
  { d with sections := d.sections ++ [s] }

end QuestionnaireDefinition

namespace Section

/-- A section with an id and no blocks. -/
def named (id : SectionId) : Section := ⟨id, none, []⟩

/-- Set the title. -/
def withTitle (s : Section) (title : String) : Section := { s with title := some title }

/-- Add a block after the others. -/
def withBlock (s : Section) (b : Block) : Section := { s with blocks := s.blocks ++ [b] }

end Section

namespace Block

/-- A block with an id and nothing in it. -/
def named (id : BlockId) : Block := ⟨id, none, [], [], [], [], false⟩

/-- Add a question after the others. -/
def withQuestion (b : Block) (q : Question) : Block := { b with questions := b.questions ++ [q] }

/-- Show `q` in place of the question of the same id while `when` holds. -/
def withVariant (b : Block) (when : Predicate) (q : Question) : Block :=
  { b with questionVariants := b.questionVariants ++ [⟨when, q⟩] }

/-- Add a total checked on submission. -/
def withCalculation (b : Block) (r : CalculatedRule) : Block :=
  { b with calculations := b.calculations ++ [r] }

/-- Add a routing rule after the others. -/
def withRoute (b : Block) (r : RoutingRule) : Block := { b with routing := b.routing ++ [r] }

/-- Wipe the block's answers when a routing change skips it. -/
def invalidatedWhenSkipped (b : Block) : Block := { b with invalidateWhenSkipped := true }

end Block

namespace Question

/-- An optional question with a title and no slots. -/
def named (id : QuestionId) (title : String) : Question := ⟨id, title, [], false⟩

/-- Add a slot after the others. -/
def withAnswer (q : Question) (s : AnswerSlot) : Question := { q with answers := q.answers ++ [s] }

/-- Make the question mandatory. -/
def required (q : Question) : Question := { q with mandatory := true }

end Question

namespace AnswerSlot

/-- A percentage from 0 to 100. -/
def percentage (id : SlotId) (label : String) : AnswerSlot := make id label (.number .percentage)

/-- An amount of money in the given currency, shown with two places. -/
def currency (id : SlotId) (label symbol : String) : AnswerSlot :=
  make id label (.number (.currency symbol))

/-- A number within optional bounds. -/
def bounded (id : SlotId) (label : String) (min max : Option Decimal) : AnswerSlot :=
  make id label (.number (.bounded min max))

/-- One of the given values, each its own label. -/
def radio (id : SlotId) (label : String) (values : List String) : AnswerSlot :=
  make id label (.radio (values.map .plain))

/-- Any of the given values, each its own label. -/
def checkbox (id : SlotId) (label : String) (values : List String) : AnswerSlot :=
  make id label (.checkbox (values.map .plain))

/-- One of the given values, each with its label. -/
def labelledRadio (id : SlotId) (label : String) (options : List (String × String)) :
    AnswerSlot :=
  make id label (.radio (options.map fun (value, shown) => ⟨value, some shown⟩))

end AnswerSlot

/-- A rule taken when the predicate holds. -/
def RoutingRule.onlyWhen (p : Predicate) (goto : Destination) : RoutingRule := ⟨some p, goto⟩

namespace CalculatedRule

/-- A total of the sources that must equal the target. -/
def sumEquals (id : RuleId) (sources : List SlotId) (target : Decimal) : CalculatedRule :=
  ⟨id, sources, target, .equal, none⟩

/-- Compare the total with the target another way. -/
def withComparison (r : CalculatedRule) (c : Comparison) : CalculatedRule :=
  { r with comparison := c }

/-- Set the total's label. -/
def withLabel (r : CalculatedRule) (label : String) : CalculatedRule := { r with label := some label }

end CalculatedRule

end Survey
