import Survey.Rule.Route
import Survey.Rule.Calculation

/-!
# Questionnaire definitions

A questionnaire as authored: sections in order, each a run of blocks; a block is a page of
questions submitted together. A block may also carry

* question variants — a whole question shown in place of the block's question of the same id
  while a predicate holds (the first such variant that holds wins);
* calculations — totals checked when the block is submitted;
* routing rules — where to go next, the first rule that applies winning;
* a flag asking for its answers to be wiped when a routing change skips it.

A definition is not checked; `Questionnaire.ofDefinition` checks it.
-/

namespace Survey

/-- A question shown in place of the block's question of the same id while `when` holds. -/
structure QuestionVariant where
  when : Predicate
  question : Question
  deriving BEq, Repr

/-- A page of the questionnaire. -/
structure Block where
  id : BlockId
  title : Option String
  questions : List Question
  questionVariants : List QuestionVariant
  calculations : List CalculatedRule
  routing : List RoutingRule
  /-- Wipe the block's answers when a routing change skips it. -/
  invalidateWhenSkipped : Bool
  deriving BEq, Repr

/-- An ordered run of blocks. -/
structure Section where
  id : SectionId
  title : Option String
  blocks : List Block
  deriving BEq, Repr

/-- A questionnaire as authored. -/
structure QuestionnaireDefinition where
  id : String
  title : Option String
  sections : List Section
  deriving BEq, Repr

/-- Where a block sits: its section and its id. -/
structure Location where
  «section» : SectionId
  block : BlockId
  deriving DecidableEq, Repr, Inhabited

/-- A location as `section/block`. -/
def Location.label (l : Location) : String := l.section ++ "/" ++ l.block

namespace Block

/-- A block with nothing in it yet. -/
def empty (id : BlockId) : Block := ⟨id, none, [], [], [], [], false⟩

/-- The question shown in place of `q`: the first variant of it whose condition holds, or `q`. -/
def shownQuestion (b : Block) (answers : Lookup) (q : Question) : Question :=
  match b.questionVariants.find? fun v => v.question.id == q.id && v.when.evaluate answers with
  | some v => v.question
  | none => q

/-- The questions shown for the answers, in block order. -/
def questionsFor (b : Block) (answers : Lookup) : List Question :=
  b.questions.map (b.shownQuestion answers)

/-- Every question of the block, its variants after its own questions. -/
def allQuestions (b : Block) : List Question :=
  b.questions ++ b.questionVariants.map (·.question)

/-- Every slot id of the block, variants included. -/
def slotIds (b : Block) : List SlotId :=
  b.allQuestions.flatMap fun q => q.answers.map (·.id)

end Block

/-- A section with nothing in it yet. -/
def Section.empty (id : SectionId) : Section := ⟨id, none, []⟩

end Survey
