import Survey.Schema.Definition

/-!
# Checked questionnaires

`Questionnaire.ofDefinition` checks a definition and, when it passes, indexes it. A checked
questionnaire has at least one section, no empty section, block or question, unique section,
block, question, slot and calculation ids, at most one exclusive slot per question, variants
only of questions of their own block, calculations over existing numeric slots, and predicates
and routes that name existing slots, blocks and sections, every route pointing forward.

The first pass over the sections and blocks, in order, builds the indexes every lookup reads:
the location of each block in order, and by id the position of each section, each block (its
section, its index there, its place in the order), each slot (its section, block and question,
the variant declaring it when no default question does, and its index among the answers) and
each calculation (its block's position and its index). A second pass checks the references
block by block, reading those indexes, and the first failure is reported:

* per section: empty, then duplicate;
* per block: empty, duplicate, then each question (duplicate id, no slots, two exclusive
  slots, duplicate slot ids); then the variants (unknown question, the variant's own checks, its
  slots, which may reuse those of the question it replaces); then duplicate calculation ids;
* per block, once all are known: calculations (no sources, unknown source, non-numeric
  source), routing rules in order (unknown slot in the condition, unknown target, backward
  target), then the variants' conditions.

The slots summed by calculations are then marked to keep raw text (see `AnswerSlot.check`).
-/

namespace Survey

/-- Why a questionnaire definition was refused. -/
inductive SchemaError where
  /-- The definition could not be read. -/
  | json (message : String)
  | emptyQuestionnaire
  | emptySection (id : SectionId)
  | emptyBlock (id : BlockId)
  | emptyQuestion (id : QuestionId)
  | unknownVariantQuestion (block : BlockId) (question : QuestionId)
  | duplicate (kind : String) (id : String)
  | multipleExclusive (question : QuestionId)
  | emptyCalculation (rule : RuleId)
  | nonNumericSource (rule : RuleId) (slot : SlotId)
  | unknownSlot (context : String) (slot : SlotId)
  | unknownBlock (context : String) (block : BlockId)
  | unknownSection (context : String) (sectionId : SectionId)
  | backwardRoute (source target : BlockId)
  deriving DecidableEq, Repr

namespace SchemaError

/-- The error's name. -/
def kindName : SchemaError → String
  | .json _ => "Json"
  | .emptyQuestionnaire => "EmptyQuestionnaire"
  | .emptySection _ => "EmptySection"
  | .emptyBlock _ => "EmptyBlock"
  | .emptyQuestion _ => "EmptyQuestion"
  | .unknownVariantQuestion .. => "UnknownVariantQuestion"
  | .duplicate .. => "Duplicate"
  | .multipleExclusive _ => "MultipleExclusive"
  | .emptyCalculation _ => "EmptyCalculation"
  | .nonNumericSource .. => "NonNumericSource"
  | .unknownSlot .. => "UnknownSlot"
  | .unknownBlock .. => "UnknownBlock"
  | .unknownSection .. => "UnknownSection"
  | .backwardRoute .. => "BackwardRoute"

/-- The error's message. -/
def message : SchemaError → String
  | .json m => "Malformed schema: " ++ m
  | .emptyQuestionnaire => "Questionnaire has no sections"
  | .emptySection id => "Section '" ++ id ++ "' has no blocks"
  | .emptyBlock id => "Block '" ++ id ++ "' has no questions"
  | .emptyQuestion id => "Question '" ++ id ++ "' has no answers"
  | .unknownVariantQuestion block question =>
    "Variant in block '" ++ block ++ "' replaces unknown question '" ++ question ++ "'"
  | .duplicate kind id => "Duplicate " ++ kind ++ " id '" ++ id ++ "'"
  | .multipleExclusive q => "Question '" ++ q ++ "' declares more than one exclusive answer"
  | .emptyCalculation rule => "Calculation '" ++ rule ++ "' has no source answers"
  | .nonNumericSource rule slot =>
    "Calculation '" ++ rule ++ "' sums non-numeric answer '" ++ slot ++ "'"
  | .unknownSlot context slot => context ++ " references unknown answer '" ++ slot ++ "'"
  | .unknownBlock context block => context ++ " routes to unknown block '" ++ block ++ "'"
  | .unknownSection context sec => context ++ " routes to unknown section '" ++ sec ++ "'"
  | .backwardRoute source target =>
    "Block '" ++ source ++ "' routes backwards to '" ++ target ++ "'"

end SchemaError

/-- The indices of a slot's section, block and question (the question a variant replaces, for
a variant's slot): what a variant's slot must share with an earlier declaration of its id. -/
structure SlotPlace where
  sectionIndex : Nat
  blockIndex : Nat
  questionIndex : Nat
  deriving DecidableEq, Repr

/-- Where a block stands: the index of its section, its index in the section, and its place in
the order of all blocks. -/
structure BlockPosition where
  sectionIndex : Nat
  blockIndex : Nat
  order : Nat
  deriving DecidableEq, Repr

/-- Where a slot is declared: its place, the index of the variant declaring it when no default
question does, and its index among that question's answers. -/
structure SlotPosition where
  place : SlotPlace
  variant : Option Nat
  answer : Nat
  deriving DecidableEq, Repr

/-- The indexes the first pass has built so far, each keyed by id in the order the ids were met:
every block's location in order, the position of every section, block, slot and calculation,
and the question ids met. -/
structure Seen where
  order : List Location
  sections : List (SectionId × Nat)
  blocks : List (BlockId × BlockPosition)
  questions : List QuestionId
  slots : List (SlotId × SlotPosition)
  rules : List (RuleId × BlockPosition × Nat)

namespace Seen

/-- Nothing seen. -/
def empty : Seen := ⟨[], [], [], [], [], []⟩

/-- The place of a slot seen. -/
def slotPlace? (seen : Seen) (slot : SlotId) : Option SlotPlace :=
  (seen.slots.lookup slot).map (·.place)

end Seen

/-- A question's own checks: it has slots, and at most one of them is exclusive. -/
def checkQuestion (q : Question) : Except SchemaError Unit := do
  if q.answers.isEmpty then throw (.emptyQuestion q.id)
  if 1 < (q.answers.filter (·.kind.isExclusive)).length then throw (.multipleExclusive q.id)

/-- Record the slots of a block's own question at its place, each with its index among the
answers, refusing a slot id seen before. -/
def addQuestionSlots (place : SlotPlace) (seen : Seen) :
    List (AnswerSlot × Nat) → Except SchemaError Seen
  | [] => pure seen
  | (s, a) :: rest =>
    if (seen.slotPlace? s.id).isSome then throw (.duplicate "answer" s.id)
    else addQuestionSlots place { seen with slots := seen.slots ++ [(s.id, ⟨place, none, a⟩)] } rest

/-- Record the slots of the variant at index `variant`: a slot of the question it replaces (or of
an earlier variant of that question) keeps its first declaration, any other slot seen before is
a duplicate. -/
def addVariantSlots (place : SlotPlace) (variant : Nat) (seen : Seen) :
    List (AnswerSlot × Nat) → Except SchemaError Seen
  | [] => pure seen
  | (s, a) :: rest =>
    match seen.slotPlace? s.id with
    | some p =>
      if p == place then addVariantSlots place variant seen rest
      else throw (.duplicate "answer" s.id)
    | none =>
      addVariantSlots place variant
        { seen with slots := seen.slots ++ [(s.id, ⟨place, some variant, a⟩)] } rest

/-- Check a block's questions in order. -/
def checkQuestions (sectionIndex blockIndex : Nat) (seen : Seen) :
    List (Question × Nat) → Except SchemaError Seen
  | [] => pure seen
  | (q, i) :: rest => do
    if seen.questions.contains q.id then throw (.duplicate "question" q.id)
    let seen := { seen with questions := seen.questions ++ [q.id] }
    checkQuestion q
    let seen ← addQuestionSlots ⟨sectionIndex, blockIndex, i⟩ seen q.answers.zipIdx
    checkQuestions sectionIndex blockIndex seen rest

/-- Check a block's variants in order. -/
def checkVariants (sectionIndex blockIndex : Nat) (b : Block) (seen : Seen) :
    List (QuestionVariant × Nat) → Except SchemaError Seen
  | [] => pure seen
  | (v, variant) :: rest => do
    let i ← match b.questions.findIdx? (·.id == v.question.id) with
      | some i => pure i
      | none => throw (.unknownVariantQuestion b.id v.question.id)
    checkQuestion v.question
    let seen ← addVariantSlots ⟨sectionIndex, blockIndex, i⟩ variant seen v.question.answers.zipIdx
    checkVariants sectionIndex blockIndex b seen rest

/-- Record a block's calculations at the block's position, each with its index, refusing an id
seen before. -/
def addRules (position : BlockPosition) (seen : Seen) :
    List (CalculatedRule × Nat) → Except SchemaError Seen
  | [] => pure seen
  | (r, i) :: rest =>
    if (seen.rules.lookup r.id).isSome then throw (.duplicate "calculation" r.id)
    else addRules position { seen with rules := seen.rules ++ [(r.id, position, i)] } rest

/-- The first pass over one block, of the section `sectionId` at index `sectionIndex`: the block
takes the next place in the order. -/
def checkBlock (sectionId : SectionId) (sectionIndex : Nat) (seen : Seen) (b : Block)
    (blockIndex : Nat) : Except SchemaError Seen := do
  if b.questions.isEmpty then throw (.emptyBlock b.id)
  if (seen.blocks.lookup b.id).isSome then throw (.duplicate "block" b.id)
  let position : BlockPosition := ⟨sectionIndex, blockIndex, seen.order.length⟩
  let seen := { seen with
    blocks := seen.blocks ++ [(b.id, position)]
    order := seen.order ++ [⟨sectionId, b.id⟩] }
  let seen ← checkQuestions sectionIndex blockIndex seen b.questions.zipIdx
  let seen ← checkVariants sectionIndex blockIndex b seen b.questionVariants.zipIdx
  addRules position seen b.calculations.zipIdx

/-- The first pass over one section. -/
def checkSection (seen : Seen) (s : Section) (sectionIndex : Nat) : Except SchemaError Seen := do
  if s.blocks.isEmpty then throw (.emptySection s.id)
  if (seen.sections.lookup s.id).isSome then throw (.duplicate "section" s.id)
  let seen := { seen with sections := seen.sections ++ [(s.id, sectionIndex)] }
  s.blocks.zipIdx.foldlM (fun seen (b, i) => checkBlock s.id sectionIndex seen b i) seen

/-- A checked questionnaire: its definition, with calculation sources marked to keep raw text,
every block's location in order, and the indexes the first pass built: the position of every
block, section, slot and calculation by id. -/
structure Questionnaire where
  definition : QuestionnaireDefinition
  locations : List Location
  blockPositions : List (BlockId × BlockPosition)
  sectionPositions : List (SectionId × Nat)
  slotPositions : List (SlotId × SlotPosition)
  rulePositions : List (RuleId × BlockPosition × Nat)
  deriving Repr

namespace Seen

/-- The questionnaire of a definition with the indexes seen. -/
def questionnaire (seen : Seen) (d : QuestionnaireDefinition) : Questionnaire :=
  ⟨d, seen.order, seen.blocks, seen.sections, seen.slots, seen.rules⟩

end Seen

namespace Questionnaire

/-- Every block, in order. -/
def blocks (q : Questionnaire) : List Block := q.definition.sections.flatMap (·.blocks)

/-- The block at the given index of the section at the given index. -/
def blockAt? (q : Questionnaire) (sectionIndex blockIndex : Nat) : Option Block :=
  q.definition.sections[sectionIndex]?.bind (·.blocks[blockIndex]?)

/-- The block of an id. -/
def block? (q : Questionnaire) (id : BlockId) : Option Block :=
  (q.blockPositions.lookup id).bind fun p => q.blockAt? p.sectionIndex p.blockIndex

/-- A block's position in the order. -/
def orderOf? (q : Questionnaire) (id : BlockId) : Option Nat :=
  (q.blockPositions.lookup id).map (·.order)

/-- A block's location. -/
def location? (q : Questionnaire) (id : BlockId) : Option Location :=
  (q.blockPositions.lookup id).bind fun p => q.locations[p.order]?

/-- The first block's location. -/
def firstLocation (q : Questionnaire) : Location := q.locations.headD default

/-- The block after this one in order, across section boundaries. -/
def nextInSequence? (q : Questionnaire) (id : BlockId) : Option Location :=
  (q.orderOf? id).bind fun i => q.locations[i + 1]?

/-- The section of an id. -/
def section? (q : Questionnaire) (id : SectionId) : Option Section :=
  (q.sectionPositions.lookup id).bind fun i => q.definition.sections[i]?

/-- The first block of a section. -/
def sectionStart? (q : Questionnaire) (id : SectionId) : Option Location :=
  (q.section? id).bind fun s => s.blocks.head?.bind fun b => q.location? b.id

/-- The question at a slot's position: the variant's, or else the block's own. -/
def questionAt? (q : Questionnaire) (p : SlotPosition) : Option Question :=
  (q.blockAt? p.place.sectionIndex p.place.blockIndex).bind fun b =>
    match p.variant with
    | some v => b.questionVariants[v]?.map (·.question)
    | none => b.questions[p.place.questionIndex]?

/-- A slot as first declared: by a block's own question, or else by the first variant declaring
it. -/
def slot? (q : Questionnaire) (id : SlotId) : Option AnswerSlot :=
  (q.slotPositions.lookup id).bind fun p => (q.questionAt? p).bind (·.answers[p.answer]?)

/-- The block declaring a slot. -/
def blockOf? (q : Questionnaire) (slot : SlotId) : Option Block :=
  (q.slotPositions.lookup slot).bind fun p => q.blockAt? p.place.sectionIndex p.place.blockIndex

/-- A calculated rule and the block declaring it. -/
def calculation? (q : Questionnaire) (id : RuleId) : Option (Block × CalculatedRule) :=
  (q.rulePositions.lookup id).bind fun (p, i) =>
    (q.blockAt? p.sectionIndex p.blockIndex).bind fun b => b.calculations[i]?.map fun r => (b, r)

/-- The id. -/
def id (q : Questionnaire) : String := q.definition.id

/-- The title. -/
def title (q : Questionnaire) : Option String := q.definition.title

/-- Check that every slot a predicate reads exists. -/
def checkPredicate (q : Questionnaire) (p : Predicate) (context : String) :
    Except SchemaError Unit :=
  match p.slots.find? fun s => (q.slotPositions.lookup s).isNone with
  | some s => throw (.unknownSlot context s)
  | none => pure ()

/-- Check a calculation's sources, giving them. -/
def checkCalculation (q : Questionnaire) (r : CalculatedRule) : Except SchemaError (List SlotId) := do
  if r.sources.isEmpty then throw (.emptyCalculation r.id)
  for source in r.sources do
    match q.slot? source with
    | none => throw (.unknownSlot ("Calculation '" ++ r.id ++ "'") source)
    | some s => if !s.kind.isNumeric then throw (.nonNumericSource r.id source)
  pure r.sources

/-- Check a routing rule of the block at position `order`. -/
def checkRoute (q : Questionnaire) (b : Block) (order : Nat) (rule : RoutingRule) (index : Nat) :
    Except SchemaError Unit := do
  let context := "Routing rule " ++ toString (index + 1) ++ " of block '" ++ b.id ++ "'"
  match rule.when? with
  | some p => q.checkPredicate p context
  | none => pure ()
  let target ← match rule.goto with
    | .block id => match q.location? id with
      | some l => pure (some l)
      | none => throw (.unknownBlock context id)
    | .section id => match q.sectionStart? id with
      | some l => pure (some l)
      | none => throw (.unknownSection context id)
    | .summary => pure none
  match target with
  | some l =>
    match q.orderOf? l.block with
    | some later => if later ≤ order then throw (.backwardRoute b.id l.block)
    | none => throw (.backwardRoute b.id l.block)
  | none => pure ()

/-- The reference checks of one block, giving its calculation sources. -/
def checkReferences (q : Questionnaire) (b : Block) (order : Nat) :
    Except SchemaError (List SlotId) := do
  let sources ← b.calculations.flatMapM q.checkCalculation
  for (rule, i) in b.routing.zipIdx do
    q.checkRoute b order rule i
  for v in b.questionVariants do
    q.checkPredicate v.when ("Variant of question '" ++ v.question.id ++ "'")
  pure sources

end Questionnaire

/-- Mark the slots summed by calculations to keep raw text. -/
def markRawText (sources : List SlotId) (q : Question) : Question :=
  { q with answers := q.answers.map fun s =>
      if sources.contains s.id then { s with acceptsRawText := true } else s }

/-- Mark the calculation sources throughout a block. -/
def Block.markRawText (sources : List SlotId) (b : Block) : Block :=
  { b with
    questions := b.questions.map (Survey.markRawText sources)
    questionVariants := b.questionVariants.map fun v =>
      { v with question := Survey.markRawText sources v.question } }

namespace Questionnaire

/-- Check a definition and index it. -/
def ofDefinition (d : QuestionnaireDefinition) : Except SchemaError Questionnaire := do
  if d.sections.isEmpty then throw .emptyQuestionnaire
  let seen ← d.sections.zipIdx.foldlM (fun seen (s, i) => checkSection seen s i) Seen.empty
  let q := seen.questionnaire d
  let sources ← q.blocks.zipIdx.flatMapM fun (b, i) => q.checkReferences b i
  pure { q with definition := { d with sections := d.sections.map fun s =>
    { s with blocks := s.blocks.map (Block.markRawText sources) } } }

end Questionnaire

end Survey
