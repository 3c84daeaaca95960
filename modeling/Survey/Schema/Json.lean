import Survey.Schema.Questionnaire
import Survey.Rule.Json

/-!
# Questionnaire definitions in JSON

A definition is `{"id","title"?,"sections":[...]}`; a section is `{"id","title"?,"blocks":[...]}`;
a block is `{"id","title"?,"questions":[...],"question_variants"?,"calculations"?,"routing"?,
"invalidate_when_skipped"?}` and a variant `{"when":predicate,"question":question}`. Absent
lists are empty and the flag false. Written back, absent titles and empty lists are left out
and the flag is always written.

`Questionnaire.ofJsonText` reads a definition from JSON text (its errors give their position)
and checks it.
-/

namespace Survey

namespace QuestionVariant

/-- A variant as JSON. -/
def toJson (v : QuestionVariant) : Json :=
  .object [("when", v.when.toJson), ("question", v.question.toJson)]

/-- A variant read from its condition and question. -/
def decoder : Decoder QuestionVariant :=
  Decoder.record "struct QuestionVariant"
    [Field.of "when" false Predicate.decoder fun (_, q) w => (some w, q),
     Field.of "question" false Question.decoder fun (w, _) q => (w, some q)]
    ((none : Option Predicate), (none : Option Question))
    (fun (w, q) => do pure ⟨← need "when" w, ← need "question" q⟩) false

end QuestionVariant

/-- A list member, left out when the list is empty. -/
def listMember (key : String) (f : α → Json) : List α → List (String × Json)
  | [] => []
  | xs => [(key, .array (xs.map f))]

namespace Block

/-- A block as JSON. -/
def toJson (b : Block) : Json :=
  .object ([("id", .string b.id)] ++ optionalMember "title" .string b.title ++
    [("questions", .array (b.questions.map Question.toJson))] ++
    listMember "question_variants" QuestionVariant.toJson b.questionVariants ++
    listMember "calculations" CalculatedRule.toJson b.calculations ++
    listMember "routing" RoutingRule.toJson b.routing ++
    [("invalidate_when_skipped", .bool b.invalidateWhenSkipped)])

/-- The fields of a block being read. -/
structure Draft where
  id : Option BlockId
  title : Option String
  questions : Option (List Question)
  questionVariants : List QuestionVariant
  calculations : List CalculatedRule
  routing : List RoutingRule
  invalidateWhenSkipped : Bool

/-- A block read from its fields. -/
def decoder : Decoder Block :=
  Decoder.record "struct Block"
    [Field.of "id" false Decoder.string fun (d : Draft) v => { d with id := some v },
     Field.of "title" true (Decoder.optional Decoder.string) fun (d : Draft) v => { d with title := v },
     Field.of "questions" false (Decoder.list Question.decoder)
       fun (d : Draft) v => { d with questions := some v },
     Field.of "question_variants" true (Decoder.list QuestionVariant.decoder)
       fun (d : Draft) v => { d with questionVariants := v },
     Field.of "calculations" true (Decoder.list CalculatedRule.decoder)
       fun (d : Draft) v => { d with calculations := v },
     Field.of "routing" true (Decoder.list RoutingRule.decoder)
       fun (d : Draft) v => { d with routing := v },
     Field.of "invalidate_when_skipped" true Decoder.bool
       fun (d : Draft) v => { d with invalidateWhenSkipped := v }]
    ⟨none, none, none, [], [], [], false⟩
    (fun (d : Draft) => do
      pure ⟨← need "id" d.id, d.title, ← need "questions" d.questions, d.questionVariants,
        d.calculations, d.routing, d.invalidateWhenSkipped⟩) false

end Block

namespace Section

/-- A section as JSON. -/
def toJson (s : Section) : Json :=
  .object ([("id", .string s.id)] ++ optionalMember "title" .string s.title ++
    [("blocks", .array (s.blocks.map Block.toJson))])

/-- A section read from its fields. -/
def decoder : Decoder Section :=
  Decoder.record "struct Section"
    [Field.of "id" false Decoder.string fun (_, t, b) v => (some v, t, b),
     Field.of "title" true (Decoder.optional Decoder.string) fun (i, _, b) v => (i, v, b),
     Field.of "blocks" false (Decoder.list Block.decoder) fun (i, t, _) v => (i, t, some v)]
    ((none : Option SectionId), (none : Option String), (none : Option (List Block)))
    (fun (i, t, b) => do pure ⟨← need "id" i, t, ← need "blocks" b⟩) false

end Section

namespace QuestionnaireDefinition

/-- A definition as JSON. -/
def toJson (d : QuestionnaireDefinition) : Json :=
  .object ([("id", .string d.id)] ++ optionalMember "title" .string d.title ++
    [("sections", .array (d.sections.map Section.toJson))])

/-- A definition read from its fields. -/
def decoder : Decoder QuestionnaireDefinition :=
  Decoder.record "struct QuestionnaireDefinition"
    [Field.of "id" false Decoder.string fun (_, t, s) v => (some v, t, s),
     Field.of "title" true (Decoder.optional Decoder.string) fun (i, _, s) v => (i, v, s),
     Field.of "sections" false (Decoder.list Section.decoder) fun (i, t, _) v => (i, t, some v)]
    ((none : Option String), (none : Option String), (none : Option (List Section)))
    (fun (i, t, s) => do pure ⟨← need "id" i, t, ← need "sections" s⟩) false

end QuestionnaireDefinition

/-- A location as JSON. -/
def Location.toJson (l : Location) : Json :=
  .object [("section", .string l.section), ("block", .string l.block)]

namespace Questionnaire

/-- Read a definition from JSON text and check it. -/
def ofJsonText (text : String) : Except SchemaError Questionnaire :=
  match decodeText QuestionnaireDefinition.decoder text with
  | .ok d => ofDefinition d
  | .error m => .error (.json m)

/-- Read a definition from a JSON value and check it. -/
def ofJson (json : Json) : Except SchemaError Questionnaire :=
  match decodeValue QuestionnaireDefinition.decoder json with
  | .ok d => ofDefinition d
  | .error m => .error (.json m)

end Questionnaire

end Survey
