import Survey.Answer.Store
import Survey.Decimal.Json
import Survey.Json.Write

/-!
# Answers in JSON

How answers, slots and questions are written to JSON and read back.

* An answer value is tagged beside its content: `{"type":"number","value":"10.5"}`; a date's
  absent components are left out.
* A slot is one object: its id and label, its kind under `type`, and the kind's settings beside
  them, such as `{"id":"age","label":"Age","type":"number","min":"0"}`. Settings that are absent
  are left out when written and default when read.
* A question lists its slots under `answers`; `mandatory` defaults to false.
* A store lists its values by slot and the touched slots, both in slot order.
-/

namespace Survey

/-- An object member when the value is present. -/
def optionalMember (key : String) (f : α → Json) : Option α → List (String × Json)
  | some a => [(key, f a)]
  | none => []

namespace DateValue

/-- A date as JSON: only its present components. -/
def toJson (d : DateValue) : Json :=
  .object (optionalMember "day" Json.ofNat d.day ++ optionalMember "month" Json.ofNat d.month ++
    optionalMember "year" Json.ofInt d.year)

/-- A date read from an object of optional components. -/
def decoder : Decoder DateValue :=
  Decoder.record "struct DateValue"
    [Field.of "day" true (Decoder.optional Decoder.u8) fun d v => { d with day := v },
     Field.of "month" true (Decoder.optional Decoder.u8) fun d v => { d with month := v },
     Field.of "year" true (Decoder.optional Decoder.i32) fun d v => { d with year := v }]
    ⟨none, none, none⟩ .ok false

end DateValue

namespace AnswerValue

/-- The tag naming the value's kind. -/
def tag : AnswerValue → String
  | .text _ => "text"
  | .number _ => "number"
  | .date _ => "date"
  | .choice _ => "choice"
  | .choices _ => "choices"

/-- A value as JSON, tagged beside its content. -/
def toJson (v : AnswerValue) : Json :=
  let content : Json := match v with
    | .text s => .string s
    | .number n => n.toJson
    | .date d => d.toJson
    | .choice c => .string c
    | .choices cs => .array (cs.map .string)
  .object [("type", .string v.tag), ("value", content)]

/-- The kinds of value, as tags. -/
def tags : List String := ["text", "number", "date", "choice", "choices"]

/-- A value read from its tag and content. -/
def decoder : Decoder AnswerValue :=
  Decoder.adjacent "AnswerValue" "type" "value"
    [("text", .newtype fun c => (Decoder.string c).map .text),
     ("number", .newtype fun c => (Decimal.decoder c).map .number),
     ("date", .newtype fun c => (DateValue.decoder c).map .date),
     ("choice", .newtype fun c => (Decoder.string c).map .choice),
     ("choices", .newtype fun c => (Decoder.list Decoder.string c).map .choices)]
    tags

end AnswerValue

/-- An optional value as JSON, `null` when absent. -/
def optionalJson (f : α → Json) : Option α → Json
  | some a => f a
  | none => .null

namespace ChoiceOption

/-- An option as JSON. -/
def toJson (o : ChoiceOption) : Json :=
  .object ([("value", .string o.value)] ++ optionalMember "label" .string o.label)

/-- An option read from its value and optional label. -/
def decoder : Decoder ChoiceOption :=
  Decoder.record "struct ChoiceOption"
    [Field.of "value" false Decoder.string fun (_, l) v => (some v, l),
     Field.of "label" true (Decoder.optional Decoder.string) fun (v, _) l => (v, l)]
    ((none : Option String), (none : Option String))
    (fun (v, l) => do pure ⟨← need "value" v, l⟩) false

end ChoiceOption

namespace NumberUnit

/-- A unit as JSON, tagged by `kind`. -/
def toJson : NumberUnit → Json
  | .percent => .object [("kind", .string "percent")]
  | .currency symbol => .object [("kind", .string "currency"), ("symbol", .string symbol)]

/-- A unit read from its `kind` and settings. -/
def decoder : Decoder NumberUnit :=
  Decoder.internal "NumberUnit" "kind"
    [("percent", fun _ => .ok .percent),
     ("currency", Decoder.record "struct variant NumberUnit::Currency"
        [Field.of "symbol" false Decoder.string fun _ v => some v] none
        (fun s => do pure (.currency (← need "symbol" s))) false)]

end NumberUnit

namespace DateComponents

/-- The components' name. -/
def name : DateComponents → String
  | .dayMonthYear => "day_month_year"
  | .monthYear => "month_year"
  | .year => "year"

/-- Components read from their name. -/
def decoder : Decoder DateComponents :=
  Decoder.external
    [("day_month_year", .unit .dayMonthYear), ("month_year", .unit .monthYear),
     ("year", .unit .year)]

end DateComponents

namespace SlotKind

/-- The tag naming the kind. -/
def tag : SlotKind → String
  | .textField _ => "text_field"
  | .number _ => "number"
  | .date _ => "date"
  | .radio _ => "radio"
  | .checkbox _ => "checkbox"
  | .exclusive _ => "exclusive"

/-- The kind's settings as object members. -/
def settings : SlotKind → List (String × Json)
  | .textField maxLength => optionalMember "max_length" Json.ofNat maxLength
  | .number n =>
    optionalMember "min" Decimal.toJson n.min ++ optionalMember "max" Decimal.toJson n.max ++
      optionalMember "decimal_places" Json.ofNat n.decimalPlaces ++
      optionalMember "unit" NumberUnit.toJson n.unit
  | .date components => [("components", .string components.name)]
  | .radio options | .checkbox options => [("options", .array (options.map ChoiceOption.toJson))]
  | .exclusive option => [("option", option.toJson)]

/-- The settings of a choice slot. -/
def choiceOptions : Decoder (List ChoiceOption) :=
  Decoder.record "struct ChoiceSlot"
    [Field.of "options" false (Decoder.list ChoiceOption.decoder) fun _ v => some v] none
    (need "options") false

/-- A kind read from its `type` tag and the settings beside it. -/
def decoder : Decoder SlotKind :=
  Decoder.internal "SlotKind" "type"
    [("text_field", fun c => (Decoder.record "struct TextSlot"
        [Field.of "max_length" true (Decoder.optional Decoder.usize) fun _ v => v] none
        .ok false c).map .textField),
     ("number", fun c => (Decoder.record "struct NumberSlot"
        [Field.of "min" true (Decoder.optional Decimal.decoder) fun s v => { s with min := v },
         Field.of "max" true (Decoder.optional Decimal.decoder) fun s v => { s with max := v },
         Field.of "decimal_places" true (Decoder.optional Decoder.u32)
           fun s v => { s with decimalPlaces := v },
         Field.of "unit" true (Decoder.optional NumberUnit.decoder) fun s v => { s with unit := v }]
        NumberSlot.plain .ok false c).map .number),
     ("date", fun c => (Decoder.record "struct DateSlot"
        [Field.of "components" true DateComponents.decoder fun _ v => v] .dayMonthYear
        .ok false c).map .date),
     ("radio", fun c => (choiceOptions c).map .radio),
     ("checkbox", fun c => (choiceOptions c).map .checkbox),
     ("exclusive", fun c => (Decoder.record "struct ExclusiveSlot"
        [Field.of "option" false ChoiceOption.decoder fun _ v => some v] none
        (need "option") false c).map .exclusive)]

end SlotKind

namespace AnswerSlot

/-- A slot as one JSON object: id, label, kind tag and settings. -/
def toJson (s : AnswerSlot) : Json :=
  .object ([("id", .string s.id), ("label", .string s.label), ("type", .string s.kind.tag)] ++
    s.kind.settings)

/-- A slot read from its id and label, with its kind read from the remaining members. -/
def decoder : Decoder AnswerSlot :=
  Decoder.flatRecord "struct AnswerSlot"
    [Field.of "id" false Decoder.string fun (_, l) v => (some v, l),
     Field.of "label" false Decoder.string fun (i, _) v => (i, some v)]
    ((none : Option String), (none : Option String))
    (fun (i, l) => do pure (← need "id" i, ← need "label" l))
    fun (id, label) c => (SlotKind.decoder c).map fun kind => make id label kind

end AnswerSlot

namespace Question

/-- A question as JSON. -/
def toJson (q : Question) : Json :=
  .object [("id", .string q.id), ("title", .string q.title),
    ("answers", .array (q.answers.map AnswerSlot.toJson)), ("mandatory", .bool q.mandatory)]

/-- The fields of a question being read. -/
structure Draft where
  id : Option String
  title : Option String
  answers : Option (List AnswerSlot)
  mandatory : Bool

/-- A question read from its fields. -/
def decoder : Decoder Question :=
  Decoder.record "struct Question"
    [Field.of "id" false Decoder.string fun (d : Draft) v => { d with id := some v },
     Field.of "title" false Decoder.string fun (d : Draft) v => { d with title := some v },
     Field.of "answers" false (Decoder.list AnswerSlot.decoder)
       fun (d : Draft) v => { d with answers := some v },
     Field.of "mandatory" true Decoder.bool fun (d : Draft) v => { d with mandatory := v }]
    ⟨none, none, none, false⟩
    (fun (d : Draft) => do pure ⟨← need "id" d.id, ← need "title" d.title, ← need "answers" d.answers,
      d.mandatory⟩) false

end Question

namespace AnswerStore

/-- A store as JSON: values by slot and the touched slots, in slot order. -/
def toJson (s : AnswerStore) : Json :=
  .object [("values", .object (s.values.map fun (k, v) => (k, v.toJson))),
    ("touched", .array (s.touched.map .string))]

/-- A store read from its values and touched slots. -/
def decoder : Decoder AnswerStore :=
  Decoder.record "struct AnswerStore"
    [Field.of "values" false (Decoder.map AnswerValue.decoder) fun (_, t) v => (some v, t),
     Field.of "touched" true Decoder.stringSet fun (v, _) t => (v, t)]
    ((none : Option (Entries AnswerValue)), ([] : KeySet))
    (fun (v, t) => do pure ⟨← need "values" v, t⟩) false

end AnswerStore

end Survey
