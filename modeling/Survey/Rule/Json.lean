import Survey.Rule.Route
import Survey.Rule.Calculation
import Survey.Answer.Json

/-!
# Rules in JSON

* A literal is a bare number or string. Read, a string that reads as a number is a number
  literal (`"10"`, `" 5 "`, `"-0"`); any other string is text. Written, both are strings.
* A predicate is an object tagged by `op`, its fields beside the tag:
  `{"op":"in","slot":"over-16","values":["Yes",10]}`; `all` and `any` take `rules`, `not` a
  `rule`.
* A destination is `{"block":id}`, `{"section":id}` or `"summary"`; a routing rule is
  `{"when"?:predicate,"goto":destination}`.
* A calculated rule is `{"id","sources","target","comparison"?,"label"?}`, the comparison
  `equal` by default.
* A total is `{"total","outcome","sources":[[slot, value or null], ...]}`.
-/

namespace Survey

namespace Literal

/-- A literal as JSON: a string in both cases. -/
def toJson : Literal → Json
  | .number n => n.toJson
  | .text t => .string t

/-- A literal read as a number if it can be, else as text. -/
def decoder : Decoder Literal :=
  Decoder.untagged "Literal"
    [fun c => (Decimal.decoder c).map .number, fun c => (Decoder.string c).map .text]

end Literal

namespace Predicate

/-- The tag naming the predicate's operator. -/
def tag : Predicate → String
  | .equals .. => "equals"
  | .notEquals .. => "not_equals"
  | .isIn .. => "in"
  | .notIn .. => "not_in"
  | .contains .. => "contains"
  | .answered _ => "answered"
  | .unanswered _ => "unanswered"
  | .greaterThan .. => "greater_than"
  | .lessThan .. => "less_than"
  | .all _ => "all"
  | .any _ => "any"
  | .not _ => "not"

mutual

/-- A predicate as JSON, tagged by `op`. -/
def toJson (p : Predicate) : Json :=
  .object ([("op", .string p.tag)] ++ fields p)

/-- The fields beside the tag. -/
def fields : Predicate → List (String × Json)
  | .equals slot value | .notEquals slot value => [("slot", .string slot), ("value", value.toJson)]
  | .isIn slot values | .notIn slot values =>
    [("slot", .string slot), ("values", .array (values.map Literal.toJson))]
  | .contains slot value => [("slot", .string slot), ("value", .string value)]
  | .answered slot | .unanswered slot => [("slot", .string slot)]
  | .greaterThan slot value | .lessThan slot value =>
    [("slot", .string slot), ("value", value.toJson)]
  | .all rules | .any rules => [("rules", .array (rulesToJson rules))]
  | .not rule => [("rule", toJson rule)]

/-- Predicates as JSON. -/
def rulesToJson : List Predicate → List Json
  | [] => []
  | r :: rs => toJson r :: rulesToJson rs

end

/-- The operators, as tags. -/
def tags : List String :=
  ["equals", "not_equals", "in", "not_in", "contains", "answered", "unanswered", "greater_than",
   "less_than", "all", "any", "not"]

/-- A predicate variant with a slot and one more field. -/
def slotAnd (variant : String) (key : String) (d : Decoder α)
    (make : SlotId → α → Predicate) : Decoder Predicate :=
  Decoder.record ("struct variant Predicate::" ++ variant)
    [Field.of "slot" false Decoder.string fun (_, v) s => (some s, v),
     Field.of key false d fun (s, _) v => (s, some v)]
    ((none : Option SlotId), (none : Option α))
    (fun (s, v) => do pure (make (← need "slot" s) (← need key v))) false

/-- A predicate variant with only a slot. -/
def slotOnly (variant : String) (make : SlotId → Predicate) : Decoder Predicate :=
  Decoder.record ("struct variant Predicate::" ++ variant)
    [Field.of "slot" false Decoder.string fun _ s => some s] none
    (fun s => do pure (make (← need "slot" s))) false

/-- Predicates nest no deeper than the documents they are read from, whose nesting is
limited; `fuel` counts the levels left. -/
def decoderWithin : Nat → Decoder Predicate
  | 0 => fun c => c.invalidType "internally tagged enum Predicate"
  | fuel + 1 =>
    let rules (variant : String) (make : List Predicate → Predicate) : Decoder Predicate :=
      Decoder.record ("struct variant Predicate::" ++ variant)
        [Field.of "rules" false (Decoder.list (decoderWithin fuel)) fun _ v => some v] none
        (fun v => do pure (make (← need "rules" v))) false
    Decoder.internal "Predicate" "op"
      [("equals", slotAnd "Equals" "value" Literal.decoder .equals),
       ("not_equals", slotAnd "NotEquals" "value" Literal.decoder .notEquals),
       ("in", slotAnd "In" "values" (Decoder.list Literal.decoder) .isIn),
       ("not_in", slotAnd "NotIn" "values" (Decoder.list Literal.decoder) .notIn),
       ("contains", slotAnd "Contains" "value" Decoder.string .contains),
       ("answered", slotOnly "Answered" .answered),
       ("unanswered", slotOnly "Unanswered" .unanswered),
       ("greater_than", slotAnd "GreaterThan" "value" Decimal.decoder .greaterThan),
       ("less_than", slotAnd "LessThan" "value" Decimal.decoder .lessThan),
       ("all", rules "All" .all),
       ("any", rules "Any" .any),
       ("not", Decoder.record "struct variant Predicate::Not"
          [Field.of "rule" false (decoderWithin fuel) fun _ v => some v] none
          (fun v => do pure (.not (← need "rule" v))) false)]

/-- A predicate read from its `op` tag and fields. -/
def decoder : Decoder Predicate := decoderWithin 200

end Predicate

namespace Destination

/-- A destination as JSON. -/
def toJson : Destination → Json
  | .block id => .object [("block", .string id)]
  | .section id => .object [("section", .string id)]
  | .summary => .string "summary"

/-- A destination read from `{"block":id}`, `{"section":id}` or `"summary"`. -/
def decoder : Decoder Destination :=
  Decoder.external
    [("block", .newtype fun c => (Decoder.string c).map .block),
     ("section", .newtype fun c => (Decoder.string c).map .section),
     ("summary", .unit .summary)]

end Destination

namespace RoutingRule

/-- A routing rule as JSON. -/
def toJson (r : RoutingRule) : Json :=
  .object (optionalMember "when" Predicate.toJson r.when? ++ [("goto", r.goto.toJson)])

/-- A routing rule read from its optional condition and destination. -/
def decoder : Decoder RoutingRule :=
  Decoder.record "struct RoutingRule"
    [Field.of "when" true (Decoder.optional Predicate.decoder) fun (_, g) w => (w, g),
     Field.of "goto" false Destination.decoder fun (w, _) g => (w, some g)]
    ((none : Option Predicate), (none : Option Destination))
    (fun (w, g) => do pure ⟨w, ← need "goto" g⟩) false

end RoutingRule

namespace Comparison

/-- The comparison's name. -/
def name : Comparison → String
  | .equal => "equal"
  | .lessThan => "less_than"
  | .lessThanOrEqual => "less_than_or_equal"
  | .greaterThan => "greater_than"
  | .greaterThanOrEqual => "greater_than_or_equal"

/-- A comparison read from its name. -/
def decoder : Decoder Comparison :=
  Decoder.external
    [("equal", .unit .equal), ("less_than", .unit .lessThan),
     ("less_than_or_equal", .unit .lessThanOrEqual), ("greater_than", .unit .greaterThan),
     ("greater_than_or_equal", .unit .greaterThanOrEqual)]

end Comparison

namespace CalculatedRule

/-- A calculated rule as JSON. -/
def toJson (r : CalculatedRule) : Json :=
  .object ([("id", .string r.id), ("sources", .array (r.sources.map .string)),
    ("target", r.target.toJson), ("comparison", .string r.comparison.name)] ++
    optionalMember "label" .string r.label)

/-- The fields of a calculated rule being read. -/
structure Draft where
  id : Option RuleId
  sources : Option (List SlotId)
  target : Option Decimal
  comparison : Comparison
  label : Option String

/-- A calculated rule read from its fields. -/
def decoder : Decoder CalculatedRule :=
  Decoder.record "struct CalculatedRule"
    [Field.of "id" false Decoder.string fun (d : Draft) v => { d with id := some v },
     Field.of "sources" false (Decoder.list Decoder.string)
       fun (d : Draft) v => { d with sources := some v },
     Field.of "target" false Decimal.decoder fun (d : Draft) v => { d with target := some v },
     Field.of "comparison" true Comparison.decoder fun (d : Draft) v => { d with comparison := v },
     Field.of "label" true (Decoder.optional Decoder.string)
       fun (d : Draft) v => { d with label := v }]
    ⟨none, none, none, .equal, none⟩
    (fun (d : Draft) => do
      pure ⟨← need "id" d.id, ← need "sources" d.sources, ← need "target" d.target,
        d.comparison, d.label⟩) false

end CalculatedRule

namespace CalculationOutcome

/-- The outcome's name. -/
def name : CalculationOutcome → String
  | .matches => "matches"
  | .pending => "pending"
  | .mismatch => "mismatch"

/-- An outcome read from its name. -/
def decoder : Decoder CalculationOutcome :=
  Decoder.external [("matches", .unit .matches), ("pending", .unit .pending),
    ("mismatch", .unit .mismatch)]

end CalculationOutcome

/-- A slot and its value or `null`, as a pair. -/
def sourceJson (source : SlotId × Option AnswerValue) : Json :=
  .array [.string source.1, optionalJson AnswerValue.toJson source.2]

namespace CalculatedTotal

/-- A total as JSON. -/
def toJson (t : CalculatedTotal) : Json :=
  .object [("total", t.total.toJson), ("outcome", .string t.outcome.name),
    ("sources", .array (t.sources.map sourceJson))]

/-- A total read from its sum, outcome and source values. -/
def decoder : Decoder CalculatedTotal :=
  Decoder.record "struct CalculatedTotal"
    [Field.of "total" false Decimal.decoder fun (_, o, s) v => (some v, o, s),
     Field.of "outcome" false CalculationOutcome.decoder fun (t, _, s) v => (t, some v, s),
     Field.of "sources" false
       (Decoder.list (Decoder.pair Decoder.string (Decoder.optional AnswerValue.decoder)))
       fun (t, o, _) v => (t, o, some v)]
    ((none : Option Decimal), (none : Option CalculationOutcome),
      (none : Option (List (SlotId × Option AnswerValue))))
    (fun (t, o, s) => do pure ⟨← need "total" t, ← need "outcome" o, ← need "sources" s⟩) false

end CalculatedTotal

namespace CalculatedTotals

/-- Recorded totals as JSON, by rule. -/
def toJson (t : CalculatedTotals) : Json :=
  .object [("totals", .object (t.totals.map fun (k, v) => (k, v.toJson)))]

/-- Recorded totals read from an object by rule. -/
def decoder : Decoder CalculatedTotals :=
  Decoder.record "struct CalculatedTotals"
    [Field.of "totals" false (Decoder.map CalculatedTotal.decoder) fun _ v => some v] none
    (fun v => do pure ⟨← need "totals" v⟩) false

end CalculatedTotals

end Survey
