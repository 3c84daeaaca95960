import Survey.Answer.Slot
import Survey.Decimal.Text

/-!
# Showing answers

How a stored answer is shown on the review page, given its slot:

* a number with the slot's places (when it can be widened to them) and unit: `15%`, `£9.50`;
* a date by its components: `1 December 2016`, `March 2018`, `2018`, a missing or unknown
  month shown as nothing;
* a chosen option by its label, ticked options by their labels joined with `, `, and the
  exclusive option by its label;
* any value that does not fit its slot (such as raw text in a numeric slot) as itself.

`DisplayValue` is what a question shows: the text of its answered slots, or nothing, which is
shown as a placeholder (by default "No answer provided").
-/

namespace Survey

/-- What a question shows on the review page. -/
inductive DisplayValue where
  | provided (text : String)
  | noAnswer
  deriving DecidableEq, Repr

/-- The default placeholder for a question without an answer. -/
def noAnswerProvided : String := "No answer provided"

namespace DisplayValue

/-- The text shown, `placeholder` standing in for no answer. -/
def text (v : DisplayValue) (placeholder : String) : String :=
  match v with
  | .provided t => t
  | .noAnswer => placeholder

/-- Whether there is an answer to show. -/
def isProvided : DisplayValue → Bool
  | .provided _ => true
  | .noAnswer => false

end DisplayValue

/-- A date shown by the components a slot collects. -/
def formatDate (components : DateComponents) (date : DateValue) : String :=
  let month := date.monthName.getD ""
  let year := (date.year.map toString).getD ""
  match components with
  | .dayMonthYear =>
    match date.day with
    | some day => toString day ++ " " ++ month ++ " " ++ year
    | none => month ++ " " ++ year
  | .monthYear => month ++ " " ++ year
  | .year => year

/-- The label of a value among options, or the value itself. -/
def optionLabel (options : List ChoiceOption) (value : String) : String :=
  match options.find? (·.value == value) with
  | some o => o.shownLabel
  | none => value

/-- A stored value as shown for its slot. -/
def formatValue (slot : AnswerSlot) (value : AnswerValue) : String :=
  match slot.kind, value with
  | .number settings, .number n =>
    let shown := ((settings.decimalPlaces.bind n.withScale).getD n).render
    match settings.unit with
    | some .percent => shown ++ "%"
    | some (.currency symbol) => symbol ++ shown
    | none => shown
  | .date components, .date d => formatDate components d
  | .radio options, .choice v => optionLabel options v
  | .checkbox options, .choices vs => ", ".intercalate (vs.map (optionLabel options))
  | .exclusive option, .choices _ => option.shownLabel
  | _, .text t => t
  | _, .number n => n.render
  | _, .choice c => c
  | _, .choices cs => ", ".intercalate cs
  | _, .date d => formatDate .dayMonthYear d

end Survey
