import Survey.Answer.Value

/-!
# Answer slots and questions

A question has a title and one or more answer slots; each slot declares what it stores
(`SlotKind`): text, a number (with optional bounds, places shown and unit), a date of given
components, one of several options (radio), any of several options (checkbox), or a single
exclusive option that, when ticked, excludes every other slot of its question.

`AnswerSlot.check` decides whether a value fits the slot: its kind must match, a date must have
exactly the components the slot collects, in range, and every chosen option must be one of the
slot's. A numeric slot summed by a calculation also takes raw text, so that interim input such
as "ten" can be kept until it is corrected.
-/

namespace Survey

/-- Why an answer was refused or could not be read. -/
inductive AnswerError where
  /-- No slot has this id. -/
  | unknownSlot (slot : SlotId)
  /-- The slot has no answer. -/
  | missing (slot : SlotId)
  /-- The value is not of the kind the slot stores. -/
  | invalidType (slot : SlotId) (expected actual : String)
  /-- The value is not one of the slot's options. -/
  | unknownOption (slot : SlotId) (value : String)
  deriving DecidableEq, Repr

namespace AnswerError

/-- The error's name. -/
def kindName : AnswerError → String
  | .unknownSlot _ => "UnknownSlot"
  | .missing _ => "Missing"
  | .invalidType .. => "InvalidType"
  | .unknownOption .. => "UnknownOption"

/-- The error's message. -/
def message : AnswerError → String
  | .unknownSlot slot => "Unknown answer slot: " ++ slot
  | .missing slot => "Missing answer for slot: " ++ slot
  | .invalidType slot expected actual =>
    "Type mismatch for slot '" ++ slot ++ "': expected " ++ expected ++ ", got " ++ actual
  | .unknownOption slot value => "'" ++ value ++ "' is not an option of slot '" ++ slot ++ "'"

end AnswerError

/-- The unit a number is shown with. -/
inductive NumberUnit where
  | percent
  | currency (symbol : String)
  deriving DecidableEq, Repr

/-- Which components a date slot collects. -/
inductive DateComponents where
  | dayMonthYear
  | monthYear
  | year
  deriving DecidableEq, Repr

/-- Whether a date has exactly the components collected, month in 1 to 12 and day in 1 to 31. -/
def DateComponents.fits (components : DateComponents) (value : DateValue) : Bool :=
  let monthOk := value.month.any fun m => 1 ≤ m && m ≤ 12
  let dayOk := value.day.any fun d => 1 ≤ d && d ≤ 31
  let yearOk := value.year.isSome
  match components with
  | .dayMonthYear => dayOk && monthOk && yearOk
  | .monthYear => value.day.isNone && monthOk && yearOk
  | .year => value.day.isNone && value.month.isNone && yearOk

/-- A selectable option: the value stored, and the label shown (the value when absent). -/
structure ChoiceOption where
  value : String
  label : Option String
  deriving DecidableEq, Repr

/-- The label shown for an option. -/
def ChoiceOption.shownLabel (o : ChoiceOption) : String := o.label.getD o.value

/-- An option whose label is its value. -/
def ChoiceOption.plain (value : String) : ChoiceOption := ⟨value, none⟩

/-- Settings of a numeric slot. -/
structure NumberSlot where
  min : Option Decimal
  max : Option Decimal
  /-- Decimal places shown in summaries. -/
  decimalPlaces : Option Nat
  unit : Option NumberUnit
  deriving DecidableEq, Repr

namespace NumberSlot

/-- No bounds, no places, no unit. -/
def plain : NumberSlot := ⟨none, none, none, none⟩

/-- Bounds only. -/
def bounded (min max : Option Decimal) : NumberSlot := ⟨min, max, none, none⟩

/-- A percentage from 0 to 100. -/
def percentage : NumberSlot := ⟨some Decimal.zero, some (Decimal.ofInt 100), none, some .percent⟩

/-- An amount of money shown with two places. -/
def currency (symbol : String) : NumberSlot := ⟨none, none, some 2, some (.currency symbol)⟩

end NumberSlot

/-- What an answer slot stores. -/
inductive SlotKind where
  /-- One line of text, with an optional greatest length in characters. -/
  | textField (maxLength : Option Nat)
  /-- A number, percentage or amount. -/
  | number (settings : NumberSlot)
  /-- A date of the given components. -/
  | date (components : DateComponents)
  /-- Exactly one of the options. -/
  | radio (options : List ChoiceOption)
  /-- Any of the options. -/
  | checkbox (options : List ChoiceOption)
  /-- A single option that excludes every other slot of the question. -/
  | exclusive (option : ChoiceOption)
  deriving DecidableEq, Repr

namespace SlotKind

/-- The kind of value the slot stores, by name. -/
def valueType : SlotKind → String
  | .textField _ => "Text"
  | .number _ => "Number"
  | .date _ => "Date"
  | .radio _ => "Choice"
  | .checkbox _ | .exclusive _ => "Choices"

/-- Whether the slot stores numbers. -/
def isNumeric : SlotKind → Bool
  | .number _ => true
  | _ => false

/-- Whether the slot is the exclusive option of its question. -/
def isExclusive : SlotKind → Bool
  | .exclusive _ => true
  | _ => false

end SlotKind

/-- One answer slot of a question. -/
structure AnswerSlot where
  id : SlotId
  label : String
  kind : SlotKind
  /-- Set when a calculation sums the slot: it then also keeps raw text. -/
  acceptsRawText : Bool
  deriving DecidableEq, Repr

namespace AnswerSlot

/-- A slot of the given kind. -/
def make (id : SlotId) (label : String) (kind : SlotKind) : AnswerSlot := ⟨id, label, kind, false⟩

/-- A free text slot. -/
def text (id : SlotId) (label : String) : AnswerSlot := make id label (.textField none)

/-- A number slot without bounds. -/
def number (id : SlotId) (label : String) : AnswerSlot := make id label (.number .plain)

/-- An exclusive option, labelled by its value. -/
def exclusive (id : SlotId) (option : String) : AnswerSlot :=
  make id option (.exclusive (.plain option))

/-- The first chosen value that is not an option of the list. -/
def unknownChoice (options : List ChoiceOption) : List String → Option String
  | [] => none
  | v :: vs => if options.any (·.value == v) then unknownChoice options vs else some v

/-- Check that a value fits the slot. -/
def check (slot : AnswerSlot) (value : AnswerValue) : Except AnswerError Unit :=
  let mismatch : Except AnswerError Unit :=
    .error (.invalidType slot.id slot.kind.valueType value.typeName)
  let options (os : List ChoiceOption) (vs : List String) : Except AnswerError Unit :=
    match unknownChoice os vs with
    | some v => .error (.unknownOption slot.id v)
    | none => .ok ()
  match slot.kind, value with
  | .textField _, .text _ => .ok ()
  | .number _, .number _ => .ok ()
  | .number _, .text _ => if slot.acceptsRawText then .ok () else mismatch
  | .date components, .date d => if components.fits d then .ok () else mismatch
  | .radio os, .choice v => options os [v]
  | .checkbox os, .choices vs => options os vs
  | .exclusive o, .choices vs =>
    match vs with
    | [v] => if v == o.value then .ok () else .error (.unknownOption slot.id v)
    | _ => .error (.invalidType slot.id "a single ticked option" value.typeName)
  | _, _ => mismatch

end AnswerSlot

/-- A question: a title and its answer slots, in display order. -/
structure Question where
  id : QuestionId
  title : String
  answers : List AnswerSlot
  /-- An unanswered mandatory question blocks submission. -/
  mandatory : Bool
  deriving DecidableEq, Repr

namespace Question

/-- The slot of this id. -/
def answer? (q : Question) (slot : SlotId) : Option AnswerSlot := q.answers.find? (·.id == slot)

/-- The exclusive slot, if any. -/
def exclusiveAnswer? (q : Question) : Option AnswerSlot := q.answers.find? (·.kind.isExclusive)

/-- The slots other than the exclusive one. -/
def nonExclusiveAnswers (q : Question) : List AnswerSlot :=
  q.answers.filter fun s => !s.kind.isExclusive

end Question

end Survey
