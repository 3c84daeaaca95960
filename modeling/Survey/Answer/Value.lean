import Survey.Decimal.Basic

/-!
# Answer values

What a respondent has entered into one answer slot. "No answer" is never a value: an
unanswered slot simply has none.

* `DateValue` — the components of a possibly partial date (day, month, year), each present or
  not, so a month-and-year field holds `March 2018` without a day.
* `AnswerValue` — text, an exact number, a date, the value of the one chosen option, or the
  values of the ticked options.

Two values are the same answer (`AnswerValue.sameValue`) when they are of one kind and hold
the same data, numbers being compared by value, so `10` and `10.00` are the same answer.
-/

namespace Survey

/-- Identifier of an answer slot. -/
abbrev SlotId := String

/-- Identifier of a question. -/
abbrev QuestionId := String

/-- Identifier of a block, the unit of navigation. -/
abbrev BlockId := String

/-- Identifier of a section, a run of blocks. -/
abbrev SectionId := String

/-- Identifier of a calculated rule. -/
abbrev RuleId := String

/-- The components of a possibly partial date: the day and month are bytes, the year a signed
32-bit number. -/
structure DateValue where
  day : Option Nat
  month : Option Nat
  year : Option Int
  deriving DecidableEq, Repr, Inhabited

namespace DateValue

/-- A full date. -/
def full (day month : Nat) (year : Int) : DateValue := ⟨some day, some month, some year⟩

/-- A month of a year. -/
def monthYear (month : Nat) (year : Int) : DateValue := ⟨none, some month, some year⟩

/-- A year on its own. -/
def onlyYear (year : Int) : DateValue := ⟨none, none, some year⟩

/-- The English names of the months, January first. -/
def monthNames : List String :=
  ["January", "February", "March", "April", "May", "June", "July", "August", "September",
   "October", "November", "December"]

/-- The English name of the month, when the month is present and from 1 to 12. -/
def monthName (d : DateValue) : Option String :=
  match d.month with
  | some m => if m = 0 then none else monthNames[m - 1]?
  | none => none

end DateValue

/-- A value held by an answer slot. -/
inductive AnswerValue where
  /-- Free text, or text typed into a numeric slot that tolerates it. -/
  | text (value : String)
  /-- An exact decimal number. -/
  | number (value : Decimal)
  /-- A possibly partial date. -/
  | date (value : DateValue)
  /-- The value of the chosen option. -/
  | choice (value : String)
  /-- The values of the ticked options, in the order given. -/
  | choices (values : List String)
  deriving Repr, Inhabited

namespace AnswerValue

/-- The name of the value's kind, as messages give it. -/
def typeName : AnswerValue → String
  | .text _ => "Text"
  | .number _ => "Number"
  | .date _ => "Date"
  | .choice _ => "Choice"
  | .choices _ => "Choices"

/-- The text, if the value is text. -/
def asText? : AnswerValue → Option String
  | .text s => some s
  | _ => none

/-- The number, if the value is a number. -/
def asNumber? : AnswerValue → Option Decimal
  | .number n => some n
  | _ => none

/-- The date, if the value is a date. -/
def asDate? : AnswerValue → Option DateValue
  | .date d => some d
  | _ => none

/-- The chosen option, if the value is one. -/
def asChoice? : AnswerValue → Option String
  | .choice c => some c
  | _ => none

/-- The ticked options, if the value is a list of them. -/
def asChoices? : AnswerValue → Option (List String)
  | .choices cs => some cs
  | _ => none

/-- Whether two values are the same answer: one kind, equal data, numbers equal by value. -/
def sameValue : AnswerValue → AnswerValue → Bool
  | .text a, .text b => a == b
  | .number a, .number b => a.sameValue b
  | .date a, .date b => a == b
  | .choice a, .choice b => a == b
  | .choices a, .choices b => a == b
  | _, _ => false

end AnswerValue

/-- Whether two optional values are the same: both absent, or both the same answer. -/
def sameAnswer : Option AnswerValue → Option AnswerValue → Bool
  | none, none => true
  | some a, some b => a.sameValue b
  | _, _ => false

end Survey
