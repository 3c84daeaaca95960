import Survey.Schema.Questionnaire

/-!
# Bundled questionnaires

Four questionnaires ship with the library and can be loaded by id:

* `test_total_breakdown` — four percentages that must total exactly 100, then a comment;
* `test_mutually_exclusive` — number, text, currency and month-and-year questions, each with an
  "I prefer not to say" checkbox;
* `census_household` — individual questions routed by age and education, then employment;
* `household_budget` — income (savings asked only of those who have some), then a spending
  breakdown whose total must stay within a monthly limit.
-/

namespace Survey

namespace Catalog

/-- A question that is not mandatory. -/
def question (id : QuestionId) (title : String) (answers : List AnswerSlot) : Question :=
  ⟨id, title, answers, false⟩

/-- A mandatory question. -/
def mandatoryQuestion (id : QuestionId) (title : String) (answers : List AnswerSlot) : Question :=
  ⟨id, title, answers, true⟩

/-- A radio slot over plain options. -/
def radio (id : SlotId) (label : String) (values : List String) : AnswerSlot :=
  AnswerSlot.make id label (.radio (values.map ChoiceOption.plain))

/-- An exclusive slot with its label. -/
def exclusiveAs (id : SlotId) (label option : String) : AnswerSlot :=
  AnswerSlot.make id label (.exclusive (.plain option))

/-- A block with questions and nothing else. -/
def page (id : BlockId) (questions : List Question) : Block :=
  { Block.empty id with questions }

/-- The "I prefer not to say" option. -/
def preferNotToSay : String := "I prefer not to say"

/-- A percentage slot. -/
def percent (id : SlotId) (label : String) : AnswerSlot :=
  AnswerSlot.make id label (.number { NumberSlot.plain with unit := some .percent })

/-- Four percentages that must total exactly 100. -/
def totalBreakdown : QuestionnaireDefinition :=
  ⟨"test_total_breakdown", some "Total breakdown",
    [⟨"default-section", none,
      [{ page "block"
          [question "total-percentage-question"
            "What percentage of your time is spent on each activity?"
            [percent "percentage-1" "Percentage 1", percent "percentage-2" "Percentage 2",
             percent "percentage-3" "Percentage 3", percent "percentage-4" "Percentage 4"]] with
          title := some "Percentage breakdown"
          calculations :=
            [⟨"total-percentage", ["percentage-1", "percentage-2", "percentage-3", "percentage-4"],
              Decimal.ofInt 100, .equal, some "Total percentage"⟩] },
       page "confirmation"
         [question "confirmation-question" "Is there anything else you would like to add?"
           [AnswerSlot.make "confirmation-answer" "Comments" (.textField (some 200))]]]⟩]⟩

/-- Number, text, currency and month-and-year questions with exclusive options. -/
def mutuallyExclusive : QuestionnaireDefinition :=
  let part (id title block questionId questionTitle : String) (slot : AnswerSlot)
      (exclusiveId : SlotId) : Section :=
    ⟨id, some title,
      [page block [question questionId questionTitle
        [slot, exclusiveAs exclusiveId preferNotToSay preferNotToSay]]]⟩
  ⟨"test_mutually_exclusive", some "Mutually exclusive answers",
    [part "number-section" "Number" "mutually-exclusive-number" "number-question"
       "Enter a number" (AnswerSlot.number "number-answer" "Number") "number-exclusive-answer",
     part "textfield-section" "Textfield" "mutually-exclusive-textfield" "textfield-question"
       "What is your favourite colour?" (AnswerSlot.text "textfield-answer" "Colour")
       "textfield-exclusive-answer",
     part "currency-section" "Currency" "mutually-exclusive-currency" "currency-question"
       "How much do you spend on travel each month?"
       (AnswerSlot.make "currency-answer" "Amount" (.number (NumberSlot.currency "£")))
       "currency-exclusive-answer",
     part "month-year-section" "Month Year Date" "mutually-exclusive-month-year-date"
       "month-year-date-question" "When did you move to this address?"
       (AnswerSlot.make "month-year-date-answer" "Date" (.date .monthYear))
       "month-year-date-exclusive-answer"]⟩

/-- Individual questions routed by age and education, then employment. -/
def censusHousehold : QuestionnaireDefinition :=
  let under16 : Predicate := .equals "over-16-answer" (.text "No")
  let yesNo := ["Yes", "No"]
  ⟨"census_household", some "Census household",
    [⟨"individual-section", some "Individual questions",
      [{ page "over-16"
          [mandatoryQuestion "over-16-question" "Are you aged 16 or over?"
            [radio "over-16-answer" "Aged 16 or over" yesNo]] with
          routing := [⟨some under16, .block "in-education"⟩] },
       page "marital-status"
         [question "marital-status-question"
           "What is your legal marital or same-sex civil partnership status?"
           [radio "marital-status-answer" "Marital status"
             ["Never married", "Married", "Separated", "Divorced", "Widowed"]]],
       page "another-address"
         [question "another-address-question"
           "Do you stay at another address for more than 30 days a year?"
           [radio "another-address-answer" "Another address"
             ["No", "Yes, an address within the UK", "Yes, an address outside the UK"]]],
       { page "in-education"
          [question "in-education-question"
            "Are you a schoolchild or student in full-time education?"
            [radio "in-education-answer" "In full-time education" yesNo]] with
          questionVariants :=
            [⟨under16, question "in-education-question"
              "Is the child a schoolchild in full-time education?"
              [radio "in-education-answer" "Child in full-time education" yesNo]⟩]
          routing :=
            [⟨some (.equals "in-education-answer" (.text "Yes")), .block "term-time-location"⟩,
             RoutingRule.always (.block "country-of-birth")] },
       { page "term-time-location"
          [question "term-time-location-question" "During term time, where do you usually live?"
            [radio "term-time-location-answer" "Term time address"
              ["Here, at this address", "Another address"]]] with
          invalidateWhenSkipped := true },
       { page "country-of-birth"
          [question "country-of-birth-question" "What is your country of birth?"
            [radio "country-of-birth-answer" "Country of birth"
              ["England", "Wales", "Scotland", "Northern Ireland", "Republic of Ireland",
               "Elsewhere"]]] with
          routing := [⟨some under16, .summary⟩] }]⟩,
     ⟨"employment-section", some "Employment",
      [page "employment-status"
         [question "employment-status-question" "Last week, were you doing any of the following?"
           [AnswerSlot.make "employment-status-answer" "Employment status"
              (.checkbox (["Working as an employee", "Self-employed or freelance",
                "Temporarily away from work"].map ChoiceOption.plain)),
            exclusiveAs "employment-status-exclusive-answer" "None of these apply"
              "None of these apply"]],
       page "weekly-hours"
         [question "weekly-hours-question"
           "In your main job, how many hours a week do you usually work?"
           [AnswerSlot.make "weekly-hours-answer" "Hours"
             (.number (NumberSlot.bounded (some (Decimal.ofInt 0)) (some (Decimal.ofInt 168))))]]]⟩]⟩

/-- The greatest total of the spending breakdown. -/
def maxMonthlySpending : Int := 10000

/-- An amount in pounds. -/
def pounds (id : SlotId) (label : String) : AnswerSlot :=
  AnswerSlot.make id label (.number (NumberSlot.currency "£"))

/-- A household budget: income, savings, then a spending breakdown. -/
def householdBudget : QuestionnaireDefinition :=
  let sources := ["rent-answer", "food-answer", "travel-answer", "other-answer"]
  ⟨"household_budget", some "Household budget",
    [⟨"income", some "Income",
      [page "monthly-income"
         [mandatoryQuestion "monthly-income-question" "What is your monthly household income?"
           [pounds "monthly-income-answer" "Monthly income"]],
       { page "has-savings"
          [mandatoryQuestion "has-savings-question" "Does your household have any savings?"
            [radio "has-savings-answer" "Savings" ["Yes", "No"]]] with
          routing := [⟨some (.equals "has-savings-answer" (.text "No")), .section "spending"⟩] },
       { page "savings"
          [question "savings-question" "Roughly how much is saved?"
            [pounds "savings-amount-answer" "Amount saved",
             AnswerSlot.exclusive "savings-exclusive-answer" preferNotToSay]] with
          invalidateWhenSkipped := true }]⟩,
     ⟨"spending", some "Spending",
      [{ page "spending-breakdown"
          [question "spending-breakdown-question"
            "How much does your household spend each month on the following?"
            [pounds "rent-answer" "Rent or mortgage", pounds "food-answer" "Food",
             pounds "travel-answer" "Travel", pounds "other-answer" "Everything else"]] with
          calculations :=
            [⟨"spending-total", sources, Decimal.ofInt maxMonthlySpending, .lessThanOrEqual,
              some "Total monthly spending"⟩] }]⟩]⟩

/-- A bundled questionnaire by id, checked. -/
def byId (id : String) : Option (Except SchemaError Questionnaire) :=
  match id with
  | "test_total_breakdown" => some (Questionnaire.ofDefinition totalBreakdown)
  | "test_mutually_exclusive" => some (Questionnaire.ofDefinition mutuallyExclusive)
  | "census_household" => some (Questionnaire.ofDefinition censusHousehold)
  | "household_budget" => some (Questionnaire.ofDefinition householdBudget)
  | _ => none

end Catalog

end Survey
