import Survey.Answer.Store
import Survey.Decimal.Text

/-!
# Predicates over answers

A predicate is a condition over the current answers, as routing rules and question variants
use it. A literal is the number or text an answer is compared with.

* `Literal.accepts` — text answers compare as numbers when both sides read as numbers, so the
  radio option `"10"` matches the literal `10`, and a list of ticked options matches a text
  literal when it holds exactly that option.
* `Predicate.evaluate` — evaluated left to right over a lookup of answers; `all` and `any`
  stop at the first deciding rule. An unanswered slot makes `equals`, `in`, `contains` and the
  numeric comparisons false, and their negations true.
* `Predicate.slots` — every slot the predicate reads, in the order it reads them, so a schema
  can check each one exists.
-/

namespace Survey

/-- The number or text an answer is compared with. -/
inductive Literal where
  | number (value : Decimal)
  | text (value : String)
  deriving DecidableEq, Repr, Inhabited

namespace Literal

/-- Whether an answer equals the literal. -/
def accepts : Literal → AnswerValue → Bool
  | .text t, .text a | .text t, .choice a => t == a
  | .text t, .choices a => a == [t]
  | .text t, .number a => (Decimal.read? t).any (·.sameValue a)
  | .number n, .number a => n.sameValue a
  | .number n, .text a | .number n, .choice a => (Decimal.read? a).any (·.sameValue n)
  | _, _ => false

end Literal

/-- A condition over the current answers. -/
inductive Predicate where
  /-- The answer equals the literal; false when unanswered. -/
  | equals (slot : SlotId) (value : Literal)
  /-- The negation of `equals`. -/
  | notEquals (slot : SlotId) (value : Literal)
  /-- The answer equals one of the literals. -/
  | isIn (slot : SlotId) (values : List Literal)
  /-- The negation of `isIn`. -/
  | notIn (slot : SlotId) (values : List Literal)
  /-- The ticked options include the value, or the chosen option is it. -/
  | contains (slot : SlotId) (value : String)
  /-- The slot has an answer. -/
  | answered (slot : SlotId)
  /-- The slot has no answer. -/
  | unanswered (slot : SlotId)
  /-- The answer, read as a number, is greater than the value. -/
  | greaterThan (slot : SlotId) (value : Decimal)
  /-- The answer, read as a number, is less than the value. -/
  | lessThan (slot : SlotId) (value : Decimal)
  /-- Every rule holds. -/
  | all (rules : List Predicate)
  /-- Some rule holds. -/
  | any (rules : List Predicate)
  /-- The rule does not hold. -/
  | not (rule : Predicate)
  deriving Repr, Inhabited

mutual

/-- Whether two predicates are the same rule, written the same way. -/
def Predicate.same : Predicate → Predicate → Bool
  | .equals s v, .equals t w | .notEquals s v, .notEquals t w => s == t && v == w
  | .isIn s vs, .isIn t ws | .notIn s vs, .notIn t ws => s == t && vs == ws
  | .contains s v, .contains t w => s == t && v == w
  | .answered s, .answered t | .unanswered s, .unanswered t => s == t
  | .greaterThan s v, .greaterThan t w | .lessThan s v, .lessThan t w => s == t && v == w
  | .all rs, .all qs | .any rs, .any qs => Predicate.sameAll rs qs
  | .not r, .not q => Predicate.same r q
  | _, _ => false

/-- Whether two lists of predicates are the same, rule by rule. -/
def Predicate.sameAll : List Predicate → List Predicate → Bool
  | [], [] => true
  | r :: rs, q :: qs => Predicate.same r q && Predicate.sameAll rs qs
  | _, _ => false

end

instance : BEq Predicate := ⟨Predicate.same⟩

/-- The answer of a slot read as a number: a number, or text or a chosen option that reads as
one. -/
def numericAnswer (answers : Lookup) (slot : SlotId) : Option Decimal :=
  match answers slot with
  | some (.number n) => some n
  | some (.text t) | some (.choice t) => Decimal.read? t
  | _ => none

namespace Predicate

/-- Whether the slot's answer equals one of the literals. -/
def matchesAny (answers : Lookup) (slot : SlotId) (values : List Literal) : Bool :=
  (answers slot).any fun a => values.any (·.accepts a)

mutual

/-- Whether the predicate holds for the answers. -/
def evaluate (answers : Lookup) : Predicate → Bool
  | .equals slot value => (answers slot).any value.accepts
  | .notEquals slot value => !(answers slot).any value.accepts
  | .isIn slot values => matchesAny answers slot values
  | .notIn slot values => !matchesAny answers slot values
  | .contains slot value =>
    match answers slot with
    | some (.choices cs) => cs.contains value
    | some (.choice c) => c == value
    | _ => false
  | .answered slot => (answers slot).isSome
  | .unanswered slot => (answers slot).isNone
  | .greaterThan slot value => (numericAnswer answers slot).any fun a => value.lt a
  | .lessThan slot value => (numericAnswer answers slot).any fun a => a.lt value
  | .all rules => allHold answers rules
  | .any rules => anyHolds answers rules
  | .not rule => !evaluate answers rule

/-- Whether every rule holds, checked in order. -/
def allHold (answers : Lookup) : List Predicate → Bool
  | [] => true
  | r :: rs => evaluate answers r && allHold answers rs

/-- Whether some rule holds, checked in order. -/
def anyHolds (answers : Lookup) : List Predicate → Bool
  | [] => false
  | r :: rs => evaluate answers r || anyHolds answers rs

end

mutual

/-- The slots the predicate reads, in reading order. -/
def slots : Predicate → List SlotId
  | .equals slot _ | .notEquals slot _ | .isIn slot _ | .notIn slot _ | .contains slot _
  | .answered slot | .unanswered slot | .greaterThan slot _ | .lessThan slot _ => [slot]
  | .all rules | .any rules => slotsOfRules rules
  | .not rule => slots rule

/-- The slots read by a list of rules, in order. -/
def slotsOfRules : List Predicate → List SlotId
  | [] => []
  | r :: rs => slots r ++ slotsOfRules rs

end

end Predicate

end Survey
