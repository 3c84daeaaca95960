import Survey.Answer.Store
import Survey.Decimal.Text

/-!
# Calculated totals

A calculated rule sums some numeric answers and compares the sum with a target (equal to it by
default, or below, at most, above, at least). Sources are read leniently: an absent answer,
text that does not read as a number, anything that is not a number, and a negative number all
add zero; text is trimmed first, so `" 12.5 "` adds `12.5`. Sums are exact at the largest scale
of the addends; when an addition would overflow, that source is skipped and the sum so far
kept (the skipped sources are reported).

A total records the values of its sources, so it can be told later whether the answers have
changed since it was computed (`CalculatedTotal.isCurrent`). The totals recorded when blocks
are submitted are kept per rule (`CalculatedTotals`); the total shown for a rule is the
recorded one while its sources are unchanged, and a fresh total marked pending otherwise.
-/

namespace Survey

/-- How a total is compared with its target. -/
inductive Comparison where
  | equal
  | lessThan
  | lessThanOrEqual
  | greaterThan
  | greaterThanOrEqual
  deriving DecidableEq, Repr, Inhabited

/-- Whether `total` stands in the relation to `target`. -/
def Comparison.holds (comparison : Comparison) (total target : Decimal) : Bool :=
  let order := total.compare target
  match comparison with
  | .equal => order == .eq
  | .lessThan => order == .lt
  | .lessThanOrEqual => order != .gt
  | .greaterThan => order == .gt
  | .greaterThanOrEqual => order != .lt

/-- A total of numeric answers checked against a target. -/
structure CalculatedRule where
  id : RuleId
  /-- The summed slots, in display order. -/
  sources : List SlotId
  target : Decimal
  comparison : Comparison
  /-- Label of the total, such as "Total percentage". -/
  label : Option String
  deriving DecidableEq, Repr

/-- How a total stands against its target. -/
inductive CalculationOutcome where
  | matches
  /-- Not judged since the sources last changed. -/
  | pending
  | mismatch
  deriving DecidableEq, Repr

/-- A computed total with the values of the sources it was computed from. -/
structure CalculatedTotal where
  total : Decimal
  outcome : CalculationOutcome
  sources : List (SlotId × Option AnswerValue)
  deriving Repr

/-- What one answer adds to a total: a number, or text that reads as one once trimmed; zero for
anything else and for negative numbers. -/
def contribution : Option AnswerValue → Decimal
  | some (.number n) => if n.isNegative then Decimal.zero else n
  | some (.text t) =>
    match Decimal.read? t with
    | some n => if n.isNegative then Decimal.zero else n
    | none => Decimal.zero
  | _ => Decimal.zero

/-- Add contributions in order, skipping any whose addition overflows; gives the sum and the
skipped slots. -/
def sumContributions (answers : Lookup) : Decimal → List SlotId → Decimal × List SlotId
  | total, [] => (total, [])
  | total, slot :: rest =>
    match total.add (contribution (answers slot)) with
    | some sum => sumContributions answers sum rest
    | none =>
      let (final, skipped) := sumContributions answers total rest
      (final, slot :: skipped)

namespace CalculatedRule

/-- The sum of the sources, and the sources skipped because adding them overflowed. -/
def totalOf (rule : CalculatedRule) (answers : Lookup) : Decimal × List SlotId :=
  sumContributions answers Decimal.zero rule.sources

/-- The current values of the sources. -/
def sourceValues (rule : CalculatedRule) (answers : Lookup) : List (SlotId × Option AnswerValue) :=
  rule.sources.map fun slot => (slot, answers slot)

/-- The total, judged against the target. -/
def evaluate (rule : CalculatedRule) (answers : Lookup) : CalculatedTotal :=
  let total := (rule.totalOf answers).1
  { total
    outcome := if rule.comparison.holds total rule.target then .matches else .mismatch
    sources := rule.sourceValues answers }

/-- The total, not judged. -/
def pending (rule : CalculatedRule) (answers : Lookup) : CalculatedTotal :=
  { total := (rule.totalOf answers).1, outcome := .pending, sources := rule.sourceValues answers }

/-- Whether the sources still hold the values the total was computed from. -/
def isCurrent (rule : CalculatedRule) (recorded : CalculatedTotal) (answers : Lookup) : Bool :=
  recorded.sources.length == rule.sources.length &&
    recorded.sources.all fun (slot, value) => sameAnswer (answers slot) value

end CalculatedRule

/-- The totals recorded at submission, by rule. -/
structure CalculatedTotals where
  totals : Entries CalculatedTotal
  deriving Repr, Inhabited

namespace CalculatedTotals

/-- No totals. -/
def empty : CalculatedTotals := ⟨[]⟩

/-- Record a rule's total, replacing the one before. -/
def record (t : CalculatedTotals) (rule : RuleId) (total : CalculatedTotal) : CalculatedTotals :=
  ⟨t.totals.insert rule total⟩

/-- The recorded total of a rule. -/
def get? (t : CalculatedTotals) (rule : RuleId) : Option CalculatedTotal := t.totals.lookup rule

/-- Drop a rule's total, giving it. -/
def forget (t : CalculatedTotals) (rule : RuleId) : Option CalculatedTotal × CalculatedTotals :=
  (t.get? rule, ⟨t.totals.erase rule⟩)

/-- The total shown for a rule: the recorded one while its sources are unchanged, else a fresh
pending one; none when nothing is recorded. -/
def current (t : CalculatedTotals) (rule : CalculatedRule) (answers : Lookup) :
    Option CalculatedTotal :=
  (t.get? rule.id).map fun recorded =>
    if rule.isCurrent recorded answers then recorded else rule.pending answers

end CalculatedTotals

end Survey
