import Mathlib
import Survey.Rule.Calculation

/-!
# Calculated totals are exact sums, up to overflow

A decimal denotes the rational `units / 10 ^ scale` (`Decimal.value`). A successful addition
adds values and keeps the larger scale (`Decimal.add_eq_some`), and adding two nonnegative
decimals succeeds whenever their sum, written at a scale of at most 38 that bounds both, fits a
signed 128-bit word (`Decimal.add_of_fits`).

A calculated total adds the contributions of its sources in order, from zero, and skips a source
whose addition overflows, keeping the sum so far. So:

* `sumContributions_value` — the total plus the contributions of the skipped sources is the exact
  sum over all sources, repeats counted;
* `sumContributions_nonneg` — the total is never negative, since no contribution is;
* `sumContributions_of_fits` — nothing is skipped while the exact sum, written at the largest
  scale among the contributions, fits a word and that scale is at most 38: the total is then
  exactly that sum at that scale, whatever the order of the sources;
* `total_exact_unless_overflow` — the rule's total and its judgement, assembled from these: when
  the exact sum fits, the total is that sum written at the largest scale among the
  contributions (`CalculatedRule.totalOf_of_sumFits`).

Outside those bounds the order matters: two sources of `10^20 - 1` and one of `10^-18` total
`2·10^20 - 2` in that order, the last addition overflowing, and `10^20 - 1 + 10^-18` the other
way round (`total_skips_overflow`).
-/

namespace Survey

namespace Decimal

/-- The number a decimal denotes. -/
def value (d : Decimal) : ℚ := d.units / 10 ^ d.scale

@[simp] theorem zero_value : zero.value = 0 := by simp [value, zero]

theorem isNegative_eq_false {d : Decimal} : d.isNegative = false ↔ 0 ≤ d.units := by
  unfold isNegative
  simp

theorem value_nonneg {d : Decimal} (nonneg : 0 ≤ d.units) : 0 ≤ d.value := by
  unfold value
  positivity

/-- The units of a decimal widened to a larger scale are its value at that scale. -/
theorem cast_widened {d : Decimal} {s : Nat} (le : d.scale ≤ s) :
    ((d.units * 10 ^ (s - d.scale) : Int) : ℚ) = d.value * 10 ^ s := by
  have split : (10 : ℚ) ^ s = 10 ^ (s - d.scale) * 10 ^ d.scale := by
    rw [← pow_add, Nat.sub_add_cancel le]
  rw [value, split]
  push_cast
  field_simp

/-- A nonnegative integer fits a word when it is at most the largest word. -/
theorem fitsWord_of_nonneg {i : Int} (nonneg : 0 ≤ i) (le : (i : ℚ) ≤ wordMax) :
    fitsWord i = true := by
  have lower : wordMin ≤ 0 := by decide
  have upper : i ≤ wordMax := by exact_mod_cast le
  simp [fitsWord, lower.trans nonneg, upper]

/-- Widening to scale `s`: the scale grows, by at most 38 places, and the widened units fit. -/
theorem rescaled_eq_some_iff {d : Decimal} {s : Nat} {u : Int} :
    d.rescaled s = some u ↔
      d.scale ≤ s ∧ s - d.scale ≤ 38 ∧ u = d.units * 10 ^ (s - d.scale) ∧ fitsWord u = true := by
  unfold rescaled
  by_cases narrower : s < d.scale
  · simp [narrower]
  by_cases far : 38 < s - d.scale
  · simp only [narrower, far, if_false, if_true, reduceCtorEq, false_iff]
    omega
  simp only [narrower, far, if_false, Int.pow_eq]
  constructor
  · intro widened
    split at widened
    · cases widened
      exact ⟨by omega, by omega, rfl, ‹_›⟩
    · cases widened
  · rintro ⟨-, -, rfl, fits⟩
    simp [fits]

/-- An addition succeeds when both sides widen to the larger scale and the sum fits. -/
theorem add_eq_some_iff {a b c : Decimal} :
    a.add b = some c ↔ ∃ x y, a.rescaled (max a.scale b.scale) = some x ∧
      b.rescaled (max a.scale b.scale) = some y ∧ fitsWord (x + y) = true ∧
      c = ⟨x + y, max a.scale b.scale⟩ := by
  simp only [add, bind, Option.bind_eq_some_iff]
  constructor
  · rintro ⟨x, hx, y, hy, sum⟩
    split at sum
    · cases sum
      exact ⟨x, y, hx, hy, ‹_›, rfl⟩
    · cases sum
  · rintro ⟨x, y, hx, hy, fits, rfl⟩
    exact ⟨x, hx, y, hy, by simp [fits]⟩

theorem rescaled_value {d : Decimal} {s : Nat} {u : Int} (widened : d.rescaled s = some u) :
    (u : ℚ) = d.value * 10 ^ s := by
  obtain ⟨le, -, rfl, -⟩ := rescaled_eq_some_iff.mp widened
  exact cast_widened le

/-- **A successful addition is exact**: its value is the sum of the values, at the larger scale. -/
theorem add_eq_some {a b c : Decimal} (sum : a.add b = some c) :
    c.scale = max a.scale b.scale ∧ c.value = a.value + b.value := by
  obtain ⟨x, y, wideA, wideB, -, rfl⟩ := add_eq_some_iff.mp sum
  refine ⟨rfl, ?_⟩
  have pos : (0 : ℚ) < 10 ^ max a.scale b.scale := by positivity
  show ((x + y : Int) : ℚ) / 10 ^ max a.scale b.scale = a.value + b.value
  rw [div_eq_iff pos.ne', add_mul, Int.cast_add, rescaled_value wideA, rescaled_value wideB]

/-- A successful addition of nonnegative decimals is nonnegative. -/
theorem add_units_nonneg {a b c : Decimal} (sum : a.add b = some c) (ha : 0 ≤ a.units)
    (hb : 0 ≤ b.units) : 0 ≤ c.units := by
  obtain ⟨-, value_eq⟩ := add_eq_some sum
  have total : 0 ≤ c.value := value_eq ▸ add_nonneg (value_nonneg ha) (value_nonneg hb)
  have pos : (0 : ℚ) < 10 ^ c.scale := by positivity
  have cast : (0 : ℚ) ≤ c.units := by
    rw [value, le_div_iff₀ pos, zero_mul] at total
    exact total
  exact_mod_cast cast

/-- Two decimals of one scale and one value are equal. -/
theorem ext_of_value {a b : Decimal} (scale : a.scale = b.scale) (same : a.value = b.value) :
    a = b := by
  have pos : (0 : ℚ) < 10 ^ a.scale := by positivity
  have units : (a.units : ℚ) = b.units := by
    rw [value, value, ← scale, div_left_inj' pos.ne'] at same
    exact same
  obtain ⟨au, as⟩ := a
  obtain ⟨bu, bs⟩ := b
  simp only at scale units
  rw [scale, Int.cast_inj.mp units]

/-- **Adding nonnegative decimals succeeds within the word**: when their exact sum, written at a
scale `s ≤ 38` that bounds both scales, fits a signed 128-bit word. -/
theorem add_of_fits {a b : Decimal} {s : Nat} (ha : 0 ≤ a.units) (hb : 0 ≤ b.units)
    (sa : a.scale ≤ s) (sb : b.scale ≤ s) (small : s ≤ 38)
    (fits : (a.value + b.value) * 10 ^ s ≤ wordMax) : ∃ c, a.add b = some c := by
  set m := max a.scale b.scale
  have ms : m ≤ s := max_le sa sb
  have va := value_nonneg ha
  have vb := value_nonneg hb
  -- Each side, and the sum, written at `m`, is at most the sum at `s`, which fits.
  have scaled : (a.value + b.value) * 10 ^ m ≤ wordMax :=
    le_trans (mul_le_mul_of_nonneg_left (pow_le_pow_right₀ (by norm_num) ms) (by positivity)) fits
  have wideA : a.rescaled m = some (a.units * 10 ^ (m - a.scale)) := by
    refine rescaled_eq_some_iff.mpr ⟨le_max_left _ _, by omega, rfl, fitsWord_of_nonneg (by positivity) ?_⟩
    rw [cast_widened (le_max_left _ _)]
    nlinarith [pow_pos (show (0 : ℚ) < 10 by norm_num) m]
  have wideB : b.rescaled m = some (b.units * 10 ^ (m - b.scale)) := by
    refine rescaled_eq_some_iff.mpr ⟨le_max_right _ _, by omega, rfl, fitsWord_of_nonneg (by positivity) ?_⟩
    rw [cast_widened (le_max_right _ _)]
    nlinarith [pow_pos (show (0 : ℚ) < 10 by norm_num) m]
  refine ⟨_, add_eq_some_iff.mpr ⟨_, _, wideA, wideB, fitsWord_of_nonneg (by positivity) ?_, rfl⟩⟩
  rw [Int.cast_add, cast_widened (le_max_left _ _), cast_widened (le_max_right _ _), ← add_mul]
  exact scaled

end Decimal

/-- A number kept only when it is not negative is never negative. -/
theorem units_nonneg_unless_negative (n : Decimal) :
    0 ≤ (if n.isNegative then Decimal.zero else n).units := by
  by_cases negative : n.isNegative
  · simp [negative, Decimal.zero]
  · simp only [negative, Bool.false_eq_true, if_false]
    exact Decimal.isNegative_eq_false.mp (Bool.eq_false_iff.mpr negative)

/-- A contribution is never negative. -/
theorem contribution_units_nonneg (answer : Option AnswerValue) :
    0 ≤ (contribution answer).units := by
  unfold contribution
  split
  · exact units_nonneg_unless_negative _
  · split
    · exact units_nonneg_unless_negative _
    · exact le_refl 0
  · exact le_refl 0

/-! ### Summing the contributions -/

section Sum

variable (answers : Lookup)

/-- The exact sum of the contributions of some slots, repeats counted. -/
def contributionSum (slots : List SlotId) : ℚ := (slots.map fun s => (contribution (answers s)).value).sum

/-- The largest scale among the contributions of some slots; zero for none. -/
def contributionScale (slots : List SlotId) : Nat :=
  (slots.map fun s => (contribution (answers s)).scale).foldr max 0

@[simp] theorem contributionSum_cons (slot : SlotId) (rest : List SlotId) :
    contributionSum answers (slot :: rest) =
      (contribution (answers slot)).value + contributionSum answers rest := by
  simp [contributionSum]

@[simp] theorem contributionScale_cons (slot : SlotId) (rest : List SlotId) :
    contributionScale answers (slot :: rest) =
      max (contribution (answers slot)).scale (contributionScale answers rest) := by
  simp [contributionScale]

theorem contributionSum_nonneg (slots : List SlotId) : 0 ≤ contributionSum answers slots := by
  induction slots with
  | nil => simp [contributionSum]
  | cons slot rest ih =>
    rw [contributionSum_cons]
    exact add_nonneg (Decimal.value_nonneg (contribution_units_nonneg _)) ih

/-- **The total plus the skipped contributions is the exact sum**: every source is either added
or skipped. -/
theorem sumContributions_value (total : Decimal) (slots : List SlotId) :
    (sumContributions answers total slots).1.value +
        contributionSum answers (sumContributions answers total slots).2 =
      total.value + contributionSum answers slots := by
  induction slots generalizing total with
  | nil => simp [sumContributions, contributionSum]
  | cons slot rest ih =>
    unfold sumContributions
    split
    · next sum added =>
      rw [ih sum, (Decimal.add_eq_some added).2, contributionSum_cons]
      ring
    · -- A skipped source keeps the total and joins the skipped ones.
      have kept := ih total
      generalize sumContributions answers total rest = later at kept ⊢
      obtain ⟨final, skipped⟩ := later
      simp only [contributionSum_cons] at kept ⊢
      linarith

/-- The skipped sources are some of the sources, in order. -/
theorem sumContributions_skipped_sublist (total : Decimal) (slots : List SlotId) :
    (sumContributions answers total slots).2.Sublist slots := by
  induction slots generalizing total with
  | nil => simp [sumContributions]
  | cons slot rest ih =>
    unfold sumContributions
    split
    · exact (ih _).cons slot
    · exact (ih total).cons_cons slot

/-- **A total is never negative.** -/
theorem sumContributions_nonneg {total : Decimal} (nonneg : 0 ≤ total.units) (slots : List SlotId) :
    0 ≤ (sumContributions answers total slots).1.units := by
  induction slots generalizing total with
  | nil => simpa [sumContributions] using nonneg
  | cons slot rest ih =>
    unfold sumContributions
    split
    · next sum added =>
      exact ih (Decimal.add_units_nonneg added nonneg (contribution_units_nonneg _))
    · exact ih nonneg

/-- **Nothing is skipped while the exact sum fits**: from a nonnegative total at a scale of at
most `s ≤ 38`, with every contribution at most at scale `s` and the final exact sum fitting a
word at `s`, every addition succeeds; the total is the exact sum at the largest scale met. -/
theorem sumContributions_of_fits {s : Nat} (small : s ≤ 38) {total : Decimal}
    (nonneg : 0 ≤ total.units) (le : total.scale ≤ s) {slots : List SlotId}
    (scales : ∀ slot ∈ slots, (contribution (answers slot)).scale ≤ s)
    (fits : (total.value + contributionSum answers slots) * 10 ^ s ≤ Decimal.wordMax) :
    (sumContributions answers total slots).2 = [] ∧
      (sumContributions answers total slots).1.scale =
        max total.scale (contributionScale answers slots) := by
  induction slots generalizing total with
  | nil => simp [sumContributions, contributionScale]
  | cons slot rest ih =>
    have part := contribution_units_nonneg (answers slot)
    have restNonneg := contributionSum_nonneg answers rest
    -- The first addition fits, as its sum is at most the whole sum.
    have firstFits : (total.value + (contribution (answers slot)).value) * 10 ^ s ≤
        Decimal.wordMax := by
      refine le_trans ?_ fits
      rw [contributionSum_cons]
      gcongr
      linarith
    obtain ⟨sum, added⟩ :=
      Decimal.add_of_fits nonneg part le (scales slot List.mem_cons_self) small firstFits
    obtain ⟨sumScale, sumValue⟩ := Decimal.add_eq_some added
    have later := ih (Decimal.add_units_nonneg added nonneg part)
      (by rw [sumScale]; exact max_le le (scales slot List.mem_cons_self))
      (fun slot' member => scales slot' (List.mem_cons_of_mem slot member))
      (by rw [sumValue, add_assoc, ← contributionSum_cons]; exact fits)
    unfold sumContributions
    rw [added]
    refine ⟨later.1, ?_⟩
    rw [later.2, sumScale, contributionScale_cons, max_assoc]

theorem contributionSum_perm {slots slots' : List SlotId} (perm : slots'.Perm slots) :
    contributionSum answers slots' = contributionSum answers slots :=
  (perm.map _).sum_eq

theorem contributionScale_perm {slots slots' : List SlotId} (perm : slots'.Perm slots) :
    contributionScale answers slots' = contributionScale answers slots :=
  (perm.map _).foldr_op_eq

theorem contributionScale_ge {slots : List SlotId} :
    ∀ slot ∈ slots, (contribution (answers slot)).scale ≤ contributionScale answers slots := by
  induction slots with
  | nil => simp
  | cons slot rest ih =>
    intro slot' member
    rw [contributionScale_cons]
    rcases List.mem_cons.mp member with rfl | later
    · exact le_max_left _ _
    · exact (ih slot' later).trans (le_max_right _ _)

end Sum

namespace CalculatedRule

/-- The exact sum of the rule's contributions, over its sources in order, repeats counted. -/
def exactSum (rule : CalculatedRule) (answers : Lookup) : ℚ := contributionSum answers rule.sources

/-- The exact sum is within reach of the word arithmetic: the largest scale among the
contributions is at most 38, and the sum written at that scale fits a signed 128-bit word. -/
def SumFits (rule : CalculatedRule) (answers : Lookup) : Prop :=
  contributionScale answers rule.sources ≤ 38 ∧
    rule.exactSum answers * 10 ^ contributionScale answers rule.sources ≤ Decimal.wordMax

/-- The total of a rule whose exact sum fits skips nothing, and is that sum at the largest
scale among the contributions. -/
theorem totalOf_of_sumFits {rule : CalculatedRule} {answers : Lookup} (fits : rule.SumFits answers) :
    (rule.totalOf answers).2 = [] ∧
      (rule.totalOf answers).1.scale = contributionScale answers rule.sources ∧
      (rule.totalOf answers).1.value = rule.exactSum answers := by
  obtain ⟨skipped, scale⟩ := sumContributions_of_fits answers fits.1 (le_refl (0 : Int))
    (Nat.zero_le _) (contributionScale_ge answers) (by rw [Decimal.zero_value, zero_add]; exact fits.2)
  have value := sumContributions_value answers Decimal.zero rule.sources
  rw [skipped, Decimal.zero_value, zero_add] at value
  refine ⟨skipped, ?_, ?_⟩
  · rw [totalOf, scale]
    exact Nat.zero_max _
  · simpa [contributionSum, exactSum, totalOf] using value

end CalculatedRule

/-- **Calculated totals are exact sums, up to overflow.** For every rule and every way of looking
up answers: the total is never negative; the sources skipped because their addition overflowed
are some of the sources, in order, and the total plus their contributions is the exact sum of
all contributions. When that sum fits the word at the largest scale among the contributions
(at most 38), nothing is skipped, the total is the exact sum at that scale, and any order of the
same sources gives the same total. The rule is judged by its comparison of that total with its target. -/
theorem total_exact_unless_overflow (rule : CalculatedRule) (answers : Lookup) :
    (rule.totalOf answers).1.isNegative = false ∧
      (rule.totalOf answers).2.Sublist rule.sources ∧
      (rule.totalOf answers).1.value + contributionSum answers (rule.totalOf answers).2 =
        rule.exactSum answers ∧
      (rule.SumFits answers →
        (rule.totalOf answers).2 = [] ∧
          (rule.totalOf answers).1.scale = contributionScale answers rule.sources ∧
          (rule.totalOf answers).1.value = rule.exactSum answers ∧
          ∀ other : CalculatedRule, other.sources.Perm rule.sources →
            (other.totalOf answers).1 = (rule.totalOf answers).1) ∧
      (rule.evaluate answers).total = (rule.totalOf answers).1 ∧
      ((rule.evaluate answers).outcome = .matches ↔
        rule.comparison.holds (rule.totalOf answers).1 rule.target = true) ∧
      ((rule.evaluate answers).outcome = .mismatch ↔
        rule.comparison.holds (rule.totalOf answers).1 rule.target = false) := by
  have nonneg :=
    sumContributions_nonneg answers (show (0 : Int) ≤ Decimal.zero.units from le_refl 0) rule.sources
  have value := sumContributions_value answers Decimal.zero rule.sources
  rw [Decimal.zero_value, zero_add] at value
  refine ⟨Decimal.isNegative_eq_false.mpr nonneg,
    sumContributions_skipped_sublist answers _ _, value, fun fits => ?_, rfl, ?_, ?_⟩
  · obtain ⟨skipped, scale, exact⟩ := CalculatedRule.totalOf_of_sumFits fits
    refine ⟨skipped, scale, exact, fun other perm => ?_⟩
    -- The largest scale and the exact sum do not see the order of the sources.
    have sameScale := contributionScale_perm answers perm
    have sameSum : other.exactSum answers = rule.exactSum answers :=
      contributionSum_perm answers perm
    have otherFits : other.SumFits answers := by
      simpa only [CalculatedRule.SumFits, sameScale, sameSum] using fits
    obtain ⟨-, otherScale, otherExact⟩ := CalculatedRule.totalOf_of_sumFits otherFits
    exact Decimal.ext_of_value (by rw [otherScale, scale, sameScale])
      (by rw [otherExact, exact, sameSum])
  · simp only [CalculatedRule.evaluate]
    split <;> simp_all
  · simp only [CalculatedRule.evaluate]
    split <;> simp_all

/-- The four percentages of a breakdown, `10 + 20 + 30 + 40`, are summed exactly, at the one
place of `30.0`. -/
theorem total_exact_unless_overflow_breakdown :
    let answers : Lookup := fun slot =>
      if slot = "p1" then some (.number ⟨10, 0⟩) else if slot = "p2" then some (.text " 20.0 ")
      else if slot = "p3" then some (.number ⟨300, 1⟩) else some (.number ⟨40, 0⟩)
    let rule : CalculatedRule := ⟨"total", ["p1", "p2", "p3", "p4"], ⟨100, 0⟩, .equal, none⟩
    rule.SumFits answers ∧ (rule.totalOf answers).1.scale = 1 ∧
      (rule.totalOf answers).1.value = rule.exactSum answers := by
  intro answers rule
  have parts : rule.sources.map (fun s => contribution (answers s)) =
      [⟨10, 0⟩, ⟨200, 1⟩, ⟨300, 1⟩, ⟨40, 0⟩] := by decide
  have scale : contributionScale answers rule.sources = 1 := by decide
  have sum : rule.exactSum answers = 100 := by
    have values : rule.sources.map (fun s => (contribution (answers s)).value) =
        [(⟨10, 0⟩ : Decimal), ⟨200, 1⟩, ⟨300, 1⟩, ⟨40, 0⟩].map Decimal.value := by
      rw [← parts, List.map_map]
      rfl
    simp only [CalculatedRule.exactSum, contributionSum, values]
    norm_num [Decimal.value]
  have fits : rule.SumFits answers := by
    rw [CalculatedRule.SumFits, scale, sum]
    norm_num [Decimal.wordMax]
  obtain ⟨-, atScale, exact, -⟩ := (total_exact_unless_overflow rule answers).2.2.2.1 fits
  exact ⟨fits, atScale.trans scale, exact⟩

/-- Two sources of `10^20 - 1` and one of `10^-18`: in this order the last addition overflows
and is skipped, and the other way round the last `10^20 - 1` is. -/
theorem total_skips_overflow :
    let answers : Lookup := fun slot =>
      if slot = "b" then some (.number ⟨1, 18⟩) else some (.number ⟨99999999999999999999, 0⟩)
    let rule : CalculatedRule := ⟨"t", ["a", "a", "b"], Decimal.zero, .greaterThan, none⟩
    (rule.totalOf answers).1.value ≠ rule.exactSum answers ∧
      ({ rule with sources := ["b", "a", "a"] }.totalOf answers).1 ≠ (rule.totalOf answers).1 := by
  intro answers rule
  have inOrder : rule.totalOf answers = (⟨199999999999999999998, 0⟩, ["b"]) := by decide
  have reversed : ({ rule with sources := ["b", "a", "a"] }.totalOf answers) =
      (⟨99999999999999999999000000000000000001, 18⟩, ["a"]) := by decide
  refine ⟨?_, by rw [inOrder, reversed]; decide⟩
  rw [inOrder]
  simp [CalculatedRule.exactSum, contributionSum, contribution, answers, rule, Decimal.value,
    Decimal.isNegative]
  norm_num

end Survey
