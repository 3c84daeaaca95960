import Mathlib
import Survey.Proofs.Rule.Totals

/-!
# Exact addition of decimals

Adding two decimals widens both to the larger scale and adds the units, every step in a signed
128-bit word. Widening multiplies by ten to the difference of the scales, a power that must
itself fit the word, and the widened units must fit; so must their sum. The addition fails
exactly when one of these steps leaves the word (`Decimal.AddOverflows`,
`Decimal.add_eq_none_iff`); otherwise it is exact at the larger scale (`Decimal.add_eq_some`).

* `Decimal.add_swap` — the order of the operands does not matter;
* `Decimal.add_assoc_of_eq_some` — two groupings of three decimals that both succeed give the
  same units and scale, both being the exact sum at the largest of the three scales;
* **`Decimal.add_is_exact`** — these together.
-/

namespace Survey

namespace Decimal

/-- Widening `d` to a scale at least its own leaves the signed 128-bit word: ten to the
difference of the scales does not fit it, or the widened units do not. -/
def WideningOverflows (d : Decimal) (scale : Nat) : Prop :=
  wordMax < (10 : Int) ^ (scale - d.scale) ∨ fitsWord (d.units * 10 ^ (scale - d.scale)) = false

/-- Adding `a` and `b` overflows: widening one of them to the larger scale does, or the sum of
the widened units leaves the word. -/
def AddOverflows (a b : Decimal) : Prop :=
  WideningOverflows a (max a.scale b.scale) ∨ WideningOverflows b (max a.scale b.scale) ∨
    fitsWord (a.units * 10 ^ (max a.scale b.scale - a.scale) +
      b.units * 10 ^ (max a.scale b.scale - b.scale)) = false

/-- `10 ^ 38` is the largest power of ten in the word. -/
theorem pow_ten_le_wordMax_iff (k : Nat) : (10 : Int) ^ k ≤ wordMax ↔ k ≤ 38 := by
  constructor
  · intro fits
    by_contra large
    have grows : (10 : Int) ^ 39 ≤ 10 ^ k := pow_le_pow_right₀ (by norm_num) (by omega)
    have beyond : wordMax < (10 : Int) ^ 39 := by decide
    omega
  · intro small
    have grows : (10 : Int) ^ k ≤ 10 ^ 38 := pow_le_pow_right₀ (by norm_num) small
    have within : (10 : Int) ^ 38 ≤ wordMax := by decide
    omega

/-- Widening to a scale at least the decimal's own fails exactly when it overflows. -/
theorem rescaled_eq_none_iff {d : Decimal} {scale : Nat} (le : d.scale ≤ scale) :
    d.rescaled scale = none ↔ WideningOverflows d scale := by
  have power := pow_ten_le_wordMax_iff (scale - d.scale)
  rw [Option.eq_none_iff_forall_ne_some]
  simp only [ne_eq, rescaled_eq_some_iff, WideningOverflows]
  constructor
  · intro never
    by_contra fits
    simp only [not_or, not_lt, Bool.not_eq_false] at fits
    exact never _ ⟨le, power.mp fits.1, rfl, fits.2⟩
  · rintro (large | unfit) u ⟨-, small, rfl, fits⟩
    · exact absurd (power.mpr small) (not_le.mpr large)
    · rw [fits] at unfit
      cases unfit

/-- **An addition fails exactly when it overflows.** -/
theorem add_eq_none_iff {a b : Decimal} : a.add b = none ↔ AddOverflows a b := by
  unfold AddOverflows
  rw [← rescaled_eq_none_iff (le_max_left _ _), ← rescaled_eq_none_iff (le_max_right _ _)]
  cases wideA : a.rescaled (max a.scale b.scale) with
  | none => simp [add, wideA]
  | some x =>
    cases wideB : b.rescaled (max a.scale b.scale) with
    | none => simp [add, wideA, wideB]
    | some y =>
      -- Both sides widen, so only the sum of the widened units can overflow.
      obtain ⟨-, -, rfl, -⟩ := rescaled_eq_some_iff.mp wideA
      obtain ⟨-, -, rfl, -⟩ := rescaled_eq_some_iff.mp wideB
      simp [add, wideA, wideB]

/-- **Addition does not see the order of its operands.** -/
theorem add_swap (a b : Decimal) : a.add b = b.add a := by
  apply Option.ext
  intro sum
  rw [add_eq_some_iff, add_eq_some_iff, max_comm b.scale]
  -- The same two widened operands, added the other way round.
  constructor <;>
  · rintro ⟨x, y, wideX, wideY, fits, rfl⟩
    exact ⟨y, x, wideY, wideX, by rwa [Int.add_comm], by rw [Int.add_comm]⟩

/-- **Two groupings that both succeed agree**: each is the exact sum of the three values at the
largest of the three scales. -/
theorem add_assoc_of_eq_some {a b c x y : Decimal} (left : (a.add b).bind (·.add c) = some x)
    (right : (b.add c).bind a.add = some y) : x = y := by
  obtain ⟨ab, sumAB, sumX⟩ := Option.bind_eq_some_iff.mp left
  obtain ⟨bc, sumBC, sumY⟩ := Option.bind_eq_some_iff.mp right
  obtain ⟨scaleAB, valueAB⟩ := add_eq_some sumAB
  obtain ⟨scaleBC, valueBC⟩ := add_eq_some sumBC
  obtain ⟨scaleX, valueX⟩ := add_eq_some sumX
  obtain ⟨scaleY, valueY⟩ := add_eq_some sumY
  apply ext_of_value
  · rw [scaleX, scaleY, scaleAB, scaleBC, max_assoc]
  · rw [valueX, valueY, valueAB, valueBC, add_assoc]

/-- **Addition of decimals is exact.** It does not see the order of its operands; it fails
exactly when widening an operand to the larger scale, or the sum of the widened units, leaves
the signed 128-bit word; otherwise the sum has the larger scale and is the exact sum of the
values; and two groupings of three decimals that both succeed agree in units and scale. -/
theorem add_is_exact (a b c : Decimal) :
    a.add b = b.add a ∧
      (a.add b = none ↔ AddOverflows a b) ∧
      (∀ sum, a.add b = some sum → sum.scale = max a.scale b.scale ∧ sum.value = a.value + b.value) ∧
      ∀ x y, (a.add b).bind (·.add c) = some x → (b.add c).bind a.add = some y → x = y :=
  ⟨add_swap a b, add_eq_none_iff, fun _ sum => add_eq_some sum,
    fun _ _ left right => add_assoc_of_eq_some left right⟩

/-- `1.23 + 2.35` is exactly `3.58`, and the two ways of adding `3.45` to it agree. -/
theorem add_is_exact_receipts :
    add ⟨123, 2⟩ ⟨235, 2⟩ = some ⟨358, 2⟩ ∧ (⟨358, 2⟩ : Decimal).value = 123 / 100 + 235 / 100 ∧
      ((add ⟨123, 2⟩ ⟨235, 2⟩).bind (·.add ⟨345, 2⟩) = some ⟨703, 2⟩ ∧
        (add ⟨235, 2⟩ ⟨345, 2⟩).bind (add ⟨123, 2⟩) = some ⟨703, 2⟩) := by
  have sum : add ⟨123, 2⟩ ⟨235, 2⟩ = some ⟨358, 2⟩ := by decide
  have exact := (add_is_exact ⟨123, 2⟩ ⟨235, 2⟩ ⟨345, 2⟩).2.2.1 _ sum
  refine ⟨sum, ?_, by decide, by decide⟩
  rw [exact.2]
  norm_num [value]

end Decimal

end Survey
