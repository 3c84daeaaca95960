import Mathlib
import Survey.Proofs.Decimal.Text
import Survey.Proofs.Rule.Totals
import Survey.Summary.Format

/-!
# Widening a decimal for display

`Decimal.withScale` writes a decimal with more places for the review page. It multiplies the
units by ten to the number of places added, a power that must itself fit the signed 128-bit
word, and the widened units must fit it too; so it refuses a narrower scale, more than 38 added
places (zero included), and units that leave the word (`Decimal.withScale_isSome_iff`).

Writing the widened decimal divides by ten to its scale, computed in an unsigned 128-bit word;
up to 38 places that power is exact (`Decimal.divisor_exact`), and the text is the decimal's
own text followed by one zero per added place, after a point when it had none
(`Decimal.render_widened`). The digits of the fraction are those of the old fraction shifted
left (`Decimal.padded_mul_pow`).

* **`Decimal.widening_for_display`** — these together, with what the review page shows for a
  number slot whose places are set: that text, with its unit.

Past 38 places nothing is said: `0` widens to no scale 39 places beyond its own, although its
widened units would fit (`Decimal.withScale_refuses_zero_past_38`).
-/

namespace Survey

namespace Decimal

/-- The text of `d` with `extra` zeros after its last place, a point first when `d` has no
places. -/
def zerosAfter (d : Decimal) (extra : Nat) : String :=
  if extra = 0 then d.render
  else if d.scale = 0 then d.render ++ "." ++ String.ofList (List.replicate extra '0')
  else d.render ++ String.ofList (List.replicate extra '0')

/-- **Widening succeeds exactly within the word**: onto a scale at least the decimal's own, at
most 38 places further, with widened units that fit; it gives those units at that scale. -/
theorem withScale_eq_some_iff {d w : Decimal} {k : Nat} :
    d.withScale k = some w ↔
      d.scale ≤ k ∧ k - d.scale ≤ 38 ∧ fitsWord (d.units * 10 ^ (k - d.scale)) = true ∧
        w = ⟨d.units * 10 ^ (k - d.scale), k⟩ := by
  unfold withScale
  rw [Option.map_eq_some_iff]
  constructor
  · rintro ⟨u, widened, rfl⟩
    obtain ⟨le, few, rfl, fits⟩ := rescaled_eq_some_iff.mp widened
    exact ⟨le, few, fits, rfl⟩
  · rintro ⟨le, few, fits, rfl⟩
    exact ⟨_, rescaled_eq_some_iff.mpr ⟨le, few, rfl, fits⟩, rfl⟩

theorem withScale_isSome_iff {d : Decimal} {k : Nat} :
    (d.withScale k).isSome ↔
      d.scale ≤ k ∧ k - d.scale ≤ 38 ∧ fitsWord (d.units * 10 ^ (k - d.scale)) = true := by
  constructor
  · intro widens
    obtain ⟨w, widened⟩ := Option.isSome_iff_exists.mp widens
    obtain ⟨le, few, fits, -⟩ := withScale_eq_some_iff.mp widened
    exact ⟨le, few, fits⟩
  · rintro ⟨le, few, fits⟩
    exact Option.isSome_iff_exists.mpr ⟨_, withScale_eq_some_iff.mpr ⟨le, few, fits, rfl⟩⟩

/-- Widening keeps the value. -/
theorem withScale_value {d w : Decimal} {k : Nat} (widened : d.withScale k = some w) :
    w.value = d.value := by
  obtain ⟨le, -, -, rfl⟩ := withScale_eq_some_iff.mp widened
  have pos : (0 : ℚ) < 10 ^ k := by positivity
  have cast := cast_widened (d := d) le
  unfold value at cast ⊢
  rw [cast]
  field_simp

/-- Up to 38 places the divisor writing uses is ten to the scale: `10 ^ 38` is below
`2 ^ 128`. -/
theorem divisor_exact {s : Nat} (small : s ≤ 38) :
    Nat.pow 10 (min s 128) % Nat.pow 2 128 = 10 ^ s := by
  have below : 10 ^ s ≤ 10 ^ 38 := Nat.pow_le_pow_right (by omega) small
  have fits : 10 ^ 38 < Nat.pow 2 128 := by decide
  rw [Nat.min_eq_left (by omega), Nat.pow_eq]
  exact Nat.mod_eq_of_lt (by omega)

/-- A positive number times ten to `j` is written as the number followed by `j` zeros. -/
theorem toDigits_mul_pow {r : Nat} (pos : 0 < r) (j : Nat) :
    Nat.toDigits 10 (r * 10 ^ j) = Nat.toDigits 10 r ++ List.replicate j '0' := by
  induction j with
  | zero => simp
  | succ j ih =>
    have shifted : 0 < r * 10 ^ j := by positivity
    have step := Nat.toDigits_append_toDigits (b := 10) (d := 0) (by omega) shifted (by omega)
    rw [show 10 * (r * 10 ^ j) + 0 = r * 10 ^ (j + 1) by ring, ih, Nat.toDigits_zero] at step
    rw [← step, List.replicate_succ', List.append_assoc]

/-- A fraction shifted by `j` places is written as the fraction followed by `j` zeros. -/
theorem padded_mul_pow {r s : Nat} (small : r < 10 ^ s) (pos : 0 < s) (j : Nat) :
    (padded (r * 10 ^ j) (s + j)).toList = (padded r s).toList ++ List.replicate j '0' := by
  rw [padded_toList, padded_toList]
  rcases Nat.eq_zero_or_pos r with rfl | positive
  · -- Zero is the one digit `0`, padded with zeros to the width.
    simp only [Nat.zero_mul, Nat.toDigits_zero, List.length_singleton, ← List.replicate_succ',
      List.replicate_append_replicate]
    congr 1
    omega
  · have short : (Nat.toDigits 10 r).length ≤ s :=
      (Nat.length_toDigits_le_iff (by omega) pos).mpr small
    rw [toDigits_mul_pow positive, List.length_append, List.length_replicate,
      show s + j - ((Nat.toDigits 10 r).length + j) = s - (Nat.toDigits 10 r).length by omega,
      List.append_assoc]

/-- Widening keeps the sign. -/
theorem mul_pow_neg_iff (u : Int) (j : Nat) : u * 10 ^ j < 0 ↔ u < 0 := by
  have pos : (0 : Int) < 10 ^ j := by positivity
  constructor
  · intro negative
    by_contra nonneg
    have : 0 ≤ u * 10 ^ j := mul_nonneg (not_lt.mp nonneg) pos.le
    omega
  · intro negative
    exact mul_neg_of_neg_of_pos negative pos

/-- **The text of a widened decimal** is the decimal's text followed by one zero per added
place, up to 38 places: the whole part is the same quotient, and the fraction the old one
shifted left. -/
theorem render_widened {d : Decimal} {k : Nat} (le : d.scale ≤ k) (small : k ≤ 38) :
    (⟨d.units * 10 ^ (k - d.scale), k⟩ : Decimal).render = d.zerosAfter (k - d.scale) := by
  apply String.toList_inj.mp
  obtain ⟨j, rfl⟩ := Nat.exists_eq_add_of_le le
  rw [Nat.add_sub_cancel_left]
  unfold zerosAfter
  rcases Nat.eq_zero_or_pos j with rfl | added
  · simp
  rw [if_neg added.ne', render_toList]
  dsimp only
  have magnitude : (d.units * 10 ^ j).natAbs = d.units.natAbs * 10 ^ j := by
    simp [Int.natAbs_mul, Int.natAbs_pow]
  simp only [mul_pow_neg_iff, magnitude, bodyChars, if_neg (show d.scale + j ≠ 0 by omega),
    divisor_exact small]
  by_cases whole : d.scale = 0
  · -- No places before: the fraction is all zeros, after a new point.
    have zeros : (padded 0 j).toList = List.replicate j '0' := by
      obtain ⟨i, rfl⟩ : ∃ i, j = i + 1 := ⟨j - 1, by omega⟩
      have shifted := padded_mul_pow (r := 0) (s := 1) (by norm_num) (by norm_num) i
      rw [Nat.zero_mul, Nat.add_comm 1 i] at shifted
      rw [shifted, padded_toList]
      simp [List.replicate_succ]
    simp only [whole, if_true, Nat.zero_add, String.toList_append, render_toList, bodyChars]
    rw [Nat.mul_div_cancel _ (by positivity), Nat.mul_mod_left, zeros]
    simp
  · -- Places before: the same whole part, and the fraction shifted by `j` places.
    have quotient : d.units.natAbs * 10 ^ j / 10 ^ (d.scale + j) = d.units.natAbs / 10 ^ d.scale := by
      rw [pow_add, Nat.mul_div_mul_right _ _ (by positivity)]
    have remainder : d.units.natAbs * 10 ^ j % 10 ^ (d.scale + j) =
        d.units.natAbs % 10 ^ d.scale * 10 ^ j := by
      rw [pow_add, Nat.mul_mod_mul_right]
    simp only [whole, if_false, String.toList_append, render_toList, bodyChars,
      divisor_exact (show d.scale ≤ 38 by omega)]
    rw [quotient, remainder, padded_mul_pow (Nat.mod_lt _ (by positivity)) (Nat.pos_of_ne_zero whole)]
    simp

/-- **Widening for display is exact within 38 places.** Widening succeeds exactly onto a scale
at least the decimal's own, at most 38 places further, when the widened units fit the word, and
keeps the value; up to 38 places the widened decimal is written as the decimal's text followed
by one zero per added place; and a number slot showing that many places shows that text, after
its currency symbol or before `%`. -/
theorem widening_for_display (d : Decimal) (k : Nat) :
    ((d.withScale k).isSome ↔
        d.scale ≤ k ∧ k - d.scale ≤ 38 ∧ fitsWord (d.units * 10 ^ (k - d.scale)) = true) ∧
      (∀ w, d.withScale k = some w → w = ⟨d.units * 10 ^ (k - d.scale), k⟩ ∧ w.value = d.value) ∧
      (k ≤ 38 → ∀ w, d.withScale k = some w → w.render = d.zerosAfter (k - d.scale)) ∧
      (k ≤ 38 → ∀ (slot : AnswerSlot) (settings : NumberSlot),
        slot.kind = .number settings → settings.decimalPlaces = some k → (d.withScale k).isSome →
          (settings.unit = none → formatValue slot (.number d) = d.zerosAfter (k - d.scale)) ∧
          (settings.unit = some .percent →
            formatValue slot (.number d) = d.zerosAfter (k - d.scale) ++ "%") ∧
          ∀ symbol, settings.unit = some (.currency symbol) →
            formatValue slot (.number d) = symbol ++ d.zerosAfter (k - d.scale)) := by
  have shown : k ≤ 38 → ∀ w, d.withScale k = some w → w.render = d.zerosAfter (k - d.scale) := by
    intro small w widened
    obtain ⟨le, -, -, rfl⟩ := withScale_eq_some_iff.mp widened
    exact render_widened le small
  refine ⟨withScale_isSome_iff, fun w widened => ⟨(withScale_eq_some_iff.mp widened).2.2.2,
    withScale_value widened⟩, shown, ?_⟩
  intro small slot settings kind places widens
  obtain ⟨w, widened⟩ := Option.isSome_iff_exists.mp widens
  have text : ((settings.decimalPlaces.bind d.withScale).getD d).render =
      d.zerosAfter (k - d.scale) := by
    rw [places, Option.bind_some, widened, Option.getD_some, shown small w widened]
  refine ⟨fun none => ?_, fun percent => ?_, fun symbol currency => ?_⟩
  · simp only [formatValue, kind, none, text]
  · simp only [formatValue, kind, percent, text]
  · simp only [formatValue, kind, currency, text]

/-- An amount in pounds shown to two places widens `1.5` by one place: `£1.50`. -/
theorem widening_for_display_pounds :
    formatValue ⟨"fee", "Fee", .number ⟨none, none, some 2, some (.currency "£")⟩, false⟩
      (.number ⟨15, 1⟩) = "£1.50" := by
  have widens : ((⟨15, 1⟩ : Decimal).withScale 2).isSome := by decide +kernel
  have shown : "£" ++ (⟨15, 1⟩ : Decimal).zerosAfter 1 = "£1.50" := by decide +kernel
  exact (((widening_for_display ⟨15, 1⟩ 2).2.2.2 (by decide) _ _ rfl rfl widens).2.2 "£" rfl).trans
    shown

/-- `0` is refused 39 places beyond its scale, though its widened units, zero, fit the word:
the power of ten must fit too. -/
theorem withScale_refuses_zero_past_38 :
    (⟨0, 0⟩ : Decimal).withScale 39 = none ∧ fitsWord ((0 : Int) * 10 ^ 39) = true := by
  constructor <;> decide

end Decimal

end Survey
