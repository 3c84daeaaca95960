import Mathlib
import Survey.Proofs.Decimal.Canonical
import Survey.Proofs.Rule.Totals

/-!
# Comparing decimals

`Decimal.compare` widens both decimals to the larger of their scales and compares the widened
units; when a widening leaves the signed 128-bit word it compares the doubles nearest to the two
values instead. So:

* `Decimal.compare_swap` — comparing the other way round gives the reversed answer, in either
  branch (`Binary64.totalCompare_swap`);
* `Decimal.compare_eq_of_widen` — when both decimals widen to the larger scale, the answer is
  the comparison of their values as rationals: the widened units are the values times one
  power of ten;
* `Decimal.WidensAtMaxPlaces` — a decimal whose units still fit the word once written with 18
  places; two such decimals always widen together (`WidensAtMaxPlaces.widen`), and every number
  the reader accepts is one (`Decimal.parse_widensAtMaxPlaces`);
* **`Decimal.compare_exact_within_word`** — these together: on decimals that widen to 18 places,
  `sameValue` is equality of values and `compare` is transitive.

Past the word the doubles decide, and they can tie distinct values: `170141183460469231732` and
`2^127 - 1` units at 18 places (`170141183460469231731.687…`) round to one double, and so does
`170141183460469231733`, which the first is below (`Decimal.compare_ties_past_word`).
-/

namespace Survey

namespace Binary64

/-- Comparing `n · 2^f` with `m · 2^e` reverses comparing `m · 2^e` with `n · 2^f`. -/
theorem compareScaled_swap (m : Nat) (e : Int) (n : Nat) (f : Int) :
    compareScaled n f m e = (compareScaled m e n f).swap := by
  unfold compareScaled
  by_cases ef : e ≤ f
  · by_cases fe : f ≤ e
    · -- Equal exponents: neither side is shifted.
      obtain rfl : e = f := le_antisymm ef fe
      simp only [le_refl, if_true, sub_self, Int.toNat_zero]
      rw [show Nat.pow 2 0 = 1 from rfl, Nat.mul_one, Nat.mul_one]
      exact (Nat.compare_swap m n).symm
    · rw [if_neg fe, if_pos ef]
      exact (Nat.compare_swap _ _).symm
  · rw [if_pos (le_of_lt (not_le.mp ef)), if_neg ef]
    exact (Nat.compare_swap _ _).symm

/-- **The total order of doubles is antisymmetric.** -/
theorem totalCompare_swap (x y : Binary64) : totalCompare y x = (totalCompare x y).swap := by
  rcases x with ⟨s, m, e⟩ | s <;> rcases y with ⟨t, n, f⟩ | t
  · -- Two finite values: the signs decide, then the magnitudes.
    cases s <;> cases t <;> simp only [totalCompare, Ordering.swap] <;> exact compareScaled_swap ..
  all_goals cases s <;> cases t <;> rfl

end Binary64

namespace Decimal

/-- A strictly monotone map keeps comparisons. -/
theorem compare_map_of_strictMono {α β : Type} [LinearOrder α] [LinearOrder β] {f : α → β}
    (mono : StrictMono f) (a b : α) : Ord.compare (f a) (f b) = Ord.compare a b :=
  (compare_iff _ _).mpr (mono.compares.mpr ((compare_iff a b).mp rfl))

/-- **Comparing the other way round reverses the answer**, whether the widened units or the
doubles decide. -/
theorem compare_swap (a b : Decimal) : b.compare a = (a.compare b).swap := by
  unfold compare
  dsimp only
  rw [max_comm b.scale]
  cases a.rescaled (max a.scale b.scale) <;> cases b.rescaled (max a.scale b.scale)
  case some.some x y => exact (Int.compare_swap x y).symm
  all_goals exact Binary64.totalCompare_swap _ _

/-- Both decimals widen to the larger of their scales within the word, so `compare` compares
the widened units. -/
def WidenTogether (a b : Decimal) : Prop :=
  (a.rescaled (max a.scale b.scale)).isSome ∧ (b.rescaled (max a.scale b.scale)).isSome

/-- **Widened units compare as the values**: both are the values times ten to the larger
scale. -/
theorem compare_eq_of_widen {a b : Decimal} (widen : WidenTogether a b) :
    a.compare b = Ord.compare a.value b.value := by
  obtain ⟨x, wideA⟩ := Option.isSome_iff_exists.mp widen.1
  obtain ⟨y, wideB⟩ := Option.isSome_iff_exists.mp widen.2
  have castA : (x : ℚ) = a.value * 10 ^ max a.scale b.scale := by
    rw [rescaled_value wideA]
  have castB : (y : ℚ) = b.value * 10 ^ max a.scale b.scale := by
    rw [rescaled_value wideB]
  have scaling : StrictMono fun v : ℚ => v * 10 ^ max a.scale b.scale :=
    strictMono_mul_right_of_pos (by positivity)
  simp only [compare, wideA, wideB]
  calc Ord.compare x y = Ord.compare (x : ℚ) (y : ℚ) := (compare_map_of_strictMono Int.cast_strictMono x y).symm
    _ = Ord.compare a.value b.value := by rw [castA, castB, compare_map_of_strictMono scaling]

/-- The decimal, written with 18 places, still has units within the word. -/
def WidensAtMaxPlaces (d : Decimal) : Prop := (d.rescaled maxPlaces).isSome

/-- A word widened by fewer places stays a word: the narrower widening lies between zero and
the wider one. -/
theorem fitsWord_of_fitsWord_mul {u : Int} (j k : Nat) (fits : fitsWord (u * 10 ^ (j + k)) = true) :
    fitsWord (u * 10 ^ j) = true := by
  have grow : (1 : Int) ≤ 10 ^ k := one_le_pow₀ (by norm_num)
  have split : u * 10 ^ (j + k) = u * 10 ^ j * 10 ^ k := by rw [pow_add, mul_assoc]
  have lower : wordMin ≤ 0 := by decide
  have upper : 0 ≤ wordMax := by decide
  simp only [fitsWord, Bool.and_eq_true, decide_eq_true_eq] at fits ⊢
  rw [split] at fits
  rcases le_or_gt 0 (u * 10 ^ j) with nonneg | negative
  · have wider : u * 10 ^ j ≤ u * 10 ^ j * 10 ^ k := le_mul_of_one_le_right nonneg grow
    exact ⟨lower.trans nonneg, wider.trans fits.2⟩
  · have wider : u * 10 ^ j * 10 ^ k ≤ u * 10 ^ j := by nlinarith
    exact ⟨fits.1.trans wider, negative.le.trans upper⟩

/-- A decimal that widens to 18 places widens to every scale between its own and 18. -/
theorem WidensAtMaxPlaces.rescaled_isSome {d : Decimal} (wide : d.WidensAtMaxPlaces) {s : Nat}
    (above : d.scale ≤ s) (below : s ≤ maxPlaces) : (d.rescaled s).isSome := by
  obtain ⟨u, widened⟩ := Option.isSome_iff_exists.mp wide
  obtain ⟨-, -, rfl, fits⟩ := rescaled_eq_some_iff.mp widened
  have places : maxPlaces - d.scale = (s - d.scale) + (maxPlaces - s) := by omega
  rw [places] at fits
  exact Option.isSome_iff_exists.mpr ⟨_, rescaled_eq_some_iff.mpr
    ⟨above, by simp only [maxPlaces] at below; omega, rfl, fitsWord_of_fitsWord_mul _ _ fits⟩⟩

/-- **Two decimals that widen to 18 places widen together**, to the larger of their scales. -/
theorem WidensAtMaxPlaces.widen {a b : Decimal} (wideA : a.WidensAtMaxPlaces)
    (wideB : b.WidensAtMaxPlaces) : WidenTogether a b := by
  have placesA : a.scale ≤ maxPlaces := (rescaled_eq_some_iff.mp (Option.get_mem wideA)).1
  have placesB : b.scale ≤ maxPlaces := (rescaled_eq_some_iff.mp (Option.get_mem wideB)).1
  exact ⟨wideA.rescaled_isSome (le_max_left _ _) (max_le placesA placesB),
    wideB.rescaled_isSome (le_max_right _ _) (max_le placesA placesB)⟩

/-- A decimal that fits decimal text widens to 18 places: fewer than `10 ^ 20` units times at
most `10 ^ 18` stay below `10 ^ 38`. -/
theorem Fits.widensAtMaxPlaces {d : Decimal} (fits : d.Fits) : d.WidensAtMaxPlaces := by
  obtain ⟨places, digits⟩ := fits
  have factor : (10 : Int) ^ (maxPlaces - d.scale) ≤ 10 ^ 18 :=
    pow_le_pow_right₀ (by norm_num) (by simp only [maxPlaces]; omega)
  have units : |d.units| < 10 ^ 20 := by
    have : (d.units.natAbs : Int) < ((Nat.pow 10 maxDigits : Nat) : Int) := by exact_mod_cast digits
    simpa [maxDigits, Int.natCast_natAbs] using this
  have product : |d.units * 10 ^ (maxPlaces - d.scale)| < 10 ^ 38 := by
    rw [abs_mul, abs_of_pos (by positivity : (0 : Int) < 10 ^ (maxPlaces - d.scale))]
    calc |d.units| * 10 ^ (maxPlaces - d.scale) ≤ |d.units| * 10 ^ 18 :=
          mul_le_mul_of_nonneg_left factor (abs_nonneg _)
      _ < 10 ^ 20 * 10 ^ 18 := by gcongr
      _ = 10 ^ 38 := by norm_num
  have within : (10 : Int) ^ 38 ≤ wordMax := by decide
  have lower : wordMin = -wordMax - 1 := by decide
  refine Option.isSome_iff_exists.mpr ⟨_, rescaled_eq_some_iff.mpr ⟨places, by simp only [maxPlaces]; omega, rfl, ?_⟩⟩
  simp only [fitsWord, Bool.and_eq_true, decide_eq_true_eq]
  constructor <;> cases abs_lt.mp product <;> omega

/-- Every number the reader accepts fits decimal text. -/
theorem parse_fits {text : String} {d : Decimal} (read : parse text = .ok d) : d.Fits := by
  obtain ⟨whole, fraction, -, digits, -, few, significant, rfl⟩ := parse_eq_ok_read read
  -- The digits stay below `10 ^ 20` once their leading zeros go.
  have small := (maxDigits_lt_significant_iff digits).not.mp (Nat.not_lt.mpr significant)
  refine ⟨few, ?_⟩
  dsimp only
  split <;> simp only [Int.natAbs_neg, Int.natAbs_natCast] <;> omega

/-- Every number the reader accepts widens to 18 places. -/
theorem parse_widensAtMaxPlaces {text : String} {d : Decimal} (read : parse text = .ok d) :
    d.WidensAtMaxPlaces :=
  (parse_fits read).widensAtMaxPlaces

/-- **Comparison is exact within the word.** It is antisymmetric for all decimals; when both
widen to the larger scale it is the comparison of the values; two decimals that widen to 18
places always do, and every number read from text is one; so on those `sameValue` is equality
of values and `compare` is transitive. -/
theorem compare_exact_within_word :
    (∀ a b : Decimal, b.compare a = (a.compare b).swap) ∧
      (∀ a b : Decimal, WidenTogether a b → a.compare b = Ord.compare a.value b.value) ∧
      (∀ a b : Decimal, a.WidensAtMaxPlaces → b.WidensAtMaxPlaces → WidenTogether a b) ∧
      (∀ (text : String) (d : Decimal), parse text = .ok d → d.WidensAtMaxPlaces) ∧
      (∀ a b : Decimal, a.WidensAtMaxPlaces → b.WidensAtMaxPlaces →
        (a.sameValue b = true ↔ a.value = b.value)) ∧
      ∀ a b c : Decimal, a.WidensAtMaxPlaces → b.WidensAtMaxPlaces → c.WidensAtMaxPlaces →
        a.compare b ≠ .gt → b.compare c ≠ .gt → a.compare c ≠ .gt := by
  refine ⟨compare_swap, fun _ _ => compare_eq_of_widen, fun _ _ => WidensAtMaxPlaces.widen,
    fun _ _ => parse_widensAtMaxPlaces, fun a b wideA wideB => ?_,
    fun a b c wideA wideB wideC => ?_⟩
  · rw [sameValue, compare_eq_of_widen (wideA.widen wideB), beq_iff_eq, compare_eq_iff_eq]
  · rw [compare_eq_of_widen (wideA.widen wideB), compare_eq_of_widen (wideB.widen wideC),
      compare_eq_of_widen (wideA.widen wideC), compare_le_iff_le, compare_le_iff_le,
      compare_le_iff_le]
    exact le_trans

/-- `1.5`, `1.50` and `2` widen to eighteen places, so they compare as their values: `1.5` and
`1.50` are the same value, and `1.50` and `2` are ordered as their values are. -/
theorem compare_exact_on_short_decimals :
    (⟨15, 1⟩ : Decimal).sameValue ⟨150, 2⟩ = true ∧
      Decimal.compare ⟨150, 2⟩ ⟨2, 0⟩ =
        Ord.compare (⟨150, 2⟩ : Decimal).value (⟨2, 0⟩ : Decimal).value := by
  have oneHalf : (⟨15, 1⟩ : Decimal).WidensAtMaxPlaces := by
    unfold WidensAtMaxPlaces; decide +kernel
  have oneHalfAgain : (⟨150, 2⟩ : Decimal).WidensAtMaxPlaces := by
    unfold WidensAtMaxPlaces; decide +kernel
  have two : (⟨2, 0⟩ : Decimal).WidensAtMaxPlaces := by
    unfold WidensAtMaxPlaces; decide +kernel
  obtain ⟨-, exact, together, -, same, -⟩ := compare_exact_within_word
  refine ⟨(same _ _ oneHalf oneHalfAgain).mpr ?_, exact _ _ (together _ _ oneHalfAgain two)⟩
  norm_num [value]

/-- `170141183460469231732`, the largest word at 18 places (`170141183460469231731.687…`), and
`170141183460469231733`: the integers do not widen to 18 places, the doubles decide, and all
three round to one double. So two distinct values compare equal, and equality is not
transitive, the two integers comparing below. -/
theorem compare_ties_past_word :
    Decimal.compare ⟨170141183460469231732, 0⟩ ⟨wordMax, 18⟩ = .eq ∧
      Decimal.compare ⟨wordMax, 18⟩ ⟨170141183460469231733, 0⟩ = .eq ∧
      Decimal.compare ⟨170141183460469231732, 0⟩ ⟨170141183460469231733, 0⟩ = .lt ∧
      (⟨170141183460469231732, 0⟩ : Decimal).value ≠ (⟨wordMax, 18⟩ : Decimal).value := by
  refine ⟨by decide +kernel, by decide +kernel, by decide +kernel, ?_⟩
  simp only [value, wordMax]
  norm_num

end Decimal

end Survey
