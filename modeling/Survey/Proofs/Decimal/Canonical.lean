import Mathlib
import Survey.Proofs.Decimal.Grammar

/-!
# Decimal text written back

Writing a decimal and reading it are inverse on what the reader accepts. A decimal with at most
18 places and fewer than `10 ^ 20` units is read back from its text exactly, units and scale
(`Decimal.parse_render_eq_ok_iff`); and a text the reader accepts is written back in its
canonical form (`Decimal.canonicalText`): blanks and a plus sign dropped, the whole digits
without leading zeros (`0` when none is left), a point that ends the text dropped, the
fraction digits kept as they were typed, and a minus sign kept only for a value that is not
zero. So `" +007.50 "` is written `7.50`, `-0.00` is written `0.00` and `-.5` is written `-0.5`.

* `Decimal.toDigits_digitsValue` — digits are written back without their leading zeros;
* `Decimal.padded_digitsValue` — a fraction's digits are written back as they are;
* `Decimal.bodyChars_digits` — the text after the sign of what digits read as;
* **`Decimal.render_parse_inverse`** — the two directions together.
-/

namespace Survey

namespace Decimal

theorem digitChar_digit {c : Char} (digit : c.isDigit = true) :
    Nat.digitChar (c.toNat - '0'.toNat) = c := by
  have bounds := JsonText.digit_bounds digit
  have small : c.toNat - '0'.toNat < 10 := by
    simp only [show '0'.toNat = 48 from rfl]
    omega
  apply Char.toNat_inj.mp
  rw [Nat.toNat_digitChar_of_lt_ten small]
  simp only [show '0'.toNat = 48 from rfl]
  omega

/-- Digits that do not start with a zero are written back as they are. -/
theorem toDigits_digitsValue_of_head {ds : List Char} (digits : ∀ c ∈ ds, c.isDigit = true)
    (leading : ds.head? ≠ some '0') (nonempty : ds ≠ []) :
    Nat.toDigits 10 (digitsValue ds) = ds := by
  induction ds using List.reverseRecOn with
  | nil => exact absurd rfl nonempty
  | append_singleton init c ih =>
    have last : c.isDigit = true := digits c (by simp)
    have bounds := JsonText.digit_bounds last
    have small : c.toNat - '0'.toNat < 10 := by
      simp only [show '0'.toNat = 48 from rfl]
      omega
    have one : digitsValue [c] = c.toNat - '0'.toNat := by simp [digitsValue]
    cases init with
    | nil =>
      rw [List.nil_append, one, Nat.toDigits_of_lt_base small, digitChar_digit last]
    | cons d rest =>
      have initDigits : ∀ c ∈ d :: rest, c.isDigit = true :=
        fun c member => digits c (List.mem_append_left _ member)
      have head : (d :: rest).head? ≠ some '0' := by simpa using leading
      have positive : 0 < digitsValue (d :: rest) := by
        have above : Nat.pow 10 rest.length ≤ digitsValue (d :: rest) :=
          pow_le_digitsValue (initDigits d List.mem_cons_self) (by simpa using head)
        have : 0 < Nat.pow 10 rest.length := Nat.pow_pos (by omega)
        omega
      rw [digitsValue_append, one, List.length_singleton, show Nat.pow 10 1 = 10 from rfl,
        Nat.mul_comm, ← Nat.toDigits_append_toDigits (by omega) positive small,
        ih initDigits head (List.cons_ne_nil _ _), Nat.toDigits_of_lt_base small,
        digitChar_digit last]

/-- Whole digits as they are written back: without their leading zeros, and `0` when nothing is
left. -/
def stripped (ds : List Char) : List Char :=
  if ds.dropWhile (· == '0') = [] then ['0'] else ds.dropWhile (· == '0')

theorem zeros_eq_replicate (ds : List Char) :
    ds.takeWhile (· == '0') = List.replicate (ds.takeWhile (· == '0')).length '0' := by
  apply List.eq_replicate_iff.mpr
  refine ⟨rfl, fun c member => ?_⟩
  simpa using List.mem_takeWhile_imp member

/-- **Digits are written back without their leading zeros.** -/
theorem toDigits_digitsValue {ds : List Char} (digits : ∀ c ∈ ds, c.isDigit = true) :
    Nat.toDigits 10 (digitsValue ds) = stripped ds := by
  rw [← digitsValue_dropWhile_zero ds]
  unfold stripped
  split
  · next none =>
    rw [none]
    rfl
  · next left =>
    have kept : ∀ c ∈ ds.dropWhile (· == '0'), c.isDigit = true :=
      fun c member => digits c ((List.dropWhile_suffix _).subset member)
    have leading : (ds.dropWhile (· == '0')).head? ≠ some '0' := by
      have first := List.head_dropWhile_not (· == '0') (l := ds) left
      cases significant : ds.dropWhile (· == '0') with
      | nil => exact absurd significant left
      | cons c rest => simp_all
    exact toDigits_digitsValue_of_head kept leading left

/-- **A fraction's digits are written back as they are**, leading zeros included. -/
theorem padded_digitsValue {ds : List Char} (digits : ∀ c ∈ ds, c.isDigit = true)
    (nonempty : ds ≠ []) : (padded (digitsValue ds) ds.length).toList = ds := by
  rw [padded_toList, toDigits_digitsValue digits]
  have split := List.takeWhile_append_dropWhile (p := (· == '0')) (l := ds)
  have zeros := zeros_eq_replicate ds
  have length : ds.length =
      (ds.takeWhile (· == '0')).length + (ds.dropWhile (· == '0')).length := by
    conv_lhs => rw [← split]
    exact List.length_append
  unfold stripped
  split
  · next none =>
    -- All the digits are zeros: the text is one `0`, padded to their number.
    rw [none, List.append_nil] at split
    rw [none, List.length_nil, Nat.add_zero] at length
    have wide : 1 ≤ ds.length := List.length_pos_of_ne_nil nonempty
    rw [List.length_singleton, ← List.replicate_succ', Nat.sub_add_cancel wide]
    conv_rhs => rw [← split, zeros, ← length]
  · rw [length, Nat.add_sub_cancel, ← zeros, split]

/-- The text, after the sign, of the number that whole and fraction digits read as: the whole
digits written back, then the point and the fraction digits as they are, when there are any. -/
theorem bodyChars_digits {whole fraction : List Char}
    (digits : ∀ c ∈ whole ++ fraction, c.isDigit = true) (few : fraction.length ≤ maxPlaces) :
    bodyChars (digitsValue (whole ++ fraction)) fraction.length =
      stripped whole ++ (if fraction = [] then [] else '.' :: fraction) := by
  have wholeDigits : ∀ c ∈ whole, c.isDigit = true :=
    fun c member => digits c (List.mem_append_left _ member)
  have fractionDigits : ∀ c ∈ fraction, c.isDigit = true :=
    fun c member => digits c (List.mem_append_right _ member)
  unfold bodyChars
  by_cases none : fraction = []
  · subst none
    simp [toDigits_digitsValue wholeDigits]
  · have scale : fraction.length ≠ 0 := by simpa using none
    have below := digitsValue_lt fractionDigits
    have pos : 0 < Nat.pow 10 fraction.length := Nat.pow_pos (by omega)
    -- The whole digits are the quotient by ten to the scale, the fraction digits the remainder.
    have quotient : (digitsValue whole * Nat.pow 10 fraction.length + digitsValue fraction) /
        Nat.pow 10 fraction.length = digitsValue whole := by
      rw [Nat.add_comm, Nat.add_mul_div_right _ _ pos, Nat.div_eq_of_lt below, Nat.zero_add]
    have remainder : (digitsValue whole * Nat.pow 10 fraction.length + digitsValue fraction) %
        Nat.pow 10 fraction.length = digitsValue fraction := by
      rw [Nat.add_comm, Nat.add_mul_mod_self_right, Nat.mod_eq_of_lt below]
    rw [if_neg scale, if_neg none, divisor_eq few, digitsValue_append, quotient, remainder,
      toDigits_digitsValue wholeDigits, padded_digitsValue fractionDigits none]

/-- The canonical text of a number written with `sign`, `whole` and `fraction` digits: a minus
sign only for a value that is not zero, the whole digits written back, and a point with the
fraction digits as they are when there are any. -/
def canonicalText (sign : Option Char) (whole fraction : List Char) : List Char :=
  (if sign = some '-' ∧ writtenValue sign whole fraction ≠ 0 then ['-'] else []) ++
    stripped whole ++ (if fraction = [] then [] else '.' :: fraction)

/-- A minus sign is written for what signed digits read as exactly when the sign is a minus and
the value is not zero. -/
theorem units_neg_iff {negative : Bool} {sign : Option Char}
    (minus : negative = true ↔ sign = some '-') (whole fraction : List Char) :
    (if negative then -(digitsValue (whole ++ fraction) : Int)
        else digitsValue (whole ++ fraction)) < 0 ↔
      sign = some '-' ∧ writtenValue sign whole fraction ≠ 0 := by
  have pos : (0 : ℚ) < 10 ^ fraction.length := by positivity
  have value := value_read negative sign minus whole fraction
  rw [← value, Decimal.value, ← minus]
  cases negative <;> simp [pos.ne', Nat.pos_iff_ne_zero]

/-- **Writing and reading are inverse on what the reader accepts.** A decimal with at most 18
places and fewer than `10 ^ 20` units reads back from its text exactly; and a text that reads as
a decimal, however it is written, is written back in its canonical form. -/
theorem render_parse_inverse :
    (∀ n : Decimal, n.Fits → parse n.render = .ok n) ∧
      ∀ (text : String) (d : Decimal), parse text = .ok d →
        ∀ sign whole fraction, Written (trimBlank text.toList) sign whole fraction →
          d.render.toList = canonicalText sign whole fraction := by
  refine ⟨fun n fits => parse_render_eq_ok_iff.mpr ⟨fits, rfl⟩, ?_⟩
  intro text d read sign whole fraction written
  obtain ⟨rfl, split, digits, -⟩ := written_iff.mp written
  obtain ⟨w, f, split', -, -, few, -, rfl⟩ := parse_eq_ok_read read
  -- The reader's split is the one the text is written with.
  rw [split, Prod.mk.injEq] at split'
  obtain ⟨rfl, rfl⟩ := split'
  have minus : ((signed text).1 == some '-') = true ↔ (signed text).1 = some '-' := beq_iff_eq
  -- The sign, then the magnitude's digits.
  have magnitude : (if ((signed text).1 == some '-') = true then
      -(digitsValue (whole ++ fraction) : Int) else digitsValue (whole ++ fraction)).natAbs =
        digitsValue (whole ++ fraction) := by
    split <;> simp
  rw [render_toList, magnitude, bodyChars_digits digits few, canonicalText,
    List.append_assoc]
  congr 1
  exact if_congr (units_neg_iff minus whole fraction) rfl rfl

/-- `" +007.50 "` reads as `750` units at scale 2, is written back `7.50`, its canonical form, and
that text reads back as the same decimal. -/
theorem render_parse_inverse_receipt :
    parse " +007.50 " = .ok ⟨750, 2⟩ ∧
      Written (trimBlank " +007.50 ".toList) (some '+') ['0', '0', '7'] ['5', '0'] ∧
      (⟨750, 2⟩ : Decimal).render.toList = canonicalText (some '+') ['0', '0', '7'] ['5', '0'] ∧
      (⟨750, 2⟩ : Decimal).Fits ∧ parse (⟨750, 2⟩ : Decimal).render = .ok ⟨750, 2⟩ := by
  have read : parse " +007.50 " = .ok ⟨750, 2⟩ := by rfl
  have sign : (signed " +007.50 ").1 = some '+' := by decide
  have split : splitAtPoint (signed " +007.50 ").2 = (['0', '0', '7'], ['5', '0']) := by decide
  have digits : ∀ c ∈ ['0', '0', '7'] ++ ['5', '0'], c.isDigit = true := by simp
  have written : Written (trimBlank " +007.50 ".toList) (some '+') ['0', '0', '7'] ['5', '0'] :=
    written_iff.mpr ⟨sign, split, digits, by decide⟩
  have fits : (⟨750, 2⟩ : Decimal).Fits := by decide
  exact ⟨read, written, render_parse_inverse.2 _ _ read _ _ _ written, fits,
    render_parse_inverse.1 _ fits⟩

end Decimal

end Survey
