import Mathlib
import Survey.Decimal.Text
import Survey.Proofs.Json.Tokens

/-!
# Decimal text read back

Writing a decimal and reading its text back gives the decimal again exactly when it fits the
grammar of decimal text, at most 18 places and at most 20 significant digits
(`Decimal.Fits`); otherwise reading refuses the text, as too precise when the places are too
many and else as too large (`Decimal.parse_render`).

The text is a minus sign when the units are negative, then the magnitude written with the
scale's places (`Decimal.render_toList`). Its digits read back as the magnitude, and once their
leading zeros are dropped there are more than 20 of them exactly when the magnitude reaches
`10 ^ 20` (`Decimal.maxDigits_lt_significant_iff`).
-/

namespace Survey

namespace Decimal

/-- A decimal fits decimal text: at most `maxPlaces` places and `maxDigits` significant
digits. -/
def Fits (d : Decimal) : Prop := d.scale ≤ maxPlaces ∧ d.units.natAbs < Nat.pow 10 maxDigits

instance (d : Decimal) : Decidable d.Fits := inferInstanceAs (Decidable (_ ∧ _))

/-! ### The value of a run of digits -/

theorem pow_ten_succ (k : Nat) : Nat.pow 10 (k + 1) = Nat.pow 10 k * 10 := rfl

/-- Reading more digits shifts what was read so far by their count. -/
theorem foldl_digit (a : Nat) (ds : List Char) :
    ds.foldl (fun acc c => 10 * acc + (c.toNat - '0'.toNat)) a =
      a * Nat.pow 10 ds.length + digitsValue ds := by
  rw [Nat.mul_comm]
  exact Nat.ofDigitChars_eq_ofDigitChars_zero

theorem digitsValue_cons (c : Char) (ds : List Char) :
    digitsValue (c :: ds) = (c.toNat - '0'.toNat) * Nat.pow 10 ds.length + digitsValue ds := by
  show List.foldl _ 0 (c :: ds) = _
  rw [List.foldl_cons, foldl_digit]
  simp

theorem digitsValue_append (ds es : List Char) :
    digitsValue (ds ++ es) = digitsValue ds * Nat.pow 10 es.length + digitsValue es := by
  simp only [digitsValue, List.foldl_append]
  exact foldl_digit _ es

@[simp] theorem digitsValue_replicate_zero (n : Nat) : digitsValue (List.replicate n '0') = 0 := by
  show Nat.ofDigitChars 10 (List.replicate n '0') 0 = 0
  simp

/-- The digits `Nat.toDigits` writes read back as the number: `digitsValue` is the library's
`Nat.ofDigitChars` in base ten. -/
theorem digitsValue_toDigits (n : Nat) : digitsValue (Nat.toDigits 10 n) = n :=
  Nat.ofDigitChars_ten_toDigits

/-- A run of `k` digits reads as less than `10 ^ k`. -/
theorem digitsValue_lt {ds : List Char} (digits : ∀ c ∈ ds, c.isDigit = true) :
    digitsValue ds < Nat.pow 10 ds.length := by
  induction ds with
  | nil => simp [digitsValue]
  | cons c ds ih =>
    have bounds : c.toNat - '0'.toNat ≤ 9 := by
      have := JsonText.digit_bounds (digits c List.mem_cons_self)
      simp only [show '0'.toNat = 48 from rfl]
      omega
    have rest := ih fun c' member => digits c' (List.mem_cons_of_mem c member)
    rw [digitsValue_cons, List.length_cons, pow_ten_succ]
    nlinarith

/-- A run of digits that does not start with a zero reads as at least `10 ^ (k - 1)`. -/
theorem pow_le_digitsValue {c : Char} {ds : List Char} (digit : c.isDigit = true)
    (nonzero : c ≠ '0') : Nat.pow 10 ds.length ≤ digitsValue (c :: ds) := by
  have lead : 1 ≤ c.toNat - '0'.toNat := by
    have := JsonText.digit_bounds digit
    have other : c.toNat ≠ '0'.toNat := fun same => nonzero (Char.toNat_inj.mp same)
    simp only [show '0'.toNat = 48 from rfl] at other ⊢
    omega
  rw [digitsValue_cons]
  nlinarith

@[simp] theorem digitsValue_dropWhile_zero (ds : List Char) :
    digitsValue (ds.dropWhile (· == '0')) = digitsValue ds := by
  induction ds with
  | nil => rfl
  | cons c ds ih =>
    by_cases zero : c = '0'
    · subst zero
      simp [ih, digitsValue_cons]
    · simp [zero]

/-- **Leading zeros dropped, a run of digits is longer than `maxDigits` exactly when it reads as
at least `10 ^ maxDigits`.** -/
theorem maxDigits_lt_significant_iff {ds : List Char} (digits : ∀ c ∈ ds, c.isDigit = true) :
    maxDigits < (ds.dropWhile (· == '0')).length ↔ Nat.pow 10 maxDigits ≤ digitsValue ds := by
  rw [← digitsValue_dropWhile_zero ds]
  have kept : ∀ c ∈ ds.dropWhile (· == '0'), c.isDigit = true :=
    fun c member => digits c ((List.dropWhile_suffix _).subset member)
  cases significant : ds.dropWhile (· == '0') with
  | nil => simp [digitsValue, maxDigits]
  | cons c rest =>
    rw [significant] at kept
    have nonzero : c ≠ '0' := by
      have := List.head_dropWhile_not (fun c => c == '0') (l := ds) (by simp [significant])
      simpa [significant] using this
    have below := digitsValue_lt kept
    have above : Nat.pow 10 rest.length ≤ digitsValue (c :: rest) :=
      pow_le_digitsValue (kept c List.mem_cons_self) nonzero
    simp only [List.length_cons] at below ⊢
    constructor
    · intro longer
      exact le_trans (Nat.pow_le_pow_right (by omega) (by omega)) above
    · intro large
      by_contra short
      have : Nat.pow 10 (rest.length + 1) ≤ Nat.pow 10 maxDigits :=
        Nat.pow_le_pow_right (by omega) (by omega)
      omega

/-! ### The text of a decimal -/

/-- The characters `render` writes after the sign for a magnitude `m` at scale `s`: the whole
digits and, for a positive scale, a point and the fraction digits padded to the scale. -/
def bodyChars (m s : Nat) : List Char :=
  if s = 0 then Nat.toDigits 10 m
  else
    Nat.toDigits 10 (m / (Nat.pow 10 (min s 128) % Nat.pow 2 128)) ++
      '.' :: (padded (m % (Nat.pow 10 (min s 128) % Nat.pow 2 128)) s).toList

theorem padded_toList (n width : Nat) :
    (padded n width).toList =
      List.replicate (width - (Nat.toDigits 10 n).length) '0' ++ Nat.toDigits 10 n := by
  simp [padded]

theorem toString_nat_toList (n : Nat) : (toString n).toList = Nat.toDigits 10 n :=
  Nat.toList_repr

theorem toString_int_toList (i : Int) :
    (toString i).toList = (if i < 0 then ['-'] else []) ++ Nat.toDigits 10 i.natAbs := by
  cases i with
  | ofNat m => exact toString_nat_toList m
  | negSucc m =>
    rw [if_pos (Int.negSucc_lt_zero m)]
    show ("-" ++ toString (m + 1)).toList = _
    rw [String.toList_append, toString_nat_toList]
    rfl

/-- **The text of a decimal**: a minus sign when the units are negative, then the magnitude
written with the scale's places. -/
theorem render_toList (d : Decimal) :
    d.render.toList = (if d.units < 0 then ['-'] else []) ++ bodyChars d.units.natAbs d.scale := by
  unfold render bodyChars
  by_cases whole : d.scale = 0
  · simp only [whole, if_true]
    exact toString_int_toList d.units
  · simp only [whole, if_false, String.toList_append, toString_nat_toList]
    by_cases negative : d.units < 0 <;> simp [negative]

theorem digit_of_mem_toDigits {n : Nat} {c : Char} (member : c ∈ Nat.toDigits 10 n) :
    c.isDigit = true :=
  Nat.isDigit_of_mem_toDigits (by omega) (by omega) member

theorem digit_of_mem_padded {n width : Nat} {c : Char} (member : c ∈ (padded n width).toList) :
    c.isDigit = true := by
  rw [padded_toList, List.mem_append] at member
  rcases member with zeros | digits
  · rw [List.eq_of_mem_replicate zeros]
    rfl
  · exact digit_of_mem_toDigits digits

theorem bne_point {c : Char} (digit : c.isDigit = true) : (c != '.') = true := by
  have other : c ≠ '.' := by
    rintro rfl
    exact absurd digit (by decide)
  simpa using other

theorem splitAtPoint_digits {ds : List Char} (digits : ∀ c ∈ ds, c.isDigit = true) :
    splitAtPoint ds = (ds, []) := by
  have kept : ∀ c ∈ ds, (c != '.') = true := fun c member => bne_point (digits c member)
  unfold splitAtPoint
  rw [List.span_eq_takeWhile_dropWhile, List.takeWhile_eq_self_iff.mpr kept,
    List.dropWhile_eq_nil_iff.mpr kept]

theorem splitAtPoint_point {ds : List Char} (digits : ∀ c ∈ ds, c.isDigit = true)
    (fs : List Char) : splitAtPoint (ds ++ '.' :: fs) = (ds, fs) := by
  have kept : ∀ c ∈ ds, (c != '.') = true := fun c member => bne_point (digits c member)
  unfold splitAtPoint
  rw [List.span_eq_takeWhile_dropWhile, List.takeWhile_append_of_pos kept,
    List.dropWhile_append_of_pos kept]
  simp

/-- Below scale 39 the divisor writing uses is ten to the scale. -/
theorem divisor_eq {s : Nat} (small : s ≤ maxPlaces) :
    Nat.pow 10 (min s 128) % Nat.pow 2 128 = Nat.pow 10 s := by
  have below : Nat.pow 10 s ≤ Nat.pow 10 maxPlaces := Nat.pow_le_pow_right (by omega) small
  have fits : Nat.pow 10 maxPlaces < Nat.pow 2 128 := by decide
  rw [Nat.min_eq_left (by simp only [maxPlaces] at small; omega)]
  exact Nat.mod_eq_of_lt (by omega)

/-- A body read with its sign already taken off: the digits split at the point, checked in the
reader's order. -/
theorem parseBody_digits (negative : Bool) {whole fraction : List Char}
    (wholeDigits : ∀ c ∈ whole, c.isDigit = true) (fractionDigits : ∀ c ∈ fraction, c.isDigit = true)
    (nonempty : whole ≠ []) :
    parseBody negative (if fraction = [] then whole else whole ++ '.' :: fraction) =
      if maxPlaces < fraction.length then .error .tooPrecise
      else if Nat.pow 10 maxDigits ≤ digitsValue (whole ++ fraction) then .error .tooLarge
      else .ok ⟨if negative then -(digitsValue (whole ++ fraction) : Int)
        else digitsValue (whole ++ fraction), fraction.length⟩ := by
  have allDigits : ∀ c ∈ whole ++ fraction, c.isDigit = true := by
    intro c member
    rcases List.mem_append.mp member with inWhole | inFraction
    · exact wholeDigits c inWhole
    · exact fractionDigits c inFraction
  have split : splitAtPoint (if fraction = [] then whole else whole ++ '.' :: fraction) =
      (whole, fraction) := by
    split
    · next empty => rw [empty, splitAtPoint_digits wholeDigits]
    · exact splitAtPoint_point wholeDigits fraction
  have noneBad : (whole ++ fraction).find? (fun c => !c.isDigit) = none :=
    List.find?_eq_none.mpr fun c member => by simp [allDigits c member]
  have large := maxDigits_lt_significant_iff allDigits
  have something : ¬ (whole.isEmpty && fraction.isEmpty) = true := by
    simp [List.isEmpty_iff, nonempty]
  unfold parseBody
  rw [split]
  dsimp only
  rw [if_neg something, noneBad]
  dsimp only
  by_cases precise : maxPlaces < fraction.length
  · rw [if_pos precise, if_pos precise]
  · rw [if_neg precise, if_neg precise]
    by_cases tooLarge : Nat.pow 10 maxDigits ≤ digitsValue (whole ++ fraction)
    · rw [if_pos (large.mpr tooLarge), if_pos tooLarge]
    · rw [if_neg (mt large.mp tooLarge), if_neg tooLarge, digitsValue_dropWhile_zero]

theorem padded_length {n width : Nat} (small : n < Nat.pow 10 width) (pos : 0 < width) :
    (padded n width).toList.length = width := by
  have short : (Nat.toDigits 10 n).length ≤ width :=
    (Nat.length_toDigits_le_iff (by omega) pos).mpr small
  rw [padded_toList, List.length_append, List.length_replicate]
  omega

theorem le_padded_length (n width : Nat) : width ≤ (padded n width).toList.length := by
  rw [padded_toList, List.length_append, List.length_replicate]
  omega

@[simp] theorem digitsValue_padded (n width : Nat) : digitsValue (padded n width).toList = n := by
  rw [padded_toList, digitsValue_append]
  simp [digitsValue_toDigits]

/-- **A magnitude's text read back**, its sign already taken off: refused as too precise past
18 places, as too large from `10 ^ 20` on, and read back otherwise. -/
theorem parseBody_bodyChars (negative : Bool) (m s : Nat) :
    parseBody negative (bodyChars m s) =
      if maxPlaces < s then .error .tooPrecise
      else if Nat.pow 10 maxDigits ≤ m then .error .tooLarge
      else .ok ⟨if negative then -(m : Int) else m, s⟩ := by
  by_cases whole : s = 0
  · -- At scale 0 the text is the digits alone.
    subst whole
    have read := @parseBody_digits negative (Nat.toDigits 10 m) []
      (fun _ member => digit_of_mem_toDigits member) (by simp) Nat.toDigits_ne_nil
    simpa [bodyChars, digitsValue_toDigits] using read
  · -- Otherwise the whole digits, a point, and at least `s` fraction digits.
    have fraction : ∀ c ∈ (padded (m % (Nat.pow 10 (min s 128) % Nat.pow 2 128)) s).toList,
        c.isDigit = true := fun _ member => digit_of_mem_padded member
    have nonempty : (padded (m % (Nat.pow 10 (min s 128) % Nat.pow 2 128)) s).toList ≠ [] := by
      intro empty
      have := le_padded_length (m % (Nat.pow 10 (min s 128) % Nat.pow 2 128)) s
      rw [empty] at this
      simp at this
      omega
    have read := @parseBody_digits negative
      (Nat.toDigits 10 (m / (Nat.pow 10 (min s 128) % Nat.pow 2 128))) _
      (fun _ member => digit_of_mem_toDigits member) fraction Nat.toDigits_ne_nil
    rw [if_neg nonempty] at read
    unfold bodyChars
    rw [if_neg whole, read]
    by_cases precise : maxPlaces < s
    · have longer := le_padded_length (m % (Nat.pow 10 (min s 128) % Nat.pow 2 128)) s
      rw [if_pos (by omega), if_pos precise]
    · -- Within 18 places the divisor is ten to the scale, and the digits read back as `m`.
      have exact := divisor_eq (Nat.le_of_not_lt precise)
      have remainder : m % Nat.pow 10 s < Nat.pow 10 s := Nat.mod_lt m (Nat.pos_of_ne_zero (by simp))
      rw [exact, padded_length remainder (Nat.pos_of_ne_zero whole), if_neg precise, if_neg precise,
        digitsValue_append, digitsValue_toDigits, digitsValue_padded,
        padded_length remainder (Nat.pos_of_ne_zero whole), Nat.div_add_mod']

/-! ### Reading a decimal's text -/

theorem not_blank_of_digit {c : Char} (digit : c.isDigit = true) : isBlank c = false := by
  have bounds := JsonText.digit_bounds digit
  simp only [isBlank, Bool.or_eq_false_iff, Bool.and_eq_false_iff, decide_eq_false_iff_not,
    beq_eq_false_iff_ne, ne_eq]
  omega

theorem trimBlank_of_solid {cs : List Char} (solid : ∀ c ∈ cs, isBlank c = false) :
    trimBlank cs = cs := by
  have front : ∀ {ds : List Char}, (∀ c ∈ ds, isBlank c = false) → ds.dropWhile isBlank = ds := by
    intro ds solid'
    cases ds with
    | nil => rfl
    | cons c rest => exact List.dropWhile_cons_of_neg (by simp [solid' c List.mem_cons_self])
  unfold trimBlank
  rw [front solid, front fun c member => solid c (List.mem_reverse.mp member), List.reverse_reverse]

/-- Every character of a decimal's text is a digit, a minus sign or a point. -/
theorem render_solid (d : Decimal) : ∀ c ∈ d.render.toList, isBlank c = false := by
  intro c member
  rw [render_toList, List.mem_append] at member
  rcases member with sign | body
  · split at sign
    · rw [List.mem_singleton.mp sign]
      rfl
    · simp at sign
  · unfold bodyChars at body
    split at body
    · exact not_blank_of_digit (digit_of_mem_toDigits body)
    · rcases List.mem_append.mp body with whole | point
      · exact not_blank_of_digit (digit_of_mem_toDigits whole)
      · rcases List.mem_cons.mp point with rfl | fraction
        · rfl
        · exact not_blank_of_digit (digit_of_mem_padded fraction)

/-- A text that starts with a digit is read as a body without a sign. -/
theorem parse_of_digit {text : String} {c : Char} {rest : List Char}
    (chars : trimBlank text.toList = c :: rest) (digit : c.isDigit = true) :
    parse text = parseBody false (c :: rest) := by
  have notMinus : c ≠ '-' := by
    rintro rfl
    exact absurd digit (by decide)
  have notPlus : c ≠ '+' := by
    rintro rfl
    exact absurd digit (by decide)
  unfold parse
  rw [chars]
  -- The three patterns before the last need an empty text or a sign first.
  split
  · simp_all
  · simp_all
  · simp_all
  · rfl

theorem bodyChars_cons (m s : Nat) : ∃ c rest, bodyChars m s = c :: rest ∧ c.isDigit = true := by
  have leading : ∀ n : Nat, ∀ tail : List Char,
      ∃ c rest, Nat.toDigits 10 n ++ tail = c :: rest ∧ c.isDigit = true := by
    intro n tail
    cases digits : Nat.toDigits 10 n with
    | nil => exact absurd digits Nat.toDigits_ne_nil
    | cons c rest =>
      exact ⟨c, rest ++ tail, rfl, digit_of_mem_toDigits (by rw [digits]; exact List.mem_cons_self)⟩
  unfold bodyChars
  split
  · simpa using leading m []
  · exact leading _ _

/-- **A decimal's text reads back as the decimal when it fits decimal text**, and is refused as
too precise past 18 places, else as too large from `10 ^ 20` on. -/
theorem parse_render (d : Decimal) :
    parse d.render =
      if maxPlaces < d.scale then .error .tooPrecise
      else if Nat.pow 10 maxDigits ≤ d.units.natAbs then .error .tooLarge
      else .ok d := by
  have chars := render_toList d
  rw [← trimBlank_of_solid (render_solid d)] at chars
  by_cases negative : d.units < 0
  · rw [if_pos negative, List.singleton_append] at chars
    unfold parse
    rw [chars]
    show parseBody true (bodyChars d.units.natAbs d.scale) = _
    rw [parseBody_bodyChars]
    have units : -(d.units.natAbs : Int) = d.units := by omega
    simp only [if_true, units]
  · rw [if_neg negative, List.nil_append] at chars
    obtain ⟨c, rest, body, digit⟩ := bodyChars_cons d.units.natAbs d.scale
    rw [body] at chars
    rw [parse_of_digit chars digit, ← body, parseBody_bodyChars]
    have units : (d.units.natAbs : Int) = d.units := by omega
    simp only [Bool.false_eq_true, if_false, units]

/-- So reading a decimal's text gives exactly the decimals that fit it. -/
theorem parse_render_eq_ok_iff {d d' : Decimal} : parse d.render = .ok d' ↔ d.Fits ∧ d' = d := by
  rw [parse_render]
  unfold Fits
  by_cases precise : maxPlaces < d.scale
  · rw [if_pos precise]
    constructor
    · intro refused
      cases refused
    · rintro ⟨⟨few, -⟩, -⟩
      omega
  · by_cases large : Nat.pow 10 maxDigits ≤ d.units.natAbs
    · rw [if_neg precise, if_pos large]
      constructor
      · intro refused
        cases refused
      · rintro ⟨⟨-, small⟩, -⟩
        omega
    · simp only [if_neg precise, if_neg large, Except.ok.injEq]
      constructor
      · rintro rfl
        exact ⟨⟨by omega, by omega⟩, rfl⟩
      · rintro ⟨-, rfl⟩
        rfl

end Decimal

end Survey
