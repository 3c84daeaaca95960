import Mathlib
import Survey.Proofs.Decimal.Text
import Survey.Proofs.Rule.Totals

/-!
# The grammar of decimal text

A number's text, its blanks trimmed, is an optional sign, `+` or `-`, then a body of ASCII
digits with at most one point, and at least one digit: `12`, `-0.50`, `+.5`, `5.`
(`Decimal.Written`). The reader accepts exactly the texts of this grammar that have at most 18
fraction digits and at most 20 digits once the leading zeros of the whole and fraction digits
together are dropped, and reads each as the value written, at the scale of its fraction digits.
Any other text is refused for the first of these faults: the body (what follows a sign) is
empty or a lone point; a character of the body, its first point taken out, is not a digit, and
the first such is named; the fraction has more than 18 digits; there are more than 20
significant digits.

* `Decimal.splitAtPoint_eq` — the reader splits a body at its first point;
* `Decimal.written_iff` — a text is written with a sign, whole and fraction digits exactly when
  the reader finds that sign and splits the body into those digits, so a written text has one
  reading;
* `Decimal.parseBody_of_digits` — a body of digits is read, or refused for its size;
  `Decimal.parse_eq_ok_read` — an accepted text is read as its digits, within both bounds;
  `Decimal.readDigits_eq_ok_iff` — what is read is the written value, within both bounds;
* **`Decimal.parse_follows_grammar`** — the reader's answer for every text.
-/

namespace Survey

namespace Decimal

/-- A text's sign and body as the reader takes them: blanks trimmed, then a leading `-` or `+`
taken off. -/
def signed (text : String) : Option Char × List Char :=
  match trimBlank text.toList with
  | '-' :: body => (some '-', body)
  | '+' :: body => (some '+', body)
  | body => (none, body)

/-- The body of a number's text with whole digits `whole` and fraction digits `fraction`: the
whole digits alone, or followed by a point and the fraction digits (the point may end the body,
as in `5.`). -/
def Body (body whole fraction : List Char) : Prop :=
  (body = whole ∧ fraction = []) ∨ body = whole ++ '.' :: fraction

/-- A number's text as the grammar has it, blanks trimmed: an optional sign, then a body of
ASCII digits with at most one point, with at least one digit (so the body is neither empty nor
a lone point). -/
structure Written (text : List Char) (sign : Option Char) (whole fraction : List Char) : Prop where
  signs : sign = none ∨ sign = some '+' ∨ sign = some '-'
  spelled : ∃ body, text = sign.toList ++ body ∧ Body body whole fraction
  digits : ∀ c ∈ whole ++ fraction, c.isDigit = true
  someDigit : whole ++ fraction ≠ []

/-- The value of a number written with `sign`, `whole` and `fraction` digits. -/
def writtenValue (sign : Option Char) (whole fraction : List Char) : ℚ :=
  (if sign = some '-' then -1 else 1) *
    (digitsValue whole + digitsValue fraction / 10 ^ fraction.length)

/-! ### Sign and body -/

theorem parse_eq_parseBody (text : String) :
    parse text = parseBody ((signed text).1 == some '-') (signed text).2 := by
  unfold parse signed
  rcases trimBlank text.toList with _ | ⟨c, rest⟩
  · rfl
  · by_cases minus : c = '-'
    · subst minus
      rfl
    by_cases plus : c = '+'
    · subst plus
      rfl
    simp [minus, plus]

theorem signed_spec (text : String) :
    trimBlank text.toList = (signed text).1.toList ++ (signed text).2 ∧
      ((signed text).1 = none ∨ (signed text).1 = some '+' ∨ (signed text).1 = some '-') := by
  unfold signed
  split <;> simp_all

/-- A body with a digit starts with a digit or a point, never with a sign. -/
theorem Body.head_not_sign {body whole fraction : List Char} (spelled : Body body whole fraction)
    (digits : ∀ c ∈ whole, c.isDigit = true) (someDigit : whole ++ fraction ≠ [])
    {c : Char} {rest : List Char} (starts : body = c :: rest) : c ≠ '-' ∧ c ≠ '+' := by
  have head : c.isDigit = true ∨ c = '.' := by
    cases whole with
    | cons d ds =>
      rcases spelled with ⟨rfl, -⟩ | rfl <;>
        · simp only [List.cons_append, List.cons.injEq] at starts
          exact .inl (starts.1 ▸ digits d List.mem_cons_self)
    | nil =>
      rcases spelled with ⟨rfl, rfl⟩ | rfl
      · exact absurd rfl someDigit
      · simp only [List.nil_append, List.cons.injEq] at starts
        exact .inr starts.1.symm
  rcases head with digit | rfl
  · constructor <;> rintro rfl <;> exact absurd digit (by decide)
  · decide

/-- The reader takes off the sign a written text has, and is left with its body. -/
theorem Written.signed_eq {text : String} {sign : Option Char} {whole fraction : List Char}
    (written : Written (trimBlank text.toList) sign whole fraction) :
    (signed text).1 = sign ∧ Body (signed text).2 whole fraction := by
  obtain ⟨body, spelled, shape⟩ := written.spelled
  have wholeDigits : ∀ c ∈ whole, c.isDigit = true :=
    fun c member => written.digits c (List.mem_append_left _ member)
  unfold signed
  rcases written.signs with rfl | rfl | rfl
  · -- Unsigned: the body starts with a digit or a point, so no sign is taken off.
    rw [spelled]
    cases starts : body with
    | nil => simpa [starts] using shape
    | cons c rest =>
      obtain ⟨minus, plus⟩ := shape.head_not_sign wholeDigits written.someDigit starts
      rw [← starts]
      split
      · simp_all
      · simp_all
      · exact ⟨rfl, shape⟩
  · rw [spelled]
    exact ⟨rfl, shape⟩
  · rw [spelled]
    exact ⟨rfl, shape⟩

/-! ### Splitting at the point -/

theorem splitAtPoint_eq (cs : List Char) :
    splitAtPoint cs = (cs.takeWhile (· != '.'), (cs.dropWhile (· != '.')).drop 1) := by
  unfold splitAtPoint
  rw [List.span_eq_takeWhile_dropWhile]
  cases cs.dropWhile (· != '.') <;> rfl

theorem point_not_mem_takeWhile (cs : List Char) : '.' ∉ cs.takeWhile (· != '.') := by
  intro member
  simpa using List.mem_takeWhile_imp member

/-- The reader's split of a body is at its first point. -/
theorem body_splitAtPoint (cs : List Char) : Body cs (splitAtPoint cs).1 (splitAtPoint cs).2 := by
  rw [splitAtPoint_eq]
  have whole := List.takeWhile_append_dropWhile (p := (· != '.')) (l := cs)
  cases rest : cs.dropWhile (· != '.') with
  | nil =>
    rw [rest, List.append_nil] at whole
    exact .inl ⟨whole.symm, rfl⟩
  | cons d fraction =>
    have point : d = '.' := by
      have := List.head_dropWhile_not (· != '.') (l := cs) (by simp [rest])
      simpa [rest] using this
    subst point
    rw [rest] at whole
    exact .inr whole.symm

theorem splitAtPoint_of_body {cs whole fraction : List Char} (body : Body cs whole fraction)
    (digits : ∀ c ∈ whole, c.isDigit = true) : splitAtPoint cs = (whole, fraction) := by
  rcases body with ⟨rfl, rfl⟩ | rfl
  · exact splitAtPoint_digits digits
  · exact splitAtPoint_point digits fraction

/-- The two parts of the split are the body with its first point taken out. -/
theorem splitAtPoint_append (cs : List Char) :
    (splitAtPoint cs).1 ++ (splitAtPoint cs).2 = cs.erase '.' := by
  have apart : '.' ∉ (splitAtPoint cs).1 := by
    rw [splitAtPoint_eq]
    exact point_not_mem_takeWhile cs
  rcases body_splitAtPoint cs with ⟨whole, fraction⟩ | split
  · rw [fraction, List.append_nil]
    conv_rhs => rw [whole]
    rw [List.erase_of_not_mem apart]
  · conv_rhs => rw [split]
    rw [List.erase_append_right _ apart, List.erase_cons_head]

theorem splitAtPoint_eq_nil_iff (cs : List Char) :
    splitAtPoint cs = ([], []) ↔ cs = [] ∨ cs = ['.'] := by
  constructor
  · intro split
    have body := body_splitAtPoint cs
    rw [split] at body
    rcases body with ⟨rfl, -⟩ | rfl
    · exact .inl rfl
    · exact .inr rfl
  · rintro (rfl | rfl) <;> rfl

/-! ### One reading per written text -/

/-- **A text is written with a sign, whole and fraction digits exactly when the reader takes off
that sign and splits the body into those digits, at least one, all digits.** -/
theorem written_iff {text : String} {sign : Option Char} {whole fraction : List Char} :
    Written (trimBlank text.toList) sign whole fraction ↔
      (signed text).1 = sign ∧ splitAtPoint (signed text).2 = (whole, fraction) ∧
        (∀ c ∈ whole ++ fraction, c.isDigit = true) ∧ whole ++ fraction ≠ [] := by
  constructor
  · intro written
    obtain ⟨sign_eq, shape⟩ := written.signed_eq
    exact ⟨sign_eq, splitAtPoint_of_body shape fun c member =>
      written.digits c (List.mem_append_left _ member), written.digits, written.someDigit⟩
  · rintro ⟨rfl, split, digits, someDigit⟩
    obtain ⟨spelled, signs⟩ := signed_spec text
    have shape := body_splitAtPoint (signed text).2
    rw [split] at shape
    exact ⟨signs, ⟨_, spelled, shape⟩, digits, someDigit⟩

/-- So a property of some way of writing a text is a property of the reader's split. -/
theorem exists_written_iff {text : String} {whole fraction : List Char}
    (split : splitAtPoint (signed text).2 = (whole, fraction))
    {P : Option Char → List Char → List Char → Prop} :
    (∃ sign w f, Written (trimBlank text.toList) sign w f ∧ P sign w f) ↔
      ((∀ c ∈ whole ++ fraction, c.isDigit = true) ∧ whole ++ fraction ≠ []) ∧
        P (signed text).1 whole fraction := by
  constructor
  · rintro ⟨sign, w, f, written, holds⟩
    obtain ⟨rfl, split', digits, someDigit⟩ := written_iff.mp written
    rw [split, Prod.mk.injEq] at split'
    obtain ⟨rfl, rfl⟩ := split'
    exact ⟨⟨digits, someDigit⟩, holds⟩
  · rintro ⟨⟨digits, someDigit⟩, holds⟩
    exact ⟨_, _, _, written_iff.mpr ⟨rfl, split, digits, someDigit⟩, holds⟩

/-! ### Reading a body -/

theorem parseBody_of_empty {body : List Char} (empty : splitAtPoint body = ([], []))
    (negative : Bool) : parseBody negative body = .error .empty := by
  unfold parseBody
  rw [empty]
  rfl

theorem parseBody_of_invalid {body whole fraction : List Char}
    (split : splitAtPoint body = (whole, fraction)) (something : whole ++ fraction ≠ [])
    {c : Char} (bad : (whole ++ fraction).find? (fun c => !c.isDigit) = some c) (negative : Bool) :
    parseBody negative body = .error (.invalidCharacter c) := by
  have full : ¬ (whole.isEmpty && fraction.isEmpty) = true := by
    simpa [List.isEmpty_iff] using something
  unfold parseBody
  rw [split]
  dsimp only
  rw [if_neg full, bad]

/-- A body split into digits, at least one, is refused past 18 fraction digits, then past 20
significant digits, and read otherwise. -/
theorem parseBody_of_digits {body whole fraction : List Char}
    (split : splitAtPoint body = (whole, fraction)) (something : whole ++ fraction ≠ [])
    (digits : ∀ c ∈ whole ++ fraction, c.isDigit = true) (negative : Bool) :
    parseBody negative body =
      if maxPlaces < fraction.length then .error .tooPrecise
      else if maxDigits < ((whole ++ fraction).dropWhile (· == '0')).length then .error .tooLarge
      else .ok ⟨if negative then -(digitsValue (whole ++ fraction) : Int)
        else digitsValue (whole ++ fraction), fraction.length⟩ := by
  have full : ¬ (whole.isEmpty && fraction.isEmpty) = true := by
    simpa [List.isEmpty_iff] using something
  have noneBad : (whole ++ fraction).find? (fun c => !c.isDigit) = none :=
    List.find?_eq_none.mpr fun c member => by simp [digits c member]
  unfold parseBody
  rw [split]
  dsimp only
  rw [if_neg full, noneBad]
  dsimp only
  rw [digitsValue_dropWhile_zero]

/-- **What the reader returns**: a text it accepts splits into digits, at least one, with at most
18 fraction digits and 20 significant ones, and is read as those digits, signed, with one place
per fraction digit. -/
theorem parse_eq_ok_read {text : String} {d : Decimal} (read : parse text = .ok d) :
    ∃ whole fraction, splitAtPoint (signed text).2 = (whole, fraction) ∧
      (∀ c ∈ whole ++ fraction, c.isDigit = true) ∧ whole ++ fraction ≠ [] ∧
      fraction.length ≤ maxPlaces ∧ ((whole ++ fraction).dropWhile (· == '0')).length ≤ maxDigits ∧
      d = ⟨if ((signed text).1 == some '-') = true then -(digitsValue (whole ++ fraction) : Int)
        else digitsValue (whole ++ fraction), fraction.length⟩ := by
  rw [parse_eq_parseBody] at read
  cases split : splitAtPoint (signed text).2 with
  | mk whole fraction =>
  by_cases something : whole ++ fraction = []
  · obtain ⟨rfl, rfl⟩ := List.append_eq_nil_iff.mp something
    rw [parseBody_of_empty split] at read
    cases read
  cases bad : (whole ++ fraction).find? (fun c => !c.isDigit) with
  | some c =>
    rw [parseBody_of_invalid split something bad] at read
    cases read
  | none =>
    have digits : ∀ c ∈ whole ++ fraction, c.isDigit = true := by
      intro c member
      simpa using List.find?_eq_none.mp bad c member
    rw [parseBody_of_digits split something digits] at read
    by_cases precise : maxPlaces < fraction.length
    · rw [if_pos precise] at read
      cases read
    by_cases large : maxDigits < ((whole ++ fraction).dropWhile (· == '0')).length
    · rw [if_neg precise, if_pos large] at read
      cases read
    rw [if_neg precise, if_neg large, Except.ok.injEq] at read
    exact ⟨whole, fraction, rfl, digits, something, Nat.le_of_not_lt precise,
      Nat.le_of_not_lt large, read.symm⟩

/-- The decimal read from digits has the value they write. -/
theorem value_read (negative : Bool) (sign : Option Char) (minus : negative = true ↔ sign = some '-')
    (whole fraction : List Char) :
    (⟨if negative then -(digitsValue (whole ++ fraction) : Int) else digitsValue (whole ++ fraction),
      fraction.length⟩ : Decimal).value = writtenValue sign whole fraction := by
  have pos : (0 : ℚ) < 10 ^ fraction.length := by positivity
  have split : (digitsValue (whole ++ fraction) : ℚ) =
      digitsValue whole * 10 ^ fraction.length + digitsValue fraction := by
    rw [digitsValue_append]
    push_cast [Nat.pow_eq]
    ring
  unfold value writtenValue
  cases negative with
  | true =>
    rw [if_pos rfl, if_pos (minus.mp rfl)]
    push_cast
    rw [split]
    field_simp
  | false =>
    rw [if_neg (by simp), if_neg (fun same => absurd (minus.mpr same) (by simp))]
    push_cast
    rw [split]
    field_simp

/-! ### The reader's answer -/

/-- Digits within both bounds read as their written value at the scale of their fraction; past
either bound nothing is read. -/
theorem readDigits_eq_ok_iff (negative : Bool) (sign : Option Char)
    (minus : negative = true ↔ sign = some '-') (whole fraction : List Char) (d : Decimal) :
    (if maxPlaces < fraction.length then .error .tooPrecise
      else if maxDigits < ((whole ++ fraction).dropWhile (· == '0')).length then .error .tooLarge
      else .ok ⟨if negative then -(digitsValue (whole ++ fraction) : Int)
        else digitsValue (whole ++ fraction), fraction.length⟩ : Except NumberError Decimal) = .ok d ↔
      fraction.length ≤ maxPlaces ∧ ((whole ++ fraction).dropWhile (· == '0')).length ≤ maxDigits ∧
        d.scale = fraction.length ∧ d.value = writtenValue sign whole fraction := by
  by_cases precise : maxPlaces < fraction.length
  · rw [if_pos precise]
    simp only [reduceCtorEq, false_iff, not_and]
    omega
  by_cases large : maxDigits < ((whole ++ fraction).dropWhile (· == '0')).length
  · rw [if_neg precise, if_pos large]
    simp only [reduceCtorEq, false_iff, not_and]
    omega
  rw [if_neg precise, if_neg large, Except.ok.injEq]
  constructor
  · rintro rfl
    exact ⟨by omega, by omega, rfl, value_read _ _ minus whole fraction⟩
  · rintro ⟨-, -, scale, value⟩
    exact ext_of_value scale.symm (by rw [value, value_read _ _ minus whole fraction])

/-- **The reader follows the grammar.** A text reads as a decimal exactly when it is written
with an optional sign, whole and fraction digits, at most 18 of them after the point and at
most 20 once the leading zeros are dropped; the decimal then has the value written, at the
scale of the fraction digits. Otherwise the text is refused as empty when its body (the text
after a sign) is empty or a lone point, else for the first character of the body that is not a
digit once its first point is taken out, else as too precise for more than 18 fraction digits,
else as too large for more than 20 significant digits. -/
theorem parse_follows_grammar (text : String) :
    (∀ d, parse text = .ok d ↔ ∃ sign whole fraction,
        Written (trimBlank text.toList) sign whole fraction ∧ fraction.length ≤ maxPlaces ∧
          ((whole ++ fraction).dropWhile (· == '0')).length ≤ maxDigits ∧
          d.scale = fraction.length ∧ d.value = writtenValue sign whole fraction) ∧
      (parse text = .error .empty ↔ (signed text).2 = [] ∨ (signed text).2 = ['.']) ∧
      (∀ c, parse text = .error (.invalidCharacter c) ↔
        ¬ ((signed text).2 = [] ∨ (signed text).2 = ['.']) ∧
          ((signed text).2.erase '.').find? (fun c => !c.isDigit) = some c) ∧
      (parse text = .error .tooPrecise ↔ ∃ sign whole fraction,
        Written (trimBlank text.toList) sign whole fraction ∧ maxPlaces < fraction.length) ∧
      (parse text = .error .tooLarge ↔ ∃ sign whole fraction,
        Written (trimBlank text.toList) sign whole fraction ∧ fraction.length ≤ maxPlaces ∧
          maxDigits < ((whole ++ fraction).dropWhile (· == '0')).length) := by
  -- Everything is decided by the reader's split of the body.
  cases split : splitAtPoint (signed text).2 with
  | mk whole fraction =>
  have emptyBody : ((signed text).2 = [] ∨ (signed text).2 = ['.']) ↔ whole ++ fraction = [] := by
    rw [← splitAtPoint_eq_nil_iff, split, Prod.mk.injEq, List.append_eq_nil_iff]
  have erased : (signed text).2.erase '.' = whole ++ fraction := by
    rw [← splitAtPoint_append, split]
  have minus : ((signed text).1 == some '-') = true ↔ (signed text).1 = some '-' := beq_iff_eq
  rw [parse_eq_parseBody, emptyBody, erased]
  simp only [exists_written_iff split]
  by_cases something : whole ++ fraction = []
  · -- An empty body, or a lone point.
    obtain ⟨rfl, rfl⟩ := List.append_eq_nil_iff.mp something
    rw [parseBody_of_empty split]
    refine ⟨fun d => ?_, ?_, fun c => ?_, ?_, ?_⟩ <;> simp
  cases bad : (whole ++ fraction).find? (fun c => !c.isDigit) with
  | some c =>
    -- A character that is not a digit.
    have notDigits : ¬ ∀ c ∈ whole ++ fraction, c.isDigit = true := by
      intro digits
      have flagged := List.find?_some bad
      simp [digits c (List.mem_of_find?_eq_some bad)] at flagged
    rw [parseBody_of_invalid split something bad]
    refine ⟨fun d => ?_, ?_, fun c' => ?_, ?_, ?_⟩
    · simp only [reduceCtorEq, false_iff, not_and]
      exact fun digits => absurd digits.1 notDigits
    · exact ⟨fun refused => (by cases refused), fun empty => absurd empty something⟩
    · rw [Except.error.injEq, NumberError.invalidCharacter.injEq, Option.some.injEq,
        and_iff_right something]
    · exact ⟨fun refused => (by cases refused), fun written => absurd written.1.1 notDigits⟩
    · exact ⟨fun refused => (by cases refused), fun written => absurd written.1.1 notDigits⟩
  | none =>
    -- Digits only: refused for their size, or read.
    have digits : ∀ c ∈ whole ++ fraction, c.isDigit = true := by
      intro c member
      simpa using List.find?_eq_none.mp bad c member
    have sound : (∀ c ∈ whole ++ fraction, c.isDigit = true) ∧ whole ++ fraction ≠ [] :=
      ⟨digits, something⟩
    rw [parseBody_of_digits split something digits]
    simp only [and_iff_right sound]
    refine ⟨fun d => ?_, ?_, fun c => ?_, ?_, ?_⟩
    · exact readDigits_eq_ok_iff _ _ minus whole fraction d
    · split_ifs <;> simp [something]
    · split_ifs <;> simp
    · split_ifs with precise <;> simp [precise]
    · by_cases precise : maxPlaces < fraction.length
      · simp [precise]
      · have few : fraction.length ≤ maxPlaces := Nat.le_of_not_lt precise
        by_cases large : maxDigits < ((whole ++ fraction).dropWhile (· == '0')).length <;>
          simp [precise, few, large]

end Decimal

end Survey
