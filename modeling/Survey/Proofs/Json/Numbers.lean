import Mathlib
import Survey.Proofs.Json.Tokens
import Survey.Proofs.Decimal.Text

/-!
# Reading back the integers a writer gives

The writer gives an integer as its digits, after a minus sign when it is negative. The reader
keeps an integer only while it fits: a natural number up to `2 ^ 64 - 1`, a negative one down to
`-2 ^ 63` (`JsonNumber.Exact`); past that it reads a double, or faults. So the text of an
integer, followed by what may follow a value, reads back as that very integer when the reader
keeps it, and as no integer at all otherwise (`JsonNumber.ReadAs`).

* `JsonText.wholeDigits_run` — whole digits are read as their value while it fits a word;
  `JsonText.wholeDigits_overflow` — past that, as no integer.
* `JsonText.FloatOnly` — a reading that gives no integer; every way of reading on past the whole
  digits (`longDigits`, `fractionDigits`, `exponentPart`) is one.
* `JsonText.numberToken_integer` — the token of an integer's text reads as `JsonNumber.ReadAs`
  says, and ends where the text does.
-/

namespace Survey

namespace JsonNumber

/-- A number as the writer gives an integer: a natural number, or a negative one. -/
def Integer : JsonNumber → Prop
  | .nat _ => True
  | .negative i => i < 0
  | .float _ => False

/-- An integer the reader keeps as it is: a natural number that fits a 64-bit word, or a
negative one down to `-2 ^ 63`. -/
def Exact : JsonNumber → Prop
  | .nat n => n ≤ JsonText.wordMax
  | .negative i => -Int.pow 2 63 ≤ i ∧ i < 0
  | .float _ => False

/-- What reading the text of `n` gives: `n` itself when the reader keeps it, and otherwise no
integer, only a double or a fault. -/
def ReadAs (n : JsonNumber) (r : Except ReadFault JsonNumber) : Prop :=
  (n.Exact → r = .ok n) ∧ (¬ n.Exact → ∀ m, r = .ok m → ∃ f, m = .float f)

end JsonNumber

namespace JsonText

variable {bytes : ByteArray}

/-! ### Readings that give no integer -/

/-- A reading that gives no integer: a double, or a fault. -/
def NoInteger (read : NumberRead) : Prop := ∀ n, read.value = .ok n → ∃ f, n = .float f

/-- A reading that gives no integer, or stops at a fault. -/
def FloatOnly (r : Except ReadFault NumberRead) : Prop := ∀ read, r = .ok read → NoInteger read

theorem floatOnly_ok {read : NumberRead} (none : NoInteger read) : FloatOnly (.ok read) := by
  intro read' same
  obtain rfl := Except.ok.inj same
  exact none

theorem floatOnly_error (f : ReadFault) : FloatOnly (.error f) := by
  intro read same
  cases same

theorem finishFloat_noInteger (positive : Bool) (significand : Nat) (exponent : Int) (p : Nat) :
    NoInteger (finishFloat positive significand exponent p) := by
  intro n read
  unfold finishFloat at read
  split at read
  · exact ⟨_, (Except.ok.inj read).symm⟩
  · cases read

theorem exponentDigits_noInteger (positive : Bool) (significand : Nat) (start : Int) (up : Bool)
    (exp p : Nat) : NoInteger (exponentDigits bytes positive significand start up exp p) := by
  fun_induction exponentDigits bytes positive significand start up exp p with
  | case1 => intro n read; cases read
  | case2 => intro n read; exact ⟨_, (Except.ok.inj read).symm⟩
  | case3 => assumption
  | case4 => exact finishFloat_noInteger _ _ _ _
  | case5 => exact finishFloat_noInteger _ _ _ _

theorem exponentPart_floatOnly (positive : Bool) (significand : Nat) (start : Int) (p : Nat) :
    FloatOnly (exponentPart bytes positive significand start p) := by
  unfold exponentPart
  dsimp only
  split
  · exact floatOnly_error _
  · split
    · exact floatOnly_ok (exponentDigits_noInteger _ _ _ _ _ _)
    · exact floatOnly_error _

theorem afterOverflow_floatOnly (positive : Bool) (significand : Nat) (exponent : Int) (p : Nat) :
    FloatOnly (afterOverflow bytes positive significand exponent p) := by
  unfold afterOverflow
  dsimp only
  split
  · exact exponentPart_floatOnly _ _ _ _
  · exact exponentPart_floatOnly _ _ _ _
  · exact floatOnly_ok (finishFloat_noInteger _ _ _ _)

theorem fractionDigits_floatOnly (positive : Bool) (significand : Nat) (before : Int)
    (after p : Nat) : FloatOnly (fractionDigits bytes positive significand before after p) := by
  fun_induction fractionDigits bytes positive significand before after p with
  | case1 => exact afterOverflow_floatOnly _ _ _ _
  | case2 => assumption
  | case3 => exact floatOnly_error _
  | case4 => exact exponentPart_floatOnly _ _ _ _
  | case5 => exact floatOnly_ok (finishFloat_noInteger _ _ _ _)
  | case6 => exact floatOnly_error _
  | case7 => exact floatOnly_ok (finishFloat_noInteger _ _ _ _)

theorem longDigits_floatOnly (positive : Bool) (significand exponent p : Nat) :
    FloatOnly (longDigits bytes positive significand exponent p) := by
  fun_induction longDigits bytes positive significand exponent p with
  | case1 => assumption
  | case2 => exact fractionDigits_floatOnly _ _ _ _ _
  | case3 => exact exponentPart_floatOnly _ _ _ _
  | case4 => exact floatOnly_ok (finishFloat_noInteger _ _ _ _)
  | case5 => exact floatOnly_ok (finishFloat_noInteger _ _ _ _)


/-! ### Whole digits -/

/-- A digit character's byte, less `'0'`, is the digit's value. -/
theorem digitByte_value {c : Char} (bounds : 48 ≤ c.toNat ∧ c.toNat ≤ 57) :
    (UInt8.ofNat c.toNat - 0x30).toNat = c.toNat - '0'.toNat := by
  have small : c.toNat < 256 := by omega
  simp only [show '0'.toNat = 48 from rfl, UInt8.toNat_sub, UInt8.toNat_ofNat', Nat.reducePow,
    Nat.mod_eq_of_lt small, UInt8.reduceToNat]
  omega

/-- **The reader's whole digits, over a run of digits whose value fits a word, read that
value** and hand over where the run ends. -/
theorem wholeDigits_run {positive : Bool} {s p : Nat} {cs : List Char}
    (placed : Placed bytes p (cs.map fun c => UInt8.ofNat c.toNat))
    (digits : ∀ c ∈ cs, 48 ≤ c.toNat ∧ c.toNat ≤ 57)
    (ends : ∀ b, byteAt bytes (p + cs.length) = some b → isDigit b = false)
    (fits : s * Nat.pow 10 cs.length + Decimal.digitsValue cs ≤ wordMax) :
    wholeDigits bytes positive s p =
      afterWhole bytes positive (s * Nat.pow 10 cs.length + Decimal.digitsValue cs)
        (p + cs.length) := by
  induction cs generalizing s p with
  | nil =>
    have value : s * Nat.pow 10 ([] : List Char).length + Decimal.digitsValue [] = s := by
      simp [Decimal.digitsValue]
    rw [value, List.length_nil, Nat.add_zero, wholeDigits]
    split
    · next inside =>
      have stop := ends bytes[p] (by simp [byteAt, inside])
      simp [stop]
    · rfl
  | cons c cs ih =>
    obtain ⟨here, rest⟩ := placed_cons.mp placed
    have inside := lt_size_of_byteAt here
    have bounds := digits c List.mem_cons_self
    -- The value read so far, shifted past the remaining digits, is the whole value.
    have shifted : s * Nat.pow 10 (c :: cs).length + Decimal.digitsValue (c :: cs) =
        (s * 10 + (c.toNat - '0'.toNat)) * Nat.pow 10 cs.length + Decimal.digitsValue cs := by
      rw [Decimal.digitsValue_cons, List.length_cons, Decimal.pow_ten_succ]
      ring
    have prefixFits : s * 10 + (c.toNat - '0'.toNat) ≤ wordMax := by
      have one : 0 < Nat.pow 10 cs.length := Nat.pow_pos (by omega)
      rw [shifted] at fits
      nlinarith
    rw [wholeDigits, dif_pos inside, getElem_of_byteAt inside here]
    simp only [isDigit_ofNat bounds, ↓reduceIte, digitByte_value bounds, Nat.not_lt.mpr prefixFits]
    rw [shifted, ih rest (fun c' member => digits c' (List.mem_cons_of_mem c member))
      (by simpa [Nat.add_assoc, Nat.add_comm 1] using ends) (shifted ▸ fits)]
    simp only [List.length_cons]
    congr 1
    omega

/-- Whole digits whose value passes a word's range are read as no integer. -/
theorem wholeDigits_overflow {positive : Bool} {s p : Nat} {cs : List Char}
    (placed : Placed bytes p (cs.map fun c => UInt8.ofNat c.toNat))
    (digits : ∀ c ∈ cs, 48 ≤ c.toNat ∧ c.toNat ≤ 57) (small : s ≤ wordMax)
    (large : wordMax < s * Nat.pow 10 cs.length + Decimal.digitsValue cs) :
    FloatOnly (wholeDigits bytes positive s p) := by
  induction cs generalizing s p with
  | nil =>
    simp [Decimal.digitsValue] at large
    omega
  | cons c cs ih =>
    obtain ⟨here, rest⟩ := placed_cons.mp placed
    have inside := lt_size_of_byteAt here
    have bounds := digits c List.mem_cons_self
    rw [wholeDigits, dif_pos inside, getElem_of_byteAt inside here]
    simp only [isDigit_ofNat bounds, ↓reduceIte, digitByte_value bounds]
    split
    · exact longDigits_floatOnly _ _ _ _
    · next fits =>
      refine ih rest (fun c' member => digits c' (List.mem_cons_of_mem c member)) (by omega) ?_
      rw [Decimal.digitsValue_cons, List.length_cons, Decimal.pow_ten_succ] at large
      nlinarith

/-- After whole digits comes what may follow a value: the reader gives an integer, unless a
negative one leaves the range it keeps. -/
theorem afterWhole_follows {positive : Bool} {significand r : Nat} (follows : Follows bytes r) :
    afterWhole bytes positive significand r =
      if positive then .ok ⟨.ok (.nat significand), r⟩
      else if significand = 0 ∨ Nat.pow 2 63 < significand then
        .ok ⟨.ok (.float (Binary64.ofNat significand).neg), r⟩
      else .ok ⟨.ok (.negative (-(significand : Int))), r⟩ := by
  unfold afterWhole
  rcases follows with found | found | found | found <;> rw [found] <;> rfl

/-- **The reader reads the digits of a natural number**, after the sign it has taken, as that
number while it fits a word, and as no integer otherwise. -/
theorem readNumber_digits {p q n : Nat} {positive : Bool}
    (signed : (if byteAt bytes p == some 0x2D then (false, p + 1) else (true, p)) = (positive, q))
    (placed : Placed bytes q (textBytes (toString n)))
    (follows : Follows bytes (q + (textBytes (toString n)).length)) :
    (n ≤ wordMax →
      readNumber bytes p = afterWhole bytes positive n (q + (textBytes (toString n)).length)) ∧
    (wordMax < n → FloatOnly (readNumber bytes p)) := by
  rw [textBytes_digits] at placed follows ⊢
  rcases placed_digits_cases placed follows with
    ⟨rfl, zeroByte, after⟩ | ⟨d, ds, digits, first, rests, byte, notZero, rest, after⟩
  · refine ⟨fun _ => ?_, fun large => absurd large (by simp [wordMax])⟩
    unfold readNumber
    rw [signed]
    simp only [zeroByte, beq_self_eq_true, ↓reduceIte]
    split
    · next b found => simp [(Follows.ends after b found).1]
    · rfl
  · have started : readNumber bytes p =
        wholeDigits bytes positive (d.toNat - '0'.toNat) (q + 1) := by
      unfold readNumber
      rw [signed]
      simp only [byte, beq_false_of_ne notZero, isDigit_ofNat first, Bool.false_eq_true,
        ↓reduceIte, digitByte_value first]
    have whole : (d.toNat - '0'.toNat) * Nat.pow 10 ds.length + Decimal.digitsValue ds = n := by
      rw [← Decimal.digitsValue_cons, ← digits, Decimal.digitsValue_toDigits n]
    rw [started, digits]
    refine ⟨fun small => ?_, fun large => ?_⟩
    · rw [List.length_map] at after
      rw [wholeDigits_run rest rests (fun b found => (Follows.ends after b found).1)
        (whole ▸ small), whole]
      simp only [List.map_cons, List.length_cons, List.length_map]
      congr 1
      omega
    · have leading : d.toNat - '0'.toNat ≤ wordMax := by
        have nine : 9 ≤ wordMax := by decide
        simp only [show '0'.toNat = 48 from rfl]
        omega
      exact wholeDigits_overflow rest rests leading (whole ▸ large)

/-! ### Number tokens -/

/-- Once a number's text passes the skipper, its token carries what the reader read. -/
theorem numberToken_eq {p stop : Nat} (skipped : skipNumber bytes p = .ok stop) :
    numberToken bytes p = .ok ⟨match readNumber bytes p with
      | .ok read => read.value
      | .error f => .error f, stop⟩ := by
  unfold numberToken
  rw [skipped]
  cases readNumber bytes p <;> rfl

/-- A token whose reading gives no integer carries no integer. -/
theorem FloatOnly.token {r : Except ReadFault NumberRead} (none : FloatOnly r) :
    ∀ m, (match r with
      | .ok read => read.value
      | .error f => .error f) = .ok m → ∃ f, m = .float f := by
  intro m carried
  cases r with
  | ok read => exact none read rfl m carried
  | error f => cases carried

/-- **The token of an integer's text reads back as that integer** when the reader keeps it, and
as no integer otherwise; it ends where the text does. -/
theorem numberToken_integer {p : Nat} {n : JsonNumber} (integer : n.Integer)
    (placed : Placed bytes p (textBytes (Json.render (.number n))))
    (follows : Follows bytes (p + (textBytes (Json.render (.number n))).length)) :
    ∃ r, numberToken bytes p = .ok ⟨r, p + (textBytes (Json.render (.number n))).length⟩ ∧
      n.ReadAs r := by
  cases n with
  | float f => exact absurd integer id
  | nat m =>
    have written : Json.render (.number (.nat m)) = toString m := rfl
    rw [written] at placed follows ⊢
    refine ⟨_, numberToken_eq (skipNumber_int (i := (m : Int)) placed follows), ?_⟩
    have signed : (if byteAt bytes p == some 0x2D then (false, p + 1) else (true, p)) = (true, p) := by
      obtain ⟨b, rest, bytesEq, digit⟩ := textBytes_digits_cons m
      have first : byteAt bytes p = some b := by
        rw [bytesEq] at placed
        exact (placed_cons.mp placed).1
      rw [first]
      have notMinus : (some b == some (0x2D : UInt8)) = false :=
        beq_false_of_ne fun same => by
          obtain rfl := Option.some.inj same
          exact absurd digit (by decide)
      rw [notMinus]
      rfl
    obtain ⟨exact, inexact⟩ := readNumber_digits signed placed follows
    refine ⟨fun small => ?_, fun large => FloatOnly.token (inexact (Nat.lt_of_not_le large))⟩
    rw [exact small, afterWhole_follows follows]
    rfl
  | negative i =>
    have negative : i < 0 := integer
    have written : Json.render (.number (.negative i)) = toString i := rfl
    rw [written] at placed follows ⊢
    rw [textBytes_int, if_pos negative] at placed follows ⊢
    simp only [List.singleton_append, List.length_cons] at placed follows ⊢
    obtain ⟨minus, digits⟩ := placed_cons.mp placed
    have ends : Follows bytes (p + 1 + (textBytes (toString i.natAbs)).length) := by
      simpa [Nat.add_assoc, Nat.add_comm 1] using follows
    have skipped : skipNumber bytes p = .ok (p + ((textBytes (toString i.natAbs)).length + 1)) := by
      have := skipNumber_int (i := i) (by rw [textBytes_int, if_pos negative]; exact placed)
        (by rw [textBytes_int, if_pos negative]; exact follows)
      rw [this, textBytes_int, if_pos negative]
      rfl
    refine ⟨_, numberToken_eq skipped, ?_⟩
    have signed : (if byteAt bytes p == some 0x2D then (false, p + 1) else (true, p)) =
        (false, p + 1) := by
      rw [minus]
      rfl
    obtain ⟨exact, inexact⟩ := readNumber_digits signed digits ends
    have magnitude : (0 : Int) < i.natAbs := by omega
    by_cases small : i.natAbs ≤ wordMax
    · rw [exact small, afterWhole_follows ends]
      by_cases kept : Nat.pow 2 63 < i.natAbs
      · -- Below `-2 ^ 63` the reader keeps a double.
        have notExact : ¬ (JsonNumber.negative i).Exact := fun kept' => by
          have low := kept'.1
          have : (Nat.pow 2 63 : Int) = Int.pow 2 63 := by norm_num
          omega
        rw [if_pos (Or.inr kept)]
        exact ⟨fun exact' => absurd exact' notExact,
          fun _ m carried => ⟨_, (Except.ok.inj carried).symm⟩⟩
      · rw [if_neg (show ¬(i.natAbs = 0 ∨ Nat.pow 2 63 < i.natAbs) by omega)]
        have back : -((i.natAbs : Nat) : Int) = i := by omega
        refine ⟨fun _ => by rw [back]; rfl, fun notExact => absurd ⟨?_, negative⟩ notExact⟩
        have : (Nat.pow 2 63 : Int) = Int.pow 2 63 := by norm_num
        omega
    · have notExact : ¬ (JsonNumber.negative i).Exact := fun kept => by
        have low := kept.1
        have wide : (wordMax : Int) = Int.pow 2 64 - 1 := by norm_num [wordMax]
        have : (Int.pow 2 63 : Int) < Int.pow 2 64 - 1 := by norm_num
        omega
      exact ⟨fun exact' => absurd exact' notExact,
        fun _ => FloatOnly.token (inexact (Nat.lt_of_not_le small))⟩

end JsonText

end Survey
