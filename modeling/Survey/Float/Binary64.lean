/-!
# Double-precision binary floating point

A finite double is `± m · 2^e` with a significand `m < 2^53`: normal when `2^52 ≤ m` and
`-1074 ≤ e ≤ 971`, subnormal (or zero) when `m < 2^52` and `e = -1074`. Every operation here
computes its exact rational result and rounds it once to the nearest double, a tie going to
the even significand; a result beyond the largest finite double is an infinity of its sign.
No runtime floating point is involved, so every value is open to proof.

The operations are the ones a decimal reader and a lossy comparison need: conversion of
integers, products and quotients, integer powers by repeated squaring, and the total order
that puts `-0` below `+0`.
-/

namespace Survey

/-- A double-precision value. Not-a-number never arises in this library, so it has no value. -/
inductive Binary64 where
  /-- `(-1)^negative · significand · 2^exponent`, kept in the canonical form above. -/
  | finite (negative : Bool) (significand : Nat) (exponent : Int)
  /-- An infinity of the given sign. -/
  | infinite (negative : Bool)
  deriving DecidableEq, Repr, Inhabited

namespace Binary64

/-- The exponent of the subnormals and of the smallest normal binade. -/
def minExponent : Int := -1074

/-- The exponent of the largest finite binade. -/
def maxExponent : Int := 971

/-- Signed zero. -/
def zero (negative : Bool) : Binary64 := .finite negative 0 minExponent

/-- The exponent `l` with `2^l ≤ n / d < 2^(l+1)`, for positive `n` and `d`. -/
def floorLog2Quotient (n d : Nat) : Int :=
  let l : Int := (Nat.log2 n : Int) - (Nat.log2 d : Int)
  let reaches : Bool :=
    if 0 ≤ l then decide (d * Nat.pow 2 l.toNat ≤ n) else decide (d ≤ n * Nat.pow 2 (-l).toNat)
  if reaches then l else l - 1

/-- The quotient `n / d` rounded to the nearest integer, a tie going to the even one. -/
def roundHalfEven (n d : Nat) : Nat :=
  let q := n / d
  let r := n % d
  if d < 2 * r || (2 * r == d && q % 2 == 1) then q + 1 else q

/-- The double nearest to `n / d · 2^shift` with the given sign; a tie goes to the even
significand, and a magnitude beyond the largest finite double becomes an infinity. A zero
numerator (or denominator) gives a zero of the given sign. -/
def ofQuotient (negative : Bool) (n d : Nat) (shift : Int) : Binary64 :=
  if n = 0 ∨ d = 0 then zero negative
  else
    let exponent := max (floorLog2Quotient n d + shift - 52) minExponent
    let k := shift - exponent
    let m :=
      if 0 ≤ k then roundHalfEven (n * Nat.pow 2 k.toNat) d
      else roundHalfEven n (d * Nat.pow 2 (-k).toNat)
    let (m, exponent) := if m = Nat.pow 2 53 then (Nat.pow 2 52, exponent + 1) else (m, exponent)
    if maxExponent < exponent then .infinite negative else .finite negative m exponent

/-- The double nearest to a natural number. -/
def ofNat (n : Nat) : Binary64 := ofQuotient false n 1 0

/-- The double nearest to an integer. -/
def ofInt (i : Int) : Binary64 := ofQuotient (decide (i < 0)) i.natAbs 1 0

/-- One. -/
def one : Binary64 := ofNat 1

/-- Whether the value is an infinity. -/
def isInfinite : Binary64 → Bool
  | .infinite _ => true
  | .finite .. => false

/-- Whether the value is a zero of either sign. -/
def isZero : Binary64 → Bool
  | .finite _ m _ => m == 0
  | .infinite _ => false

/-- Whether the sign bit is set. -/
def isNegative : Binary64 → Bool
  | .finite s _ _ => s
  | .infinite s => s

/-- The value with its sign flipped. -/
def neg : Binary64 → Binary64
  | .finite s m e => .finite (!s) m e
  | .infinite s => .infinite (!s)

/-- The rounded product. An infinity times anything is an infinity of the product's sign. -/
def mul : Binary64 → Binary64 → Binary64
  | .finite s m e, .finite t n f => ofQuotient (s != t) (m * n) 1 (e + f)
  | x, y => .infinite (x.isNegative != y.isNegative)

/-- The rounded quotient. A finite value over an infinity is a zero, an infinity over a finite
value is an infinity, and a zero divisor gives an infinity of the quotient's sign. -/
def div : Binary64 → Binary64 → Binary64
  | .finite s m e, .finite t n f =>
    if n = 0 then .infinite (s != t) else ofQuotient (s != t) m n (e - f)
  | .finite s _ _, .infinite t => zero (s != t)
  | x, y => .infinite (x.isNegative != y.isNegative)

/-- Repeated squaring: the accumulator takes the base whenever the low bit of the remaining
count is set, and the base is squared while bits remain. -/
def powAux (base acc : Binary64) (n : Nat) : Binary64 :=
  let acc := if n % 2 = 1 then acc.mul base else acc
  if h : n / 2 = 0 then acc else powAux (base.mul base) acc (n / 2)
termination_by n
decreasing_by omega

/-- `x` to an integer power, by repeated squaring from the lowest bit, each product rounded;
a negative power is the reciprocal of the positive one. -/
def powInt (x : Binary64) (n : Int) : Binary64 :=
  let r := powAux x one n.natAbs
  if n < 0 then one.div r else r

/-- Compare `m · 2^e` with `n · 2^f` exactly. -/
def compareScaled (m : Nat) (e : Int) (n : Nat) (f : Int) : Ordering :=
  if e ≤ f then compare m (n * Nat.pow 2 (f - e).toNat) else compare (m * Nat.pow 2 (e - f).toNat) n

/-- The total order of doubles: negative infinity, the negative values, `-0`, `+0`, the
positive values, positive infinity. -/
def totalCompare : Binary64 → Binary64 → Ordering
  | .infinite true, .infinite true => .eq
  | .infinite true, _ => .lt
  | _, .infinite true => .gt
  | .infinite false, .infinite false => .eq
  | .infinite false, _ => .gt
  | _, .infinite false => .lt
  | .finite s m e, .finite t n f =>
    match s, t with
    | true, false => .lt
    | false, true => .gt
    | false, false => compareScaled m e n f
    | true, true => compareScaled n f m e

end Binary64

end Survey
