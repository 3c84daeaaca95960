import Survey.Json.Value

/-!
# Reading JSON numbers

A JSON reader turns the digits of a number into a token in one pass:

* the significand collects digits while it fits an unsigned 64-bit word; digits of the whole
  part beyond that raise the decimal exponent instead, and fraction digits beyond it are
  dropped;
* a number with no point and no exponent is an integer token (negative ones down to
  `-2^63`; `-0` and lower values become doubles);
* any other number is the double nearest to the significand, then multiplied or divided once
  by the double nearest to `10^k` for `k ≤ 308`; exponents below `-308` divide by `1e308`
  first until they fit, and a result past the largest double is out of range.

So the double is not always the one nearest to the written value: it carries at most two
roundings, as the reader computes it.
-/

namespace Survey

namespace Binary64

/-- The double nearest to `10^k`. -/
def powerOfTen (k : Nat) : Binary64 := ofNat (Nat.pow 10 k)

/-- Scale a double by a decimal exponent as the reader does: one product or quotient by a
power of ten up to `10^308`, dividing by `1e308` while the exponent is below `-308`.
`none` when a product overflows to infinity, or a positive exponent exceeds 308 on a nonzero
value. -/
def scaleByTen (f : Binary64) (exponent : Int) : Option Binary64 :=
  if exponent.natAbs ≤ 308 then
    if 0 ≤ exponent then
      let g := f.mul (powerOfTen exponent.toNat)
      if g.isInfinite then none else some g
    else some (f.div (powerOfTen exponent.natAbs))
  else if f.isZero then some f
  else if 0 ≤ exponent then none
  else scaleByTen (f.div (powerOfTen 308)) (exponent + 308)
termination_by exponent.natAbs
decreasing_by omega

/-- The double a reader gives for `significand · 10^exponent` with the given sign, or `none`
when it is out of range. -/
def ofDecimalParts (positive : Bool) (significand : Nat) (exponent : Int) : Option Binary64 :=
  (scaleByTen (ofNat significand) exponent).map fun f => if positive then f else f.neg

end Binary64

end Survey
