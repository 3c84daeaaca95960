import Survey.Float.Binary64

/-!
# Exact decimals

A `Decimal` is a number as a respondent typed it: `units · 10^(-scale)`, where the units are
a signed 128-bit integer and the scale an unsigned 32-bit count of decimal places. `1.23` is
`123` units at scale `2`, and `10.00` keeps its two places.

Arithmetic never rounds. Adding widens both sides to the larger scale and adds the units,
and fails (`none`) when a widened operand or the sum leaves the 128-bit range. Widening for
display (`Decimal.withScale`) fails on a narrower scale or on overflow.

Comparison is by value: `10` equals `10.00`. It widens both sides to the larger scale; when
that overflows it falls back to comparing the doubles nearest to `units / 10^scale` (units
rounded, then divided by the power of ten computed by repeated squaring), so two different
values may then compare equal.
-/

namespace Survey

/-- An exact decimal `units · 10^(-scale)`. -/
structure Decimal where
  /-- The value in units of the last decimal place; a signed 128-bit integer. -/
  units : Int
  /-- The number of decimal places; an unsigned 32-bit count. -/
  scale : Nat
  deriving DecidableEq, Repr, Inhabited

namespace Decimal

/-- The least signed 128-bit integer, `-2^127`. -/
def wordMin : Int := -(Int.pow 2 127)

/-- The greatest signed 128-bit integer, `2^127 - 1`. -/
def wordMax : Int := Int.pow 2 127 - 1

/-- Whether an integer fits a signed 128-bit word. -/
def fitsWord (i : Int) : Bool := wordMin ≤ i && i ≤ wordMax

/-- Zero at scale 0. -/
def zero : Decimal := ⟨0, 0⟩

/-- An integer at scale 0. -/
def ofInt (i : Int) : Decimal := ⟨i, 0⟩

/-- Whether the value is below zero. -/
def isNegative (d : Decimal) : Bool := d.units < 0

/-- Whether the value is zero. -/
def isZero (d : Decimal) : Bool := d.units == 0

/-- The units at a wider scale: `none` if the scale is narrower, if `10` to the difference
exceeds the 128-bit range, or if the widened units do. -/
def rescaled (d : Decimal) (scale : Nat) : Option Int :=
  if scale < d.scale then none
  -- `10 ^ 38` is the largest power of ten in the 128-bit range
  else if 38 < scale - d.scale then none
  else
    let units := d.units * Int.pow 10 (scale - d.scale)
    if fitsWord units then some units else none

/-- Exact sum at the larger scale, or `none` on overflow. -/
def add (a b : Decimal) : Option Decimal := do
  let scale := max a.scale b.scale
  let x ← a.rescaled scale
  let y ← b.rescaled scale
  let units := x + y
  if fitsWord units then some ⟨units, scale⟩ else none

/-- The same value written with `scale` places, or `none` if that drops digits or overflows. -/
def withScale (d : Decimal) (scale : Nat) : Option Decimal :=
  (d.rescaled scale).map fun units => ⟨units, scale⟩

/-- The scale read as a signed 32-bit exponent, as the lossy comparison uses it. -/
def signedScale (d : Decimal) : Int :=
  let s : Nat := d.scale % Nat.pow 2 32
  if s < Nat.pow 2 31 then (s : Int) else (s : Int) - Int.pow 2 32

/-- The double nearest to the units, divided by ten to the scale as a double. -/
def approx (d : Decimal) : Binary64 :=
  (Binary64.ofInt d.units).div ((Binary64.ofNat 10).powInt d.signedScale)

/-- Order by value: exact at the larger scale, and by the doubles of `approx` when widening
overflows. -/
def compare (a b : Decimal) : Ordering :=
  let scale := max a.scale b.scale
  match a.rescaled scale, b.rescaled scale with
  | some x, some y => Ord.compare x y
  | _, _ => Binary64.totalCompare a.approx b.approx

/-- Equality of values, as `compare` sees it. -/
def sameValue (a b : Decimal) : Bool := a.compare b == .eq

/-- Strictly below, as `compare` sees it. -/
def lt (a b : Decimal) : Bool := a.compare b == .lt

end Decimal

end Survey
