import Survey.Float.Binary64

/-!
# The shortest decimal text of a double

A finite nonzero double stands for the interval of reals that round to it: halfway to each
neighbour, with both ends included when its significand is even. Its shortest decimal text
has the fewest significant digits that land in that interval; of two such candidates (the
value's floor and ceiling on that decimal grid) the nearer wins, and an exact tie is settled
by a `Tie` rule: the larger, or the one with an even last digit. The grid of `n` digits is fixed by the interval's upper end: its first digit sits
just below the smallest power of ten above that end.

Two renderings of these digits are given: plain positional text that never uses an exponent
(`Binary64.toPlainText`), and the compact text that switches to an exponent outside
`1e-5 ≤ |x| < 1e16` and always shows a point (`Binary64.toShortText`).
-/

namespace Survey

namespace Binary64

/-- Compare `x · 2^g` with `c · 10^q` exactly. -/
def compareGrid (x : Nat) (g : Int) (c : Nat) (q : Int) : Ordering :=
  let a := min g q
  let b := min 0 q
  compare (x * Nat.pow 2 (g - a).toNat * Nat.pow 5 (-b).toNat)
    (c * Nat.pow 2 (q - a).toNat * Nat.pow 5 (q - b).toNat)

/-- `⌊x · 2^g / 10^q⌋`. -/
def floorGrid (x : Nat) (g : Int) (q : Int) : Nat :=
  let a := min g q
  let b := min 0 q
  (x * Nat.pow 2 (g - a).toNat * Nat.pow 5 (-b).toNat) /
    (Nat.pow 2 (q - a).toNat * Nat.pow 5 (q - b).toNat)

/-- The interval of reals that read back as the positive double `m · 2^e`, in units of
`2^(e-2)`: low end, value, high end, and whether the ends belong to it. The gap below a
power of two is half the gap above it. -/
structure Interval where
  low : Nat
  value : Nat
  high : Nat
  unit : Int
  closed : Bool

/-- The rounding interval of the positive double `m · 2^e`. -/
def interval (m : Nat) (e : Int) : Interval :=
  { low := 4 * m - (if m = Nat.pow 2 52 then 1 else 2)
    value := 4 * m
    high := 4 * m + 2
    unit := e - 2
    closed := m % 2 == 0 }

/-- Whether `c · 10^q` lies in the interval. -/
def Interval.holds (i : Interval) (c : Nat) (q : Int) : Bool :=
  let aboveLow := compareGrid i.low i.unit c q
  let belowHigh := compareGrid i.high i.unit c q
  if i.closed then aboveLow != .gt && belowHigh != .lt
  else aboveLow == .lt && belowHigh == .gt

/-- Whether the interval's upper end stays below the power `10^k` (or does not exceed it, for
an open interval). -/
def Interval.under (i : Interval) (k : Int) : Bool :=
  let c := compareGrid i.high i.unit 1 k
  if i.closed then c == .lt else c != .gt

/-- The exponent of the decimal grid: the smallest `k` with the interval under `10^k`. An
estimate from the binary exponent is off by at most one, and the search window covers it. -/
def Interval.topPower (i : Interval) : Int :=
  let estimate : Int := ((Nat.log2 i.high : Int) + i.unit) * 30103 / 100000
  let window : List Int := (List.range 6).map fun (j : Nat) => estimate - 2 + (j : Int)
  (window.find? i.under).getD (estimate + 4)

/-- How an exact tie between the two nearest candidates is settled. -/
inductive Tie where
  /-- The larger candidate wins. -/
  | up
  /-- The candidate with an even last digit wins. -/
  | even
  deriving DecidableEq, Repr

/-- The candidate of `n` significant digits, if the grid of that size meets the interval:
the floor or ceiling of the value, the nearer one when both qualify, a tie settled by `tie`. -/
def Interval.candidate (i : Interval) (top : Int) (n : Nat) (tie : Tie) : Option (Nat × Int) :=
  let q := top - n
  let f := floorGrid i.value i.unit q
  let down := 0 < f && i.holds f q
  let up := i.holds (f + 1) q
  let nearerUp := match compareGrid (2 * i.value) i.unit (2 * f + 1) q with
    | .gt => true
    | .lt => false
    | .eq => tie == .up || f % 2 == 1
  if up && (!down || nearerUp) then some (f + 1, q)
  else if down then some (f, q)
  else none

/-- Decimal digits of a natural number, most significant first. -/
def decimalDigits (n : Nat) : List Nat :=
  (Nat.toDigits 10 n).map fun c => c.toNat - '0'.toNat

/-- Digits `d₁…dₙ` (no trailing zero) and point `p` with `0.d₁…dₙ · 10^p = c · 10^q`. -/
def normalizeDigits (c : Nat) (q : Int) : List Nat × Int :=
  let ds := decimalDigits c
  let point := q + ds.length
  let kept := (ds.reverse.dropWhile (· == 0)).reverse
  (kept, point)

/-- The shortest digits of the positive double `m · 2^e` and their point: value
`0.d₁…dₙ · 10^p`. Seventeen digits always suffice; the search goes a little further. -/
def shortestDigits (m : Nat) (e : Int) (tie : Tie) : List Nat × Int :=
  let i := interval m e
  let top := i.topPower
  match (List.range 20).findSome? (fun n => i.candidate top (n + 1) tie) with
  | some (c, q) => normalizeDigits c q
  | none => normalizeDigits (floorGrid i.value i.unit (top - 20)) (top - 20)

/-- Characters of decimal digits. -/
def digitText (ds : List Nat) : String :=
  String.ofList (ds.map fun d => Char.ofNat ('0'.toNat + d))

/-- A run of zeros. -/
def zeros (n : Nat) : String := String.ofList (List.replicate n '0')

/-- Positional text of `0.d₁…dₙ · 10^p`: a leading `0.` and zeros when `p ≤ 0`, a point inside
the digits when `0 < p < n`, and zeros after the digits otherwise. -/
def positional (ds : List Nat) (p : Int) : String :=
  if p ≤ 0 then "0." ++ zeros (-p).toNat ++ digitText ds
  else if p.toNat < ds.length then
    digitText (ds.take p.toNat) ++ "." ++ digitText (ds.drop p.toNat)
  else digitText ds ++ zeros (p.toNat - ds.length)

/-- Plain text of a double: shortest digits, a tie going up, positional, never an exponent;
`-` for every negative value, `-0` included; infinities as `inf` and `-inf`. -/
def toPlainText : Binary64 → String
  | .infinite s => (if s then "-" else "") ++ "inf"
  | .finite s m e =>
    let sign := if s then "-" else ""
    if m = 0 then sign ++ "0"
    else
      let (ds, p) := shortestDigits m e .up
      sign ++ positional ds p

/-- The exponent of compact text: its sign, `+` included, then its digits. -/
def exponentText (k : Int) : String :=
  (if k < 0 then "-" else "+") ++ toString k.natAbs

/-- Compact text of a double: shortest digits, a tie going to the even one; positional with at
least one fraction digit (`.0`) when `1e-5 ≤ |x| < 1e16`, otherwise one digit, a point and the
rest, then `e` and the exponent (`1e+20`, `1.5e-7`). -/
def toShortText : Binary64 → String
  | .infinite s => (if s then "-" else "") ++ "inf"
  | .finite s m e =>
    let sign := if s then "-" else ""
    if m = 0 then sign ++ "0.0"
    else
      let (ds, p) := shortestDigits m e .even
      let n : Int := ds.length
      let body :=
        if 0 ≤ p - n && p ≤ 16 then digitText ds ++ zeros (p - n).toNat ++ ".0"
        else if 0 < p && p ≤ 16 then positional ds p
        else if -5 < p && p ≤ 0 then positional ds p
        else
          let exponent := exponentText (p - 1)
          match ds with
          | [d] => digitText [d] ++ "e" ++ exponent
          | d :: rest => digitText [d] ++ "." ++ digitText rest ++ "e" ++ exponent
          | [] => "0e" ++ exponent
      sign ++ body

end Binary64

end Survey
