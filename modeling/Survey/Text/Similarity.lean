/-!
# How alike two words are

The Jaro similarity of two words, a number from 0 (nothing in common) to 1 (equal), used to
suggest the option a mistyped one was probably meant to be.

Two characters match when they are equal and no further apart than half the longer word, less
one; each character of the second word matches at most one of the first, the earliest one
free. With `m` matches, of which `t` pairs appear in a different order in the two words, the
similarity is the mean of `m / |a|`, `m / |b|` and `(m - t) / m`, computed in binary64 in that
order; two empty words are alike, and an empty word is unlike any other.
-/

namespace Survey

namespace Similarity

/-- The first free position of `b` holding `c`, from `lo` up to but not including `hi`. -/
def firstFree (b : List Char) (taken : List Bool) (c : Char) (lo hi : Nat) : Option Nat :=
  (List.range hi).find? fun j => lo ≤ j && b[j]? == some c && taken[j]? == some false

/-- Match the characters of `a`, from position `i` on, against those of `b` within `window`,
given the positions of `b` taken so far; the positions of `a` that found a match are marked. -/
def matchFrom (b : List Char) (window : Nat) : List Char → Nat → List Bool → List Bool × List Bool
  | [], _, taken => ([], taken)
  | c :: rest, i, taken =>
    match firstFree b taken c (i - window) (min b.length (i + window + 1)) with
    | some j =>
      let (marks, taken) := matchFrom b window rest (i + 1) (taken.set j true)
      (true :: marks, taken)
    | none =>
      let (marks, taken) := matchFrom b window rest (i + 1) taken
      (false :: marks, taken)

/-- The characters at the marked positions. -/
def marked (cs : List Char) (marks : List Bool) : List Char :=
  (cs.zip marks).filterMap fun (c, m) => if m then some c else none

end Similarity

open Similarity in
/-- The Jaro similarity of two words. -/
def jaro (a b : List Char) : Float :=
  if a.isEmpty && b.isEmpty then 1.0
  else if a.isEmpty || b.isEmpty then 0.0
  else
    let window := max a.length b.length / 2 - 1
    let (marksA, marksB) := matchFrom b window a 0 (List.replicate b.length false)
    let inA := marked a marksA
    let inB := marked b marksB
    let m := inA.length
    let t := ((inA.zip inB).filter fun (x, y) => x != y).length / 2
    if m == 0 then 0.0
    else
      (m.toFloat / a.length.toFloat + m.toFloat / b.length.toFloat +
        (m - t).toFloat / m.toFloat) / 3.0

end Survey
