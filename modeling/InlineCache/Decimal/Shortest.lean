/-!
# The shortest decimal of a binary number

Reading a decimal rounds it to the nearest binary number, so every binary number has an interval
of reals that read back to it. Its shortest decimal is a point of the coarsest decimal grid
`10 ^ k` that has points in the interval, and of those points the nearest to the number. All tests
are exact: both sides are scaled to natural numbers.

## Main definitions

* `Interval`: a positive binary number with the reals that round to it
* `Interval.onGrid`: the point of a grid to write, if the grid has one
* `Interval.shortest`: the point of the coarsest grid that has one

## Main results

* `onGrid_admits`: what is chosen on a grid reads back
-/

namespace InlineCache.Decimal

/-- A positive binary number `center * 2 ^ exponent`, and the interval around it that reaches down
by `below` and up by `above` units of `2 ^ exponent`. -/
structure Interval where
  /-- The number, in units of `2 ^ exponent`. -/
  center : Nat
  /-- Units to the lower end. -/
  below : Nat
  /-- Units to the upper end. -/
  above : Nat
  /-- The binary exponent of the unit. -/
  exponent : Int
  /-- The ends belong to the interval. -/
  closed : Bool
  deriving DecidableEq

/-- The reals that round to `mantissa * 2 ^ exponent`: half of the gap to the number on either
side, where the gap below is halved once more if it is `narrow`. A tie goes to the even mantissa,
so the ends belong to the numbers with an even one. -/
def Interval.around (mantissa : Nat) (exponent : Int) (narrow : Bool) : Interval where
  center := 4 * mantissa
  below := if narrow then 1 else 2
  above := 2
  exponent := exponent - 2
  closed := mantissa % 2 = 0

/-- A decimal number: `coefficient * 10 ^ exponent`. -/
structure Scaled where
  /-- The digits. -/
  coefficient : Nat
  /-- The decimal exponent of the last digit. -/
  exponent : Int
  deriving DecidableEq, Inhabited

namespace Interval

/-- The factor that turns units of the interval into the common unit with the grid `10 ^ k`. -/
def unitScale (i : Interval) (k : Int) : Nat :=
  Nat.pow 2 i.exponent.toNat * Nat.pow 10 (-k).toNat

/-- The factor that turns points of the grid `10 ^ k` into the common unit with the interval. -/
def gridScale (i : Interval) (k : Int) : Nat :=
  Nat.pow 10 k.toNat * Nat.pow 2 (-i.exponent).toNat

/-- The decimal `d * 10 ^ k` is positive and lies in the interval. -/
def admits (i : Interval) (d : Nat) (k : Int) : Bool :=
  let low := (i.center - i.below) * i.unitScale k
  let high := (i.center + i.above) * i.unitScale k
  let point := d * i.gridScale k
  decide (0 < d) &&
    if i.closed then decide (low ≤ point ∧ point ≤ high) else decide (low < point ∧ point < high)

/-- The point of the grid `10 ^ k` to write: of the two next to the number the one that the
interval admits, of two admitted ones the nearer, and of two equally near the larger. -/
def onGrid (i : Interval) (k : Int) : Option Nat :=
  let center := i.center * i.unitScale k
  let grid := i.gridScale k
  let d := center / grid
  if i.admits d k then
    if i.admits (d + 1) k ∧ (d + 1) * grid - center ≤ center - d * grid then some (d + 1)
    else some d
  else if i.admits (d + 1) k then some (d + 1) else none

/-- The first grid with a point to write among `k`, `k - 1`, and so on. -/
def search (i : Interval) : Nat → Int → Option Scaled
  | 0, _ => none
  | fuel + 1, k =>
    match i.onGrid k with
    | some d => some ⟨d, k⟩
    | none => i.search fuel (k - 1)

/-- A decimal exponent beyond the largest grid that has points in the interval: a number below
`2 ^ n` is below `10 ^ (n * 30103 / 100000 + 1)`. -/
def coarsest (i : Interval) : Int :=
  ((i.center + i.above).log2 + 1 + i.exponent) * 30103 / 100000 + 1

/-- The shortest decimal. Seventeen digits tell all numbers with fifty-three bits apart, so the
search ends within a few grids more. -/
def shortest (i : Interval) : Option Scaled := i.search 24 i.coarsest

/-- What is chosen on a grid reads back. -/
theorem onGrid_admits {i : Interval} {k : Int} {d : Nat} (h : i.onGrid k = some d) :
    i.admits d k = true := by
  unfold onGrid at h
  dsimp only at h
  split at h
  · split at h
    · simp_all
    · simp_all
  · split at h
    · simp_all
    · simp at h

/-- The shortest decimal reads back. -/
theorem admits_of_search {i : Interval} {fuel : Nat} {k : Int} {s : Scaled}
    (h : i.search fuel k = some s) : i.admits s.coefficient s.exponent = true := by
  induction fuel generalizing k with
  | zero => simp [search] at h
  | succ fuel ih =>
    rw [search] at h
    split at h
    · next d hd =>
      cases h
      exact onGrid_admits hd
    · exact ih h

end Interval

end InlineCache.Decimal
