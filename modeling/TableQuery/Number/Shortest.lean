import TableQuery.Number.Digits
import TableQuery.Number.Double

/-!
# The shortest decimal text of a double

The text of a double has the fewest digits that read back as the same double, and among those the
digits nearest to it. It is written out in full, with no exponent, and with no point when the number
is whole.

The decimals that read back as a double form an interval around it, whose ends belong to it when the
significand is even. The numbers with few digits lie on coarse grids: the search goes through the
grids of multiples of `10 ^ p`, from a coarse one downwards, and takes the first that has a point in
the interval. On each grid only the two neighbours of the double have to be tried.
-/

namespace TableQuery.Double

/-- Quarter units: the ends of the interval lie half way between doubles, or a quarter of the way
below a power of two. -/
structure Interval where
  low : Nat
  centre : Nat
  high : Nat
  closed : Bool
deriving DecidableEq, Repr

/-- The reals that read as this double. -/
def interval (d : Double) : Interval :=
  let gap := Nat.pow 2 d.scale
  let below := if d.significand = ranksPerPower ∧ 0 < d.scale then gap else 2 * gap
  { low := 4 * d.units - below, centre := 4 * d.units, high := 4 * d.units + 2 * gap,
    closed := d.significand % 2 = 0 }

def Interval.contains (range : Interval) (factor x : Nat) : Bool :=
  if range.closed then range.low * factor ≤ x && x ≤ range.high * factor
  else range.low * factor < x && x < range.high * factor

/-- The multiple of `10 ^ p` in the interval that is nearest to its centre, as a number of steps of
the grid; of two that are equally near the upper one. -/
def Interval.onGrid? (range : Interval) (p : Int) : Option Nat :=
  let factor := Nat.pow 10 (-p).toNat
  let step := Nat.pow 10 p.toNat * Nat.pow 2 1076
  let target := range.centre * factor
  let c := target / step
  let lower := range.contains factor (c * step)
  let upper := range.contains factor ((c + 1) * step)
  if lower && (!upper || 2 * (target - c * step) < step) then some c
  else if upper then some (c + 1)
  else none

/-- The point of the first grid that has one in the interval, of the `count` grids from that of
`10 ^ p` downwards, with the power of ten of that grid. -/
def Interval.firstGrid? (range : Interval) : (count : Nat) → (p : Int) → Option (Nat × Int)
  | 0, _ => none
  | count + 1, p =>
    match range.onGrid? p with
    | some c => some (c, p)
    | none => firstGrid? range count (p - 1)

/-- The fewest digits in the interval, with the power of ten of the last of them. No double has
more than 309 digits before the point, and none needs more than 324 behind it. -/
def Interval.shortest (range : Interval) : Nat × Int :=
  let top := (Number.natDigits (range.centre / Nat.pow 2 1076)).length
  (range.firstGrid? 640 top).getD (0, 0)

/-- Digits written out in full: `digits` are followed by zeros, or have a point among or before
them. -/
def positional (digits : List Char) (p : Int) : List Char :=
  if 0 ≤ p then digits ++ List.replicate p.toNat '0'
  else
    let places := (-p).toNat
    let padded := List.replicate (places + 1 - digits.length) '0' ++ digits
    padded.take (padded.length - places) ++ '.' :: padded.drop (padded.length - places)

/-- The text of a double without its sign. -/
def magnitudeText (d : Double) : List Char :=
  if d.rank = 0 then ['0']
  else if d.rank = infinityRank then "inf".toList
  else
    let (c, p) := d.interval.shortest
    positional (Number.natDigits c) p

/-- The text of a double. -/
def text (d : Double) : List Char :=
  if d.isNaN then "NaN".toList
  else if d.negative then '-' :: d.magnitudeText
  else d.magnitudeText

end TableQuery.Double
