/-!
# Double-precision numbers

A double is a sign and a rank. The rank counts the nonnegative doubles upwards: rank 0 is zero,
the next ranks are the positive numbers in increasing order, then comes infinity, and what is left
are the values that are no number. So the order of doubles is the order of their ranks, and the
number of a rank is a whole multiple of the least positive double, `2 ^ (-1074)`.

* `Double.units`: the size of a finite double in multiples of the least positive one;
* `nearest`: the double nearest to a quotient of natural numbers, ties going to the even rank.
-/

namespace TableQuery

/-- A double-precision floating-point number: one bit of sign and 63 bits of rank. -/
structure Double where
  negative : Bool
  rank : Nat
  rank_lt : rank < Nat.pow 2 63
deriving DecidableEq, Repr

namespace Double

/-- The number of ranks between two neighbouring powers of two. -/
def ranksPerPower : Nat := Nat.pow 2 52

/-- The rank of infinity, above that of every finite double. -/
def infinityRank : Nat := 2047 * ranksPerPower

theorem infinityRank_lt : infinityRank < Nat.pow 2 63 := by decide

def zero (negative : Bool) : Double :=
  ⟨negative, 0, by decide⟩

def infinity (negative : Bool) : Double :=
  ⟨negative, infinityRank, infinityRank_lt⟩

/-- The value that stands for no number. -/
def nan (negative : Bool) : Double :=
  ⟨negative, infinityRank + Nat.pow 2 51, by decide⟩

/-- The 64 bits of the number in the interchange format: the sign, then the rank. -/
def bits (d : Double) : Nat :=
  (if d.negative then Nat.pow 2 63 else 0) + d.rank

def isNaN (d : Double) : Bool :=
  infinityRank < d.rank

def isFinite (d : Double) : Bool :=
  d.rank < infinityRank

/-- The number of times that the significand of a double is doubled to give its units. -/
def scale (d : Double) : Nat :=
  d.rank / ranksPerPower - 1

/-- The significand, below `2 ^ 53`. -/
def significand (d : Double) : Nat :=
  if d.rank < ranksPerPower then d.rank else d.rank % ranksPerPower + ranksPerPower

/-- The size of a finite double in multiples of `2 ^ (-1074)`. -/
def units (d : Double) : Nat :=
  d.significand * Nat.pow 2 d.scale

/-- The place of a number in the order of numbers; both zeros have the same place. -/
def place (d : Double) : Int :=
  if d.negative then -(d.rank : Int) else d.rank

/-- Equality as numbers, which what is no number has with nothing. -/
def equal (a b : Double) : Bool :=
  !a.isNaN && !b.isNaN && a.place == b.place

/-- The order of numbers, in which what is no number has no place. -/
def less (a b : Double) : Bool :=
  !a.isNaN && !b.isNaN && a.place < b.place

def negate (d : Double) : Double :=
  { d with negative := !d.negative }

/-! ## Rounding -/

/-- The natural number nearest to a quotient; a tie goes to the even one. -/
def roundQuotient (num den : Nat) : Nat :=
  let q := num / den
  let r := num % den
  if 2 * r < den ∨ (2 * r = den ∧ q % 2 = 0) then q else q + 1

/-- The rank of the double nearest to a quotient. The quotient in units is rounded to a significand
of 53 bits; each doubling that this leaves out is worth `ranksPerPower` ranks. -/
def nearestRank (num den : Nat) : Nat :=
  let scaled := num * Nat.pow 2 1074
  let scale := (scaled / den).log2 - 52
  min infinityRank (scale * ranksPerPower + roundQuotient scaled (den * Nat.pow 2 scale))

/-- The double of this sign that is nearest to the quotient `num / den`. -/
def nearest (negative : Bool) (num den : Nat) : Double :=
  ⟨negative, nearestRank num den, Nat.lt_of_le_of_lt (Nat.min_le_left ..) infinityRank_lt⟩

/-- The double nearest to an integer. -/
def ofInt (i : Int) : Double :=
  nearest (i < 0) i.natAbs 1

end Double

end TableQuery
