/-!
# Sets and maps of code points

Character properties are given as data: a property is a list of closed ranges, a change of case is
a list of runs, both in increasing order, so that a look-up may stop at the first entry above the
code point it asks for.

* `inRanges`: membership of a character in a property;
* `recase`: the image of a character under a change of case.
-/

namespace TableQuery.Text

/-- Does one of the ranges, given in increasing order, hold the code point? -/
def holds : List (Nat × Nat) → Nat → Bool
  | [], _ => false
  | (first, last) :: rest, n => if n < first then false else n ≤ last || holds rest n

/-- Is the character's code point in one of the ranges? -/
def inRanges (ranges : List (Nat × Nat)) (c : Char) : Bool :=
  holds ranges c.toNat

/-- The code points `first`, `first + step`, …, `last`, sent in this order to `target`,
`target + step`, …. -/
structure CaseRun where
  first : Nat
  last : Nat
  step : Nat
  target : Nat
deriving DecidableEq, Repr

/-- The image of a code point that the run holds. -/
def CaseRun.image? (run : CaseRun) (n : Nat) : Option Nat :=
  if run.first ≤ n ∧ n ≤ run.last ∧ (n - run.first) % run.step = 0 then
    some (run.target + (n - run.first))
  else none

/-- The image of a code point under the first run that holds it; other code points stay. -/
def move : List CaseRun → Nat → Nat
  | [], n => n
  | run :: rest, n => if n < run.first then n else (run.image? n).getD (move rest n)

/-- The image of a character under the runs. -/
def recase (runs : List CaseRun) (c : Char) : Char :=
  let n := move runs c.toNat
  if n = c.toNat then c else Char.ofNat n

end TableQuery.Text
