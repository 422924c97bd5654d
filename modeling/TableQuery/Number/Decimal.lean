import TableQuery.Number.Digits
import TableQuery.Number.Double

/-!
# Decimal notation

A number in decimal notation is an optional sign, digits with at most one point among or around
them, and an optional exponent of ten. `Decimal.ofChars?` reads exactly this notation, and
`Decimal.toDouble` is the double nearest to the number that it stands for.
-/

namespace TableQuery.Number

/-- The number `± coefficient * 10 ^ exponent`. -/
structure Decimal where
  negative : Bool
  coefficient : Nat
  exponent : Int
deriving DecidableEq, Repr

/-- Takes a sign off the front of a text: is it negative, and what follows? -/
def takeSign : List Char → Bool × List Char
  | '-' :: rest => (true, rest)
  | '+' :: rest => (false, rest)
  | text => (false, text)

/-- The digits behind a point at the front of a text, and what follows them. -/
def takeFraction : List Char → List Char × List Char
  | '.' :: rest => (rest.takeWhile isDigit, rest.dropWhile isDigit)
  | text => ([], text)

/-- An integer with an optional sign and at least one digit. -/
def readExponent? (text : List Char) : Option Int :=
  let (negative, digits) := takeSign text
  if digits.isEmpty || !digits.all isDigit then none
  else some (if negative then -(ofDigits digits : Int) else ofDigits digits)

/-- What may follow the digits of a number: nothing, or `e` and an exponent. -/
def readScale? : List Char → Option Int
  | [] => some 0
  | c :: rest => if c = 'e' ∨ c = 'E' then readExponent? rest else none

namespace Decimal

def ofChars? (text : List Char) : Option Decimal :=
  let (negative, body) := takeSign text
  let whole := body.takeWhile isDigit
  let (fraction, rest) := takeFraction (body.dropWhile isDigit)
  if whole.isEmpty && fraction.isEmpty then none
  else (readScale? rest).map fun scale =>
    ⟨negative, ofDigits (whole ++ fraction), scale - fraction.length⟩

/-- The nearest double. Numbers that are far above or below all doubles are told by their exponent
and their number of bits, so that no power of ten is formed for them. -/
def toDouble (d : Decimal) : Double :=
  if d.coefficient = 0 then .zero d.negative
  else if 310 < d.exponent then .infinity d.negative
  else if d.exponent + d.coefficient.log2 < -340 then .zero d.negative
  else if 0 ≤ d.exponent then .nearest d.negative (d.coefficient * Nat.pow 10 d.exponent.toNat) 1
  else .nearest d.negative d.coefficient (Nat.pow 10 (-d.exponent).toNat)

end Decimal

/-- The names of the values that are no finite number, in lower case. -/
def specialValue? (negative : Bool) (name : List Char) : Option Double :=
  let name := name.map Char.toLower
  if name = "inf".toList ∨ name = "infinity".toList then some (.infinity negative)
  else if name = "nan".toList then some (.nan negative)
  else none

/-- A double in decimal notation or by its name. -/
def readDouble? (text : List Char) : Option Double :=
  match Decimal.ofChars? text with
  | some d => some d.toDouble
  | none => let (negative, name) := takeSign text; specialValue? negative name

end TableQuery.Number
