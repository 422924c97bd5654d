import TableQuery.Text.Alphabetic
import TableQuery.Text.Blank
import TableQuery.Number.Decimal

/-!
# Reading a text as a number

Which texts count as numbers in a comparison. Blanks around the number do not count, and the blank
text is the number 0. Beside decimal notation there are the names of the two infinities and whole
numbers in base 16, 8 and 2. Every other text with a letter in it, the `e` of an exponent apart, is
turned away before it is read, and so are all other names of numbers.
-/

namespace TableQuery.Number

/-- The value of a digit in a base up to 16, in either case. -/
def radixDigit? (base : Nat) (c : Char) : Option Nat :=
  let value :=
    if '0' ≤ c ∧ c ≤ '9' then c.toNat - '0'.toNat
    else if 'a' ≤ c ∧ c ≤ 'f' then c.toNat - 'a'.toNat + 10
    else if 'A' ≤ c ∧ c ≤ 'F' then c.toNat - 'A'.toNat + 10
    else base
  if value < base then some value else none

/-- At least one digit of the base. -/
def readRadixDigits? (base : Nat) : List Char → Option Nat
  | [] => none
  | digits => digits.foldlM (fun n c => (n * base + ·) <$> radixDigit? base c) 0

/-- The text without a plus sign at its beginning. -/
def withoutPlus : List Char → List Char
  | '+' :: rest => rest
  | text => text

/-- A whole number below `2 ^ 64` in a base other than ten; a plus sign may stand before it. -/
def readRadix? (base : Nat) (text : List Char) : Option Nat :=
  (readRadixDigits? base (withoutPlus text)).filter (· < Nat.pow 2 64)

/-- The base that a letter behind the first zero announces. -/
def announcedBase? (c : Char) : Option Nat :=
  match c.toLower with
  | 'x' => some 16
  | 'o' => some 8
  | 'b' => some 2
  | _ => none

/-- Splits a text that announces a base into the base and the digits, of which there is one or
more. -/
def announced? : List Char → Option (Nat × List Char)
  | '0' :: mark :: digits => if digits.isEmpty then none else (announcedBase? mark).map (·, digits)
  | _ => none

/-- Is the character a letter that is no `e` of an exponent? -/
def isOtherLetter (c : Char) : Bool :=
  Text.isAlphabetic c && c != 'e' && c != 'E'

/-- The number that a text without blanks around it stands for. -/
def readTrimmed? (text : List Char) : Option Double :=
  if text.isEmpty then some (.zero false)
  else if text = "Infinity".toList ∨ text = "+Infinity".toList then some (.infinity false)
  else if text = "-Infinity".toList then some (.infinity true)
  else match announced? text with
    | some (base, digits) => (readRadix? base digits).map (.nearest false · 1)
    | none => if text.any isOtherLetter then none else readDouble? text

/-- The number that a text stands for. -/
def read? (s : String) : Option Double :=
  readTrimmed? (Text.trim s.toList)

end TableQuery.Number
