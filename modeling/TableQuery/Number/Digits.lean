/-!
# Decimal digits

Natural numbers and integers as texts of decimal digits, without leading zeros and with a minus
sign before the negative ones.

* `ofDigits_natDigits`: the digits of a number read back as that number.
-/

namespace TableQuery.Number

def isDigit (c : Char) : Bool :=
  '0' ≤ c && c ≤ '9'

/-- The digit of a number below ten. -/
def digitChar (n : Nat) : Char :=
  Char.ofNat ('0'.toNat + n)

/-- The number that a digit stands for. -/
def digitValue (c : Char) : Nat :=
  c.toNat - '0'.toNat

/-- The digits of a number, the most significant first. -/
def natDigits (n : Nat) : List Char :=
  if n < 10 then [digitChar n] else natDigits (n / 10) ++ [digitChar (n % 10)]
termination_by n
decreasing_by omega

/-- The number that a text of digits stands for. -/
def ofDigits (digits : List Char) : Nat :=
  digits.foldl (fun n c => n * 10 + digitValue c) 0

/-- The digits of an integer, behind a minus sign if it is negative. -/
def intDigits (i : Int) : List Char :=
  if i < 0 then '-' :: natDigits i.natAbs else natDigits i.natAbs

/-- The integer that a text of digits, with an optional minus sign before it, stands for. -/
def readInt? (text : List Char) : Option Int :=
  match text with
  | '-' :: digits => if digits.all isDigit then some (-(ofDigits digits : Int)) else none
  | digits => if digits.all isDigit then some (ofDigits digits : Int) else none

/-- The decimal text of a natural number. -/
def natText (n : Nat) : String :=
  String.ofList (natDigits n)

theorem digitValue_digitChar {n : Nat} (h : n < 10) : digitValue (digitChar n) = n := by
  have all : ∀ m ∈ List.range 10, digitValue (digitChar m) = m := by decide
  exact all n (List.mem_range.2 h)

theorem isDigit_digitChar {n : Nat} (h : n < 10) : isDigit (digitChar n) := by
  have all : ∀ m ∈ List.range 10, isDigit (digitChar m) := by decide
  exact all n (List.mem_range.2 h)

theorem natDigits_ne_nil (n : Nat) : natDigits n ≠ [] := by
  rw [natDigits]
  split <;> simp

theorem all_isDigit_natDigits (n : Nat) : (natDigits n).all isDigit := by
  fun_induction natDigits n with
  | case1 n h => simp [isDigit_digitChar h]
  | case2 n h ih => simp [ih, isDigit_digitChar (Nat.mod_lt n (by decide))]

theorem ofDigits_append_singleton (digits : List Char) (c : Char) :
    ofDigits (digits ++ [c]) = ofDigits digits * 10 + digitValue c := by
  simp [ofDigits]

theorem ofDigits_natDigits (n : Nat) : ofDigits (natDigits n) = n := by
  fun_induction natDigits n with
  | case1 n h => simp [ofDigits, digitValue_digitChar h]
  | case2 n h ih =>
    rw [ofDigits_append_singleton, ih, digitValue_digitChar (Nat.mod_lt n (by decide))]
    omega

end TableQuery.Number
