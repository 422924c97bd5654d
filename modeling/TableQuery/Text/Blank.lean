import TableQuery.Text.CodePoint

/-!
# Blank characters and trimming

A character is blank when it has the property White_Space. Trimming takes blanks off both ends of a
text and nothing else.

* `trim_eq_nil_iff`: a text trims to nothing exactly when all of it is blank.
-/

namespace TableQuery.Text

/-- The code points with the property White_Space, as closed ranges in increasing order. -/
def blankRanges : List (Nat × Nat) := [
  (0x9, 0xD), (0x20, 0x20), (0x85, 0x85), (0xA0, 0xA0), (0x1680, 0x1680), (0x2000, 0x200A),
  (0x2028, 0x2029), (0x202F, 0x202F), (0x205F, 0x205F), (0x3000, 0x3000)]

def isBlank (c : Char) : Bool :=
  inRanges blankRanges c

/-- The text without the blanks it begins with. -/
def trimStart (text : List Char) : List Char :=
  text.dropWhile isBlank

/-- The text without the blanks it ends with. -/
def trimEnd (text : List Char) : List Char :=
  (trimStart text.reverse).reverse

/-- The text without the blanks at its two ends. -/
def trim (text : List Char) : List Char :=
  trimEnd (trimStart text)

/-- The first run of characters that are not blank. -/
def firstWord (text : List Char) : List Char :=
  (trimStart text).takeWhile (!isBlank ·)

/-- A string without the blanks at its two ends. -/
def trimmed (s : String) : String :=
  String.ofList (trim s.toList)

/-- Is every character of the string blank? -/
def allBlank (s : String) : Bool :=
  s.toList.all isBlank

theorem trimStart_eq_nil_iff (text : List Char) : trimStart text = [] ↔ text.all isBlank := by
  induction text with
  | nil => simp [trimStart]
  | cons c rest ih => by_cases h : isBlank c <;> simp_all [trimStart]

theorem all_trimStart (text : List Char) : (trimStart text).all isBlank = text.all isBlank := by
  induction text with
  | nil => rfl
  | cons c rest ih => by_cases h : isBlank c <;> simp_all [trimStart]

theorem trim_eq_nil_iff (text : List Char) : trim text = [] ↔ text.all isBlank := by
  rw [trim, trimEnd, List.reverse_eq_nil_iff, trimStart_eq_nil_iff, List.all_reverse, all_trimStart]

end TableQuery.Text
