import TableQuery.Query.Error
import TableQuery.Text.CaseFold

/-!
# Patterns

A pattern describes a text piece by piece: `%` stands for any run of characters, `_` for any one
character and every other character for itself in either case. A text matches when it can be cut
into such pieces in order. Texts are matched by the program that a library makes of the pattern. The
library refuses a pattern whose program is too large, and what size a program has is its own matter.

* `PatternLibrary`: the sizes of programs;
* `Pattern.ofString`: the pieces of a pattern, unless its program is too large;
* `Pattern.accepts`: does a text match?
-/

namespace TableQuery.Query

/-- What one character of a pattern stands for; letters are folded. -/
inductive Piece
  | anyRun
  | anyOne
  | letter (c : Char)
deriving DecidableEq, Repr

def Piece.ofChar (c : Char) : Piece :=
  if c = '%' then anyRun else if c = '_' then anyOne else letter (Text.foldChar c)

abbrev Pattern := List Piece

/-- A library that makes programs of patterns. All that is relied on is that a part of a pattern has
no larger program than the pattern. -/
class PatternLibrary where
  /-- The number of bytes that the program of a pattern takes. -/
  programSize : String → Nat
  front_le : ∀ front back, programSize front ≤ programSize (front ++ back)
  back_le : ∀ front back, programSize back ≤ programSize (front ++ back)

namespace Pattern

/-- For each place of a list, does one of the values from there on hold? -/
def anyFrom : List Bool → List Bool
  | [] => []
  | b :: rest =>
    let later := anyFrom rest
    (b || later.headD false) :: later

/-- Which endings of a folded text, the longest first, match the pattern? -/
def endings : Pattern → List Char → List Bool
  | [], text => text.map (fun _ => false) ++ [true]
  | .anyRun :: rest, text => anyFrom (endings rest text)
  | .anyOne :: rest, text => (endings rest text).tail ++ [false]
  | .letter c :: rest, text =>
    List.zipWith (fun d ok => d == c && ok) text (endings rest text).tail ++ [false]

/-- The pattern that a string describes. -/
def ofString [PatternLibrary] (pattern : String) : Except QueryError Pattern :=
  if patternSizeLimit < PatternLibrary.programSize pattern then .error .patternTooLarge
  else .ok (pattern.toList.map Piece.ofChar)

/-- Does the text match the pattern? -/
def accepts (pattern : Pattern) (text : String) : Bool :=
  (pattern.endings (text.toList.map Text.foldChar)).headD false

end Pattern

/-! ## The library in use -/

/-- The number of states in which one character of a pattern is matched, about one for each byte
that it may be written with. Any one character has one of nine forms in UTF-8, of twenty-seven bytes
together. -/
def statesOf (c : Char) : Nat :=
  if c = '%' ∨ c = '_' then 27 else c.utf8Size

/-- The number of states of a whole pattern. -/
def states : List Char → Nat
  | [] => 0
  | c :: rest => statesOf c + states rest

theorem states_append (front back : List Char) :
    states (front ++ back) = states front + states back := by
  induction front with
  | nil => rw [List.nil_append, states, Nat.zero_add]
  | cons c front ih => rw [List.cons_append, states, states, ih, Nat.add_assoc]

/-- The number of bytes of a state. -/
def stateSize : Nat := 32

/-- The sizes of programs as they are roughly, by their states. -/
instance : PatternLibrary where
  programSize pattern := states pattern.toList * stateSize
  front_le front back := by
    rw [String.toList_append, states_append, Nat.add_mul]
    exact Nat.le_add_right _ _
  back_le front back := by
    rw [String.toList_append, states_append, Nat.add_mul]
    exact Nat.le_add_left _ _

end TableQuery.Query
