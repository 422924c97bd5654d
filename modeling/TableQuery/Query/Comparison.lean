import TableQuery.Cell
import TableQuery.Query.Statement
import TableQuery.Text.Lowercase

/-!
# Comparing a cell with a literal

If both the cell and the literal read as numbers they are compared as numbers. Otherwise they are
equal when they have the same letters up to case, and neither comes before the other.
-/

namespace TableQuery.Query

/-- The two numbers of a comparison, if both sides read as numbers. -/
def numbers? (cell : Cell) (literal : String) : Option (Double × Double) :=
  match cell.number?, Number.read? literal with
  | some a, some b => some (a, b)
  | _, _ => none

/-- Are the cell and the literal equal, as numbers or else as texts up to case? -/
def isEqual (cell : Cell) (literal : String) : Bool :=
  match numbers? cell literal with
  | some (a, b) => a.equal b
  | none => Text.lowercased cell.text = Text.lowercased literal

/-- Are both sides numbers between which the relation holds? -/
def holdsOfNumbers (relation : Double → Double → Bool) (cell : Cell) (literal : String) : Bool :=
  match numbers? cell literal with
  | some (a, b) => relation a b
  | none => false

/-- Does the comparison of a cell with a literal hold? -/
def Comparison.holds (cell : Cell) (literal : String) : Comparison → Bool
  | equal => isEqual cell literal
  | notEqual => !isEqual cell literal
  | greater => holdsOfNumbers (fun a b => b.less a) cell literal
  | less => holdsOfNumbers (fun a b => a.less b) cell literal
  | greaterOrEqual => holdsOfNumbers (fun a b => b.less a || a.equal b) cell literal
  | lessOrEqual => holdsOfNumbers (fun a b => a.less b || a.equal b) cell literal

/-- The comparison of a cell with a literal by an operator, which may be unknown. -/
def Operator.compare (operator : Operator) (cell : Cell) (literal : String) :
    Except String Bool :=
  match operator with
  | known comparison => .ok (comparison.holds cell literal)
  | unknown text => .error text

end TableQuery.Query
