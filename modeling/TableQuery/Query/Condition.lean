import TableQuery.Query.Comparison
import TableQuery.Query.Pattern
import TableQuery.Query.Scope
import TableQuery.Table

/-!
# The rows that a condition selects

A condition is a test on the cells of one column. What can go wrong with it, goes wrong before any
row is looked at, so the condition of a statement is first turned into a test on rows.

* `Filter.rowTest`: the test that a condition is;
* `rowTest`: the test of a statement, which a clause that could not be read turns into one that no
  row passes.
-/

namespace TableQuery.Query

variable [PatternLibrary]

/-- The test on cells that a predicate is. -/
def Predicate.cellTest : Predicate → Outcome (Cell → Bool)
  | like _ pattern => do
    let pieces ← Outcome.ofExcept (Pattern.ofString pattern)
    return fun cell => pieces.accepts cell.text
  | among _ values =>
    let wanted := values.map Text.lowercased
    return fun cell => Text.lowercased cell.text ∈ wanted
  | compare _ (.known comparison) literal =>
    return fun cell => comparison.holds cell literal
  | compare _ (.unknown text) _ => do
    Outcome.note (.operatorIgnored text)
    return fun _ => false

/-- The test on rows that a condition is. -/
def Filter.rowTest (scope : Scope) : Filter → Outcome (Row → Bool)
  | predicate p => do
    let column ← scope.resolve p.column
    let test ← p.cellTest
    return fun row => test (row.cell column)
  | invalid clause reason => Outcome.fail (.invalidClause clause reason)

/-- The test on rows of a statement. Without a condition every row passes. -/
def rowTest (scope : Scope) : Option Filter → Outcome (Row → Bool)
  | none => pure fun _ => true
  | some (.invalid clause reason) => do
    Outcome.note (.clauseIgnored clause reason)
    return fun _ => false
  | some filter => filter.rowTest scope

/-- The positions of the rows that pass a test, in increasing order. -/
def positions (test : Row → Bool) (rows : List Row) : List Nat :=
  (List.range rows.length).filter fun i => (rows[i]?).any test

/-- The positions of the rows that the condition selects. -/
def Filter.evaluate (scope : Scope) (filter : Filter) (rows : List Row) : Outcome (List Nat) :=
  (positions · rows) <$> filter.rowTest scope

/-- The positions of the rows that a statement with this condition is about. -/
def matchingRows (scope : Scope) (filter : Option Filter) (rows : List Row) :
    Outcome (List Nat) :=
  (positions · rows) <$> rowTest scope filter

end TableQuery.Query
