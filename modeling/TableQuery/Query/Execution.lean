import TableQuery.Query.Condition

/-!
# Carrying out a statement

A statement is carried out on a table in memory. It answers with the selected rows or with the
number of rows that it changed or took away, and leaves a table.

* `execute`: the answer of a statement and the table that it leaves;
* `tableAfter`: the table that a statement leaves, which is the table itself after an error.
-/

namespace TableQuery.Query

inductive Answer
  | selected (columns : List String) (rows : List Row)
  | updated (column : String) (count : Nat)
  | deleted (count : Nat)
deriving DecidableEq

namespace Answer

def kind : Answer → StatementKind
  | selected .. => .select
  | updated .. => .update
  | deleted .. => .delete

/-- The number of rows that were selected, changed or taken away. -/
def count : Answer → Nat
  | selected _ rows => rows.length
  | updated _ count => count
  | deleted count => count

end Answer

/-- The columns that the names mean, each once, behind the ones that are already chosen. -/
def chooseColumns (scope : Scope) (chosen : List String) : List String → Outcome (List String)
  | [] => pure chosen
  | name :: rest => do
    let column ← scope.resolve name
    if column ∈ chosen then
      Outcome.note (.columnRepeated column)
      chooseColumns scope chosen rest
    else chooseColumns scope (chosen ++ [column]) rest

/-- The columns of a selection. -/
def Projection.resolve (scope : Scope) : Projection → Outcome (List String)
  | all => pure scope.headers
  | columns names => chooseColumns scope [] names

/-- The cells of a row in the given columns; a cell that is absent becomes null. -/
def project (columns : List String) (row : Row) : Row :=
  .ofList (columns.map fun name => (name, row.cell name))

/-- Remarks that a table is called like one of its columns. -/
def noteTableName (scope : Scope) : Outcome Unit :=
  if scope.hasLetters scope.tableRef then Outcome.note (.tableNamedLikeColumn scope.tableRef)
  else pure ()

variable [PatternLibrary]

def select (scope : Scope) (projection : Projection) (filter : Option Filter) (table : Table) :
    Outcome (Answer × Table) := do
  noteTableName scope
  let columns ← projection.resolve scope
  let test ← rowTest scope filter
  let rows := table.rows.filter test
  return (.selected columns (if columns = table.headers then rows else rows.map (project columns)),
    table)

/-- Sets one cell of a row that passes the test. -/
def assign (test : Row → Bool) (column : String) (cell : Cell) (row : Row) : Row :=
  if test row then row.insert column cell else row

def update (scope : Scope) (column value : String) (filter : Option Filter) (table : Table) :
    Outcome (Answer × Table) := do
  let column ← scope.resolve column
  let test ← rowTest scope filter
  let cell := Cell.infer value
  return (.updated column (table.rows.countP test),
    { table with rows := table.rows.map (assign test column cell) })

/-- A deletion without a condition is refused. -/
def delete (scope : Scope) (filter : Option Filter) (table : Table) : Outcome (Answer × Table) :=
  match filter with
  | none => Outcome.fail .unsafeDelete
  | some filter => do
    let test ← rowTest scope (some filter)
    return (.deleted (table.rows.countP test),
      { table with rows := table.rows.filter (!test ·) })

/-- Carries out a statement. -/
def execute (fuzzy : Bool) (table : Table) : Statement → Outcome (Answer × Table)
  | .select columns tableRef filter =>
    select ⟨table.headers, tableRef, fuzzy⟩ columns filter table
  | .update tableRef column value filter =>
    update ⟨table.headers, tableRef, fuzzy⟩ column value filter table
  | .delete tableRef filter => delete ⟨table.headers, tableRef, fuzzy⟩ filter table

/-- The table that a statement leaves. -/
def tableAfter (table : Table) (outcome : Outcome (Answer × Table)) : Table :=
  match outcome.result with
  | .ok (_, after) => after
  | .error _ => table

end TableQuery.Query
