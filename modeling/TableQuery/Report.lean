import TableQuery.Profile
import TableQuery.Query.Execution

/-!
# Reports

What the author of a query is told: the text of the table that results, a sentence on what was done,
figures on it and the remarks made on the way. A report of a query that failed gives back the text
it was run on.

* `Report.ofAnswer`: the report of a statement that was carried out;
* `Report.failure`: the report of a query that was not.
-/

namespace TableQuery

open Query (StatementKind Answer QueryError)

structure Report where
  operation : Option StatementKind
  resultText : String
  summary : String
  rowsAffected : Nat
  affectedColumns : List String
  profiles : List Profile
  diagnostics : List String
  isProjection : Bool
  queriedText : Option String
  error : Option String
deriving DecidableEq, Repr

namespace Report

/-- The name of what a query asks for. -/
def operationName : Option StatementKind → String
  | some kind => kind.name
  | none => "UNSUPPORTED"

/-- A number of rows in words. -/
def rowCount (n : Nat) : String :=
  Number.natText n ++ (if n = 1 then " row" else " rows")

/-- A number of columns in words. -/
def columnCount (n : Nat) : String :=
  Number.natText n ++ (if n = 1 then " column" else " columns")

/-- The sentence on a change that changed nothing. -/
def unchanged (kind : StatementKind) : String :=
  "No rows matched the " ++ kind.name ++ " condition; the table is unchanged."

/-- The sentence on what a statement did, which left a table of `total` rows. -/
def summaryOf (total : Nat) : Answer → String
  | .selected columns rows =>
    "Selected " ++ rowCount rows.length ++ " of " ++ rowCount total ++ ", showing " ++
      columnCount columns.length ++ ": " ++ ", ".intercalate columns ++ "."
  | .updated column count =>
    if count = 0 then unchanged .update
    else "Updated " ++ rowCount count ++ " of " ++ rowCount total ++ ", setting column '" ++
      column ++ "'."
  | .deleted count =>
    if count = 0 then unchanged .delete
    else "Deleted " ++ rowCount count ++ "; " ++ rowCount total ++ " remaining."

/-- The columns that a statement showed or set. -/
def columnsOf : Answer → List String
  | .selected columns _ => columns
  | .updated column _ => [column]
  | .deleted _ => []

/-- The table that a report is about: the selection, or the table that the statement left. -/
def tableOf (after : Table) : Answer → Table
  | .selected columns rows => ⟨columns, rows, after.synthetic⟩
  | _ => after

/-- Is the text given back as it is, because a change changed no row? -/
def keepsText : Answer → Bool
  | .selected .. => false
  | answer => answer.count = 0

/-- The report of a statement that was carried out on a text and left a table. -/
def ofAnswer (codec : Csv.Codec) (text : String) (answer : Answer) (after : Table) :
    Except QueryError Report := do
  let table := tableOf after answer
  let resultText ←
    if keepsText answer then pure text
    else (codec.encode table).mapError QueryError.codec
  return {
    operation := some answer.kind
    resultText
    summary := summaryOf after.rows.length answer
    rowsAffected := answer.count
    affectedColumns := columnsOf answer
    profiles := table.profiles
    diagnostics := []
    isProjection := answer.kind = .select
    queriedText := if answer.kind = .select then some text else none
    error := none }

/-- The sentence on a query that failed. -/
def failureSummary (error : QueryError) : String :=
  match error with
  | .emptyTable => "Nothing to run: " ++ error.message ++ "."
  | .emptyQuery => "Nothing to run: " ++ error.message ++ "."
  | _ => "The query could not be run: " ++ error.message ++ "."

/-- The report of a query that failed on a text after some remarks. -/
def failure (operation : Option StatementKind) (text : String) (error : QueryError)
    (remarks : List String) : Report where
  operation
  resultText := text
  summary := failureSummary error
  rowsAffected := 0
  affectedColumns := []
  profiles := []
  diagnostics := remarks ++ [error.message]
  isProjection := false
  queriedText := none
  error := some error.message

def isFailure (report : Report) : Bool :=
  report.error.isSome

end Report

end TableQuery
