import TableQuery.Date.Timestamp
import TableQuery.Table

/-!
# Profiles of columns

What can be said about a column at a glance: the kind of its values, how many cells hold one and how
many different ones there are. Blank cells hold no value, and the kind is that of the first value.
-/

namespace TableQuery

inductive ValueKind
  | number
  | boolean
  | date
  | string
deriving DecidableEq, Repr

def ValueKind.name : ValueKind → String
  | number => "number"
  | boolean => "boolean"
  | date => "date"
  | string => "string"

/-- The kind of the value in a cell. A text that reads as a number or a date counts as one. -/
def Cell.kind : Cell → ValueKind
  | int _ => .number
  | float _ => .number
  | bool _ => .boolean
  | string s =>
    if (Number.read? s).isSome then .number
    else if Date.isDate (Text.trim s.toList) then .date
    else .string
  | null => .string

structure Profile where
  name : String
  kind : ValueKind
  valueCount : Nat
  distinctCount : Nat
deriving DecidableEq, Repr

/-- The number of runs of equal strings. -/
def runCount : List String → Nat
  | [] => 0
  | [_] => 1
  | a :: b :: rest => runCount (b :: rest) + if a = b then 0 else 1

/-- The number of different strings. In order, equal ones stand beside each other. -/
def distinctCount (texts : List String) : Nat :=
  runCount texts.mergeSort

/-- The profile of a column with these cells. -/
def Profile.ofCells (name : String) (cells : List Cell) : Profile :=
  let values := cells.filter (!·.isBlank)
  { name
    kind := (values.head?.map Cell.kind).getD .string
    valueCount := values.length
    distinctCount := TableQuery.distinctCount (values.map Cell.text) }

/-- The profiles of the columns of a table, in order. -/
def Table.profiles (table : Table) : List Profile :=
  table.headers.map fun name => .ofCells name (table.column name)

end TableQuery
