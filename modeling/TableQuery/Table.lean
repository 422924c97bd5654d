import TableQuery.Row

/-!
# Tables

A table has the names of its columns in order, its rows in order, and remembers whether the names
were made up because the file had none.
-/

namespace TableQuery

structure Table where
  headers : List String
  rows : List Row
  synthetic : Bool
deriving DecidableEq

namespace Table

/-- The table of a file without any record. -/
def empty : Table :=
  ⟨[], [], false⟩

/-- The cells of a column, from top to bottom. -/
def column (table : Table) (name : String) : List Cell :=
  table.rows.map (·.cell name)

end Table

end TableQuery
