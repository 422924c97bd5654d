/-!
# Settings

How the text of a table is read and written, and how forgiving the look-up of a column is.
-/

namespace TableQuery

/-- Does the first record of a text name the columns? `detect` decides it by the record. -/
inductive HeaderMode
  | present
  | absent
  | detect
deriving DecidableEq, Repr

structure Settings where
  delimiter : UInt8 := 44
  header : HeaderMode := .detect
  fuzzyColumns : Bool := true
deriving DecidableEq, Repr

end TableQuery
