import TableQuery.Query.Outcome
import TableQuery.Text.Distance
import TableQuery.Text.Lowercase

/-!
# Which column a name means

A name means the column that has it. Failing that it means the one column that has it in letters of
another case, and failing that the one column whose name is closest, if it is close enough and the
search for close names is on. A name is never taken for one of several columns: then, as when there
is none, it is not found.

* `Scope.resolve`: the column that a name means, with a remark unless it is the name itself.
-/

namespace TableQuery.Query

/-- What decides the meaning of names in a statement. -/
structure Scope where
  headers : List String
  tableRef : String
  fuzzy : Bool
deriving DecidableEq, Repr

/-- The number of edits up to which a name is taken for a misspelling of another. -/
def closeness (name : String) : Nat :=
  if name.length ≤ 4 then 1 else 2

/-- The names that are closest to a name in lower case, if they are close enough. -/
def closest (lower : String) (headers : List String) : List String :=
  let distanceTo (header : String) := Text.distance lower.toList (Text.lowercase header.toList)
  let scored := (headers.map fun header => (distanceTo header, header)).filter
    (·.1 ≤ closeness lower)
  match (scored.map Prod.fst).min? with
  | none => []
  | some least => (scored.filter (·.1 = least)).map Prod.snd

namespace Scope

/-- The columns that have the name up to case. -/
def sameLetters (scope : Scope) (name : String) : List String :=
  scope.headers.filter fun header => Text.lowercased header = Text.lowercased name

/-- Is there a column that has the name up to case? -/
def hasLetters (scope : Scope) (name : String) : Bool :=
  scope.headers.any fun header => Text.lowercased header = Text.lowercased name

/-- The columns that a name which is no column may mean. -/
def candidates (scope : Scope) (name : String) : List String :=
  match scope.sameLetters name with
  | [] => if scope.fuzzy then closest (Text.lowercased name) scope.headers else []
  | several => several

/-- The error of a name that means no column. -/
def notFound (scope : Scope) (name : String) : QueryError :=
  .columnNotFound name scope.headers (scope.candidates name)
    (Text.lowercased name = Text.lowercased scope.tableRef)

/-- The column that the name means. -/
def resolve (scope : Scope) (name : String) : Outcome String :=
  if name ∈ scope.headers then pure name
  else match scope.candidates name with
    | [header] => do
      Outcome.note (.columnReplaced name header)
      return header
    | _ => Outcome.fail (scope.notFound name)

end Scope

end TableQuery.Query
