/-!
# Statements

What a query says. A statement names columns as the query spells them; which columns of a table they
are is found out when it is carried out.
-/

namespace TableQuery.Query

/-- The kinds of statements. -/
inductive StatementKind
  | select
  | update
  | delete
deriving DecidableEq, Repr

/-- The keyword that a statement of the kind begins with. -/
def StatementKind.name : StatementKind → String
  | select => "SELECT"
  | update => "UPDATE"
  | delete => "DELETE"

/-- How a statement of the kind is to be written. -/
def StatementKind.usage : StatementKind → String
  | select => "SELECT <column, ... | *> FROM <table> [WHERE <condition>]"
  | update => "UPDATE <table> SET <column> = '<value>' [WHERE <condition>]"
  | delete => "DELETE FROM <table> WHERE <condition>"

/-- The comparisons of a cell with a literal. -/
inductive Comparison
  | equal
  | notEqual
  | greater
  | less
  | greaterOrEqual
  | lessOrEqual
deriving DecidableEq, Repr

/-- A run of operator characters, known or not. -/
inductive Operator
  | known (comparison : Comparison)
  | unknown (text : String)
deriving DecidableEq, Repr

def Operator.ofText (text : String) : Operator :=
  match text with
  | "=" => known .equal
  | "!=" => known .notEqual
  | "<>" => known .notEqual
  | ">" => known .greater
  | "<" => known .less
  | ">=" => known .greaterOrEqual
  | "<=" => known .lessOrEqual
  | _ => unknown text

/-- A condition on the cell of one column. -/
inductive Predicate
  | like (column pattern : String)
  | among (column : String) (values : List String)
  | compare (column : String) (operator : Operator) (literal : String)
deriving DecidableEq, Repr

/-- The column that the condition is on. -/
def Predicate.column : Predicate → String
  | like column _ => column
  | among column _ => column
  | compare column _ _ => column

/-- The condition of a statement. One that could not be read is kept with the reason. -/
inductive Filter
  | predicate (predicate : Predicate)
  | invalid (clause reason : String)
deriving DecidableEq, Repr

inductive Projection
  | all
  | columns (names : List String)
deriving DecidableEq, Repr

inductive Statement
  | select (columns : Projection) (tableRef : String) (filter : Option Filter)
  | update (tableRef column value : String) (filter : Option Filter)
  | delete (tableRef : String) (filter : Option Filter)
deriving DecidableEq, Repr

namespace Statement

def kind : Statement → StatementKind
  | select .. => .select
  | update .. => .update
  | delete .. => .delete

def filter : Statement → Option Filter
  | select _ _ f => f
  | update _ _ _ f => f
  | delete _ f => f

end Statement

end TableQuery.Query
