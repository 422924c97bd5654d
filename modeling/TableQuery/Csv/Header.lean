import TableQuery.Cell

/-!
# Names of columns

The names of the columns come from the first record, or are made up from their positions.

* `looksLikeHeader`: may the record be taken for names of columns?
* `headerNames`: the names that a header record gives, which are made distinct.
-/

namespace TableQuery.Csv

/-- Could the trimmed field name a column? A number or a truth value does not. -/
def isNameLike (field : String) : Bool :=
  (match Cell.infer field with
    | .string _ => true
    | _ => false) &&
  (Number.read? field).isNone

/-- A record that names columns has a field that is not blank, and those that are not blank are
distinct and like names. -/
def looksLikeHeader (record : List String) : Bool :=
  let names := (record.map Text.trimmed).filter (· ≠ "")
  !names.isEmpty && names.all isNameLike && names.Nodup

/-- The name of a column that has only its position, counted from one. -/
def generatedName (position : Nat) : String :=
  "column_" ++ Number.natText position

/-- A name made from another by a number. -/
def suffixed (base : String) (n : Nat) : String :=
  base ++ "_" ++ Number.natText n

/-- The first of the names `base`, `base_2`, `base_3`, … that is not taken. One of as many names as
there are taken ones and one more is free. -/
def freshName (taken : List String) (base : String) : String :=
  if base ∈ taken then
    ((List.range (taken.length + 1)).findSome? fun k =>
      let name := suffixed base (k + 2)
      if name ∈ taken then none else some name).getD base
  else base

/-- What the field of a header asks its column to be named. -/
def askedName (position : Nat) (field : String) : String :=
  let name := Text.trimmed field
  if name = "" then generatedName position else name

/-- The names of the columns: each field's own name, or the position of a blank field, with a number
behind it if an earlier column has the name. -/
def headerNames (record : List String) : List String :=
  record.foldl (fun names field =>
    names ++ [freshName names (askedName (names.length + 1) field)]) []

/-- The names of the columns of a text without a header. -/
def generatedNames (count : Nat) : List String :=
  (List.range count).map fun i => generatedName (i + 1)

end TableQuery.Csv
