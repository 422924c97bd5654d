import TableQuery.Csv.Dialect

/-!
# Writing records

A field is quoted if it holds a mark, and then each quote in it is doubled. Each record is one line.
A record that is a single empty field is written as two quotes, for an empty line is no record.
-/

namespace TableQuery.Csv

variable {α : Type} [DecidableEq α]

/-- The letters of a text with each quote doubled. -/
def doubled (d : Dialect α) (field : List α) : List α :=
  field.flatMap fun a => if a = d.quote then [a, a] else [a]

def writeField (d : Dialect α) (field : List α) : List α :=
  if field.any d.isMark then d.quote :: doubled d field ++ [d.quote] else field

def writeRecord (d : Dialect α) (fields : List (List α)) : List α :=
  let line := [d.delimiter].intercalate (fields.map (writeField d))
  (if line.isEmpty then [d.quote, d.quote] else line) ++ [d.lineFeed]

def writeRecords (d : Dialect α) (records : List (List (List α))) : List α :=
  records.flatMap (writeRecord d)

end TableQuery.Csv
