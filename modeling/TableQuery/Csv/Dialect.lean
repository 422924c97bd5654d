/-!
# Dialects

The marks that structure a text of records. Reading and writing are the same for texts of characters
and for texts of bytes, so a dialect is a choice of marks in any alphabet.
-/

namespace TableQuery.Csv

/-- The marks of a text of records. A record ends at either break. -/
structure Dialect (α : Type) where
  delimiter : α
  quote : α
  carriageReturn : α
  lineFeed : α

variable {α : Type} [DecidableEq α]

def Dialect.isBreak (d : Dialect α) (a : α) : Bool :=
  a = d.carriageReturn || a = d.lineFeed

/-- Does the letter have a meaning of its own in a text of records? -/
def Dialect.isMark (d : Dialect α) (a : α) : Bool :=
  a = d.delimiter || a = d.quote || d.isBreak a

/-- The marks of a text of characters. -/
def Dialect.ofChar (delimiter : Char) : Dialect Char :=
  ⟨delimiter, '"', '\r', '\n'⟩

/-- The marks of a text of bytes. -/
def Dialect.ofByte (delimiter : UInt8) : Dialect UInt8 :=
  ⟨delimiter, 0x22, 0x0D, 0x0A⟩

end TableQuery.Csv
