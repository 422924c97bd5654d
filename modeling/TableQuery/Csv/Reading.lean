import TableQuery.Csv.Dialect

/-!
# Reading records

A text is read letter by letter. A field that begins with a quote goes on to the next single quote,
whatever stands in it, and a doubled quote stands for one; what follows the closing quote belongs to
the field as it is. In a field that begins otherwise a quote is a letter like any other. Empty lines
between records are no records.

* `records`: the records of a text;
* `recordStarts`: how much of the text had been read when each record was begun.
-/

namespace TableQuery.Csv

/-- Where in a record the reading stands. -/
inductive Place
  | recordStart
  | fieldStart
  | bare
  | quoted
  /-- behind a quote inside a quoted field, which ends the field unless another quote follows -/
  | quoteSeen
deriving DecidableEq, Repr

/-- What has been read so far: the letters of the open field, the fields of the open record and the
finished records, each with the last first. -/
structure Progress (α : Type) where
  place : Place
  field : List α
  fields : List (List α)
  records : List (List (List α))

variable {α : Type} [DecidableEq α]

namespace Progress

def start : Progress α :=
  ⟨.recordStart, [], [], []⟩

def push (p : Progress α) (a : α) (place : Place) : Progress α :=
  { p with place := place, field := a :: p.field }

def endField (p : Progress α) : Progress α :=
  { p with place := .fieldStart, field := [], fields := p.field.reverse :: p.fields }

def endRecord (p : Progress α) : Progress α :=
  ⟨.recordStart, [], [], (p.field.reverse :: p.fields).reverse :: p.records⟩

/-- A letter that cannot be a quote with a meaning. -/
def plain (d : Dialect α) (p : Progress α) (a : α) : Progress α :=
  if a = d.delimiter then p.endField
  else if d.isBreak a then p.endRecord
  else p.push a .bare

/-- The first letter of a field. -/
def openField (d : Dialect α) (p : Progress α) (a : α) : Progress α :=
  if a = d.quote then { p with place := .quoted } else p.plain d a

/-- Reads one letter. -/
def step (d : Dialect α) (p : Progress α) (a : α) : Progress α :=
  match p.place with
  | .recordStart => if d.isBreak a then p else p.openField d a
  | .fieldStart => p.openField d a
  | .bare => p.plain d a
  | .quoted => if a = d.quote then { p with place := .quoteSeen } else p.push a .quoted
  | .quoteSeen => if a = d.quote then p.push a .quoted else p.plain d a

/-- The end of the text ends the record that is open. -/
def finish (p : Progress α) : Progress α :=
  match p.place with
  | .recordStart => p
  | _ => p.endRecord

end Progress

/-- The records of a text, each with its fields in order. -/
def records (d : Dialect α) (text : List α) : List (List (List α)) :=
  (text.foldl (Progress.step d) .start).finish.records.reverse

/-- Does this step bring a record to its end? -/
def endsRecord (before after : Place) : Bool :=
  before != .recordStart && after == .recordStart

/-- The numbers of letters behind the records that end in the text, of which `offset` have been read
so far. -/
def recordEnds (d : Dialect α) (p : Progress α) (offset : Nat) : List α → List Nat
  | [] => []
  | a :: rest =>
    let next := p.step d a
    let later := recordEnds d next (offset + 1) rest
    if endsRecord p.place next.place then (offset + 1) :: later else later

/-- The numbers of letters that had been read when each record was begun, empty lines before the
record not counted. -/
def recordStarts (d : Dialect α) (text : List α) : List Nat :=
  0 :: recordEnds d .start 0 text

end TableQuery.Csv
