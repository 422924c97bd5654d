import TableQuery.Number.Reading
import TableQuery.Number.Shortest

/-!
# Cells

A cell holds nothing, a truth value, a 64-bit integer, a double or a text. `Cell.infer` finds the
cell of a field of a file and `Cell.text` writes it back. A field becomes an integer or a double
only if it is the one text that this number is written as, so that writing changes no field but the
blank ones and those that spell a truth value.

* `infer_text_bool`, `infer_text_null`: the text of a truth value or of nothing reads back.
-/

namespace TableQuery

inductive Cell
  | null
  | bool (value : Bool)
  | int (value : Int64)
  | float (value : Double)
  | string (text : String)
deriving DecidableEq

namespace Cell

/-- What stands in a file for the cell. -/
def text : Cell → String
  | null => ""
  | bool true => "true"
  | bool false => "false"
  | int i => String.ofList (Number.intDigits i.toInt)
  | float d => String.ofList d.text
  | string s => s

/-- A truth value in letters of either case. -/
def readBool? (text : List Char) : Option Bool :=
  let word := text.map Char.toLower
  if word = "true".toList then some true
  else if word = "false".toList then some false
  else none

/-- The integer that is written as exactly this text. -/
def readInt? (text : List Char) : Option Int64 :=
  (Number.readInt? text).bind fun value =>
    if Int64.minValue.toInt ≤ value ∧ value ≤ Int64.maxValue.toInt ∧
        Number.intDigits value = text then
      some (Int64.ofInt value)
    else none

/-- The finite double that is written as exactly this text. -/
def readFloat? (text : List Char) : Option Double :=
  (Number.readDouble? text).filter fun d => d.isFinite && d.text = text

/-- The cell of a field. Blanks around a truth value are dropped; a number has none around it. -/
def infer (field : String) : Cell :=
  let word := Text.trim field.toList
  if word.isEmpty then null
  else match readBool? word with
    | some b => bool b
    | none =>
      if word = field.toList then
        match readInt? word, readFloat? word with
        | some i, _ => int i
        | none, some d => float d
        | none, none => string field
      else string field

/-- Does the cell hold nothing, or only blanks? -/
def isBlank : Cell → Bool
  | null => true
  | string s => Text.allBlank s
  | _ => false

/-- The number that the cell counts as in a comparison. -/
def number? : Cell → Option Double
  | int i => some (.ofInt i.toInt)
  | float d => some d
  | cell => Number.read? cell.text

theorem infer_text_null : infer null.text = null := by
  decide +kernel

theorem infer_text_bool (b : Bool) : infer (bool b).text = bool b := by
  cases b <;> decide +kernel

end Cell

end TableQuery
