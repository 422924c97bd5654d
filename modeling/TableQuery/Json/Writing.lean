import TableQuery.Number.Digits

/-!
# Writing documents

Values are written as JSON over several lines, each member or item on a line of its own, two spaces
further in than what holds it.

* `Json.text`: the text of a value.
-/

namespace TableQuery

inductive Json
  | bool (value : Bool)
  | number (value : Nat)
  | string (text : String)
  | list (items : List Json)
  | object (members : List (String × Json))

namespace Json

def hexDigit (n : Nat) : Char :=
  if n < 10 then Char.ofNat ('0'.toNat + n) else Char.ofNat ('a'.toNat + n - 10)

/-- A character inside a string. Quotes, backslashes and control characters are escaped. -/
def escaped (c : Char) : List Char :=
  match c with
  | '"' => ['\\', '"']
  | '\\' => ['\\', '\\']
  | '\n' => ['\\', 'n']
  | '\r' => ['\\', 'r']
  | '\t' => ['\\', 't']
  | '\x08' => ['\\', 'b']
  | '\x0c' => ['\\', 'f']
  | c =>
    if c.toNat < 0x20 then ['\\', 'u', '0', '0', hexDigit (c.toNat / 16), hexDigit (c.toNat % 16)]
    else [c]

def quotedText (text : String) : String :=
  String.ofList ('"' :: text.toList.flatMap escaped ++ ['"'])

/-- The beginning of a line. -/
def newLine (indent : Nat) : String :=
  String.ofList ('\n' :: List.replicate indent ' ')

mutual

/-- The text of a value that stands `indent` spaces in. -/
def textAt (indent : Nat) : Json → String
  | bool true => "true"
  | bool false => "false"
  | number n => Number.natText n
  | string s => quotedText s
  | list [] => "[]"
  | list items => "[" ++ itemsAt (indent + 2) items ++ newLine indent ++ "]"
  | object [] => "\x7b\x7d"
  | object members => "\x7b" ++ membersAt (indent + 2) members ++ newLine indent ++ "\x7d"

def itemsAt (indent : Nat) : List Json → String
  | [] => ""
  | [item] => newLine indent ++ textAt indent item
  | item :: rest => newLine indent ++ textAt indent item ++ "," ++ itemsAt indent rest

def membersAt (indent : Nat) : List (String × Json) → String
  | [] => ""
  | [(name, value)] => newLine indent ++ quotedText name ++ ": " ++ textAt indent value
  | (name, value) :: rest =>
    newLine indent ++ quotedText name ++ ": " ++ textAt indent value ++ "," ++
      membersAt indent rest

end

def text (value : Json) : String :=
  textAt 0 value

end Json

end TableQuery
