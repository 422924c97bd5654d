import TableQuery.Json.Reading
import TableQuery.Settings

/-!
# Settings as a document

Settings are written as a JSON object with the members `delimiter`, `header` and `fuzzy_columns`, of
which any may be missing and none may be given twice, or as a list of them in this order, of which
the last may be missing. Other members are skipped.

* `Settings.ofDocument?`: the settings that a document gives.
-/

namespace TableQuery

open Json

namespace HeaderMode

def ofName? (name : String) : Option HeaderMode :=
  if name = "present" then some present
  else if name = "absent" then some absent
  else if name = "detect" then some detect
  else none

/-- Takes a mode off the front, by its name or as an object with the name and nothing. -/
def takeMode (text : List Char) : Option (HeaderMode × List Char) :=
  match takeMark '{' text with
  | none => do
    let (name, text) ← takeText text
    return (← ofName? name, text)
  | some text => do
    let (name, text) ← takeText text
    let mode ← ofName? name
    let text ← takeMark ':' text
    let text ← takeLiteral "null".toList (skipSpace text)
    let text ← takeMark '}' text
    return (mode, text)

end HeaderMode

namespace Settings

/-- Takes a byte off the front. -/
def takeByte (text : List Char) : Option (UInt8 × List Char) :=
  match takeNumber (skipSpace text) with
  | some (some n, rest) => if n < 256 then some (UInt8.ofNat n, rest) else none
  | _ => none

/-- Takes a truth value off the front. -/
def takeBool (text : List Char) : Option (Bool × List Char) :=
  match takeLiteral "true".toList (skipSpace text) with
  | some rest => some (true, rest)
  | none => (takeLiteral "false".toList (skipSpace text)).map (false, ·)

/-- What has been given so far. -/
structure Given where
  delimiter : Option UInt8 := none
  header : Option HeaderMode := none
  fuzzyColumns : Option Bool := none

/-- The settings, with the usual ones for what is not given. -/
def Given.settings (given : Given) : Settings :=
  let usual : Settings := {}
  { delimiter := given.delimiter.getD usual.delimiter
    header := given.header.getD usual.header
    fuzzyColumns := given.fuzzyColumns.getD usual.fuzzyColumns }

namespace Given

def takeDelimiter (given : Given) (text : List Char) : Option (Given × List Char) := do
  if given.delimiter.isSome then none
  let (byte, text) ← takeByte text
  return ({ given with delimiter := some byte }, text)

def takeHeader (given : Given) (text : List Char) : Option (Given × List Char) := do
  if given.header.isSome then none
  let (mode, text) ← HeaderMode.takeMode text
  return ({ given with header := some mode }, text)

def takeFuzzyColumns (given : Given) (text : List Char) : Option (Given × List Char) := do
  if given.fuzzyColumns.isSome then none
  let (fuzzy, text) ← takeBool text
  return ({ given with fuzzyColumns := some fuzzy }, text)

/-- Takes the value of a member off the front. -/
def takeMember (given : Given) (name : String) (text : List Char) : Option (Given × List Char) :=
  if name = "delimiter" then given.takeDelimiter text
  else if name = "header" then given.takeHeader text
  else if name = "fuzzy_columns" then given.takeFuzzyColumns text
  else (skipValue text).map (given, ·)

/-- Takes the members of an object, `fuel` at most, and its closing brace off the front. -/
def takeMembers (given : Given) : (fuel : Nat) → List Char → Option (Given × List Char)
  | 0, _ => none
  | fuel + 1, text => do
    let (name, text) ← takeText text
    let text ← takeMark ':' text
    let (given, text) ← given.takeMember name text
    match takeMark ',' text with
    | some rest => takeMembers given fuel rest
    | none => (takeMark '}' text).map (given, ·)

/-- Takes the items of a list, in the given order, and its closing bracket off the front. -/
def takeItems (given : Given) :
    List (Given → List Char → Option (Given × List Char)) → List Char → Option (Given × List Char)
  | [], _ => none
  | take :: later, text => do
    let (given, text) ← take given text
    match takeMark ',' text with
    | some rest => takeItems given later rest
    | none => (takeMark ']' text).map (given, ·)

/-- Takes an object or a list off the front. -/
def takeDocument (text : List Char) : Option (Given × List Char) :=
  match skipSpace text with
  | '{' :: rest =>
    match takeMark '}' rest with
    | some rest => some ({}, rest)
    | none => takeMembers {} text.length rest
  | '[' :: rest =>
    match takeMark ']' rest with
    | some rest => some ({}, rest)
    | none => takeItems {} [takeDelimiter, takeHeader, takeFuzzyColumns] rest
  | _ => none

end Given

/-- The settings that a document gives. -/
def ofDocument? (document : String) : Option Settings := do
  let (given, rest) ← Given.takeDocument document.toList
  if (skipSpace rest).isEmpty then some given.settings else none

end Settings

end TableQuery
