/-!
# Arguments

The words of a command as what it asks for. Options may stand anywhere before a `--`, in any order
and each at most once. The words are taken from left to right, and the first thing that is wrong or
that asks for the version decides.

* `readArguments`: what the words of a command ask for.
-/

namespace TableQuery.CommandLine

/-- What a query is to be run on, and how. -/
structure Options where
  file : String
  query : String
  delimiter : Option Char
  config : Option String
  noHeader : Bool
  inPlace : Bool
  json : Bool
deriving DecidableEq, Repr

inductive Request
  | run (options : Options)
  | help
  | version
deriving DecidableEq, Repr

/-- Why the words of a command ask for nothing. -/
inductive UsageFault
  | unknownOption (word : String)
  | repeatedOption (word : String)
  | missingValue (word : String)
  | unwantedValue (word : String)
  | invalidValue (value : String)
  | surplusArgument (word : String)
  | missingArgument
deriving DecidableEq, Repr

def UsageFault.message : UsageFault → String
  | unknownOption word => "unexpected argument '" ++ word ++ "' found"
  | repeatedOption word => "the argument '" ++ word ++ "' cannot be used multiple times"
  | missingValue word => "a value is required for '" ++ word ++ "' but none was supplied"
  | unwantedValue word => "unexpected value in '" ++ word ++ "'"
  | invalidValue value => "invalid value '" ++ value ++ "'"
  | surplusArgument word => "unexpected argument '" ++ word ++ "' found"
  | missingArgument => "a file and a query are required"

/-- The options that stand for themselves. -/
inductive Switch
  | noHeader
  | inPlace
  | json
deriving DecidableEq, Repr

/-- The options that have a value. -/
inductive Setting
  | delimiter
  | config
deriving DecidableEq, Repr

/-- What a word of a command is. -/
inductive Word
  | switch (switch : Switch)
  | setting (setting : Setting) (value : Option (List Char))
  | help
  | version
  | unknown
  | unwanted
  | plain
deriving DecidableEq, Repr

/-- An option without a value. -/
def alone (word : Word) (value : Option (List Char)) : Word :=
  if value.isSome then .unwanted else word

/-- The option with a long name, and its value if one is attached. -/
def longWord (name : String) (value : Option (List Char)) : Word :=
  match name with
  | "delimiter" => .setting .delimiter value
  | "config" => .setting .config value
  | "no-header" => alone (.switch .noHeader) value
  | "in-place" => alone (.switch .inPlace) value
  | "json" => alone (.switch .json) value
  | "help" => alone .help value
  | "version" => alone .version value
  | _ => .unknown

/-- The value that is attached to a long name behind an equals sign. -/
def attachedLong (text : List Char) : Option (List Char) :=
  match text.dropWhile (· ≠ '=') with
  | [] => none
  | _ :: value => some value

/-- The value that is attached to a short name, with or without an equals sign. -/
def attachedShort : List Char → Option (List Char)
  | [] => none
  | '=' :: value => some value
  | value => some value

/-- What a word of a command is, before a `--`. -/
def wordOf : List Char → Word
  | '-' :: '-' :: text => longWord (String.ofList (text.takeWhile (· ≠ '='))) (attachedLong text)
  | '-' :: c :: rest =>
    match c with
    | 'd' => .setting .delimiter (attachedShort rest)
    | 'h' => .help
    | 'V' => .version
    | _ => .unknown
  | _ => .plain

/-- What has been given so far; the plain words with the last first. -/
structure Given where
  plain : List String := []
  delimiter : Option Char := none
  config : Option String := none
  noHeader : Bool := false
  inPlace : Bool := false
  json : Bool := false

namespace Given

/-- Takes a plain word: the file, which has a name, and then the query. -/
def addPlain (given : Given) (word : String) : Except UsageFault Given :=
  match given.plain with
  | [] => if word = "" then .error (.invalidValue word) else .ok { given with plain := [word] }
  | [file] => .ok { given with plain := [word, file] }
  | _ => .error (.surplusArgument word)

def addSwitch (given : Given) (word : String) : Switch → Except UsageFault Given
  | .noHeader =>
    if given.noHeader then .error (.repeatedOption word) else .ok { given with noHeader := true }
  | .inPlace =>
    if given.inPlace then .error (.repeatedOption word) else .ok { given with inPlace := true }
  | .json => if given.json then .error (.repeatedOption word) else .ok { given with json := true }

/-- Takes a value: a delimiter is one character, and a file has a name. -/
def addSetting (given : Given) (word : String) (value : List Char) :
    Setting → Except UsageFault Given
  | .delimiter =>
    if given.delimiter.isSome then .error (.repeatedOption word)
    else match value with
      | [c] => .ok { given with delimiter := some c }
      | _ => .error (.invalidValue (String.ofList value))
  | .config =>
    if given.config.isSome then .error (.repeatedOption word)
    else if value.isEmpty then .error (.invalidValue "")
    else .ok { given with config := some (String.ofList value) }

/-- What was asked for, when there are no more words. -/
def request (given : Given) : Except UsageFault Request :=
  match given.plain with
  | [query, file] =>
    .ok (.run ⟨file, query, given.delimiter, given.config, given.noHeader, given.inPlace,
      given.json⟩)
  | _ => .error .missingArgument

/-- Takes words of which none is an option. -/
def addPlains (given : Given) : List String → Except UsageFault Request
  | [] => given.request
  | word :: rest => do addPlains (← given.addPlain word) rest

/-- May the word be the value of an option before it? -/
def isValue (word : String) : Bool :=
  match word.toList with
  | '-' :: _ :: _ => false
  | _ => true

/-- Takes words of which some are options. -/
def addWords (given : Given) : List String → Except UsageFault Request
  | [] => given.request
  | word :: rest =>
    if word = "--" then given.addPlains rest
    else match wordOf word.toList with
      | .help => .ok .help
      | .version => .ok .version
      | .unknown => .error (.unknownOption word)
      | .unwanted => .error (.unwantedValue word)
      | .plain => do addWords (← given.addPlain word) rest
      | .switch switch => do addWords (← given.addSwitch word switch) rest
      | .setting setting (some value) => do addWords (← given.addSetting word value setting) rest
      | .setting setting none =>
        match rest with
        | [] => .error (.missingValue word)
        | value :: rest' =>
          if isValue value then do addWords (← given.addSetting word value.toList setting) rest'
          else .error (.missingValue word)

end Given

/-- What the words of a command ask for. -/
def readArguments (words : List String) : Except UsageFault Request :=
  Given.addWords {} words

end TableQuery.CommandLine
