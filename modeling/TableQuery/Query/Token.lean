import TableQuery.Number.Digits
import TableQuery.Text.Alphabetic

/-!
# Tokens

The words of the query language. `Token.text` is how a token is written: a name is quoted unless it
reads as a name without quotes, and a quote inside a quoted text is doubled.
-/

namespace TableQuery.Query

inductive Keyword
  | select
  | from_
  | where_
  | update
  | set
  | delete
  | like
  | in_
deriving DecidableEq, Repr

namespace Keyword

/-- The keyword in capital letters. -/
def word : Keyword → String
  | select => "SELECT"
  | from_ => "FROM"
  | where_ => "WHERE"
  | update => "UPDATE"
  | set => "SET"
  | delete => "DELETE"
  | like => "LIKE"
  | in_ => "IN"

def all : List Keyword :=
  [select, from_, where_, update, set, delete, like, in_]

/-- The capital of a letter, for the letters whose capital is one of `A` to `Z`. Beside the small
letters `a` to `z` these are the long s and the dotless i. -/
def capital (c : Char) : Char :=
  if c = 'ſ' then 'S' else if c = 'ı' then 'I' else c.toUpper

/-- The keyword that a word is, in letters of either case. -/
def ofWord? (word : List Char) : Option Keyword :=
  all.find? fun k => k.word.toList = word.map capital

end Keyword

inductive Token
  | keyword (keyword : Keyword)
  | ident (name : String)
  | string (text : String)
  | number (text : String)
  | openParen
  | closeParen
  | comma
  | semicolon
  | asterisk
  | minus
  | equal
  | operator (text : String)
deriving DecidableEq, Repr

/-- May a name without quotes begin with the character? -/
def isNameStart (c : Char) : Bool :=
  Text.isAlphabetic c || c = '_'

/-- May a name without quotes go on with the character? -/
def isNameChar (c : Char) : Bool :=
  Text.isAlphanumeric c || c = '_'

/-- Does the name read as a name when it stands without quotes? -/
def isPlainName (name : List Char) : Bool :=
  match name with
  | [] => false
  | c :: rest => isNameStart c && rest.all isNameChar && (Keyword.ofWord? name).isNone

/-- The text between quotes, with each quote inside it doubled. -/
def quoted (quote : Char) (text : List Char) : List Char :=
  quote :: text.flatMap (fun c => if c = quote then [c, c] else [c]) ++ [quote]

namespace Token

/-- The characters that a token is written as. -/
def chars : Token → List Char
  | keyword k => k.word.toList
  | ident name => if isPlainName name.toList then name.toList else quoted '"' name.toList
  | string text => quoted '\'' text.toList
  | number text => text.toList
  | openParen => ['(']
  | closeParen => [')']
  | comma => [',']
  | semicolon => [';']
  | asterisk => ['*']
  | minus => ['-']
  | equal => ['=']
  | operator text => text.toList

def text (token : Token) : String :=
  String.ofList token.chars

end Token

end TableQuery.Query
