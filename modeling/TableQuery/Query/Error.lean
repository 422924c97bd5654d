import TableQuery.Csv.Codec
import TableQuery.Query.Lexer
import TableQuery.Query.Statement

/-!
# Errors

Every reason for which a query is not carried out, and its wording.
-/

namespace TableQuery.Query

/-- Why the tokens of a query are no statement. -/
inductive SyntaxFault
  | lexical (fault : LexicalFault)
  | unexpectedEnd
  | expectedToken (expected found : Token)
  | expectedColumn (found : Token)
  | expectedTable (found : Token)
  | expectedValue (found : Token)
  | expectedNumber (found : Token)
  | severalAssignments
  | unexpectedToken (found : Token)
deriving DecidableEq, Repr

def SyntaxFault.reason : SyntaxFault → String
  | lexical fault => fault.reason
  | unexpectedEnd => "[Parser] Unexpected end of input"
  | expectedToken expected found =>
    "[Parser] Expected token " ++ expected.text ++ ", got " ++ found.text
  | expectedColumn found => "[Parser] Expected column name, got " ++ found.text
  | expectedTable found => "[Parser] Expected table name, got " ++ found.text
  | expectedValue found => "[Parser] Expected a quoted value, got " ++ found.text
  | expectedNumber found => "[Parser] Expected number after -, got " ++ found.text
  | severalAssignments => "[Parser] only one SET assignment is supported"
  | unexpectedToken found => "[Parser] Unexpected token " ++ found.text

/-- Why a query is not carried out. -/
inductive QueryError
  | emptyTable
  | emptyQuery
  | unsupportedStatement (head : String)
  | columnNotFound (column : String) (available candidates : List String) (usedAsTable : Bool)
  | invalidClause (clause reason : String)
  | emptyList (clause : String)
  | invalidSyntax (kind : StatementKind) (fault : SyntaxFault)
  | unsupportedOperator (text : String)
  | unsafeDelete
  | codec (fault : Csv.CodecFault)
  | patternTooLarge
deriving DecidableEq, Repr

/-- The number of bytes that the program of a pattern may take. -/
def patternSizeLimit : Nat := 10485760

namespace QueryError

/-- The wording of a column that was not found. -/
def columnMessage (column : String) (available candidates : List String) (usedAsTable : Bool) :
    String :=
  "column '" ++ column ++ "' not found. Available columns: " ++ ", ".intercalate available ++
  (if candidates.isEmpty then ""
    else ". Did you mean one of: " ++ ", ".intercalate candidates ++ "?") ++
  (if usedAsTable then
      ". Note: '" ++ column ++ "' is also used as the table name; the name after FROM/UPDATE is " ++
      "only a placeholder for the loaded table (e.g. \x60data\x60), column names belong in the " ++
      "column list, SET or WHERE"
    else "")

def message : QueryError → String
  | emptyTable => "table text is empty"
  | emptyQuery => "query is empty"
  | unsupportedStatement head =>
    "unsupported operation '" ++ head ++
      "': only SELECT, UPDATE and DELETE queries are supported"
  | columnNotFound column available candidates usedAsTable =>
    columnMessage column available candidates usedAsTable
  | invalidClause clause reason =>
    "could not parse WHERE clause \x60" ++ clause ++ "\x60 (" ++ reason ++
      "); supported forms are \x60<column> LIKE '<pattern>'\x60, " ++
      "\x60<column> IN ('<v1>', '<v2>', ...)\x60 and \x60<column> <op> '<value>'\x60 " ++
      "with <op> one of =, !=, <>, >, <, >=, <="
  | emptyList clause =>
    "IN list in \x60" ++ clause ++ "\x60 has no quoted values; write it as IN ('<v1>', '<v2>', ...)"
  | invalidSyntax kind fault =>
    "invalid " ++ kind.name ++ " syntax: " ++ fault.reason ++ ". Expected: " ++ kind.usage
  | unsupportedOperator text =>
    "unsupported comparison operator '" ++ text ++ "'; use one of =, !=, <>, >, <, >=, <="
  | unsafeDelete =>
    "DELETE without a WHERE clause is too dangerous and was refused; add a WHERE condition"
  | codec fault => "codec error " ++ fault.message
  | patternTooLarge =>
    "internal error Compiled regex exceeds size limit of " ++ Number.natText patternSizeLimit ++
      " bytes."

end QueryError

end TableQuery.Query
