import TableQuery.Query.Error

/-!
# The clause of a condition

The tokens behind WHERE as a condition. A clause that has none of the three forms is kept as it is
written, so that it can be shown; a list without a quoted value is refused.

* `clauseText`: a clause as it is shown;
* `Filter.ofTokens`: the condition that the tokens of a clause make.
-/

namespace TableQuery.Query

/-- Does the token stand close behind the one before it? -/
def isGlued (previous : Option Token) (token : Token) : Bool :=
  token = .comma || token = .closeParen ||
    match previous with
    | none => true
    | some t => t = .openParen || t = .minus

/-- The tokens written one behind the other, with a space between them but at parentheses, before
commas and behind a minus. -/
def clauseChars (previous : Option Token) : List Token → List Char
  | [] => []
  | token :: rest =>
    (if isGlued previous token then [] else [' ']) ++ token.chars ++ clauseChars (some token) rest

def clauseText (tokens : List Token) : String :=
  String.ofList (clauseChars none tokens)

/-- The texts of the quoted values among the tokens. -/
def quotedValues (tokens : List Token) : List String :=
  tokens.filterMap fun
    | .string text => some text
    | _ => none

/-- What stands between an opening parenthesis at the front and a closing one at the end. -/
def parenthesised? : List Token → Option (List Token)
  | .openParen :: rest =>
    if rest.getLast? = some .closeParen then some rest.dropLast else none
  | _ => none

/-- The literal that the tokens behind an operator are. -/
def literal? : List Token → Option String
  | [.string text] => some text
  | [.number text] => some text
  | [.minus, .number text] => some ("-" ++ text)
  | _ => none

/-- The text of an operator token. -/
def operator? : Token → Option Operator
  | .equal => some (.known .equal)
  | .operator text => some (.ofText text)
  | _ => none

/-- The reasons why a clause is no condition. -/
def missingCondition : String := "missing condition"
def noColumn : String := "a condition must start with a column name"
def noComparison : String := "expected LIKE, IN or a comparison operator after the column"
def noPattern : String := "LIKE expects a single quoted pattern"
def noList : String := "IN expects a parenthesised list of quoted values"
def noValue : String := "expected a single quoted value after the operator"

/-- The condition on a column that the tokens behind its name make. -/
def conditionOn (clause column : String) : List Token → Except QueryError Filter
  | [.keyword .like, .string pattern] => .ok (.predicate (.like column pattern))
  | .keyword .like :: _ => .ok (.invalid clause noPattern)
  | .keyword .in_ :: list =>
    match parenthesised? list with
    | none => .ok (.invalid clause noList)
    | some inner =>
      match quotedValues inner with
      | [] => .error (.emptyList clause)
      | values => .ok (.predicate (.among column values))
  | token :: value =>
    match operator? token with
    | none => .ok (.invalid clause noComparison)
    | some operator =>
      match literal? value with
      | none => .ok (.invalid clause noValue)
      | some literal => .ok (.predicate (.compare column operator literal))
  | [] => .ok (.invalid clause noComparison)

/-- The condition that the tokens of a clause make. -/
def Filter.ofTokens (tokens : List Token) : Except QueryError Filter :=
  match tokens with
  | [] => .ok (.invalid (clauseText tokens) missingCondition)
  | .ident column :: rest => conditionOn (clauseText tokens) column rest
  | _ => .ok (.invalid (clauseText tokens) noColumn)

end TableQuery.Query
