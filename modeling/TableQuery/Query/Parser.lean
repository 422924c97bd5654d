import TableQuery.Query.Clause

/-!
# Reading a statement

A statement is read from the items of a query, from left to right. What stands between WHERE and the
first semicolon is the clause of the condition, of which every fault and every unknown form is
tolerated; anywhere else the first item that does not fit is reported.

* `parse`: the statement that a query is;
* `kindOf?`: the kind of statement that the first word of a query announces.
-/

namespace TableQuery.Query

/-- What has been read, and the items that are left. -/
abbrev Parsed (α : Type) := α × List Item

/-- Reads one token by a rule. -/
def readToken {α : Type} (rule : Token → Except SyntaxFault α) :
    List Item → Except SyntaxFault (Parsed α)
  | [] => .error .unexpectedEnd
  | .error fault :: _ => .error (.lexical fault)
  | .ok token :: rest => (·, rest) <$> rule token

/-- Reads one given token. -/
def expect (token : Token) : List Item → Except SyntaxFault (Parsed Unit) :=
  readToken fun found => if found = token then .ok () else .error (.expectedToken token found)

/-- Reads the name of a column. -/
def column : List Item → Except SyntaxFault (Parsed String) :=
  readToken fun
    | .ident name => .ok name
    | found => .error (.expectedColumn found)

/-- Reads the name of a table, which may be quoted like a value. -/
def tableName : List Item → Except SyntaxFault (Parsed String) :=
  readToken fun
    | .ident name => .ok name
    | .string name => .ok name
    | found => .error (.expectedTable found)

/-- Reads one or more names of columns with commas between them. -/
def columns : List Item → Except SyntaxFault (Parsed (List String))
  | .ok (.ident name) :: .ok .comma :: rest => do
    let (names, rest) ← columns rest
    return (name :: names, rest)
  | items => do
    let (name, rest) ← column items
    return ([name], rest)

/-- Reads what to select. -/
def projection : List Item → Except SyntaxFault (Parsed Projection)
  | .ok .asterisk :: rest => .ok (.all, rest)
  | items => do
    let (names, rest) ← columns items
    return (.columns names, rest)

/-- Reads a quoted value, or a number with an optional minus before it. -/
def value (items : List Item) : Except SyntaxFault (Parsed String) :=
  match items with
  | .ok .minus :: rest =>
    readToken (fun
      | .number text => .ok ("-" ++ text)
      | found => .error (.expectedNumber found)) rest
  | items =>
    readToken (fun
      | .string text => .ok text
      | .number text => .ok text
      | found => .error (.expectedValue found)) items

/-- Reads a statement that selects, from behind its first word up to its condition. -/
def selectHead (items : List Item) : Except SyntaxFault (Parsed (Option Filter → Statement)) := do
  let (columns, items) ← projection items
  let (_, items) ← expect (.keyword .from_) items
  let (tableRef, items) ← tableName items
  return (.select columns tableRef, items)

/-- Reads a statement that updates, from behind its first word up to its condition. -/
def updateHead (items : List Item) : Except SyntaxFault (Parsed (Option Filter → Statement)) := do
  let (tableRef, items) ← tableName items
  let (_, items) ← expect (.keyword .set) items
  let (column, items) ← column items
  let (_, items) ← expect .equal items
  let (value, items) ← value items
  match items with
  | .ok .comma :: _ => throw .severalAssignments
  | _ => return (.update tableRef column value, items)

/-- Reads a statement that deletes, from behind its first word up to its condition. -/
def deleteHead (items : List Item) : Except SyntaxFault (Parsed (Option Filter → Statement)) := do
  let items := match items with
    | .ok (.keyword .from_) :: rest => rest
    | items => items
  let (tableRef, items) ← tableName items
  return (.delete tableRef, items)

/-- Reads a statement of the kind up to its condition. -/
def head : StatementKind → List Item → Except SyntaxFault (Parsed (Option Filter → Statement))
  | .select => selectHead
  | .update => updateHead
  | .delete => deleteHead

/-! ## The condition and the end -/

/-- The items before the first semicolon, and those behind it. -/
def splitClause : List Item → List Item × List Item
  | [] => ([], [])
  | .ok .semicolon :: rest => ([], rest)
  | item :: rest =>
    let (clause, after) := splitClause rest
    (item :: clause, after)

/-- The tokens among the items. -/
def tokensOf (items : List Item) : List Token :=
  items.filterMap fun
    | .ok token => some token
    | .error _ => none

/-- The first fault among the items. -/
def firstFault? (items : List Item) : Option LexicalFault :=
  items.findSome? fun
    | .ok _ => none
    | .error fault => some fault

/-- The condition that the items of a clause make. -/
def Filter.ofItems (clause : List Item) : Except QueryError Filter :=
  match firstFault? clause with
  | some fault => .ok (.invalid (clauseText (tokensOf clause)) fault.message)
  | none => Filter.ofTokens (tokensOf clause)

/-- Reads the condition, if there is one. -/
def condition : List Item → Except QueryError (Option Filter × List Item)
  | .ok (.keyword .where_) :: rest => do
    let (clause, after) := splitClause rest
    let filter ← Filter.ofItems clause
    return (some filter, after)
  | items => return (none, items)

/-- Reads the end of a query, before which one semicolon may stand. -/
def atEnd (items : List Item) : Except SyntaxFault Unit :=
  match items with
  | .ok .semicolon :: rest => ended rest
  | items => ended items
where
  ended : List Item → Except SyntaxFault Unit
    | [] => .ok ()
    | .ok token :: _ => .error (.unexpectedToken token)
    | .error fault :: _ => .error (.lexical fault)

/-- Reads the statement of a kind from behind its first word. -/
def statement (kind : StatementKind) (items : List Item) : Except QueryError Statement := do
  let (make, items) ← (head kind items).mapError (.invalidSyntax kind)
  let (filter, items) ← condition items
  (atEnd items).mapError (.invalidSyntax kind)
  return make filter

/-- The kind of statement that the keyword announces. -/
def Keyword.kind? : Keyword → Option StatementKind
  | .select => some .select
  | .update => some .update
  | .delete => some .delete
  | _ => none

/-- The kind of statement that the first item announces. -/
def announcedKind? : List Item → Option StatementKind
  | .ok (.keyword k) :: _ => k.kind?
  | _ => none

/-- The error of a query that begins no statement. -/
def headError (query : String) : List Item → QueryError
  | [] => .emptyQuery
  | .error _ :: _ => .unsupportedStatement (String.ofList (Text.firstWord query.toList))
  | .ok token :: _ => .unsupportedStatement token.text

/-- The statement that a query is. -/
def parse (query : String) : Except QueryError Statement :=
  match announcedKind? (lex query) with
  | some kind => statement kind (lex query).tail
  | none => .error (headError query (lex query))

/-- The kind of statement that the first word of a query announces. -/
def kindOf? (query : String) : Option StatementKind :=
  announcedKind? (lex query)

end TableQuery.Query
