import TableQuery.Query.Error

/-!
# Outcomes

Carrying out a query makes remarks for its author on the way and ends with a result or an error. The
remarks made before an error are kept.

* `Outcome`: the remarks and the result, as a monad in which the remarks of two steps follow each
  other.
-/

namespace TableQuery.Query

/-- A remark on a query that is carried out all the same. -/
inductive Diagnostic
  | columnReplaced (asked found : String)
  | tableNamedLikeColumn (tableRef : String)
  | columnRepeated (column : String)
  | clauseIgnored (clause reason : String)
  | operatorIgnored (text : String)
deriving DecidableEq, Repr

def Diagnostic.message : Diagnostic → String
  | columnReplaced asked found =>
    "Column '" ++ asked ++ "' not found; did you mean '" ++ found ++ "'? Using '" ++ found ++ "'."
  | tableNamedLikeColumn tableRef =>
    "'" ++ tableRef ++ "' after FROM is a column name; the table name is only a placeholder " ++
      "for the loaded data and is ignored"
  | columnRepeated column =>
    "Column '" ++ column ++ "' is selected more than once; keeping the first"
  | clauseIgnored clause reason =>
    (QueryError.invalidClause clause reason).message ++ "; no rows matched"
  | operatorIgnored text =>
    (QueryError.unsupportedOperator text).message ++ "; rows compared with it were excluded"

structure Outcome (α : Type) where
  diagnostics : List Diagnostic
  result : Except QueryError α

namespace Outcome

variable {α β : Type}

def fail (error : QueryError) : Outcome α :=
  ⟨[], .error error⟩

def ofExcept (result : Except QueryError α) : Outcome α :=
  ⟨[], result⟩

/-- A remark. -/
def note (diagnostic : Diagnostic) : Outcome Unit :=
  ⟨[diagnostic], .ok ()⟩

protected def bind (x : Outcome α) (f : α → Outcome β) : Outcome β :=
  match x.result with
  | .error e => ⟨x.diagnostics, .error e⟩
  | .ok a => ⟨x.diagnostics ++ (f a).diagnostics, (f a).result⟩

instance : Monad Outcome where
  pure a := ⟨[], .ok a⟩
  bind := Outcome.bind

instance : LawfulMonad Outcome := LawfulMonad.mk' Outcome
  (by rintro α ⟨ds, _ | a⟩ <;> simp [Functor.map, Outcome.bind])
  (by intro α β a f; simp [bind, pure, Outcome.bind])
  (by
    rintro α β γ ⟨ds, _ | a⟩ f g
    · rfl
    · rcases h : f a with ⟨es, _ | b⟩ <;> simp [bind, Outcome.bind, h])

end Outcome

end TableQuery.Query
