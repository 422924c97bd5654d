import TableQuery.Proofs.Query.Parser

/-!
# The kind that a query announces

The first item of a query announces the kind of the statement, and nothing is read by another rule
than that of the kind. So a query that is a statement is one of this kind, and the fault of a query
that is none tells the kind too: its syntax is that of the kind, or a list of its condition is
empty. Where no kind is announced the query is empty or its operation is not supported.

* `items_eq_nil_iff`: a text without items is blank;
* `kind_of_parse`: a statement is of the kind that its query announces;
* `parse_eq_error`: the errors of queries that are no statement.
-/

namespace TableQuery.Query

theorem items_eq_nil_iff {text : List Char} : items text = [] ↔ text.all Text.isBlank = true := by
  induction text with
  | nil => rw [items]; simp
  | cons c rest ih =>
    rw [items, List.all_cons, Bool.and_eq_true, ← ih]
    split
    · next blank => simp [blank]
    · next other => simp [other]

theorem lex_eq_nil_iff {query : String} : lex query = [] ↔ Text.allBlank query = true :=
  items_eq_nil_iff

section

variable {ε ε' α β : Type} {x : Except ε α}

theorem bind_eq_error {f : α → Except ε β} {e : ε} :
    x >>= f = .error e ↔ x = .error e ∨ ∃ a, x = .ok a ∧ f a = .error e := by
  cases x <;> simp [bind, Except.bind]

theorem mapError_eq_error {f : ε → ε'} {e : ε'} :
    x.mapError f = .error e ↔ ∃ cause, x = .error cause ∧ f cause = e := by
  cases x with
  | error cause =>
    show Except.error (f cause) = .error e ↔ _
    simp
  | ok a => exact iff_of_false (fun h => by cases h) fun ⟨_, h, _⟩ => by cases h

end

/-! ## Statements -/

section

variable {query : String} {kind : StatementKind} {items : List Item} {s : Statement}
  {e : QueryError}

theorem parse_of_kindOf? (h : kindOf? query = some kind) :
    parse query = statement kind (lex query).tail := by
  rw [parse, show announcedKind? (lex query) = some kind from h]

theorem parse_of_kindOf?_eq_none (h : kindOf? query = none) :
    parse query = .error (headError query (lex query)) := by
  rw [parse, show announcedKind? (lex query) = none from h]

theorem kind_of_statement (h : statement kind items = .ok s) : s.kind = kind := by
  obtain ⟨make, rest, filter, last, read, -, -, rfl⟩ := statement_eq_ok_iff.1 h
  exact ((heads_of_head read).2 filter).2

/-- A statement is of the kind that its query announces. -/
theorem kind_of_parse (h : parse query = .ok s) : kindOf? query = some s.kind := by
  cases announced : kindOf? query with
  | none => rw [parse_of_kindOf?_eq_none announced] at h; cases h
  | some kind =>
    rw [parse_of_kindOf? announced] at h
    rw [kind_of_statement h]

/-! ## Errors -/

theorem conditionOn_eq_error {clause column : String} {tokens : List Token}
    (h : conditionOn clause column tokens = .error e) : e = .emptyList clause := by
  unfold conditionOn at h
  split at h
  · cases h
  · cases h
  · split at h
    · cases h
    · split at h
      · exact (Except.error.inj h).symm
      · cases h
  · split at h
    · cases h
    · split at h <;> cases h
  · cases h

/-- A condition is refused only for a list without values. -/
theorem condition_eq_error (h : condition items = .error e) : ∃ clause, e = .emptyList clause := by
  unfold condition at h
  split at h
  · rcases bind_eq_error.1 h with h | ⟨_, -, h⟩
    · unfold Filter.ofItems at h
      split at h
      · cases h
      · unfold Filter.ofTokens at h
        split at h
        · cases h
        · exact ⟨_, conditionOn_eq_error h⟩
        · cases h
    · cases h
  · cases h

theorem statement_eq_error (h : statement kind items = .error e) :
    (∃ clause, e = .emptyList clause) ∨ ∃ fault, e = .invalidSyntax kind fault := by
  unfold statement at h
  rcases bind_eq_error.1 h with h | ⟨⟨make, rest⟩, -, h⟩
  · obtain ⟨fault, -, rfl⟩ := mapError_eq_error.1 h
    exact .inr ⟨fault, rfl⟩
  rcases bind_eq_error.1 h with h | ⟨⟨filter, last⟩, -, h⟩
  · exact .inl (condition_eq_error h)
  rcases bind_eq_error.1 h with h | ⟨_, -, h⟩
  · obtain ⟨fault, -, rfl⟩ := mapError_eq_error.1 h
    exact .inr ⟨fault, rfl⟩
  · cases h

theorem headError_cases (query : String) (items : List Item) :
    items = [] ∧ headError query items = .emptyQuery ∨
      items ≠ [] ∧ ∃ head, headError query items = .unsupportedStatement head := by
  unfold headError
  split
  · exact .inl ⟨rfl, rfl⟩
  · exact .inr ⟨nofun, _, rfl⟩
  · exact .inr ⟨nofun, _, rfl⟩

/-- What is wrong with a query that is no statement, by the kind that it announces. -/
inductive ParseError (query : String) : QueryError → Prop
  | empty (blank : Text.allBlank query = true) (silent : kindOf? query = none) :
      ParseError query .emptyQuery
  | unsupported (head : String) (visible : Text.allBlank query = false)
      (silent : kindOf? query = none) : ParseError query (.unsupportedStatement head)
  | emptyList (clause : String) {kind : StatementKind} (announced : kindOf? query = some kind) :
      ParseError query (.emptyList clause)
  | invalidSyntax {kind : StatementKind} (announced : kindOf? query = some kind)
      (fault : SyntaxFault) : ParseError query (.invalidSyntax kind fault)

theorem parse_eq_error (h : parse query = .error e) : ParseError query e := by
  cases announced : kindOf? query with
  | none =>
    rw [parse_of_kindOf?_eq_none announced] at h
    obtain rfl := Except.error.inj h
    rcases headError_cases query (lex query) with ⟨none, e⟩ | ⟨some, head, e⟩
    · rw [e]
      exact .empty (lex_eq_nil_iff.1 none) announced
    · rw [e]
      exact .unsupported head (Bool.eq_false_iff.2 (mt lex_eq_nil_iff.2 some)) announced
  | some kind =>
    rw [parse_of_kindOf? announced] at h
    rcases statement_eq_error h with ⟨clause, rfl⟩ | ⟨fault, rfl⟩
    · exact .emptyList clause announced
    · exact .invalidSyntax announced fault

theorem kindOf?_of_allBlank (h : Text.allBlank query = true) : kindOf? query = none := by
  rw [kindOf?, lex_eq_nil_iff.2 h]
  rfl

theorem parse_of_allBlank (h : Text.allBlank query = true) : parse query = .error .emptyQuery := by
  rw [parse_of_kindOf?_eq_none (kindOf?_of_allBlank h), lex_eq_nil_iff.2 h]
  rfl

end

end TableQuery.Query
