import Mathlib.Control.Monad.Basic
import Mathlib.Tactic.ByContra
import TableQuery.Proofs.Query.Kind
import TableQuery.Proofs.Query.Parser

/-!
# How a query ends

Behind a statement there may be a semicolon. A clause ends at a semicolon too, and another one may
follow it, so a statement with a condition may have two of them behind it. Apart from these no
semicolon stands in a statement, for what is read before the condition does not hold any.

* `IsLocal`: rules for which it does not matter what stands behind the items that they read, and the
  lemmas that each rule up to the condition is one;
* `exists_tail_of_condition`: what is left for the condition and the end;
* `semicolons_of_parse`: the semicolons of a statement.
-/

namespace TableQuery.Query

/-! ## Rules that do not look far ahead -/

section

variable {α β : Type} {rule f g : List Item → Except SyntaxFault (Parsed α)}

/-- The rule reads the same whatever stands behind the items that it reads, unless a comma comes to
stand there. -/
def IsLocal (rule : List Item → Except SyntaxFault (Parsed α)) : Prop :=
  ∀ items a rest, rule items = .ok (a, rest) → ∃ front, items = front ++ rest ∧
    ∀ more, (more.head? = some (.ok .comma) → rest.head? = some (.ok .comma)) →
      rule (front ++ more) = .ok (a, more)

theorem isLocal_return (a : α) : IsLocal fun items => .ok (a, items) := by
  intro items b rest h
  cases h
  exact ⟨[], rfl, fun more _ => rfl⟩

theorem isLocal_readToken (rule : Token → Except SyntaxFault α) : IsLocal (readToken rule) := by
  intro items a rest h
  cases items with
  | nil => cases h
  | cons item items =>
    cases item with
    | error fault => cases h
    | ok token =>
      rw [readToken] at h
      cases read : rule token with
      | error fault => rw [read] at h; cases h
      | ok found =>
        rw [read] at h
        cases h
        exact ⟨[.ok token], rfl, fun more _ => by
          rw [List.singleton_append, readToken, read]
          rfl⟩

/-- One rule behind another. -/
theorem IsLocal.bind {next : α → List Item → Except SyntaxFault (Parsed β)} (hf : IsLocal f)
    (hn : ∀ a, IsLocal (next a)) : IsLocal fun items => f items >>= fun p => next p.1 p.2 := by
  intro items b rest h
  obtain ⟨⟨a, middle⟩, first, second⟩ := bind_eq_ok.1 h
  obtain ⟨front, rfl, read⟩ := hf items a middle first
  obtain ⟨front', rfl, read'⟩ := hn a middle b rest second
  refine ⟨front ++ front', (List.append_assoc ..).symm, fun more hm => ?_⟩
  rw [List.append_assoc]
  refine bind_eq_ok.2 ⟨(a, front' ++ more), read _ fun comma => ?_, read' more hm⟩
  cases front' with
  | nil => exact hm comma
  | cons item _ => exact comma

/-- A rule that is one thing behind a token and another where the token does not stand. -/
theorem IsLocal.of_first (token : Token) (hf : IsLocal f) (hg : IsLocal g)
    (empty : ∀ p, g [] ≠ .ok p) (first : ∀ rest, rule (.ok token :: rest) = f rest)
    (other : ∀ items, items.head? ≠ some (.ok token) → rule items = g items) : IsLocal rule := by
  intro items a rest h
  by_cases begins : items.head? = some (.ok token)
  · obtain ⟨tail, rfl⟩ := List.head?_eq_some_iff.1 begins
    rw [first] at h
    obtain ⟨front, rfl, read⟩ := hf tail a rest h
    exact ⟨.ok token :: front, rfl, fun more hm => (first _).trans (read more hm)⟩
  · rw [other items begins] at h
    obtain ⟨front, rfl, read⟩ := hg items a rest h
    refine ⟨front, rfl, fun more hm => ?_⟩
    cases front with
    | nil => exact absurd (read [] fun comma => by cases comma) (empty _)
    | cons item front => exact (other (item :: front ++ more) begins).trans (read more hm)

end

/-! ## The rules up to the condition -/

theorem isLocal_expect (token : Token) : IsLocal (expect token) :=
  isLocal_readToken _

theorem isLocal_column : IsLocal column :=
  isLocal_readToken _

theorem isLocal_tableName : IsLocal tableName :=
  isLocal_readToken _

theorem eq_cons_of_column {items rest : List Item} {name : String}
    (h : column items = .ok (name, rest)) : items = .ok (.ident name) :: rest := by
  cases items with
  | nil => cases h
  | cons item items =>
    cases item with
    | error fault => cases h
    | ok token =>
      cases token with
      | ident found => cases h; rfl
      | _ => cases h

theorem columns_ident (name : String) {more : List Item}
    (h : more.head? ≠ some (.ok .comma)) :
    columns (.ok (.ident name) :: more) = .ok ([name], more) := by
  rw [columns]
  · rfl
  · intro _ _ e
    cases e
    exact h rfl

theorem isLocal_columns : IsLocal columns := by
  intro items names rest h
  fun_induction columns items generalizing names with
  | case1 name items ih =>
    obtain ⟨⟨names', rest'⟩, read, e⟩ := bind_eq_ok.1 h
    cases e
    obtain ⟨front, rfl, same⟩ := ih names' read
    refine ⟨.ok (.ident name) :: .ok .comma :: front, rfl, fun more hm => ?_⟩
    exact bind_eq_ok.2 ⟨_, same more hm, rfl⟩
  | case2 items last =>
    obtain ⟨⟨name, rest'⟩, read, e⟩ := bind_eq_ok.1 h
    cases e
    obtain rfl := eq_cons_of_column read
    have ends : rest.head? ≠ some (.ok .comma) := fun comma => by
      obtain ⟨tail, rfl⟩ := List.head?_eq_some_iff.1 comma
      exact last name tail rfl
    exact ⟨[.ok (.ident name)], rfl, fun more hm => columns_ident name (mt hm ends)⟩

theorem isLocal_projection : IsLocal projection := by
  have names : IsLocal fun items => columns items >>= fun p => .ok (Projection.columns p.1, p.2) :=
    isLocal_columns.bind fun names => isLocal_return (Projection.columns names)
  apply IsLocal.of_first .asterisk (isLocal_return .all) names
  · intro p h
    cases h
  · exact fun rest => rfl
  · intro items other
    unfold projection
    split
    · exact absurd rfl other
    · rfl

theorem isLocal_value : IsLocal value := by
  apply IsLocal.of_first .minus (isLocal_readToken _) (isLocal_readToken _)
  · intro p h
    cases h
  · exact fun rest => rfl
  · intro items other
    unfold value
    split
    · exact absurd rfl other
    · rfl

theorem isLocal_selectHead : IsLocal selectHead := by
  show IsLocal fun items => projection items >>= fun p => expect (.keyword .from_) p.2 >>= fun q =>
    tableName q.2 >>= fun r => .ok (Statement.select p.1 r.1, r.2)
  exact isLocal_projection.bind fun columns => (isLocal_expect _).bind fun _ =>
    isLocal_tableName.bind fun tableRef => isLocal_return (Statement.select columns tableRef)

/-- The end of an assignment, which no other one may follow. -/
def endAssignment (make : Option Filter → Statement) (items : List Item) :
    Except SyntaxFault (Parsed (Option Filter → Statement)) :=
  match items with
  | .ok .comma :: _ => .error .severalAssignments
  | _ => .ok (make, items)

/-- A comma behind the value is the one item that is looked at and not read. -/
theorem isLocal_endAssignment (make : Option Filter → Statement) :
    IsLocal (endAssignment make) := by
  have ends {items : List Item} (h : items.head? ≠ some (.ok .comma)) :
      endAssignment make items = .ok (make, items) := by
    unfold endAssignment
    split
    · exact absurd rfl h
    · rfl
  intro items found rest h
  by_cases comma : items.head? = some (.ok .comma)
  · obtain ⟨tail, rfl⟩ := List.head?_eq_some_iff.1 comma
    cases h
  · cases (ends comma).symm.trans h
    exact ⟨[], rfl, fun more hm => ends (mt hm comma)⟩

theorem isLocal_updateHead : IsLocal updateHead := by
  show IsLocal fun items => tableName items >>= fun p => expect (.keyword .set) p.2 >>= fun q =>
    column q.2 >>= fun r => expect .equal r.2 >>= fun t => value t.2 >>= fun v =>
      endAssignment (Statement.update p.1 r.1 v.1) v.2
  exact isLocal_tableName.bind fun tableRef => (isLocal_expect _).bind fun _ =>
    isLocal_column.bind fun column => (isLocal_expect _).bind fun _ =>
      isLocal_value.bind fun value => isLocal_endAssignment (Statement.update tableRef column value)

theorem isLocal_deleteHead : IsLocal deleteHead := by
  have named : IsLocal fun items => tableName items >>= fun p => .ok (Statement.delete p.1, p.2) :=
    isLocal_tableName.bind fun tableRef => isLocal_return (Statement.delete tableRef)
  apply IsLocal.of_first (.keyword .from_) named named
  · intro p h
    cases h
  · exact fun rest => rfl
  · intro items other
    unfold deleteHead
    split
    · exact absurd rfl other
    · rfl

theorem isLocal_head (kind : StatementKind) : IsLocal (head kind) := by
  cases kind with
  | select => exact isLocal_selectHead
  | update => exact isLocal_updateHead
  | delete => exact isLocal_deleteHead

/-! ## The condition and the end -/

/-- So many semicolons. -/
def semicolons (n : Nat) : List Item :=
  List.replicate n (.ok .semicolon)

theorem atEnd_semicolons (n : Nat) : atEnd (semicolons n) =
    if n ≤ 1 then .ok () else .error (.unexpectedToken .semicolon) := by
  match n with
  | 0 => rfl
  | 1 => rfl
  | n + 2 => rfl

theorem splitClause_append_semicolons {clause : List Item} (h : .ok .semicolon ∉ clause) (n : Nat) :
    splitClause (clause ++ semicolons n) = (clause, semicolons (n - 1)) := by
  induction clause with
  | nil => cases n <;> rfl
  | cons item rest ih =>
    rw [List.mem_cons, not_or] at h
    rw [List.cons_append, splitClause, ih h.2]
    exact fun e => h.1 e.symm

/-- Items are cut before their first semicolon. -/
theorem exists_splitClause (items : List Item) : ∃ clause last,
    splitClause items = (clause, last) ∧ .ok .semicolon ∉ clause ∧
      (items = clause ∧ last = [] ∨ items = clause ++ .ok .semicolon :: last) := by
  fun_induction splitClause items with
  | case1 => exact ⟨[], [], rfl, List.not_mem_nil, .inl ⟨rfl, rfl⟩⟩
  | case2 rest => exact ⟨[], rest, rfl, List.not_mem_nil, .inr rfl⟩
  | case3 item rest other clause after e ih =>
    obtain ⟨clause', last, split, out, whole⟩ := ih
    cases e.symm.trans split
    refine ⟨item :: clause, after, rfl, ?_, ?_⟩
    · exact List.not_mem_cons_of_ne_of_not_mem (fun e => other e.symm) out
    · rcases whole with ⟨rfl, rfl⟩ | rfl
      · exact .inl ⟨rfl, rfl⟩
      · exact .inr rfl

/-- The most semicolons that may stand behind a statement: one that ends the clause, if it has a
condition, and one more. -/
def Statement.mostSemicolons (s : Statement) : Nat :=
  if s.filter.isSome then 2 else 1

theorem exists_semicolons_of_atEnd {items : List Item} (h : atEnd items = .ok ()) :
    ∃ n, n ≤ 1 ∧ items = semicolons n := by
  rcases atEnd_eq_ok_iff.1 h with rfl | rfl
  · exact ⟨0, Nat.zero_le 1, rfl⟩
  · exact ⟨1, Nat.le_refl 1, rfl⟩

/-- What is left for the condition and the end: the condition and semicolons. Any number of them
leaves the condition as it is, and the first one ends its clause. -/
theorem exists_tail_of_condition {items last : List Item} {filter : Option Filter}
    (h : condition items = .ok (filter, last)) (ended : atEnd last = .ok ()) :
    ∃ body n, items = body ++ semicolons n ∧ .ok .semicolon ∉ body ∧
      ∀ m, (body ++ semicolons m).head? ≠ some (.ok .comma) ∧
        condition (body ++ semicolons m) =
          .ok (filter, semicolons (m - if filter.isSome then 1 else 0)) := by
  obtain ⟨k, -, rfl⟩ := exists_semicolons_of_atEnd ended
  unfold condition at h
  split at h
  · next rest =>
    obtain ⟨found, made, e⟩ := bind_eq_ok.1 h
    obtain ⟨clause, last, split, out, whole⟩ := exists_splitClause rest
    rw [split] at made e
    cases e
    obtain ⟨n, rfl⟩ : ∃ n, rest = clause ++ semicolons n := by
      rcases whole with ⟨rfl, -⟩ | rfl
      · exact ⟨0, (List.append_nil _).symm⟩
      · exact ⟨k + 1, rfl⟩
    refine ⟨.ok (.keyword .where_) :: clause, n, rfl, by simp [out], fun m => ⟨by simp, ?_⟩⟩
    rw [List.cons_append, condition, splitClause_append_semicolons out]
    exact bind_eq_ok.2 ⟨found, made, rfl⟩
  · cases h
    refine ⟨[], k, rfl, List.not_mem_nil, fun m => ⟨?_, ?_⟩⟩
    · cases m <;> simp [semicolons, List.replicate_succ]
    · cases m <;> rfl

/-! ## The semicolons of a statement -/

section

variable {query : String} {s : Statement}

theorem statement_of_condition {kind : StatementKind} {items rest last : List Item}
    {make : Option Filter → Statement} {filter : Option Filter}
    (read : head kind items = .ok (make, rest)) (hc : condition rest = .ok (filter, last)) :
    statement kind items =
      (atEnd last).mapError (.invalidSyntax kind) >>= fun _ => .ok (make filter) := by
  rw [statement, read]
  show condition rest >>= _ = _
  rw [hc]
  rfl

/-- In a statement all semicolons stand at its end. There are two at most if it has a condition, and
one at most if it has none; any such number of them leaves the statement as it is, and with more the
query is refused. -/
theorem semicolons_of_parse (h : parse query = .ok s) :
    ∃ body n, lex query = body ++ semicolons n ∧ .ok .semicolon ∉ body ∧ n ≤ s.mostSemicolons ∧
      ∀ other m, lex other = body ++ semicolons m → parse other =
        if m ≤ s.mostSemicolons then .ok s
        else .error (.invalidSyntax s.kind (.unexpectedToken .semicolon)) := by
  obtain ⟨k, kind, items, begins, announces, made⟩ := exists_statement_of_parse h
  obtain ⟨make, rest, filter, last, read, hc, ended, rfl⟩ := statement_eq_ok_iff.1 made
  obtain ⟨tail, n, rfl, out, again⟩ := exists_tail_of_condition hc ended
  obtain ⟨⟨tokens, rfl, plain⟩, waits⟩ := heads_of_head read
  obtain ⟨front, same, read_again⟩ := isLocal_head kind _ _ _ read
  cases List.append_cancel_right same
  have parses (other : String) (m : Nat)
      (e : lex other = (.ok (.keyword k) :: tokens.map .ok ++ tail) ++ semicolons m) :
      parse other = if m ≤ (make filter).mostSemicolons then .ok (make filter)
        else .error (.invalidSyntax (make filter).kind (.unexpectedToken .semicolon)) := by
    rw [List.append_assoc] at e
    obtain ⟨no_comma, hc⟩ := again m
    have announced : kindOf? other = some kind := by rw [kindOf?, e]; exact announces
    rw [parse_of_kindOf? announced, e, List.cons_append, List.tail_cons,
      statement_of_condition (read_again _ fun comma => absurd comma no_comma) hc,
      atEnd_semicolons, Statement.mostSemicolons, (waits filter).1, (waits filter).2]
    cases filter with
    | none => by_cases few : m ≤ 1 <;> simp [few] <;> rfl
    | some filter => by_cases few : m ≤ 2 <;> simp [few] <;> rfl
  have whole : lex query = (.ok (.keyword k) :: tokens.map .ok ++ tail) ++ semicolons n := by
    rw [begins, List.cons_append, List.cons_append, List.append_assoc]
  refine ⟨_, n, whole, ?_, ?_, parses⟩
  · have heads : .semicolon ∉ tokens := fun ht => (plain _ ht).2 rfl
    simp [out, heads]
  · by_contra many
    have refused := parses query n whole
    rw [if_neg many, h] at refused
    cases refused

theorem semicolons_of_parse_two : ∃ s, parse "DELETE FROM t WHERE a = 1;;" = .ok s ∧
    ∃ body n, lex "DELETE FROM t WHERE a = 1;;" = body ++ semicolons n ∧
      .ok .semicolon ∉ body ∧ n ≤ s.mostSemicolons ∧
      ∀ other m, lex other = body ++ semicolons m → parse other =
        if m ≤ s.mostSemicolons then .ok s
        else .error (.invalidSyntax s.kind (.unexpectedToken .semicolon)) := by
  have h : parse "DELETE FROM t WHERE a = 1;;" =
      .ok (.delete "t" (some (.predicate (.compare "a" (.known .equal) "1")))) := by
    decide +kernel
  exact ⟨_, h, semicolons_of_parse h⟩

/-- More than one semicolon may stand behind a statement. -/
theorem not_at_most_one_semicolon : ¬ ∀ query s, parse query = .ok s →
    ∃ body, .ok .semicolon ∉ body ∧ (lex query = body ∨ lex query = body ++ [.ok .semicolon]) := by
  intro all
  have h : parse "DELETE FROM t WHERE a = 1;;" =
      .ok (.delete "t" (some (.predicate (.compare "a" (.known .equal) "1")))) := by
    decide +kernel
  have read : lex "DELETE FROM t WHERE a = 1;;" =
      [.ok (.keyword .delete), .ok (.keyword .from_), .ok (.ident "t"), .ok (.keyword .where_),
        .ok (.ident "a"), .ok .equal, .ok (.number "1"), .ok .semicolon] ++ [.ok .semicolon] := by
    decide +kernel
  obtain ⟨body, out, rfl | ended⟩ := all _ _ h
  · rw [read] at out
    exact out (by simp)
  · rw [← List.append_cancel_right (read.symm.trans ended)] at out
    exact out (by simp)

end

end TableQuery.Query
