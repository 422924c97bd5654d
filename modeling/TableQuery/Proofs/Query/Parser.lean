import TableQuery.Proofs.Query.Outcome
import TableQuery.Query.Parser

/-!
# What the text of a statement holds

A query is a statement only if its items can be told apart in this way: tokens up to the condition,
none of which is WHERE or a semicolon, then nothing or WHERE and a clause up to a semicolon or to
the end, and nothing behind that but a semicolon. So a statement has a condition exactly if its text
holds WHERE, and the condition is the one that the clause makes.

* `statement_eq_ok_iff`: the three parts of a statement;
* `Heads`: the tokens before the condition, by one lemma for each rule that reads them;
* `clauseOf`: the items of a query between WHERE and a semicolon;
* `filter_of_parse`: the condition of a statement.
-/

namespace TableQuery.Query

/-! ## Tokens before the condition -/

/-- The items are tokens up to what is left of them, and none of these is WHERE or a semicolon. -/
def Heads (items rest : List Item) : Prop :=
  ∃ front : List Token, items = front.map .ok ++ rest ∧
    ∀ token ∈ front, token ≠ .keyword .where_ ∧ token ≠ .semicolon

section

variable {items middle rest : List Item}

theorem Heads.cons {token : Token} (h : token ≠ .keyword .where_ ∧ token ≠ .semicolon)
    (hr : Heads items rest) : Heads (.ok token :: items) rest := by
  obtain ⟨front, rfl, tokens⟩ := hr
  exact ⟨token :: front, rfl, List.forall_mem_cons.2 ⟨h, tokens⟩⟩

theorem Heads.trans (h : Heads items middle) (k : Heads middle rest) : Heads items rest := by
  obtain ⟨front, rfl, tokens⟩ := h
  obtain ⟨others, rfl, tokens'⟩ := k
  refine ⟨front ++ others, ?_, fun token ht => ?_⟩
  · rw [List.map_append, List.append_assoc]
  · exact (List.mem_append.1 ht).elim (tokens token) (tokens' token)

/-- A rule that reads no WHERE and no semicolon. -/
theorem heads_of_readToken {α : Type} {rule : Token → Except SyntaxFault α} {a : α}
    (hr : ∀ token a, rule token = .ok a → token ≠ .keyword .where_ ∧ token ≠ .semicolon)
    (h : readToken rule items = .ok (a, rest)) : Heads items rest := by
  cases items with
  | nil => cases h
  | cons item items =>
    cases item with
    | error fault => cases h
    | ok token =>
      rw [readToken] at h
      cases read : rule token with
      | error fault => rw [read] at h; cases h
      | ok found =>
        rw [read] at h
        cases h
        exact .cons (hr token _ read) ⟨[], rfl, nofun⟩

theorem heads_of_expect (token : Token) (ht : token ≠ .keyword .where_ ∧ token ≠ .semicolon)
    {u : Unit} (h : expect token items = .ok (u, rest)) : Heads items rest := by
  refine heads_of_readToken (fun found _ read => ?_) h
  split at read
  · next e => exact e ▸ ht
  · cases read

theorem heads_of_column {name : String} (h : column items = .ok (name, rest)) :
    Heads items rest := by
  refine heads_of_readToken (fun token _ read => ?_) h
  cases token with
  | ident name => exact ⟨nofun, nofun⟩
  | _ => cases read

theorem heads_of_tableName {name : String} (h : tableName items = .ok (name, rest)) :
    Heads items rest := by
  refine heads_of_readToken (fun token _ read => ?_) h
  cases token with
  | ident name => exact ⟨nofun, nofun⟩
  | string text => exact ⟨nofun, nofun⟩
  | _ => cases read

theorem heads_of_columns {names : List String} (h : columns items = .ok (names, rest)) :
    Heads items rest := by
  fun_induction columns items generalizing names with
  | case1 name items ih =>
    obtain ⟨⟨names', rest'⟩, read, e⟩ := bind_eq_ok.1 h
    cases e
    exact .cons ⟨nofun, nofun⟩ (.cons ⟨nofun, nofun⟩ (ih read))
  | case2 items =>
    obtain ⟨⟨name, rest'⟩, read, e⟩ := bind_eq_ok.1 h
    cases e
    exact heads_of_column read

theorem heads_of_projection {p : Projection} (h : projection items = .ok (p, rest)) :
    Heads items rest := by
  unfold projection at h
  split at h
  · cases h
    exact .cons ⟨nofun, nofun⟩ ⟨[], rfl, nofun⟩
  · obtain ⟨⟨names, rest'⟩, read, e⟩ := bind_eq_ok.1 h
    cases e
    exact heads_of_columns read

theorem heads_of_value {text : String} (h : value items = .ok (text, rest)) :
    Heads items rest := by
  unfold value at h
  split at h
  · refine .cons ⟨nofun, nofun⟩ (heads_of_readToken (fun token _ read => ?_) h)
    cases token with
    | number text => exact ⟨nofun, nofun⟩
    | _ => cases read
  · refine heads_of_readToken (fun token _ read => ?_) h
    cases token with
    | string text => exact ⟨nofun, nofun⟩
    | number text => exact ⟨nofun, nofun⟩
    | _ => cases read

/-- What is read before the condition: tokens, and a statement of the kind that waits for its
condition. -/
theorem heads_of_head {kind : StatementKind} {make : Option Filter → Statement}
    (h : head kind items = .ok (make, rest)) :
    Heads items rest ∧ ∀ filter, (make filter).filter = filter ∧ (make filter).kind = kind := by
  cases kind with
  | select =>
    obtain ⟨⟨p, items₁⟩, read, h⟩ := bind_eq_ok.1 h
    obtain ⟨⟨_, items₂⟩, from_, h⟩ := bind_eq_ok.1 h
    obtain ⟨⟨tableRef, items₃⟩, name, h⟩ := bind_eq_ok.1 h
    cases h
    exact ⟨(heads_of_projection read).trans
      ((heads_of_expect (.keyword .from_) ⟨nofun, nofun⟩ from_).trans (heads_of_tableName name)),
      fun _ => ⟨rfl, rfl⟩⟩
  | update =>
    obtain ⟨⟨tableRef, items₁⟩, name, h⟩ := bind_eq_ok.1 h
    obtain ⟨⟨_, items₂⟩, set, h⟩ := bind_eq_ok.1 h
    obtain ⟨⟨target, items₃⟩, read, h⟩ := bind_eq_ok.1 h
    obtain ⟨⟨_, items₄⟩, equal, h⟩ := bind_eq_ok.1 h
    obtain ⟨⟨text, items₅⟩, literal, h⟩ := bind_eq_ok.1 h
    dsimp only at h
    split at h
    · cases h
    · cases h
      exact ⟨(heads_of_tableName name).trans
        ((heads_of_expect (.keyword .set) ⟨nofun, nofun⟩ set).trans ((heads_of_column read).trans
          ((heads_of_expect .equal ⟨nofun, nofun⟩ equal).trans (heads_of_value literal)))),
        fun _ => ⟨rfl, rfl⟩⟩
  | delete =>
    obtain ⟨⟨tableRef, items₁⟩, name, h⟩ := bind_eq_ok.1 h
    cases h
    refine ⟨?_, fun _ => ⟨rfl, rfl⟩⟩
    split at name
    · exact .cons ⟨nofun, nofun⟩ (heads_of_tableName name)
    · exact heads_of_tableName name

end

/-! ## The three parts of a statement -/

theorem statement_eq_ok_iff {kind : StatementKind} {items : List Item} {s : Statement} :
    statement kind items = .ok s ↔ ∃ make rest filter last, head kind items = .ok (make, rest) ∧
      condition rest = .ok (filter, last) ∧ atEnd last = .ok () ∧ make filter = s := by
  constructor
  · intro h
    obtain ⟨⟨make, rest⟩, hh, h⟩ := bind_eq_ok.1 h
    obtain ⟨⟨filter, last⟩, hc, h⟩ := bind_eq_ok.1 h
    obtain ⟨_, he, h⟩ := bind_eq_ok.1 h
    exact ⟨make, rest, filter, last, mapError_eq_ok.1 hh, hc, mapError_eq_ok.1 he, Except.ok.inj h⟩
  · rintro ⟨make, rest, filter, last, hh, hc, he, rfl⟩
    exact bind_eq_ok.2 ⟨(make, rest), mapError_eq_ok.2 hh,
      bind_eq_ok.2 ⟨(filter, last), hc, bind_eq_ok.2 ⟨(), mapError_eq_ok.2 he, rfl⟩⟩⟩

/-- Behind a statement there is nothing but a semicolon. -/
theorem atEnd_eq_ok_iff {items : List Item} :
    atEnd items = .ok () ↔ items = [] ∨ items = [.ok .semicolon] := by
  have ended : ∀ rest : List Item, atEnd.ended rest = .ok () ↔ rest = [] := by
    intro rest
    cases rest with
    | nil => exact ⟨fun _ => rfl, fun _ => rfl⟩
    | cons item rest => cases item <;> exact ⟨nofun, nofun⟩
  unfold atEnd
  split
  · rw [ended]
    simp
  · next other =>
    rw [ended]
    exact ⟨.inl, fun h => h.resolve_right fun e => other [] e⟩

/-! ## The clause -/

/-- Is the item this token? -/
def isToken (token : Token) : Item → Bool
  | .ok found => found = token
  | .error _ => false

/-- The items of a query between its first WHERE and the first semicolon behind it. -/
def clauseOf (query : String) : List Item :=
  ((lex query).dropWhile (!isToken (.keyword .where_) ·)).tail.takeWhile (!isToken .semicolon ·)

/-- The clause of a query is a part of its items. -/
theorem clauseOf_sublist (query : String) : (clauseOf query).Sublist (lex query) :=
  (List.takeWhile_sublist _).trans ((List.tail_sublist _).trans (List.dropWhile_sublist _))

theorem splitClause_eq (items : List Item) : splitClause items =
    (items.takeWhile (!isToken .semicolon ·), (items.dropWhile (!isToken .semicolon ·)).tail) := by
  fun_induction splitClause items with
  | case1 => rfl
  | case2 rest => rfl
  | case3 item rest other clause after e ih =>
    have inside : isToken .semicolon item = false := by
      cases item with
      | error fault => rfl
      | ok token => exact decide_eq_false fun eq => other (eq ▸ rfl)
    rw [e] at ih
    rw [List.takeWhile_cons, List.dropWhile_cons, inside]
    cases ih
    rfl

theorem isToken_eq_true_iff {token : Token} {item : Item} :
    isToken token item = true ↔ item = .ok token := by
  cases item <;> simp [isToken]

theorem clauseOf_of_not_mem {query : String} {front rest : List Item}
    (hf : .ok (.keyword .where_) ∉ front)
    (h : lex query = front ++ .ok (.keyword .where_) :: rest) :
    clauseOf query = (splitClause rest).1 := by
  have outside : ∀ item ∈ front, (!isToken (.keyword .where_) item) = true := by
    intro item hi
    rw [Bool.not_eq_true', Bool.eq_false_iff, Ne, isToken_eq_true_iff]
    exact fun e => hf (e ▸ hi)
  rw [clauseOf, h, List.dropWhile_append_of_pos outside, splitClause_eq]
  rfl

theorem clauseOf_eq {query : String} {front : List Token} {rest : List Item}
    (hf : ∀ token ∈ front, token ≠ .keyword .where_ ∧ token ≠ .semicolon)
    (h : lex query = front.map .ok ++ .ok (.keyword .where_) :: rest) :
    clauseOf query = (splitClause rest).1 := by
  refine clauseOf_of_not_mem (fun hm => ?_) h
  obtain ⟨token, ht, e⟩ := List.mem_map.1 hm
  exact (hf token ht).1 (Except.ok.inj e)

theorem exists_keyword_of_announcedKind? {items : List Item} {kind : StatementKind}
    (h : announcedKind? items = some kind) :
    ∃ k rest, items = .ok (.keyword k) :: rest ∧ k.kind? = some kind := by
  unfold announcedKind? at h
  split at h
  · next k rest => exact ⟨k, rest, rfl, h⟩
  · cases h

/-- A keyword that begins a statement is not WHERE. -/
theorem Heads.cons_keyword {k : Keyword} {kind : StatementKind} {items rest : List Item}
    (announces : k.kind? = some kind) (h : Heads items rest) :
    Heads (.ok (.keyword k) :: items) rest := by
  refine h.cons ⟨?_, nofun⟩
  rintro ⟨⟩
  cases announces

theorem exists_statement_of_parse {query : String} {s : Statement} (h : parse query = .ok s) :
    ∃ k kind items, lex query = .ok (.keyword k) :: items ∧ k.kind? = some kind ∧
      statement kind items = .ok s := by
  unfold parse at h
  split at h
  · next kind announced =>
    obtain ⟨k, items, begins, announces⟩ := exists_keyword_of_announcedKind? announced
    rw [begins] at h
    exact ⟨k, kind, items, begins, announces, h⟩
  · cases h

/-- The tokens before the condition of a statement, from its first word on. -/
theorem exists_heads_of_parse {query : String} {s : Statement} (h : parse query = .ok s) :
    ∃ rest filter last, Heads (lex query) rest ∧ condition rest = .ok (filter, last) ∧
      atEnd last = .ok () ∧ s.filter = filter := by
  obtain ⟨k, kind, items, begins, announces, made⟩ := exists_statement_of_parse h
  obtain ⟨make, rest, filter, last, read, hc, ended, rfl⟩ := statement_eq_ok_iff.1 made
  obtain ⟨heads, waits⟩ := heads_of_head read
  rw [begins]
  exact ⟨rest, filter, last, heads.cons_keyword announces, hc, ended, (waits filter).1⟩

/-- A statement has a condition if its text holds WHERE: the one that the clause makes. -/
theorem filter_of_parse {query : String} {s : Statement} (h : parse query = .ok s) :
    (∃ filter, .ok (.keyword .where_) ∈ lex query ∧
      Filter.ofItems (clauseOf query) = .ok filter ∧ s.filter = some filter) ∨
    (.ok (.keyword .where_) ∉ lex query ∧ s.filter = none) := by
  obtain ⟨rest, filter, last, ⟨front, items, outside⟩, hc, ended, e⟩ := exists_heads_of_parse h
  rw [e]
  unfold condition at hc
  split at hc
  · next clause =>
    obtain ⟨found, made, e⟩ := bind_eq_ok.1 hc
    cases e
    refine .inl ⟨found, ?_, ?_, rfl⟩
    · rw [items]
      exact List.mem_append_right _ List.mem_cons_self
    · rw [clauseOf_eq outside items, made]
  · cases hc
    refine .inr ⟨fun hm => ?_, rfl⟩
    rw [items] at hm
    rcases List.mem_append.1 hm with hm | hm
    · obtain ⟨token, ht, e⟩ := List.mem_map.1 hm
      exact (outside token ht).1 (Except.ok.inj e)
    · rcases atEnd_eq_ok_iff.1 ended with rfl | rfl
      · cases hm
      · cases List.mem_singleton.1 hm

end TableQuery.Query
