import Mathlib.Data.List.Nodup
import Mathlib.Data.List.TakeWhile
import TableQuery.Proofs.Query.Parser
import TableQuery.Query.Condition

/-!
# Lists of values

A clause is a list of values if it begins with a column, IN and an opening parenthesis and ends with
a closing one. What stands between is not looked at but for its quoted values: the list ends where
the clause ends and not where its own parenthesis does. So a clause that goes on behind a list is
ignored if it ends otherwise, and is one longer list if it ends with a parenthesis again.

* `listTokens`: the tokens of a list;
* `ofItems_eq_among_iff`: the clauses that are lists;
* `ofItems_of_list_append`: a clause that goes on behind a list and does not end with a parenthesis;
* `filter_among_of_parse`: the lists among the conditions of statements.
-/

namespace TableQuery.Query

/-- The tokens of a list: IN and parentheses, whatever stands between them. -/
def listTokens (column : String) (inner : List Token) : List Token :=
  .ident column :: .keyword .in_ :: .openParen :: (inner ++ [.closeParen])

theorem listTokens_injective {column : String} {inner inner' : List Token}
    (h : listTokens column inner = listTokens column inner') : inner = inner' := by
  simpa [listTokens] using h

/-! ## Items without a fault -/

section

variable {clause : List Item}

theorem tokensOf_map_ok (tokens : List Token) : tokensOf (tokens.map .ok) = tokens := by
  rw [tokensOf, List.filterMap_map]
  exact List.filterMap_some

theorem firstFault?_map_ok (tokens : List Token) : firstFault? (tokens.map .ok) = none :=
  List.findSome?_eq_none_iff.2 fun item hi => by
    obtain ⟨token, -, rfl⟩ := List.mem_map.1 hi
    rfl

/-- Items without a fault are a clause of their tokens. -/
theorem ofItems_map_ok (tokens : List Token) :
    Filter.ofItems (tokens.map .ok) = Filter.ofTokens tokens := by
  rw [Filter.ofItems, firstFault?_map_ok, tokensOf_map_ok]

theorem map_ok_of_firstFault? (h : firstFault? clause = none) :
    clause = (tokensOf clause).map .ok := by
  induction clause with
  | nil => rfl
  | cons item rest ih =>
    cases item with
    | error fault => cases h
    | ok token => exact congrArg (.ok token :: ·) (ih h)

/-- A clause with a fault is no condition, so the items of a condition are tokens. -/
theorem ofItems_eq_predicate {p : Predicate} (h : Filter.ofItems clause = .ok (.predicate p)) :
    ∃ tokens, clause = tokens.map .ok ∧ Filter.ofTokens tokens = .ok (.predicate p) := by
  unfold Filter.ofItems at h
  split at h
  · cases h
  · next fault => exact ⟨tokensOf clause, map_ok_of_firstFault? fault, h⟩

end

/-! ## Clauses that are lists -/

section

variable {column : String} {values : List String}

theorem parenthesised?_eq_some_iff {tokens inner : List Token} :
    parenthesised? tokens = some inner ↔ tokens = .openParen :: (inner ++ [.closeParen]) := by
  constructor
  · intro h
    unfold parenthesised? at h
    split at h
    · next rest =>
      split at h
      · next last =>
        obtain ⟨front, rfl⟩ := List.getLast?_eq_some_iff.1 last
        rw [List.dropLast_concat] at h
        rw [Option.some.inj h]
      · cases h
    · cases h
  · rintro rfl
    rw [parenthesised?, List.getLast?_concat, if_pos rfl, List.dropLast_concat]

/-- No condition but a list in parentheses is a list. -/
theorem conditionOn_eq_among_iff {clause name : String} {tokens : List Token} :
    conditionOn clause name tokens = .ok (.predicate (.among column values)) ↔
      name = column ∧ values ≠ [] ∧ ∃ inner,
        tokens = .keyword .in_ :: .openParen :: (inner ++ [.closeParen]) ∧
          quotedValues inner = values := by
  constructor
  · intro h
    unfold conditionOn at h
    split at h
    · cases h
    · cases h
    · split at h
      · cases h
      · next inner list =>
        split at h
        · cases h
        · next ne_nil =>
          cases h
          exact ⟨rfl, fun e => ne_nil e, inner, by rw [parenthesised?_eq_some_iff.1 list], rfl⟩
    · split at h
      · cases h
      · split at h <;> cases h
    · cases h
  · rintro ⟨rfl, ne_nil, inner, rfl, rfl⟩
    rw [conditionOn, parenthesised?_eq_some_iff.2 rfl]
    dsimp only
    split
    · next e => exact absurd e ne_nil
    · rfl

theorem ofTokens_eq_among_iff {tokens : List Token} :
    Filter.ofTokens tokens = .ok (.predicate (.among column values)) ↔
      values ≠ [] ∧ ∃ inner, tokens = listTokens column inner ∧ quotedValues inner = values := by
  constructor
  · intro h
    unfold Filter.ofTokens at h
    split at h
    · cases h
    · obtain ⟨rfl, ne_nil, inner, rfl, list⟩ := conditionOn_eq_among_iff.1 h
      exact ⟨ne_nil, inner, rfl, list⟩
    · cases h
  · rintro ⟨ne_nil, inner, rfl, list⟩
    exact conditionOn_eq_among_iff.2 ⟨rfl, ne_nil, inner, rfl, list⟩

/-- The clauses that are lists. -/
theorem ofItems_eq_among_iff {clause : List Item} :
    Filter.ofItems clause = .ok (.predicate (.among column values)) ↔
      values ≠ [] ∧ ∃ inner, clause = (listTokens column inner).map .ok ∧
        quotedValues inner = values := by
  constructor
  · intro h
    obtain ⟨tokens, rfl, made⟩ := ofItems_eq_predicate h
    obtain ⟨ne_nil, inner, rfl, list⟩ := ofTokens_eq_among_iff.1 made
    exact ⟨ne_nil, inner, rfl, list⟩
  · rintro ⟨ne_nil, inner, rfl, list⟩
    rw [ofItems_map_ok]
    exact ofTokens_eq_among_iff.2 ⟨ne_nil, inner, rfl, list⟩

/-! ## Clauses that go on behind a list -/

theorem ofTokens_of_list_append {inner rest : List Token} (ne_nil : rest ≠ [])
    (last : rest.getLast? ≠ some .closeParen) :
    Filter.ofTokens (listTokens column inner ++ rest) =
      .ok (.invalid (clauseText (listTokens column inner ++ rest)) noList) := by
  have none : parenthesised? (.openParen :: (inner ++ [.closeParen] ++ rest)) = none := by
    refine Option.eq_none_iff_forall_ne_some.2 fun found h => last ?_
    have ends := congrArg List.getLast? (List.cons.inj (parenthesised?_eq_some_iff.1 h)).2
    rw [List.getLast?_concat, List.getLast?_append, List.getLast?_eq_some_getLast ne_nil,
      Option.some_or] at ends
    rw [List.getLast?_eq_some_getLast ne_nil, ends]
  rw [listTokens, List.cons_append, List.cons_append, List.cons_append, Filter.ofTokens,
    conditionOn, none]

/-- A clause that goes on behind a list and does not end with a parenthesis is no condition. -/
theorem ofItems_of_list_append (column : String) (inner : List Token) {rest : List Item}
    (ne_nil : rest ≠ []) (last : rest.getLast? ≠ some (.ok .closeParen)) :
    ∃ clause reason, Filter.ofItems ((listTokens column inner).map .ok ++ rest) =
      .ok (.invalid clause reason) := by
  cases fault : firstFault? rest with
  | some f =>
    have first : firstFault? ((listTokens column inner).map .ok ++ rest) = some f := by
      rw [firstFault?, List.findSome?_append]
      exact (congrArg (Option.or · _) (firstFault?_map_ok _)).trans fault
    exact ⟨_, f.message, by rw [Filter.ofItems, first]⟩
  | none =>
    have tokens := map_ok_of_firstFault? fault
    rw [tokens] at ne_nil last ⊢
    rw [← List.map_append, ofItems_map_ok]
    refine ⟨_, noList, ofTokens_of_list_append (fun e => ne_nil ?_) fun e => last ?_⟩
    · rw [e, List.map_nil]
    · rw [List.getLast?_map, e, Option.map_some]

/-- A clause that could not be read is about no row, and is remarked on. -/
theorem matchingRows_invalid [PatternLibrary] (scope : Scope) (clause reason : String)
    (rows : List Row) : matchingRows scope (some (.invalid clause reason)) rows =
      ⟨[.clauseIgnored clause reason], .ok []⟩ := by
  have none : positions (fun _ => false) rows = [] :=
    List.filter_eq_nil_iff.2 fun i _ => by simp
  rw [← none]
  rfl

/-! ## Lists in queries -/

theorem mem_of_clauseOf_ne_nil {query : String} (h : clauseOf query ≠ []) :
    .ok (.keyword .where_) ∈ lex query := by
  refine Classical.byContradiction fun out => h ?_
  have none : ∀ item ∈ lex query, (!isToken (.keyword .where_) item) = true := by
    intro item hi
    cases item with
    | error fault => rfl
    | ok token =>
      have other : token ≠ .keyword .where_ := fun e => out (e ▸ hi)
      rw [isToken, decide_eq_false other]
      rfl
  rw [clauseOf, List.dropWhile_eq_nil_iff.2 none]
  rfl

/-- The condition of a statement with a clause is the one that the clause makes. -/
theorem filter_of_clauseOf {query : String} {s : Statement} (h : parse query = .ok s)
    (hc : clauseOf query ≠ []) :
    ∃ filter, Filter.ofItems (clauseOf query) = .ok filter ∧ s.filter = some filter := by
  rcases filter_of_parse h with ⟨filter, -, made, e⟩ | ⟨none, -⟩
  · exact ⟨filter, made, e⟩
  · exact absurd (mem_of_clauseOf_ne_nil hc) none

/-- The condition of a statement is a list exactly if its clause is the tokens of one: a column, IN
and an opening parenthesis, anything, and a closing parenthesis. What goes on behind a list and ends
in another way is ignored, with a remark. -/
theorem filter_among_of_parse [PatternLibrary] {query : String} {s : Statement}
    (h : parse query = .ok s) (column : String) :
    (∀ values, s.filter = some (.predicate (.among column values)) ↔
      values ≠ [] ∧ ∃ inner, clauseOf query = (listTokens column inner).map .ok ∧
        quotedValues inner = values) ∧
    ∀ inner rest, clauseOf query = (listTokens column inner).map .ok ++ rest → rest ≠ [] →
      rest.getLast? ≠ some (.ok .closeParen) →
        ∃ clause reason, s.filter = some (.invalid clause reason) ∧
          ∀ scope rows, matchingRows scope s.filter rows =
            ⟨[.clauseIgnored clause reason], .ok []⟩ := by
  refine ⟨fun values => ⟨fun list => ?_, fun ⟨ne_nil, inner, tokens, list⟩ => ?_⟩,
    fun inner rest tokens ne_nil last => ?_⟩
  · rcases filter_of_parse h with ⟨filter, -, made, e⟩ | ⟨-, e⟩
    · rw [e] at list
      rw [Option.some.inj list] at made
      exact ofItems_eq_among_iff.1 made
    · rw [e] at list
      cases list
  · have clause := ofItems_eq_among_iff.2 ⟨ne_nil, inner, tokens, list⟩
    obtain ⟨filter, made, e⟩ := filter_of_clauseOf h (by rw [tokens]; exact nofun)
    rw [e, Except.ok.inj (made.symm.trans clause)]
  · obtain ⟨clause, reason, ignored⟩ := ofItems_of_list_append column inner ne_nil last
    obtain ⟨filter, made, e⟩ := filter_of_clauseOf h (by rw [tokens]; exact nofun)
    rw [tokens, ignored] at made
    cases made
    exact ⟨clause, reason, e, fun scope rows => by rw [e, matchingRows_invalid]⟩

theorem filter_among_of_parse_or :
    parse "DELETE FROM t WHERE a IN ('x') OR 1" =
        .ok (.delete "t" (some (.invalid "a IN ('x') OR 1" noList))) ∧
      ∀ scope rows, matchingRows scope (some (.invalid "a IN ('x') OR 1" noList)) rows =
        ⟨[.clauseIgnored "a IN ('x') OR 1" noList], .ok []⟩ := by
  have read : parse "DELETE FROM t WHERE a IN ('x') OR 1" =
      .ok (.delete "t" (some (.invalid "a IN ('x') OR 1" noList))) := by
    decide +kernel
  have clause : clauseOf "DELETE FROM t WHERE a IN ('x') OR 1" =
      (listTokens "a" [.string "x"]).map .ok ++ [.ok (.ident "OR"), .ok (.number "1")] := by
    decide +kernel
  obtain ⟨_, _, ⟨⟩, matched⟩ := (filter_among_of_parse read "a").2 _ _ clause
    (List.cons_ne_nil _ _) (by decide)
  exact ⟨read, matched⟩

/-- Two lists in one clause are read as one list, of the values of both. -/
theorem filter_among_of_two_lists : ¬ ∀ query s column values, parse query = .ok s →
    s.filter = some (.predicate (.among column values)) →
      ∃ inner, clauseOf query = (listTokens column inner).map .ok ∧
        .openParen ∉ inner ∧ .closeParen ∉ inner ∧ quotedValues inner = values := by
  intro all
  have read : parse "DELETE FROM t WHERE a IN ('x') OR b IN ('y')" =
      .ok (.delete "t" (some (.predicate (.among "a" ["x", "y"])))) := by
    decide +kernel
  have clause : clauseOf "DELETE FROM t WHERE a IN ('x') OR b IN ('y')" =
      (listTokens "a" [.string "x", .closeParen, .ident "OR", .ident "b", .keyword .in_,
        .openParen, .string "y"]).map .ok := by
    decide +kernel
  obtain ⟨inner, list, -, closed, -⟩ := all _ _ "a" ["x", "y"] read rfl
  have tokens := congrArg tokensOf (clause.symm.trans list)
  rw [tokensOf_map_ok, tokensOf_map_ok] at tokens
  exact closed (listTokens_injective tokens ▸ by decide)

end

end TableQuery.Query
