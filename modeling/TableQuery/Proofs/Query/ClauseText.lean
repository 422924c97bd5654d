import TableQuery.Proofs.Query.Cut
import TableQuery.Proofs.Query.Ignored
import TableQuery.Proofs.Query.Kind

/-!
# Clauses that are shown and read

A remark or an error shows a clause as text, with a space between its tokens but at parentheses,
before commas and behind a minus. Nothing is lost by this: the text is cut into the same tokens, so
a query whose clause is replaced by the text it is shown as is read as before.

* `items_chars_append`: a token that is written with a text close behind it;
* `lex_clauseText`: the text of a clause is cut into its tokens;
* `CutAtClause`: the parts of a query before, in and behind its clause;
* `clause_text_reads_back`: the clause of a query can be replaced by its text.
-/

namespace TableQuery.Query

open Text (isBlank)

/-! ## Tokens with a text close behind them -/

/-- May the text stand close behind the token? -/
def Token.MayTouch (token : Token) (text : List Char) : Prop :=
  token = .openParen ∨ token = .minus ∨ ∀ b ∈ text.head?, Separates b

theorem spells_chars (token : Token) : token.Spells token.chars := by
  cases token with
  | keyword k =>
    show k.word.toList.map Char.toUpper = k.word.toList
    cases k <;> decide
  | _ => rfl

/-- A token is cut off the text that stands close behind it. -/
theorem items_chars_append {token : Token} (ht : token.IsLexeme) {text : List Char}
    (h : token.MayTouch text) : items (token.chars ++ text) = .ok token :: items text := by
  have alone := items_of_spells ht (spells_chars token)
  rcases h with rfl | rfl | separates
  · exact items_cons rfl
  · exact items_cons rfl
  · cases text with
    | nil => rw [List.append_nil, alone, items_nil]
    | cons b rest =>
      have closed : .error .unclosedQuote ∉ items token.chars := by rw [alone]; simp
      rw [items_append_cons (separates b rfl) closed, alone]
      rfl

/-- What follows a token in the text of a clause may stand close behind it. -/
theorem mayTouch_clauseChars (token : Token) (rest : List Token) :
    token.MayTouch (clauseChars (some token) rest) := by
  cases rest with
  | nil => exact .inr (.inr nofun)
  | cons next rest =>
    rw [clauseChars]
    by_cases glued : isGlued (some token) next = true
    · rw [if_pos glued]
      simp only [isGlued, Bool.or_eq_true, decide_eq_true_eq] at glued
      rcases glued with (rfl | rfl) | opening | minus
      · exact .inr (.inr fun b hb => Option.some.inj hb ▸ separates_of_mem (by decide))
      · exact .inr (.inr fun b hb => Option.some.inj hb ▸ separates_of_mem (by decide))
      · exact .inl opening
      · exact .inr (.inl minus)
    · rw [if_neg glued]
      exact .inr (.inr fun b hb => Option.some.inj hb ▸ separates_of_isBlank (by decide))

/-! ## The text of a clause -/

/-- The text of a clause is cut into the tokens of the clause. -/
theorem items_clauseChars (previous : Option Token) {tokens : List Token}
    (h : ∀ token ∈ tokens, token.IsLexeme) :
    items (clauseChars previous tokens) = tokens.map .ok := by
  induction tokens generalizing previous with
  | nil => exact items_nil
  | cons token rest ih =>
    obtain ⟨first, others⟩ := List.forall_mem_cons.1 h
    have gap : ∀ b ∈ (if isGlued previous token then [] else [' ']), isBlank b = true := by
      split
      · exact nofun
      · simp
        decide
    rw [clauseChars, List.append_assoc, items_blank_append gap,
      items_chars_append first (mayTouch_clauseChars token rest), ih _ others]
    rfl

theorem lex_clauseText {tokens : List Token} (h : ∀ token ∈ tokens, token.IsLexeme) :
    lex (clauseText tokens) = tokens.map .ok := by
  rw [lex, clauseText, String.toList_ofList, items_clauseChars none h]

theorem isLexeme_of_lex {text : String} {tokens : List Token} {front rest : List Item}
    (h : lex text = front ++ (tokens.map .ok ++ rest)) : ∀ token ∈ tokens, token.IsLexeme := by
  intro token ht
  have hm : .ok token ∈ items text.toList := by
    rw [show items text.toList = _ from h]
    exact List.mem_append_right _ (List.mem_append_left _ (List.mem_map_of_mem ht))
  exact isLexeme_of_mem_items hm

/-! ## Queries that are cut at their clause -/

/-- The query is cut behind its first WHERE and before the semicolon that follows, if there is
one. -/
structure CutAtClause (query before clause behind : String) : Prop where
  whole : query = before ++ clause ++ behind
  parts : lex query = lex before ++ lex clause ++ lex behind
  opening : ∃ front, lex before = front ++ [.ok (.keyword .where_)] ∧
    .ok (.keyword .where_) ∉ front
  clause : lex clause = clauseOf query
  ending : ∀ item ∈ (lex behind).head?, item = .ok .semicolon

section

variable {query : String}

/-- A query that holds WHERE can be cut at its clause. -/
theorem exists_cutAtClause (h : .ok (.keyword .where_) ∈ lex query) :
    ∃ before clause behind, CutAtClause query before clause behind := by
  obtain ⟨front, rest, e, out⟩ := List.eq_append_cons_of_mem h
  have clause : clauseOf query = (splitClause rest).1 := clauseOf_of_not_mem out e
  have parts : lex query =
      (front ++ [.ok (.keyword .where_)]) ++ (clauseOf query ++
        rest.dropWhile (!isToken .semicolon ·)) := by
    rw [e, clause, splitClause_eq, List.append_assoc, List.singleton_append,
      List.takeWhile_append_dropWhile]
  obtain ⟨before, more, whole, first, others⟩ := exists_cut_items parts
  obtain ⟨middle, behind, rfl, second, third⟩ := exists_cut_items others
  refine ⟨.ofList before, .ofList middle, .ofList behind, ?_, ?_, ⟨front, ?_, out⟩, ?_, ?_⟩
  · rw [← String.toList_inj]
    simp [whole, List.append_assoc]
  all_goals simp only [lex, String.toList_ofList, first, second, third]
  · exact parts.trans (List.append_assoc ..).symm
  · intro item hi
    have stopped := List.head?_dropWhile_not (!isToken .semicolon ·) rest
    rw [show List.head? _ = some item from hi] at stopped
    exact isToken_eq_true_iff.1 (by simpa using stopped)

/-- Only a semicolon is read as one. -/
theorem eq_of_scan_eq_semicolon {c : Char} {text : List Char}
    (h : (scan c text).1 = .ok .semicolon) : c = ';' := by
  have of_quotedItem (make : String → Token) (other : ∀ inner, make inner ≠ .semicolon) :
      (quotedItem c make text).1 ≠ .ok .semicolon := by
    unfold quotedItem
    split
    · exact nofun
    · exact fun e => other _ (Except.ok.inj e)
  unfold scan at h
  split at h
  · exact absurd h (of_quotedItem .string nofun)
  split at h
  · exact absurd h (of_quotedItem .ident nofun)
  split at h
  · cases h
  split at h
  · have word := Except.ok.inj h
    unfold wordToken at word
    split at word <;> cases word
  split at h
  · have operator := Except.ok.inj h
    unfold operatorToken at operator
    split at operator <;> cases operator
  split at h
  · next symbol =>
    cases h
    unfold symbol? at symbol
    split at symbol <;> cases symbol
    rfl
  · cases h

/-- A text that begins with a semicolon at most may stand close behind any token. -/
theorem separates_of_ending {text : List Char}
    (h : ∀ item ∈ (items text).head?, item = .ok .semicolon) : ∀ b ∈ text.head?, Separates b := by
  cases text with
  | nil => exact nofun
  | cons c rest =>
    intro b hb
    obtain rfl := Option.some.inj hb
    by_cases blank : isBlank c = true
    · exact separates_of_isBlank blank
    · rw [items_cons (Bool.eq_false_iff.2 blank)] at h
      rw [eq_of_scan_eq_semicolon (h _ rfl)]
      exact separates_of_mem (by decide)

theorem items_append_of_separates {text more : List Char} (h : .error .unclosedQuote ∉ items text)
    (hs : ∀ b ∈ more.head?, Separates b) : items (text ++ more) = items text ++ items more := by
  cases more with
  | nil => rw [List.append_nil, items_nil, List.append_nil]
  | cons b rest => exact items_append_cons (hs b rfl) h rest

/-- A query whose clause is replaced by its text holds the same items. -/
theorem CutAtClause.lex_replaced {before clause behind : String}
    (cut : CutAtClause query before clause behind) {tokens : List Token}
    (h : clauseOf query = tokens.map .ok) :
    lex (before ++ " " ++ clauseText tokens ++ behind) = lex query := by
  have parts := cut.parts
  rw [cut.clause, h] at parts
  have text := lex_clauseText (isLexeme_of_lex (parts.trans (List.append_assoc ..)))
  have opened : .error .unclosedQuote ∉ items before.toList := by
    obtain ⟨front, opening, -⟩ := cut.opening
    intro hm
    obtain ⟨others, rest, e⟩ := List.append_of_mem hm
    -- an open quote would be the last item, where WHERE is
    obtain rfl := eq_nil_of_items_eq_append e
    have last := congrArg List.getLast? (opening.symm.trans e)
    simp at last
  have closed : .error .unclosedQuote ∉ items (clauseText tokens).toList := by
    rw [show items _ = _ from text]
    simp
  have gap : " ".toList = [' '] := rfl
  rw [parts, lex, String.toList_append, String.toList_append, String.toList_append, gap,
    List.append_assoc, List.append_assoc, List.singleton_append, items_append (by decide) opened,
    items_append_of_separates closed (separates_of_ending cut.ending), List.append_assoc,
    show items (clauseText tokens).toList = _ from text]
  rfl

end

/-! ## Where the text is shown -/

section

variable {query clause : String} {tokens : List Token}

theorem condition_of_statement_emptyList {kind : StatementKind} {items : List Item}
    (h : statement kind items = .error (.emptyList clause)) :
    ∃ make rest, head kind items = .ok (make, rest) ∧
      condition rest = .error (.emptyList clause) := by
  rcases bind_eq_error.1 h with h | ⟨⟨make, rest⟩, read, h⟩
  · obtain ⟨fault, -, other⟩ := mapError_eq_error.1 h
    cases other
  rcases bind_eq_error.1 h with h | ⟨_, -, h⟩
  · exact ⟨make, rest, mapError_eq_ok.1 read, h⟩
  rcases bind_eq_error.1 h with h | ⟨_, -, h⟩
  · obtain ⟨fault, -, other⟩ := mapError_eq_error.1 h
    cases other
  · cases h

/-- A list without values is refused for what stands in the clause of the query. -/
theorem ofItems_of_emptyList (h : parse query = .error (.emptyList clause)) :
    Filter.ofItems (clauseOf query) = .error (.emptyList clause) := by
  cases parse_eq_error h with
  | emptyList _ announced =>
    obtain ⟨k, items, begins, announces⟩ := exists_keyword_of_announcedKind? announced
    rw [parse_of_kindOf? announced, begins, List.tail_cons] at h
    obtain ⟨make, rest, read, refused⟩ := condition_of_statement_emptyList h
    obtain ⟨front, whole, outside⟩ := (heads_of_head read).1.cons_keyword announces
    unfold condition at refused
    split at refused
    · rcases bind_eq_error.1 refused with refused | ⟨_, -, refused⟩
      · rwa [clauseOf_eq outside (begins.trans whole)]
      · cases refused
    · cases refused

/-- The clause that an error shows is the text of the tokens. -/
theorem eq_clauseText_of_emptyList (h : parse query = .error (.emptyList clause))
    (ht : clauseOf query = tokens.map .ok) : clause = clauseText tokens := by
  have refused := ofItems_of_emptyList h
  rw [ht, ofItems_map_ok] at refused
  unfold Filter.ofTokens at refused
  split at refused
  · cases refused
  · exact QueryError.emptyList.inj (conditionOn_eq_error refused)
  · cases refused

/-- The clause that a remark shows is the text of the tokens. -/
theorem eq_clauseText_of_invalid {s : Statement} {reason : String} (h : parse query = .ok s)
    (hf : s.filter = some (.invalid clause reason)) (ht : clauseOf query = tokens.map .ok) :
    clause = clauseText tokens := by
  rcases filter_of_parse h with ⟨filter, -, made, e⟩ | ⟨-, e⟩
  · rw [Option.some.inj (e.symm.trans hf), ht, ofItems_map_ok] at made
    rcases refusal_of_ofTokens made rfl with ⟨reason', same⟩ | ⟨text, -, same⟩
    · exact (QueryError.invalidClause.inj same).1
    · cases same
  · rw [e] at hf
    cases hf

end

/-- The text that a clause is shown as is faithful. The tokens of any text, written as a clause, are
cut into the same tokens. In a query whose clause holds nothing but tokens, a remark or an error on
the clause shows their text; and cut before and behind the clause, which is always possible, the
query is read as before when the clause is replaced by this text: as the same statement, with the
same condition or the same reason why it is none, or with the same error. -/
theorem clause_text_reads_back :
    (∀ text tokens, lex text = tokens.map .ok → lex (clauseText tokens) = tokens.map .ok) ∧
    ∀ query kind tokens, kindOf? query = some kind → .ok (.keyword .where_) ∈ lex query →
      clauseOf query = tokens.map .ok →
        (∀ s clause reason, parse query = .ok s → s.filter = some (.invalid clause reason) →
          clause = clauseText tokens) ∧
        (∀ clause, parse query = .error (.emptyList clause) → clause = clauseText tokens) ∧
        (∃ before clause behind, CutAtClause query before clause behind) ∧
        ∀ before clause behind, CutAtClause query before clause behind →
          parse (before ++ " " ++ clauseText tokens ++ behind) = parse query := by
  refine ⟨fun text tokens h => ?_, fun query kind tokens announced opened clause =>
    ⟨fun s shown reason h hf => eq_clauseText_of_invalid h hf clause,
      fun shown h => eq_clauseText_of_emptyList h clause,
      exists_cutAtClause opened, fun before middle behind cut => ?_⟩⟩
  · have whole : lex text = [] ++ (tokens.map .ok ++ []) := by
      rw [h, List.nil_append, List.append_nil]
    exact lex_clauseText (isLexeme_of_lex whole)
  · have same := cut.lex_replaced clause
    have announced' : kindOf? (before ++ " " ++ clauseText tokens ++ behind) = some kind := by
      rwa [kindOf?, same]
    rw [parse_of_kindOf? announced, parse_of_kindOf? announced', same]

/-- A clause whose tokens stand close together, with a doubled quote, two signs, a point without
digits behind it and two semicolons. -/
theorem clause_text_reads_back_close :
    parse "dELETE t WHERE\"a \"\"b\"In('x',- -1.)<>=5;;" =
        .ok (.delete "t" (some (.invalid "\"a \"\"b\" IN ('x', --1.) <>= 5" noList))) ∧
      lex "\"a \"\"b\" IN ('x', --1.) <>= 5" = lex "\"a \"\"b\"In('x',- -1.)<>=5" ∧
      parse "dELETE t WHERE \"a \"\"b\" IN ('x', --1.) <>= 5;;" =
        parse "dELETE t WHERE\"a \"\"b\"In('x',- -1.)<>=5;;" := by
  have middle : lex "\"a \"\"b\"In('x',- -1.)<>=5" =
      (tokensOf (lex "\"a \"\"b\"In('x',- -1.)<>=5")).map .ok :=
    map_ok_of_firstFault? (by decide +kernel)
  have clause : clauseOf "dELETE t WHERE\"a \"\"b\"In('x',- -1.)<>=5;;" =
      lex "\"a \"\"b\"In('x',- -1.)<>=5" := by
    decide +kernel
  have text : clauseText (tokensOf (lex "\"a \"\"b\"In('x',- -1.)<>=5")) =
      "\"a \"\"b\" IN ('x', --1.) <>= 5" := by
    decide +kernel
  have cut : CutAtClause "dELETE t WHERE\"a \"\"b\"In('x',- -1.)<>=5;;" "dELETE t WHERE"
      "\"a \"\"b\"In('x',- -1.)<>=5" ";;" :=
    { whole := by decide +kernel
      parts := by decide +kernel
      opening := ⟨[.ok (.keyword .delete), .ok (.ident "t")], by decide +kernel, by decide⟩
      clause := clause.symm
      ending := by
        rw [show lex ";;" = [.ok .semicolon, .ok .semicolon] by decide +kernel]
        exact fun item hi => (Option.some.inj hi).symm }
  refine ⟨by decide +kernel, ?_, ?_⟩
  · rw [← text, clause_text_reads_back.1 _ _ middle, ← middle]
  · rw [← (clause_text_reads_back.2 _ .delete _ (by decide +kernel) (by decide +kernel)
      (clause.trans middle)).2.2.2 _ _ _ cut, text]
    rfl

end TableQuery.Query
