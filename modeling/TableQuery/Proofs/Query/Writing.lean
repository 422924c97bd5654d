import TableQuery.Proofs.Query.Clause
import TableQuery.Proofs.Query.Token

/-!
# Statements that are written and read

A statement is written as tokens: names and values between quotes where they need them, the keywords
of its kind, and commas in its lists. Its author may choose between two signs of inequality, leave
FROM out of a deletion and end with a semicolon, and may write keywords in either case and any
blanks between the tokens. None of this changes the statement that the text is read as.

* `Statement.tokens`: the tokens of a statement in a style;
* `Statement.IsWritable`: the statements that have a written form;
* `ofTokens_tokens`: the tokens of a condition make the condition;
* `head_append`: the tokens up to the condition make the rest of the statement;
* `parse_of_spaced`: a text of the tokens is read as the statement.
-/

namespace TableQuery.Query

/-- The choices of an author who writes a statement. -/
structure Style where
  /-- Write `<>` and not `!=`? -/
  angled : Bool
  /-- Write FROM in a deletion? -/
  deleteFrom : Bool
  /-- End with a semicolon? -/
  semicolon : Bool
deriving DecidableEq

/-! ## Tokens of statements -/

section

variable (style : Style)

def Comparison.token : Comparison → Token
  | equal => .equal
  | notEqual => .operator (if style.angled then "<>" else "!=")
  | greater => .operator ">"
  | less => .operator "<"
  | greaterOrEqual => .operator ">="
  | lessOrEqual => .operator "<="

def Operator.token : Operator → Token
  | known comparison => comparison.token style
  | unknown text => .operator text

def Predicate.tokens : Predicate → List Token
  | like column pattern => [.ident column, .keyword .like, .string pattern]
  | among column values => listTokens column ((values.map Token.string).intersperse .comma)
  | compare column operator literal => [.ident column, operator.token style, .string literal]

/-- The tokens of a condition, if there is one. A clause that could not be read has none. -/
def conditionTokens : Option Filter → List Token
  | some (.predicate p) => .keyword .where_ :: p.tokens style
  | _ => []

def Projection.tokens : Projection → List Token
  | all => [.asterisk]
  | columns names => (names.map Token.ident).intersperse .comma

/-- The tokens of a statement up to its condition, behind its first word. -/
def Statement.headTokens : Statement → List Token
  | select projection tableRef _ => projection.tokens ++ [.keyword .from_, .ident tableRef]
  | update tableRef column value _ =>
    [.ident tableRef, .keyword .set, .ident column, .equal, .string value]
  | delete tableRef _ =>
    (if style.deleteFrom then [.keyword .from_] else []) ++ [.ident tableRef]

/-- The keyword that announces a statement of the kind. -/
def StatementKind.keyword : StatementKind → Keyword
  | select => .select
  | update => .update
  | delete => .delete

/-- The tokens behind a statement. -/
def Style.ending : List Token :=
  if style.semicolon then [.semicolon] else []

/-- The tokens of a statement. -/
def Statement.tokens (s : Statement) : List Token :=
  .keyword s.kind.keyword ::
    (s.headTokens style ++ (conditionTokens style s.filter ++ style.ending))

end

/-! ## Statements with a written form -/

/-- The texts of the known operators. -/
def operatorTexts : List String :=
  ["=", "!=", "<>", ">", "<", ">=", "<="]

/-- An operator that is not known is a run of operator characters all the same. -/
def Operator.IsWritable : Operator → Prop
  | known _ => True
  | unknown text => text ≠ "" ∧ (∀ c ∈ text.toList, c ∈ ['=', '<', '>', '!']) ∧
      text ∉ operatorTexts

/-- A list of values holds at least one. -/
def Predicate.IsWritable : Predicate → Prop
  | like _ _ => True
  | among _ values => values ≠ []
  | compare _ operator _ => operator.IsWritable

/-- A condition that could be read. -/
def Filter.IsWritable : Filter → Prop
  | predicate p => p.IsWritable
  | invalid _ _ => False

/-- A list of columns holds at least one. -/
def Projection.IsWritable : Projection → Prop
  | all => True
  | columns names => names ≠ []

def Statement.IsWritable : Statement → Prop
  | select projection _ filter => projection.IsWritable ∧ ∀ f ∈ filter, f.IsWritable
  | update _ _ _ filter => ∀ f ∈ filter, f.IsWritable
  | delete _ filter => ∀ f ∈ filter, f.IsWritable

theorem Statement.IsWritable.filter {s : Statement} (h : s.IsWritable) :
    ∀ f ∈ s.filter, f.IsWritable := by
  cases s with
  | select projection tableRef filter => exact h.2
  | update tableRef column value filter => exact h
  | delete tableRef filter => exact h

/-! ## Conditions -/

section

variable {style : Style}

theorem ofText_of_not_mem {text : String} (h : text ∉ operatorTexts) :
    Operator.ofText text = .unknown text := by
  simp only [operatorTexts, List.mem_cons, List.not_mem_nil, or_false, not_or] at h
  obtain ⟨h₁, h₂, h₃, h₄, h₅, h₆, h₇⟩ := h
  unfold Operator.ofText
  split <;> first | contradiction | rfl

/-- The token of an operator tells the operator. -/
theorem operator?_token {operator : Operator} (h : operator.IsWritable) :
    operator? (operator.token style) = some operator := by
  cases operator with
  | known comparison =>
    cases comparison with
    | notEqual =>
      rw [Operator.token, Comparison.token]
      cases style.angled <;> rfl
    | _ => rfl
  | unknown text => exact congrArg some (ofText_of_not_mem h.2.2)

theorem conditionOn_operator {clause column literal : String} {token : Token} {value : List Token}
    {operator : Operator} (ht : operator? token = some operator)
    (hl : literal? value = some literal) :
    conditionOn clause column (token :: value) =
      .ok (.predicate (.compare column operator literal)) := by
  cases token with
  | equal => simp only [conditionOn, ht, hl]
  | operator text => simp only [conditionOn, ht, hl]
  | _ => cases ht

theorem quotedValues_intersperse (values : List String) :
    quotedValues ((values.map Token.string).intersperse .comma) = values := by
  induction values with
  | nil => rfl
  | cons value rest ih =>
    cases rest with
    | nil => rfl
    | cons next rest =>
      rw [List.map_cons, List.map_cons, List.intersperse_cons_cons]
      exact congrArg (value :: ·) ih

/-- The tokens of a condition make the condition. -/
theorem ofTokens_tokens {p : Predicate} (h : p.IsWritable) :
    Filter.ofTokens (p.tokens style) = .ok (.predicate p) := by
  cases p with
  | like column pattern => rfl
  | among column values =>
    exact ofTokens_eq_among_iff.2 ⟨h, _, rfl, quotedValues_intersperse values⟩
  | compare column operator literal =>
    exact conditionOn_operator (operator?_token h) rfl

/-! ## Reading the tokens -/

/-- A clause goes up to a semicolon or to the end. -/
theorem splitClause_append {clause : List Item} (h : .ok .semicolon ∉ clause) :
    splitClause (clause ++ style.ending.map .ok) = (clause, []) := by
  induction clause with
  | nil =>
    rw [Style.ending]
    cases style.semicolon <;> rfl
  | cons item rest ih =>
    rw [List.mem_cons, not_or] at h
    rw [List.cons_append, splitClause, ih h.2]
    exact fun e => h.1 e.symm

theorem columns_append {names : List String} (h : names ≠ []) (k : Keyword) (rest : List Item) :
    columns (((names.map Token.ident).intersperse .comma).map .ok ++ .ok (.keyword k) :: rest) =
      .ok (names, .ok (.keyword k) :: rest) := by
  induction names with
  | nil => exact absurd rfl h
  | cons name others ih =>
    cases others with
    | nil => rfl
    | cons next others =>
      rw [List.map_cons, List.map_cons, List.intersperse_cons_cons, ← List.map_cons]
      exact bind_eq_ok.2 ⟨_, ih (List.cons_ne_nil next others), rfl⟩

theorem projection_append {p : Projection} (h : p.IsWritable) (k : Keyword) (rest : List Item) :
    projection (p.tokens.map .ok ++ .ok (.keyword k) :: rest) =
      .ok (p, .ok (.keyword k) :: rest) := by
  cases p with
  | all => rfl
  | columns names =>
    obtain ⟨name, others, rfl⟩ := List.exists_cons_of_ne_nil h
    have first : ∃ more, ((((name :: others).map Token.ident).intersperse .comma).map Except.ok ++
        .ok (.keyword k) :: rest : List Item) = .ok (.ident name) :: more := by
      cases others <;> exact ⟨_, rfl⟩
    have read := columns_append h k rest
    obtain ⟨more, e⟩ := first
    rw [Projection.tokens, e, projection]
    · rw [← e, read]
      rfl
    · exact nofun

/-- The tokens up to the condition make all of the statement but the condition. -/
theorem head_append {s : Statement} (h : s.IsWritable) {rest : List Item}
    (hr : rest.head? ≠ some (.ok .comma)) :
    ∃ make, head s.kind ((s.headTokens style).map .ok ++ rest) = .ok (make, rest) ∧
      make s.filter = s := by
  cases s with
  | select p tableRef filter =>
    refine ⟨.select p tableRef, ?_, rfl⟩
    rw [Statement.headTokens, List.map_append, List.append_assoc]
    show selectHead (p.tokens.map .ok ++ .ok (.keyword .from_) :: .ok (.ident tableRef) :: rest) = _
    rw [selectHead, projection_append h.1]
    rfl
  | update tableRef column value filter =>
    refine ⟨.update tableRef column value, ?_, rfl⟩
    cases rest with
    | nil => rfl
    | cons item rest =>
      cases item with
      | error fault => rfl
      | ok token =>
        cases token with
        | comma => exact absurd rfl hr
        | _ => rfl
  | delete tableRef filter =>
    refine ⟨.delete tableRef, ?_, rfl⟩
    cases hf : style.deleteFrom <;> simp only [Statement.headTokens, hf] <;> rfl

theorem mem_of_mem_intersperse {α : Type} {a separator : α} {list : List α}
    (h : a ∈ list.intersperse separator) : a = separator ∨ a ∈ list := by
  induction list with
  | nil => cases h
  | cons first rest ih =>
    cases rest with
    | nil => exact .inr h
    | cons next rest =>
      rw [List.intersperse_cons_cons, List.mem_cons, List.mem_cons] at h
      rcases h with rfl | rfl | h
      · exact .inr List.mem_cons_self
      · exact .inl rfl
      · exact (ih h).imp_right (List.mem_cons_of_mem _)

theorem isLexeme_token {operator : Operator} (h : operator.IsWritable) :
    (operator.token style).IsLexeme := by
  cases operator with
  | known comparison =>
    cases comparison with
    | equal => trivial
    | notEqual =>
      rw [Operator.token, Comparison.token]
      cases style.angled <;> exact isLexeme_operator (by decide) (by decide) (by decide)
    | _ => exact isLexeme_operator (by decide) (by decide) (by decide)
  | unknown text =>
    obtain ⟨ne_empty, letters, unknown⟩ := h
    exact ⟨ne_empty, fun e => unknown (by rw [e]; decide),
      fun c hc => isOperatorChar_iff.2 (letters c hc)⟩

/-- A token of a condition can stand in a text and is no semicolon. -/
theorem of_mem_tokens {p : Predicate} (h : p.IsWritable) {token : Token}
    (ht : token ∈ p.tokens style) : token.IsLexeme ∧ token ≠ .semicolon := by
  cases p with
  | like column pattern =>
    simp only [Predicate.tokens, List.mem_cons, List.not_mem_nil, or_false] at ht
    rcases ht with rfl | rfl | rfl <;> exact ⟨trivial, by simp⟩
  | among column values =>
    simp only [Predicate.tokens, listTokens, List.mem_cons, List.mem_append, List.not_mem_nil,
      or_false] at ht
    rcases ht with rfl | rfl | rfl | ht | rfl
    · exact ⟨trivial, by simp⟩
    · exact ⟨trivial, by simp⟩
    · exact ⟨trivial, by simp⟩
    · rcases mem_of_mem_intersperse ht with rfl | ht
      · exact ⟨trivial, by simp⟩
      · obtain ⟨value, -, rfl⟩ := List.mem_map.1 ht
        exact ⟨trivial, by simp⟩
    · exact ⟨trivial, by simp⟩
  | compare column operator literal =>
    simp only [Predicate.tokens, List.mem_cons, List.not_mem_nil, or_false] at ht
    rcases ht with rfl | rfl | rfl
    · exact ⟨trivial, by simp⟩
    · refine ⟨isLexeme_token h, fun e => ?_⟩
      have none : operator? .semicolon = some operator := e ▸ operator?_token h
      cases none
    · exact ⟨trivial, by simp⟩

/-- The tokens of the condition and the end are read as the condition. -/
theorem condition_append (style : Style) {filter : Option Filter} (h : ∀ f ∈ filter, f.IsWritable) :
    ∃ last, condition ((conditionTokens style filter ++ style.ending).map .ok) =
      .ok (filter, last) ∧ atEnd last = .ok () := by
  cases filter with
  | none =>
    rw [Style.ending]
    cases style.semicolon <;> exact ⟨_, rfl, rfl⟩
  | some f =>
    cases f with
    | invalid clause reason => exact (h _ rfl).elim
    | predicate p =>
      have writable : p.IsWritable := h _ rfl
      have inside : .ok .semicolon ∉ (p.tokens style).map (Except.ok : Token → Item) := fun hm => by
        obtain ⟨token, ht, e⟩ := List.mem_map.1 hm
        exact (of_mem_tokens writable ht).2 (Except.ok.inj e)
      refine ⟨[], ?_, rfl⟩
      rw [conditionTokens, List.cons_append, List.map_cons, List.map_append, condition,
        splitClause_append inside]
      dsimp only
      rw [ofItems_map_ok, ofTokens_tokens writable]
      rfl

/-- No comma stands behind the tokens up to the condition. -/
theorem head?_conditionTokens_ne (style : Style) (filter : Option Filter) :
    ((conditionTokens style filter ++ style.ending).map Except.ok : List Item).head? ≠
      some (.ok .comma) := by
  have ending : (style.ending.map Except.ok : List Item).head? ≠ some (.ok .comma) := by
    rw [Style.ending]
    cases style.semicolon <;> exact nofun
  cases filter with
  | none => exact ending
  | some f =>
    cases f with
    | predicate p => exact nofun
    | invalid clause reason => exact ending

/-- The tokens of a statement are read as the statement. -/
theorem statement_tokens {s : Statement} (h : s.IsWritable) :
    statement s.kind ((s.headTokens style ++ (conditionTokens style s.filter ++
      style.ending)).map .ok) = .ok s := by
  obtain ⟨last, filter, ended⟩ := condition_append style h.filter
  obtain ⟨make, read, made⟩ := head_append h (head?_conditionTokens_ne style s.filter)
  rw [← List.map_append] at read
  exact statement_eq_ok_iff.2 ⟨make, _, s.filter, last, read, filter, ended, made⟩

theorem kind?_keyword (kind : StatementKind) : kind.keyword.kind? = some kind := by
  cases kind <;> rfl

theorem isLexeme_of_mem_headTokens {s : Statement} {token : Token}
    (ht : token ∈ s.headTokens style) : token.IsLexeme := by
  cases s with
  | select p tableRef filter =>
    rcases List.mem_append.1 ht with ht | ht
    · cases p with
      | all => exact List.mem_singleton.1 ht ▸ trivial
      | columns names =>
        rcases mem_of_mem_intersperse ht with rfl | ht
        · trivial
        · obtain ⟨name, -, rfl⟩ := List.mem_map.1 ht
          trivial
    · simp only [List.mem_cons, List.not_mem_nil, or_false] at ht
      rcases ht with rfl | rfl <;> trivial
  | update tableRef column value filter =>
    simp only [Statement.headTokens, List.mem_cons, List.not_mem_nil, or_false] at ht
    rcases ht with rfl | rfl | rfl | rfl | rfl <;> trivial
  | delete tableRef filter =>
    rcases List.mem_append.1 ht with ht | ht
    · split at ht
      · exact List.mem_singleton.1 ht ▸ trivial
      · cases ht
    · exact List.mem_singleton.1 ht ▸ trivial

/-- Each token of a statement can stand in a text. -/
theorem isLexeme_of_mem_tokens {s : Statement} (h : s.IsWritable) :
    ∀ token ∈ s.tokens style, token.IsLexeme := by
  intro token ht
  rcases List.mem_cons.1 ht with rfl | ht
  · trivial
  rcases List.mem_append.1 ht with ht | ht
  · exact isLexeme_of_mem_headTokens ht
  rcases List.mem_append.1 ht with ht | ht
  · unfold conditionTokens at ht
    split at ht
    · next p e =>
      rcases List.mem_cons.1 ht with rfl | ht
      · trivial
      · exact (of_mem_tokens (h.filter _ e) ht).1
    · cases ht
  · unfold Style.ending at ht
    split at ht
    · exact List.mem_singleton.1 ht ▸ trivial
    · cases ht

/-- A text of the tokens of a statement, with blanks between them, is read as the statement. -/
theorem parse_of_spaced {s : Statement} (h : s.IsWritable) {text : String}
    (ht : Spaced (s.tokens style) text.toList) : parse text = .ok s := by
  have items : lex text = (s.tokens style).map .ok :=
    items_of_spaced ht (isLexeme_of_mem_tokens h)
  rw [parse, items, Statement.tokens, List.map_cons, announcedKind?, kind?_keyword]
  exact statement_tokens h

end

theorem parse_of_spaced_quotes :
    parse "uPdAtE \"set\"\n\tSET \"a \"\"b\"\"\" = 'it''s; WHERE' whERE x\u3000<> '' ;" =
      .ok (.update "set" "a \"b\"" "it's; WHERE"
        (some (.predicate (.compare "x" (.known .notEqual) "")))) := by
  have spaced : Spaced (Statement.tokens ⟨true, true, true⟩ (.update "set" "a \"b\"" "it's; WHERE"
        (some (.predicate (.compare "x" (.known .notEqual) "")))))
      ("uPdAtE".toList ++ [' '] ++ ("\"set\"".toList ++ ['\n', '\t'] ++ ("SET".toList ++ [' '] ++
        ("\"a \"\"b\"\"\"".toList ++ [' '] ++ ("=".toList ++ [' '] ++
          ("'it''s; WHERE'".toList ++ [' '] ++ ("whERE".toList ++ [' '] ++
            ("x".toList ++ ['\u3000'] ++ ("<>".toList ++ [' '] ++
              ("''".toList ++ [' '] ++ [';'])))))))))) := by
    repeat refine .cons (by first | rfl | decide) (by decide) (List.all_eq_true.1 (by decide)) ?_
    exact .last rfl
  exact parse_of_spaced (by rintro f ⟨⟩; trivial) spaced

end TableQuery.Query
