import TableQuery.Proofs.Query.Failure
import TableQuery.Proofs.Unchanged

/-!
# What a report tells of its query

The operation of a report is the one that the first word of the query announces, whether the query
is carried out or not. A failure tells its error twice, in a field of its own and as the last
remark, and otherwise only gives back the text. What is only remarked on is never the error of a
failure, and neither is a fault of syntax without the kind of statement that it is in.

* `head?_message`: the wordings of errors, by their first letters;
* `ErrorAgrees`: an error of reading a query, and the kind that the query announces;
* `Cause`: the errors of runs (`outcome_eq_error`);
* `Report.OfFailure`, `Report.OfSuccess`: the two kinds of reports;
* `report_agrees`: the kind of statement, the error and the report of a query agree.
-/

namespace TableQuery

open Query (Answer Outcome ParseError PatternLibrary QueryError Statement StatementKind)

namespace Query

/-! ## Wordings -/

theorem head?_toList_append {front : String} {c : Char} (h : front.toList.head? = some c)
    (rest : String) : (front ++ rest).toList.head? = some c := by
  rw [String.toList_append, List.head?_append, h, Option.some_or]

/-- The letter that the wording of an error begins with. -/
def QueryError.initial : QueryError → Char
  | emptyTable => 't'
  | emptyQuery => 'q'
  | unsupportedStatement _ => 'u'
  | columnNotFound .. => 'c'
  | invalidClause .. => 'c'
  | emptyList _ => 'I'
  | invalidSyntax .. => 'i'
  | unsupportedOperator _ => 'u'
  | unsafeDelete => 'D'
  | codec _ => 'c'
  | patternTooLarge => 'i'

theorem head?_message (e : QueryError) : e.message.toList.head? = some e.initial := by
  -- a wording begins with fixed words, and one or two pieces at a time are put behind them
  have one {front : String} {c : Char} := @head?_toList_append front c
  have two {front : String} {c : Char} (h : front.toList.head? = some c) (s t : String) :=
    one (one h s) t
  cases e with
  | emptyTable => rfl
  | emptyQuery => rfl
  | unsupportedStatement head => exact two rfl _ _
  | columnNotFound column available candidates usedAsTable =>
    exact two (two (one rfl _) _ _) _ _
  | invalidClause clause reason =>
    exact two (two (two rfl _ _) _ _) _ _
  | emptyList clause => exact two rfl _ _
  | invalidSyntax kind fault => exact two (two (one rfl _) _ _) _ _
  | unsupportedOperator text => exact two rfl _ _
  | unsafeDelete => rfl
  | codec fault => exact one rfl _
  | patternTooLarge => exact two rfl _ _

/-- No error is worded like a fault of syntax on its own. -/
theorem not_prefix_message (e : QueryError) : ¬"parse error ".toList <+: e.message.toList := by
  rintro ⟨rest, same⟩
  have first : e.message.toList.head? = some 'p' := by rw [← same]; rfl
  rw [head?_message, Option.some.injEq] at first
  cases e <;> simp [QueryError.initial] at first

/-! ## Errors and statements of a kind -/

/-- What the error of a query that is no statement tells of the kind that the query announces. -/
structure ErrorAgrees (query : String) (e : QueryError) : Prop where
  silent : (e = .emptyQuery ∨ ∃ head, e = .unsupportedStatement head) ↔ kindOf? query = none
  blank : e = .emptyQuery ↔ Text.allBlank query = true
  announced : ∀ kind, kindOf? query = some kind →
    (∃ clause, e = .emptyList clause) ∨ ∃ fault, e = .invalidSyntax kind fault
  wording : ¬"parse error ".toList <+: e.message.toList

theorem ParseError.agrees {query : String} {e : QueryError} (h : ParseError query e) :
    ErrorAgrees query e := by
  have visible : ∀ {kind}, kindOf? query = some kind → ¬Text.allBlank query = true :=
    fun announced blank => by rw [kindOf?_of_allBlank blank] at announced; cases announced
  cases h with
  | empty blank silent =>
    refine ⟨by simp [silent], by simp [blank], fun kind announced => ?_, not_prefix_message _⟩
    rw [silent] at announced
    cases announced
  | unsupported head shown silent =>
    refine ⟨by simp [silent], by simp [shown], fun kind announced => ?_, not_prefix_message _⟩
    rw [silent] at announced
    cases announced
  | emptyList clause announced =>
    exact ⟨by simp [announced], by simp [visible announced], fun _ _ => .inl ⟨clause, rfl⟩,
      not_prefix_message _⟩
  | invalidSyntax announced fault =>
    refine ⟨by simp [announced], by simp [visible announced], fun kind same => ?_,
      not_prefix_message _⟩
    rw [announced, Option.some.injEq] at same
    exact .inr ⟨fault, by rw [same]⟩

theorem kind_of_execute [PatternLibrary] {fuzzy : Bool} {table after : Table} {s : Statement}
    {answer : Answer} (h : (execute fuzzy table s).result = .ok (answer, after)) :
    answer.kind = s.kind := by
  obtain ⟨p, hp, rfl, -⟩ := exists_plan_of_execute h
  exact kind_answer_of_plan hp table

end Query

/-! ## The two kinds of reports -/

namespace Report

/-- The report of a query that failed on the text. -/
structure OfFailure (text : String) (failure : QueryError) (report : Report) : Prop where
  error : report.error = some failure.message
  resultText : report.resultText = text
  rowsAffected : report.rowsAffected = 0
  affectedColumns : report.affectedColumns = []
  profiles : report.profiles = []
  isProjection : report.isProjection = false
  queriedText : report.queriedText = none
  last : report.diagnostics.getLast? = some failure.message

/-- The report of a statement that was carried out on the text, where its kind is what the query
announced. -/
structure OfSuccess (text : String) (announced : Option StatementKind) (report : Report) :
    Prop where
  error : report.error = none
  isProjection : report.isProjection = true ↔ announced = some .select
  queriedText : report.queriedText = if announced = some .select then some text else none

theorem ofFailure_failure (operation : Option StatementKind) (text : String) (e : QueryError)
    (remarks : List String) : (failure operation text e remarks).OfFailure text e :=
  ⟨rfl, rfl, rfl, rfl, rfl, rfl, rfl, List.getLast?_concat⟩

variable {codec : Csv.Codec} {text : String} {answer : Answer} {after : Table} {report : Report}

theorem ofSuccess_ofAnswer (h : ofAnswer codec text answer after = .ok report) :
    report.OfSuccess text (some answer.kind) := by
  obtain ⟨no_error, -, -, isProjection, queriedText, -⟩ := of_ofAnswer h
  refine ⟨no_error, ?_, ?_⟩
  · rw [isProjection, decide_eq_true_iff, Option.some.injEq]
  · rw [queriedText]
    simp only [Option.some.injEq]

theorem ofAnswer_eq_error {e : QueryError} (h : ofAnswer codec text answer after = .error e) :
    ∃ fault, e = .codec fault := by
  unfold ofAnswer at h
  cases keeps : keepsText answer with
  | true => rw [keeps] at h; cases h
  | false =>
    rw [keeps] at h
    rcases Query.bind_eq_error.1 h with h | ⟨_, -, h⟩
    · obtain ⟨fault, -, rfl⟩ := Query.mapError_eq_error.1 h
      exact ⟨fault, rfl⟩
    · cases h

end Report

namespace Engine

variable {engine : Engine} {text query : String}

/-- Where the error of a run comes from. -/
inductive Cause (text query : String) : QueryError → Prop
  | blankText (blank : Text.allBlank text = true) : Cause text query .emptyTable
  | parse {e : QueryError} (error : ParseError query e) : Cause text query e
  | codec (fault : Csv.CodecFault) : Cause text query (.codec fault)
  | execute {e : QueryError}
      (error : e.IsColumnNotFound ∨ e = .patternTooLarge ∨ e = .unsafeDelete) : Cause text query e

/-- What is only remarked on is never why a run failed. -/
theorem Cause.ne_remarked {e : QueryError} (h : Cause text query e) :
    (∀ clause reason, e ≠ .invalidClause clause reason) ∧
      ∀ operator, e ≠ .unsupportedOperator operator := by
  cases h with
  | blankText blank => exact ⟨nofun, nofun⟩
  | parse error => cases error <;> exact ⟨nofun, nofun⟩
  | codec fault => exact ⟨nofun, nofun⟩
  | execute error =>
    rcases error with missing | rfl | rfl
    · exact ⟨fun _ _ same => by rw [same] at missing; exact missing,
        fun _ same => by rw [same] at missing; exact missing⟩
    · exact ⟨nofun, nofun⟩
    · exact ⟨nofun, nofun⟩

section

variable [PatternLibrary]

theorem answer_eq_error {e : QueryError} (h : (engine.answer text query).result = .error e) :
    Cause text query e := by
  rw [Engine.answer] at h
  cases ht : Text.allBlank text with
  | true =>
    rw [ht] at h
    obtain rfl := Except.error.inj h
    exact .blankText ht
  | false =>
    cases hq : Text.allBlank query with
    | true =>
      rw [ht, hq] at h
      obtain rfl := Except.error.inj h
      exact .parse (.empty hq (Query.kindOf?_of_allBlank hq))
    | false =>
      rw [ht, hq] at h
      simp only [Bool.false_eq_true, if_false, Outcome.result_bind_eq_error,
        Outcome.result_ofExcept] at h
      rcases h with unread | ⟨statement, -, read | ⟨table, -, h⟩⟩
      · exact .parse (Query.parse_eq_error unread)
      · obtain ⟨fault, -, rfl⟩ := Query.mapError_eq_error.1 read
        exact .codec fault
      · exact .execute (Query.execute_eq_error h)

/-- The errors of runs. -/
theorem outcome_eq_error {e : QueryError} (h : (engine.outcome text query).result = .error e) :
    Cause text query e := by
  rw [outcome, Outcome.result_bind_eq_error] at h
  rcases h with h | ⟨⟨answer, after⟩, -, h⟩
  · exact answer_eq_error h
  · obtain ⟨fault, rfl⟩ := Report.ofAnswer_eq_error h
    exact .codec fault

theorem ofFailure_run {e : QueryError} (h : (engine.outcome text query).result = .error e) :
    (engine.run text query).OfFailure text e := by
  rw [run, h]
  exact Report.ofFailure_failure _ _ _ _

/-- A report that was made is of the kind that the query announced. -/
theorem of_outcome_ok {report : Report} (h : (engine.outcome text query).result = .ok report) :
    report.operation = Query.kindOf? query ∧ report.OfSuccess text (Query.kindOf? query) := by
  rw [outcome, Outcome.result_bind_eq_ok] at h
  obtain ⟨⟨answer, after⟩, ha, reported⟩ := h
  obtain ⟨-, statement, table, hs, -, he⟩ := of_answer_eq_ok ha
  rw [Query.kind_of_parse hs, ← Query.kind_of_execute he]
  exact ⟨(Report.of_ofAnswer reported).2.1, Report.ofSuccess_ofAnswer reported⟩

theorem operation_run (engine : Engine) (text query : String) :
    (engine.run text query).operation = Query.kindOf? query := by
  rw [run]
  cases h : (engine.outcome text query).result with
  | error e => rfl
  | ok report => exact (of_outcome_ok h).1

theorem ofSuccess_run {report : Report} (h : (engine.outcome text query).result = .ok report) :
    (engine.run text query).OfSuccess text (Query.kindOf? query) := by
  obtain ⟨-, success⟩ := of_outcome_ok h
  rw [run, h]
  exact ⟨success.error, success.isProjection, success.queriedText⟩

/-- The kind that a query announces, the statement or the error that it is read as, and the report
of its run agree, for every text. The statement is of this kind; an error of reading it tells
whether a kind is announced, and which. The report names the kind as its operation, whether the run
fails or not, and is of one of two kinds: a failure, which is never one of those that are only
remarked on, or a success. -/
theorem report_agrees (engine : Engine) (text query : String) :
    (∀ statement, Query.parse query = .ok statement →
      Query.kindOf? query = some statement.kind) ∧
    (∀ e, Query.parse query = .error e → Query.ErrorAgrees query e) ∧
    (engine.run text query).operation = Query.kindOf? query ∧
    ((engine.run text query).error ≠ none ↔ ∃ e, (engine.outcome text query).result = .error e) ∧
    (∀ e, (engine.outcome text query).result = .error e →
      (engine.run text query).OfFailure text e ∧
        (∀ clause reason, e ≠ .invalidClause clause reason) ∧
        (∀ operator, e ≠ .unsupportedOperator operator) ∧
        ¬"parse error ".toList <+: e.message.toList) ∧
    ∀ report, (engine.outcome text query).result = .ok report →
      (engine.run text query).OfSuccess text (Query.kindOf? query) := by
  refine ⟨fun _ => Query.kind_of_parse, fun e h => (Query.parse_eq_error h).agrees,
    operation_run engine text query, ?_, fun e h => ?_, fun _ => ofSuccess_run⟩
  · cases h : (engine.outcome text query).result with
    | error e => simp [(ofFailure_run h).error]
    | ok report => simp [(ofSuccess_run h).error]
  · obtain ⟨clause, operator⟩ := (outcome_eq_error h).ne_remarked
    exact ⟨ofFailure_run h, clause, operator, Query.not_prefix_message e⟩

end

/-- A list without values, and a selection with a clause that could not be read. -/
theorem report_agrees_empty_list :
    (run ⟨⟨0x2C, .detect⟩, true⟩ "a\n1\n" "delete t where a in (1)").operation = some .delete ∧
      (run ⟨⟨0x2C, .detect⟩, true⟩ "a\n1\n" "delete t where a in (1)").OfFailure "a\n1\n"
        (.emptyList "a IN (1)") ∧
      Query.ErrorAgrees "delete t where a in (1)" (.emptyList "a IN (1)") ∧
      (run ⟨⟨0x2C, .detect⟩, true⟩ "a\n1\n" "select a from t where b").OfSuccess "a\n1\n"
        (some .select) := by
  obtain ⟨-, parsed, operation, -, failed, -⟩ :=
    report_agrees ⟨⟨0x2C, .detect⟩, true⟩ "a\n1\n" "delete t where a in (1)"
  obtain ⟨-, -, -, -, -, succeeded⟩ :=
    report_agrees ⟨⟨0x2C, .detect⟩, true⟩ "a\n1\n" "select a from t where b"
  have delete : Query.kindOf? "delete t where a in (1)" = some .delete := by decide +kernel
  have select : Query.kindOf? "select a from t where b" = some .select := by decide +kernel
  refine ⟨operation.trans delete, (failed _ (by decide +kernel)).1, parsed _ (by decide +kernel),
    ?_⟩
  rw [← select]
  exact succeeded ⟨some .select, "a\n", "Selected 0 rows of 1 row, showing 1 column: a.", 0, ["a"],
    [⟨"a", .string, 0, 0⟩], [], true, some "a\n1\n", none⟩ (by decide +kernel)

end Engine

end TableQuery
