import TableQuery.Proofs.Query.Clause
import TableQuery.Proofs.Query.Failure
import TableQuery.Proofs.Query.Plan

/-!
# Conditions that are not carried out

A condition whose clause could not be read, or whose operator is not known, must not be taken for no
condition at all, for then every row would be selected. It selects no row, changes nothing and makes
one remark, which begins with the error that it is. And a statement is without a condition only if
its text holds no WHERE, nor anything that is no token.

* `Filter.refusal?`: why a condition is not carried out;
* `refusal_of_ofItems`: the error tells the clause;
* `Refuses`: a step that comes to nothing but a remark, behind steps that look names up;
* `execute_refuses`: what comes of a statement with such a condition;
* `condition_never_dropped`: so no condition in the text of a statement is lost.
-/

namespace TableQuery.Query

/-- Why a condition is not carried out: its clause could not be read, or its operator is not
known. -/
def Filter.refusal? : Filter → Option QueryError
  | invalid clause reason => some (.invalidClause clause reason)
  | predicate (.compare _ (.unknown text) _) => some (.unsupportedOperator text)
  | predicate _ => none

/-! ## The error tells the clause -/

theorem eq_of_ofText_eq_unknown {text other : String} (h : Operator.ofText text = .unknown other) :
    other = text := by
  unfold Operator.ofText at h
  split at h
  all_goals cases h
  rfl

section

variable {filter : Filter} {error : QueryError}

theorem refusal_of_conditionOn {clause column : String} {tokens : List Token}
    (h : conditionOn clause column tokens = .ok filter) (hr : filter.refusal? = some error) :
    (∃ reason, error = .invalidClause clause reason) ∨
      ∃ text, .operator text ∈ tokens ∧ error = .unsupportedOperator text := by
  unfold conditionOn at h
  split at h
  · cases h
    cases hr
  · cases h
    exact .inl ⟨noPattern, (Option.some.inj hr).symm⟩
  · split at h
    · cases h
      exact .inl ⟨noList, (Option.some.inj hr).symm⟩
    · split at h
      · cases h
      · cases h
        cases hr
  · next token value _ _ _ =>
    cases operator : operator? token with
    | none =>
      rw [operator] at h
      cases h
      exact .inl ⟨noComparison, (Option.some.inj hr).symm⟩
    | some found =>
      rw [operator] at h
      cases literal : literal? value with
      | none =>
        rw [literal] at h
        cases h
        exact .inl ⟨noValue, (Option.some.inj hr).symm⟩
      | some text =>
        rw [literal] at h
        cases h
        cases found with
        | known comparison => cases hr
        | unknown other =>
          -- only the token of an operator makes one that is not known
          cases token with
          | operator text =>
            obtain rfl := eq_of_ofText_eq_unknown (Option.some.inj operator)
            exact .inr ⟨other, List.mem_cons_self, (Option.some.inj hr).symm⟩
          | equal => cases operator
          | _ => cases operator
  · cases h
    exact .inl ⟨noComparison, (Option.some.inj hr).symm⟩

theorem refusal_of_ofTokens {tokens : List Token} (h : Filter.ofTokens tokens = .ok filter)
    (hr : filter.refusal? = some error) :
    (∃ reason, error = .invalidClause (clauseText tokens) reason) ∨
      ∃ text, .operator text ∈ tokens ∧ error = .unsupportedOperator text := by
  unfold Filter.ofTokens at h
  split at h
  · cases h
    exact .inl ⟨missingCondition, (Option.some.inj hr).symm⟩
  · exact (refusal_of_conditionOn h hr).imp_right fun ⟨text, hm, e⟩ =>
      ⟨text, List.mem_cons_of_mem _ hm, e⟩
  · cases h
    exact .inl ⟨noColumn, (Option.some.inj hr).symm⟩

theorem mem_of_mem_tokensOf {items : List Item} {token : Token} (h : token ∈ tokensOf items) :
    .ok token ∈ items := by
  obtain ⟨item, hi, e⟩ := List.mem_filterMap.1 h
  cases item with
  | ok found =>
    obtain rfl := Option.some.inj e
    exact hi
  | error fault => cases e

/-- The error of a condition shows its clause, or an operator that stands in it. -/
theorem refusal_of_ofItems {clause : List Item} (h : Filter.ofItems clause = .ok filter)
    (hr : filter.refusal? = some error) :
    (∃ reason, error = .invalidClause (clauseText (tokensOf clause)) reason) ∨
      ∃ text, .ok (.operator text) ∈ clause ∧ error = .unsupportedOperator text := by
  unfold Filter.ofItems at h
  split at h
  · next fault _ =>
    cases h
    exact .inl ⟨fault.message, (Option.some.inj hr).symm⟩
  · exact (refusal_of_ofTokens h hr).imp_right fun ⟨text, hm, e⟩ =>
      ⟨text, mem_of_mem_tokensOf hm, e⟩

end

/-! ## What comes of the condition -/

/-- The step fails for want of a column, or comes to such a value with one remark that is not on
names, and this remark begins with the error. -/
inductive Outcome.Refuses {α : Type} (error : QueryError) (isNothing : α → Prop) (x : Outcome α) :
    Prop
  | missing (e : QueryError) (failed : x.result = .error e) (column : e.IsColumnNotFound)
  | remarked (a : α) (remark : Diagnostic) (comes : x.result = .ok a) (nothing : isNothing a)
      (once : x.diagnostics.filter (!·.isOnNames) = [remark])
      (begins : error.message.toList <+: remark.message.toList)

namespace Outcome

variable {α β : Type} {error : QueryError} {isNothing : α → Prop} {x : Outcome α}

/-- Looking names up before does not matter. -/
theorem Refuses.behind {names : Outcome β} {f : β → Outcome α} (hn : names.LooksUp)
    (h : ∀ b, (f b).Refuses error isNothing) : (names >>= f).Refuses error isNothing := by
  cases e : names.result with
  | error missing =>
    refine .missing missing ?_ (hn.fails missing e)
    rw [bind_of_error e]
  | ok b =>
    have onNames : names.diagnostics.filter (!·.isOnNames) = [] :=
      List.filter_eq_nil_iff.2 fun d hd => by simp [hn.remarks d hd]
    rw [bind_of_ok e]
    cases h b with
    | missing missing failed column => exact .missing missing failed column
    | remarked a remark comes nothing once begins =>
      refine .remarked a remark comes nothing ?_ begins
      rw [List.filter_append, onNames, once, List.nil_append]

theorem Refuses.map {other : β → Prop} (h : x.Refuses error isNothing) {f : α → β}
    (hf : ∀ a, isNothing a → other (f a)) : (f <$> x).Refuses error other := by
  cases h with
  | missing missing failed column =>
    rw [map_of_error failed]
    exact .missing missing rfl column
  | remarked a remark comes nothing once begins =>
    rw [map_of_ok comes]
    exact .remarked (f a) remark rfl (hf a nothing) once begins

theorem refuses_note {remark : Diagnostic} (hr : remark.isOnNames = false)
    (begins : error.message.toList <+: remark.message.toList) {a : α}
    (nothing : isNothing a) : (note remark >>= fun _ => pure a).Refuses error isNothing := by
  refine .remarked a remark rfl nothing ?_ begins
  show [remark].filter (!·.isOnNames) = [remark]
  simp [hr]

end Outcome

section

variable {filter : Filter} {error : QueryError}

/-- No row passes the test, and there is one remark. -/
theorem rowTest_refuses [PatternLibrary] (scope : Scope) (h : filter.refusal? = some error) :
    (rowTest scope (some filter)).Refuses error fun test => test = fun _ => false := by
  cases filter with
  | invalid clause reason =>
    obtain rfl := Option.some.inj h
    refine Outcome.refuses_note rfl ?_ rfl
    rw [Diagnostic.message, String.toList_append]
    exact List.prefix_append _ _
  | predicate p =>
    cases p with
    | like column pattern => cases h
    | among column values => cases h
    | compare column operator literal =>
      cases operator with
      | known comparison => cases h
      | unknown text =>
        obtain rfl := Option.some.inj h
        refine Outcome.Refuses.behind (looksUp_resolve scope column) fun found => ?_
        rw [← map_eq_pure_bind]
        refine Outcome.Refuses.map (Outcome.refuses_note rfl ?_ rfl) fun test nothing => ?_
        · rw [Diagnostic.message, String.toList_append]
          exact List.prefix_append _ _
        · rw [← nothing]

end

/-! ## What comes of the statement -/

namespace Plan

/-- The test that the rows are put to. -/
def test : Plan → Row → Bool
  | select _ test => test
  | update _ _ test => test
  | delete test => test

/-- A plan counts the rows that pass its test. -/
theorem count_answer_eq_countP (p : Plan) (t : Table) :
    (p.answer t).count = t.rows.countP p.test := by
  cases p with
  | select columns test =>
    show (selection columns test t).length = t.rows.countP test
    rw [selection, List.countP_eq_length_filter]
    split
    · rfl
    · exact List.length_map _
  | update column cell test => rfl
  | delete test => rfl

end Plan

section

variable [PatternLibrary] {s : Statement} {filter : Filter} {error : QueryError}

/-- No row passes the test of the plan. -/
theorem plan_refuses (fuzzy : Bool) (headers : List String) (hf : s.filter = some filter)
    (h : filter.refusal? = some error) :
    (plan fuzzy headers s).Refuses error fun p => p.test = fun _ => false := by
  cases s with
  | select projection tableRef condition =>
    obtain rfl : condition = some filter := hf
    refine .behind (looksUp_noteTableName _) fun _ => ?_
    refine .behind (looksUp_projection _ projection) fun columns => ?_
    rw [← map_eq_pure_bind]
    exact (rowTest_refuses _ h).map fun test nothing => nothing
  | update tableRef name value condition =>
    obtain rfl : condition = some filter := hf
    refine .behind (looksUp_resolve _ name) fun column => ?_
    rw [← map_eq_pure_bind]
    exact (rowTest_refuses _ h).map fun test nothing => nothing
  | delete tableRef condition =>
    obtain rfl : condition = some filter := hf
    rw [plan, ← map_eq_pure_bind]
    exact (rowTest_refuses _ h).map fun test nothing => nothing

/-- A statement whose condition is not carried out counts no row and leaves the table as it is. -/
theorem execute_refuses (fuzzy : Bool) (table : Table) (hf : s.filter = some filter)
    (h : filter.refusal? = some error) :
    (execute fuzzy table s).Refuses error fun result => result.1.count = 0 ∧ result.2 = table := by
  rw [execute_eq_plan]
  refine (plan_refuses fuzzy table.headers hf h).map fun p nothing => ?_
  have count : (p.answer table).count = 0 := by
    rw [p.count_answer_eq_countP, nothing, List.countP_false]
    rfl
  exact ⟨count, p.after_eq_self (.inr count)⟩

end

/-! ## Conditions of queries -/

/-- A statement without a condition is read from tokens only, and WHERE is none of them. -/
theorem lex_of_filter_eq_none {query : String} {s : Statement} (h : parse query = .ok s)
    (hf : s.filter = none) :
    .ok (.keyword .where_) ∉ lex query ∧ ∀ fault, .error fault ∉ lex query := by
  refine ⟨?_, fun fault hm => ?_⟩
  · rcases filter_of_parse h with ⟨filter, -, -, e⟩ | ⟨absent, -⟩
    · rw [hf] at e
      cases e
    · exact absent
  · obtain ⟨rest, filter, last, ⟨front, items, -⟩, hc, ended, e⟩ := exists_heads_of_parse h
    rw [items] at hm
    rcases List.mem_append.1 hm with hm | hm
    · obtain ⟨token, -, e⟩ := List.mem_map.1 hm
      cases e
    · -- without a condition what is left of the items is the end of the query
      rw [hf] at e
      unfold condition at hc
      split at hc
      · obtain ⟨found, -, made⟩ := bind_eq_ok.1 hc
        cases made
        cases e
      · cases hc
        rcases atEnd_eq_ok_iff.1 ended with rfl | rfl
        · cases hm
        · cases List.mem_singleton.1 hm

/-- No condition is lost. A query that is read as a statement without a condition holds no WHERE and
nothing that is no token. A condition of a query that is not carried out is about no row: unless a
column is missing, the statement counts no row and there is one remark on the condition, which
begins with the error that tells its clause or its operator; the table stays as it is. A deletion
without a condition is refused. -/
theorem condition_never_dropped [PatternLibrary] :
    (∀ query s, parse query = .ok s → s.filter = none →
      .ok (.keyword .where_) ∉ lex query ∧ ∀ fault, .error fault ∉ lex query) ∧
    (∀ query s filter error, parse query = .ok s → s.filter = some filter →
      filter.refusal? = some error →
        ((∃ reason, error = .invalidClause (clauseText (tokensOf (clauseOf query))) reason) ∨
          ∃ text, .ok (.operator text) ∈ clauseOf query ∧ error = .unsupportedOperator text) ∧
        ∀ fuzzy table,
          (execute fuzzy table s).Refuses error (fun result =>
            result.1.count = 0 ∧ result.2 = table) ∧
          tableAfter table (execute fuzzy table s) = table) ∧
    ∀ fuzzy table tableRef,
      (execute fuzzy table (.delete tableRef none)).result = .error .unsafeDelete ∧
        tableAfter table (execute fuzzy table (.delete tableRef none)) = table := by
  refine ⟨fun query s h hf => lex_of_filter_eq_none h hf, fun query s filter error h hf hr => ?_,
    fun fuzzy table tableRef => ⟨rfl, rfl⟩⟩
  rcases filter_of_parse h with ⟨found, -, made, e⟩ | ⟨-, absent⟩
  · obtain rfl := Option.some.inj (hf.symm.trans e)
    refine ⟨refusal_of_ofItems made hr, fun fuzzy table => ?_⟩
    have refused := execute_refuses fuzzy table hf hr
    refine ⟨refused, ?_⟩
    cases refused with
    | missing missing failed column => rw [tableAfter, failed]
    | remarked result remark comes nothing once begins =>
      rw [tableAfter, comes]
      exact nothing.2
  · rw [absent] at hf
    cases hf

/-- An operator that is not known, behind a name in letters of another case; and no condition. -/
theorem condition_never_dropped_unknown_operator :
    parse "UPDATE t SET age = 9 WHERE AGE => 2" =
      .ok (.update "t" "age" "9" (some (.predicate (.compare "AGE" (.unknown "=>") "2")))) ∧
    (execute true ⟨["Age"], [.ofList [("Age", .int 3)]], false⟩
        (.update "t" "age" "9" (some (.predicate (.compare "AGE" (.unknown "=>") "2"))))).Refuses
      (.unsupportedOperator "=>") (fun result => result.1.count = 0 ∧
        result.2 = ⟨["Age"], [.ofList [("Age", .int 3)]], false⟩) ∧
    .ok (.keyword .where_) ∉ lex "UPDATE t SET a = 'WHERE';" := by
  have read : parse "UPDATE t SET age = 9 WHERE AGE => 2" =
      .ok (.update "t" "age" "9" (some (.predicate (.compare "AGE" (.unknown "=>") "2")))) := by
    decide +kernel
  have plain : parse "UPDATE t SET a = 'WHERE';" = .ok (.update "t" "a" "WHERE" none) := by
    decide +kernel
  exact ⟨read, ((condition_never_dropped.2.1 _ _ _ _ read rfl rfl).2 true _).1,
    (condition_never_dropped.1 _ _ plain rfl).1⟩

end TableQuery.Query
