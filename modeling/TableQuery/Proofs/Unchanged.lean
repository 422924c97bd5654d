import TableQuery.Proofs.Engine
import TableQuery.Proofs.Query.InPlace

/-!
# No change is reported, none is made

A statement that fails, that only selects, or that counts no row leaves the table in memory as it
is, also when it is carried out in place. A report that tells of an error, or of a change to no row,
gives back the text that the query was run on and does not write the table anew.

* `tableAfter_eq_self`: the table that such a statement leaves;
* `Report.of_ofAnswer`: what a report tells of a statement that was carried out;
* `unchanged_of_no_count`: tables in memory and texts of reports.
-/

namespace TableQuery

open Query (Answer Diagnostic InPlace Memory Outcome PatternLibrary QueryError Statement execute
  tableAfter)

/-- The table is left as it is by an error, a selection and a change that counts no row. -/
theorem Query.tableAfter_eq_self [PatternLibrary] {fuzzy : Bool} {table : Table} {s : Statement}
    (h : ∀ answer after, (execute fuzzy table s).result = .ok (answer, after) →
      s.kind = .select ∨ answer.count = 0) :
    tableAfter table (execute fuzzy table s) = table := by
  cases e : (execute fuzzy table s).result with
  | error error => rw [tableAfter, e]
  | ok result =>
    obtain ⟨answer, after⟩ := result
    have none := h answer after e
    rw [tableAfter_of_ok e]
    obtain ⟨p, hp, rfl, rfl⟩ := Query.exists_plan_of_execute e
    rw [← Query.kind_answer_of_plan hp table] at none
    exact p.after_eq_self none

namespace Report

variable {codec : Csv.Codec} {text : String} {answer : Answer} {after : Table} {report : Report}

/-- The report of a statement that was carried out tells of no error, gives back the text that a
selection was made from, and keeps the text if the answer does. -/
theorem of_ofAnswer (h : ofAnswer codec text answer after = .ok report) :
    report.error = none ∧ report.operation = some answer.kind ∧
      report.rowsAffected = answer.count ∧
      report.isProjection = decide (answer.kind = .select) ∧
      report.queriedText = (if answer.kind = .select then some text else none) ∧
      (keepsText answer = true → report.resultText = text) := by
  unfold ofAnswer at h
  cases keeps : keepsText answer with
  | true =>
    rw [keeps] at h
    cases h
    exact ⟨rfl, rfl, rfl, rfl, rfl, fun _ => rfl⟩
  | false =>
    rw [keeps] at h
    obtain ⟨written, -, e⟩ := Query.bind_eq_ok.1 h
    cases e
    exact ⟨rfl, rfl, rfl, rfl, rfl, nofun⟩

end Report

namespace Engine

variable {engine : Engine} {text query : String}

/-- A report of an error, or of a change to no row, gives back the text. -/
theorem resultText_eq_self [PatternLibrary] (h : (engine.run text query).error ≠ none ∨
    (engine.run text query).operation ≠ some .select ∧
      (engine.run text query).rowsAffected = 0) :
    (engine.run text query).resultText = text := by
  rw [run] at h ⊢
  cases e : (engine.outcome text query).result with
  | error error => rfl
  | ok report =>
    rw [e] at h
    rw [outcome, Outcome.result_bind_eq_ok] at e
    obtain ⟨⟨answer, after⟩, -, reported⟩ := e
    obtain ⟨no_error, operation, count, -, -, keeps⟩ := Report.of_ofAnswer reported
    obtain ⟨other, none⟩ := h.resolve_left fun error => error no_error
    refine keeps (Report.keepsText_eq_true_iff.2 ⟨fun kind => other ?_, count.symm.trans none⟩)
    exact operation.trans (congrArg some kind)

/-- No change is reported only if none is made. In memory: a statement that is carried out in place
does what `execute` says, and leaves the table as it is if it fails, selects or counts no row. In a
report: the text comes back if there is an error, or another operation than SELECT counts no row. -/
theorem unchanged_of_no_count [PatternLibrary] :
    (∀ (fuzzy : Bool) (table : Table) (statement : Statement) (remarks : List Diagnostic)
      (ran : Except QueryError Answer × Memory),
      ran = (InPlace.execute fuzzy statement).run ⟨table, remarks⟩ →
        ran.1 = (execute fuzzy table statement).result.map Prod.fst ∧
        ran.2.table = tableAfter table (execute fuzzy table statement) ∧
        ((∃ error, ran.1 = .error error) ∨ statement.kind = .select ∨
            (∃ answer, ran.1 = .ok answer ∧ answer.count = 0) →
          ran.2.table = table)) ∧
    ∀ (engine : Engine) (text query : String),
      ((engine.run text query).error ≠ none ∨
        (engine.run text query).operation ≠ some .select ∧
          (engine.run text query).rowsAffected = 0) →
      (engine.run text query).resultText = text := by
  refine ⟨fun fuzzy table statement remarks ran e => ?_,
    fun engine text query => resultText_eq_self⟩
  rw [Query.execute_refines fuzzy table statement remarks] at e
  rw [e]
  refine ⟨rfl, rfl, fun none => Query.tableAfter_eq_self fun answer after carried => ?_⟩
  rw [carried] at none
  obtain ⟨error, ⟨⟩⟩ | select | ⟨_, ⟨⟩, count⟩ := none
  · exact .inl select
  · exact .inr count

theorem unchanged_of_no_count_line_breaks :
    ((InPlace.execute true (.update "t" "B" "z" (some (.predicate (.compare "a" (.known .equal)
      "9"))))).run ⟨⟨["a", "b"], [.ofList [("a", .int 1)]], false⟩, []⟩).2.table =
        ⟨["a", "b"], [.ofList [("a", .int 1)]], false⟩ ∧
    (run ⟨⟨0x2C, .detect⟩, true⟩ "a,b\r\n1, x\r\n" "UPDATE t SET B = 'z' WHERE a = 9").resultText =
      "a,b\r\n1, x\r\n" := by
  have result : ((InPlace.execute true (.update "t" "B" "z" (some (.predicate (.compare "a"
      (.known .equal) "9"))))).run ⟨⟨["a", "b"], [.ofList [("a", .int 1)]], false⟩, []⟩).1 =
        .ok (.updated "b" 0) := by
    decide +kernel
  exact ⟨(unchanged_of_no_count.1 _ _ _ _ _ rfl).2.2 (.inr (.inr ⟨_, result, rfl⟩)),
    unchanged_of_no_count.2 _ _ _ (.inr (by decide +kernel))⟩

end Engine

end TableQuery
