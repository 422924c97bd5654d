import TableQuery.Proofs.Query.History
import TableQuery.Proofs.Query.InPlace

/-!
# Statements row by row

Whether a statement can be carried out, and what is remarked on it, depends on the names of the
columns only. What is done with a row depends on that row only. So a table may be cut between any
two of its rows: a statement does with the whole table what it does with the part above and with the
part below, and its remarks are made once.

* `Joined`: the outcomes on the two parts and on the whole;
* `Plan.joins_answer`, `Plan.after_append`: a plan on the two parts and on the whole;
* `joined_execute`, `tableAfter_append`: a statement, and what it leaves whether it fails or not;
* `tableAfterAll_append_rows`: statements one after the other, by induction on them;
* `execute_row_by_row`: all this, and the table in memory.
-/

namespace TableQuery.Query

/-- The answers for some rows and for further rows, and the one for all of them: the selected rows
follow each other and the numbers of rows are added. -/
inductive Answer.Joins : Answer → Answer → Answer → Prop
  | selected (columns : List String) (rows more : List Row) :
      Joins (.selected columns rows) (.selected columns more) (.selected columns (rows ++ more))
  | updated (column : String) (m n : Nat) :
      Joins (.updated column m) (.updated column n) (.updated column (m + n))
  | deleted (m n : Nat) : Joins (.deleted m) (.deleted n) (.deleted (m + n))

/-- The outcomes on some rows and on further rows below them, and the one on all of them. The
remarks are the same. Either all fail with the same error, or the answers and the rows that are left
are put together. -/
inductive Joined (headers : List String) (synthetic : Bool) :
    (upper lower whole : Outcome (Answer × Table)) → Prop
  | failed (remarks : List Diagnostic) (e : QueryError) :
      Joined headers synthetic ⟨remarks, .error e⟩ ⟨remarks, .error e⟩ ⟨remarks, .error e⟩
  | done (remarks : List Diagnostic) {a b c : Answer} (joins : a.Joins b c)
      (rows more : List Row) :
      Joined headers synthetic ⟨remarks, .ok (a, ⟨headers, rows, synthetic⟩)⟩
        ⟨remarks, .ok (b, ⟨headers, more, synthetic⟩)⟩
        ⟨remarks, .ok (c, ⟨headers, rows ++ more, synthetic⟩)⟩

section

variable {headers : List String} {synthetic : Bool} {upper lower : List Row}

/-! ## Plans -/

namespace Plan

theorem selection_append (columns : List String) (test : Row → Bool) :
    selection columns test ⟨headers, upper ++ lower, synthetic⟩ =
      selection columns test ⟨headers, upper, synthetic⟩ ++
        selection columns test ⟨headers, lower, synthetic⟩ := by
  simp only [selection, List.filter_append, List.map_append]
  split <;> rfl

/-- The answer of a plan for all rows is put together from those for the parts. -/
theorem joins_answer (p : Plan) :
    (p.answer ⟨headers, upper, synthetic⟩).Joins (p.answer ⟨headers, lower, synthetic⟩)
      (p.answer ⟨headers, upper ++ lower, synthetic⟩) := by
  cases p with
  | select columns test =>
    rw [answer, answer, answer, selection_append]
    exact .selected columns _ _
  | update column cell test =>
    simp only [answer, List.countP_append]
    exact .updated column _ _
  | delete test =>
    simp only [answer, List.countP_append]
    exact .deleted _ _

theorem after_eq_mk (p : Plan) (rows : List Row) : p.after ⟨headers, rows, synthetic⟩ =
    ⟨headers, (p.after ⟨headers, rows, synthetic⟩).rows, synthetic⟩ := by
  cases p <;> rfl

/-- The rows that a plan leaves are those that it leaves of the parts. -/
theorem after_append (p : Plan) : p.after ⟨headers, upper ++ lower, synthetic⟩ =
    ⟨headers, (p.after ⟨headers, upper, synthetic⟩).rows ++
      (p.after ⟨headers, lower, synthetic⟩).rows, synthetic⟩ := by
  cases p with
  | select columns test => rfl
  | update column cell test => simp only [after, List.map_append]
  | delete test => simp only [after, List.filter_append]

end Plan

/-! ## Statements -/

theorem joined_execute [PatternLibrary] (fuzzy : Bool) (s : Statement) :
    Joined headers synthetic (execute fuzzy ⟨headers, upper, synthetic⟩ s)
      (execute fuzzy ⟨headers, lower, synthetic⟩ s)
      (execute fuzzy ⟨headers, upper ++ lower, synthetic⟩ s) := by
  simp only [execute_eq_plan]
  cases planned : (plan fuzzy headers s).result with
  | error e =>
    simp only [Outcome.map_of_error planned]
    exact .failed _ e
  | ok p =>
    simp only [Outcome.map_of_ok planned]
    rw [p.after_append, p.after_eq_mk upper, p.after_eq_mk lower]
    exact .done _ p.joins_answer _ _

/-- The tables that are left of the parts and of the whole, if the outcomes are joined. -/
theorem Joined.tableAfter {u l w : Outcome (Answer × Table)} (h : Joined headers synthetic u l w) :
    tableAfter ⟨headers, upper ++ lower, synthetic⟩ w =
      ⟨headers, (tableAfter ⟨headers, upper, synthetic⟩ u).rows ++
        (tableAfter ⟨headers, lower, synthetic⟩ l).rows, synthetic⟩ := by
  cases h <;> rfl

/-- The remarks on the whole are those on the upper part. -/
theorem Joined.diagnostics_eq {u l w : Outcome (Answer × Table)}
    (h : Joined headers synthetic u l w) : w.diagnostics = u.diagnostics := by
  cases h <;> rfl

/-! ## Runs -/

variable [PatternLibrary]

theorem tableAfter_eq_mk (fuzzy : Bool) (rows : List Row) (s : Statement) :
    tableAfter ⟨headers, rows, synthetic⟩ (execute fuzzy ⟨headers, rows, synthetic⟩ s) =
      ⟨headers, (tableAfter ⟨headers, rows, synthetic⟩
        (execute fuzzy ⟨headers, rows, synthetic⟩ s)).rows, synthetic⟩ := by
  have descends := descends_tableAfter fuzzy ⟨headers, rows, synthetic⟩ s
  rw [Table.mk.injEq]
  exact ⟨descends.headers, rfl, descends.synthetic⟩

/-- The parts go through a run of statements as the whole does. -/
theorem tableAfterAll_append_rows (fuzzy : Bool) (statements : List Statement) :
    tableAfterAll fuzzy ⟨headers, upper ++ lower, synthetic⟩ statements =
      ⟨headers, (tableAfterAll fuzzy ⟨headers, upper, synthetic⟩ statements).rows ++
        (tableAfterAll fuzzy ⟨headers, lower, synthetic⟩ statements).rows, synthetic⟩ := by
  induction statements generalizing upper lower with
  | nil => rfl
  | cons s rest ih =>
    rw [tableAfterAll, (joined_execute fuzzy s).tableAfter, ih, ← tableAfter_eq_mk,
      ← tableAfter_eq_mk]
    rfl

end

/-- A statement works row by row. On rows and further rows below them it fails with the error with
which it fails on the upper ones; or it makes the same remarks, selects, changes or takes away the
rows of both parts and leaves what it leaves of them, in memory too. So do statements that are
carried out one after the other, some of which may fail. -/
theorem execute_row_by_row [PatternLibrary] (fuzzy : Bool) (headers : List String)
    (synthetic : Bool) (upper lower : List Row) (s : Statement) :
    Joined headers synthetic (execute fuzzy ⟨headers, upper, synthetic⟩ s)
      (execute fuzzy ⟨headers, lower, synthetic⟩ s)
      (execute fuzzy ⟨headers, upper ++ lower, synthetic⟩ s) ∧
    (∀ earlier,
      ((InPlace.execute fuzzy s).run ⟨⟨headers, upper ++ lower, synthetic⟩, earlier⟩).2 =
        ⟨⟨headers,
          ((InPlace.execute fuzzy s).run ⟨⟨headers, upper, synthetic⟩, earlier⟩).2.table.rows ++
          ((InPlace.execute fuzzy s).run ⟨⟨headers, lower, synthetic⟩, earlier⟩).2.table.rows,
          synthetic⟩,
        ((InPlace.execute fuzzy s).run ⟨⟨headers, upper, synthetic⟩, earlier⟩).2.remarks⟩) ∧
    ∀ statements, tableAfterAll fuzzy ⟨headers, upper ++ lower, synthetic⟩ statements =
      ⟨headers, (tableAfterAll fuzzy ⟨headers, upper, synthetic⟩ statements).rows ++
        (tableAfterAll fuzzy ⟨headers, lower, synthetic⟩ statements).rows, synthetic⟩ := by
  have joined : Joined headers synthetic (execute fuzzy ⟨headers, upper, synthetic⟩ s)
      (execute fuzzy ⟨headers, lower, synthetic⟩ s)
      (execute fuzzy ⟨headers, upper ++ lower, synthetic⟩ s) := joined_execute fuzzy s
  refine ⟨joined, fun earlier => ?_, tableAfterAll_append_rows fuzzy⟩
  rw [execute_refines, execute_refines, execute_refines, joined.tableAfter,
    joined.diagnostics_eq]

/-- A deletion under a misspelt name, cut between two equal rows of which both are deleted. -/
theorem execute_row_by_row_equal_rows :
    execute true ⟨["name", "n"], [.ofList [("name", .string "b"), ("n", .int 1)],
        .ofList [("name", .string "x")]] ++ [.ofList [("name", .string "x")],
        .ofList [("name", .string "c")]], false⟩
      (.delete "t" (some (.predicate (.compare "nmae" (.known .equal) "X")))) =
    ⟨[.columnReplaced "nmae" "name"], .ok (.deleted (1 + 1), ⟨["name", "n"],
      [.ofList [("name", .string "b"), ("n", .int 1)]] ++ [.ofList [("name", .string "c")]],
      false⟩)⟩ := by
  have upper : execute true ⟨["name", "n"], [.ofList [("name", .string "b"), ("n", .int 1)],
      .ofList [("name", .string "x")]], false⟩
      (.delete "t" (some (.predicate (.compare "nmae" (.known .equal) "X")))) =
      ⟨[.columnReplaced "nmae" "name"], .ok (.deleted 1, ⟨["name", "n"],
        [.ofList [("name", .string "b"), ("n", .int 1)]], false⟩)⟩ := by
    rfl
  have lower : execute true ⟨["name", "n"], [.ofList [("name", .string "x")],
      .ofList [("name", .string "c")]], false⟩
      (.delete "t" (some (.predicate (.compare "nmae" (.known .equal) "X")))) =
      ⟨[.columnReplaced "nmae" "name"], .ok (.deleted 1, ⟨["name", "n"],
        [.ofList [("name", .string "c")]], false⟩)⟩ := by
    rfl
  have joined := (execute_row_by_row true ["name", "n"] false
    [.ofList [("name", .string "b"), ("n", .int 1)], .ofList [("name", .string "x")]]
    [.ofList [("name", .string "x")], .ofList [("name", .string "c")]]
    (.delete "t" (some (.predicate (.compare "nmae" (.known .equal) "X"))))).1
  rw [upper, lower] at joined
  generalize execute true _ _ = whole at joined ⊢
  cases joined with
  | done remarks joins rows more =>
    cases joins
    rfl

end TableQuery.Query
