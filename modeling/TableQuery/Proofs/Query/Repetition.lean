import TableQuery.Proofs.Query.History
import TableQuery.Proofs.Query.InPlace

/-!
# Statements once more

What a statement comes to depends on the names of the columns, which no statement changes. So when a
statement is carried out once more it has the same plan, with the same remarks. A row is tested and
changed on its own: one that was set either passes no more, or it passes and the same cell is set
again; one that did not pass was left as it was and does not pass now; and one that was taken away
is not there. So nothing is changed the second time.

* `assign_assign`: a row that is set twice;
* `Plan.after_after`, `Plan.count_answer_after_le`: a plan that is applied twice;
* `execute_after`: a statement that is carried out once more;
* `tableAfterAll_replicate`: and any number of times, by induction;
* `changes_idempotent`: in memory.
-/

namespace TableQuery

theorem Row.insert_insert (row : Row) (name : String) (cell : Cell) :
    (row.insert name cell).insert name cell = row.insert name cell := by
  refine ext_get? fun key => ?_
  rw [get?_insert, get?_insert]
  split <;> rfl

namespace Query

/-! ## Rows -/

section

variable (test : Row → Bool) (column : String) (cell : Cell)

/-- Setting the cell again changes nothing, whether the row passes again or not. -/
theorem assign_assign (row : Row) :
    assign test column cell (assign test column cell row) = assign test column cell row := by
  by_cases before : test row = true
  · have set : assign test column cell row = row.insert column cell := if_pos before
    rw [set, assign]
    split
    · exact row.insert_insert column cell
    · rfl
  · have kept : assign test column cell row = row := if_neg before
    rw [kept, kept]

/-- A row that passes after it was set, or not, has passed before. -/
theorem test_of_test_assign {row : Row} (h : test (assign test column cell row) = true) :
    test row = true := by
  by_contra before
  have kept : assign test column cell row = row := if_neg before
  rw [kept] at h
  exact before h

end

/-! ## Plans -/

namespace Plan

variable (p : Plan) (t : Table)

/-- A plan that is applied again changes nothing. -/
theorem after_after : p.after (p.after t) = p.after t := by
  cases p with
  | select columns test => rfl
  | update column cell test =>
    have rows : (t.rows.map (assign test column cell)).map (assign test column cell) =
        t.rows.map (assign test column cell) := by
      rw [List.map_map]
      exact List.map_congr_left fun row _ => assign_assign test column cell row
    exact congrArg (fun rows => { t with rows := rows }) rows
  | delete test =>
    have rows : (t.rows.filter (!test ·)).filter (!test ·) = t.rows.filter (!test ·) := by
      rw [List.filter_filter]
      simp only [Bool.and_self]
    exact congrArg (fun rows => { t with rows := rows }) rows

/-- No row passes that did not pass the first time. -/
theorem count_answer_after_le : (p.answer (p.after t)).count ≤ (p.answer t).count := by
  cases p with
  | select columns test => exact Nat.le_refl _
  | update column cell test =>
    show (t.rows.map (assign test column cell)).countP test ≤ t.rows.countP test
    rw [List.countP_map]
    exact List.countP_mono_left fun row _ => test_of_test_assign test column cell
  | delete test =>
    have sublist : (t.rows.filter (!test ·)).Sublist t.rows := List.filter_sublist
    exact sublist.countP_le

theorem count_answer_after_of_delete (h : (p.answer t).kind = .delete) :
    (p.answer (p.after t)).count = 0 := by
  cases p with
  | select columns test => cases h
  | update column cell test => cases h
  | delete test =>
    show (t.rows.filter (!test ·)).countP test = 0
    refine List.countP_eq_zero.2 fun row hr => ?_
    have others : (!test row) = true := (List.mem_filter.1 hr).2
    simpa using others

end Plan

/-! ## Statements -/

section

variable [PatternLibrary] {fuzzy : Bool} {table after : Table} {s : Statement} {answer : Answer}

/-- A statement that was carried out comes, once more, to the same remarks and leaves the table. -/
theorem execute_after (h : (execute fuzzy table s).result = .ok (answer, after)) :
    ∃ again, execute fuzzy after s = ⟨(execute fuzzy table s).diagnostics, .ok (again, after)⟩ ∧
      again.kind = s.kind ∧ again.count ≤ answer.count ∧ (s.kind = .delete → again.count = 0) := by
  obtain ⟨p, planned, rfl, rfl⟩ := exists_plan_of_execute h
  have kind := kind_answer_of_plan planned
  refine ⟨p.answer (p.after table), ?_, kind _, p.count_answer_after_le table,
    fun delete => p.count_answer_after_of_delete table ((kind table).trans delete)⟩
  rw [execute_of_plan planned (p.headers_after table), execute_of_plan planned rfl, p.after_after]

/-- The table that a statement leaves is the one that it leaves however often it is repeated. -/
theorem tableAfterAll_replicate (h : (execute fuzzy table s).result = .ok (answer, after))
    (n : Nat) : tableAfterAll fuzzy table (List.replicate (n + 1) s) = after := by
  rw [List.replicate_succ, tableAfterAll, tableAfter_of_ok h]
  induction n with
  | zero => rfl
  | succ n ih =>
    obtain ⟨again, repeated, -⟩ := execute_after h
    have same : tableAfter after (execute fuzzy after s) = after :=
      tableAfter_of_ok (by rw [repeated])
    rw [List.replicate_succ, tableAfterAll, same]
    exact ih

/-- A statement that was carried out once can be carried out again and again. Each time it makes the
same remarks and leaves the table that it left the first time, in memory too, whether its condition
is on the column that it sets or not. It counts no more rows than before, and a deletion counts
none. -/
theorem changes_idempotent (h : (execute fuzzy table s).result = .ok (answer, after)) :
    ∃ again, execute fuzzy after s = ⟨(execute fuzzy table s).diagnostics, .ok (again, after)⟩ ∧
      again.kind = s.kind ∧ again.count ≤ answer.count ∧ (s.kind = .delete → again.count = 0) ∧
      (∀ n, tableAfterAll fuzzy table (List.replicate (n + 1) s) = after) ∧
      ∀ remarks, (InPlace.execute fuzzy s).run ((InPlace.execute fuzzy s).run ⟨table, remarks⟩).2 =
        (.ok again, ⟨after, remarks ++ (execute fuzzy table s).diagnostics ++
          (execute fuzzy table s).diagnostics⟩) := by
  obtain ⟨again, repeated, kind, le, none⟩ := execute_after h
  refine ⟨again, repeated, kind, le, none, tableAfterAll_replicate h, fun remarks => ?_⟩
  rw [execute_refines fuzzy table s remarks, tableAfter_of_ok h, execute_refines fuzzy after s,
    repeated]
  rfl

end

/-- An update of the column that its condition is on, after which no row passes, and a deletion. -/
theorem changes_idempotent_own_column :
    (execute true ⟨["n"], [.ofList [("n", .int 1)], .ofList [("n", .int 30)]], false⟩
      (.update "t" "N" "3" (some (.predicate (.compare "n" (.known .greater) "4"))))).result =
        .ok (.updated "n" 1, ⟨["n"], [.ofList [("n", .int 1)], .ofList [("n", .int 3)]], false⟩) ∧
    (execute true ⟨["n"], [.ofList [("n", .int 1)], .ofList [("n", .int 3)]], false⟩
      (.update "t" "N" "3" (some (.predicate (.compare "n" (.known .greater) "4"))))) =
        ⟨[.columnReplaced "N" "n"], .ok (.updated "n" 0,
          ⟨["n"], [.ofList [("n", .int 1)], .ofList [("n", .int 3)]], false⟩)⟩ ∧
    ∀ n, tableAfterAll true ⟨["n"], [.ofList [("n", .int 1)], .ofList [("n", .int 3)]], false⟩
      (List.replicate (n + 1) (.delete "t" (some (.predicate (.like "n" "3%"))))) =
        ⟨["n"], [.ofList [("n", .int 1)]], false⟩ := by
  have updated : (execute true ⟨["n"], [.ofList [("n", .int 1)], .ofList [("n", .int 30)]], false⟩
      (.update "t" "N" "3" (some (.predicate (.compare "n" (.known .greater) "4"))))).result =
        .ok (.updated "n" 1,
          ⟨["n"], [.ofList [("n", .int 1)], .ofList [("n", .int 3)]], false⟩) := by
    decide +kernel
  have remarks : (execute true ⟨["n"], [.ofList [("n", .int 1)], .ofList [("n", .int 30)]], false⟩
      (.update "t" "N" "3" (some (.predicate (.compare "n" (.known .greater) "4"))))).diagnostics =
        [.columnReplaced "N" "n"] := by
    decide +kernel
  have counted : (execute true ⟨["n"], [.ofList [("n", .int 1)], .ofList [("n", .int 3)]], false⟩
      (.update "t" "N" "3" (some (.predicate (.compare "n" (.known .greater) "4"))))).result.map
        Prod.fst = .ok (.updated "n" 0) := by
    decide +kernel
  have deleted : (execute true ⟨["n"], [.ofList [("n", .int 1)], .ofList [("n", .int 3)]], false⟩
      (.delete "t" (some (.predicate (.like "n" "3%"))))).result =
        .ok (.deleted 1, ⟨["n"], [.ofList [("n", .int 1)]], false⟩) := by
    decide +kernel
  obtain ⟨again, repeated, -⟩ := changes_idempotent updated
  obtain ⟨-, -, -, -, -, left, -⟩ := changes_idempotent deleted
  refine ⟨updated, ?_, left⟩
  rw [repeated] at counted
  have none : again = .updated "n" 0 := Except.ok.inj counted
  rw [repeated, remarks, none]

end Query

end TableQuery
