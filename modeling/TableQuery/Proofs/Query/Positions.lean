import TableQuery.Proofs.Query.Plan

/-!
# The rows that statements are about

A condition selects rows by their positions, which are in increasing order. A selection shows the
rows at the positions, a deletion leaves the others, and an update sets one cell in each row at the
positions. So the three kinds of statements agree on the rows that a condition is about.

* `rowsAt`, `othersOf`: the rows at positions, and the other positions;
* `rowsAt_positions`: the rows at the positions of a test are the rows that pass it;
* `result_predicate`: the rows that a predicate selects, by its test on cells;
* `result_select_all`, `result_update`, `result_delete`: what comes of a statement, by its test;
* `same_rows_of_filter`: the three kinds of statements with one condition.
-/

namespace TableQuery.Query

/-- The rows at the positions, in the order of the positions. -/
def rowsAt (rows : List Row) (indices : List Nat) : List Row :=
  indices.filterMap (rows[·]?)

/-- The positions of the rows that are not among these, in increasing order. -/
def othersOf (rows : List Row) (indices : List Nat) : List Nat :=
  (List.range rows.length).filter (· ∉ indices)

/-- The rows are the old ones but for the cell of one column, which is set in the rows at the
positions. -/
def SetsCells (old new : List Row) (indices : List Nat) (column : String) (cell : Cell) : Prop :=
  new.length = old.length ∧
    ∀ (i : Nat) (_ : i < old.length) (_ : i < new.length) (key : String),
      new[i].get? key = if i ∈ indices ∧ key = column then some cell else old[i].get? key

/-! ## Positions -/

section

variable {test : Row → Bool} {rows : List Row} {i : Nat}

theorem mem_positions : i ∈ positions test rows ↔ ∃ row, rows[i]? = some row ∧ test row = true := by
  rw [positions, List.mem_filter, Option.any_eq_true, List.mem_range]
  exact ⟨And.right, fun ⟨row, h, ht⟩ => ⟨(List.getElem?_eq_some_iff.1 h).1, row, h, ht⟩⟩

theorem lt_of_mem_positions (h : i ∈ positions test rows) : i < rows.length :=
  List.mem_range.1 (List.mem_filter.1 h).1

theorem pairwise_positions (test : Row → Bool) (rows : List Row) :
    (positions test rows).Pairwise (· < ·) :=
  List.pairwise_lt_range.filter _

theorem positions_cons (test : Row → Bool) (row : Row) (rows : List Row) :
    positions test (row :: rows) =
      (if test row then [0] else []) ++ (positions test rows).map Nat.succ := by
  rw [positions, List.length_cons, List.range_succ_eq_map, List.filter_cons, List.filter_map]
  show (if test row then _ else _) = _
  split <;> rfl

theorem rowsAt_map_succ (row : Row) (rows : List Row) (indices : List Nat) :
    rowsAt (row :: rows) (indices.map Nat.succ) = rowsAt rows indices := by
  rw [rowsAt, List.filterMap_map]
  rfl

/-- The rows at the positions of a test are the rows that pass it. -/
theorem rowsAt_positions (test : Row → Bool) (rows : List Row) :
    rowsAt rows (positions test rows) = rows.filter test := by
  induction rows with
  | nil => rfl
  | cons row rows ih =>
    rw [positions_cons, rowsAt, List.filterMap_append]
    show _ ++ rowsAt (row :: rows) _ = _
    rw [rowsAt_map_succ, ih, List.filter_cons]
    split <;> rfl

theorem length_positions (test : Row → Bool) (rows : List Row) :
    (positions test rows).length = rows.countP test := by
  induction rows with
  | nil => rfl
  | cons row rows ih =>
    rw [positions_cons, List.length_append, List.length_map, ih, List.countP_cons, Nat.add_comm]
    split <;> rfl

/-- The other positions are those of the rows that do not pass. -/
theorem othersOf_positions (test : Row → Bool) (rows : List Row) :
    othersOf rows (positions test rows) = positions (!test ·) rows := by
  refine List.filter_congr fun i hi => ?_
  have row := List.getElem?_eq_getElem (List.mem_range.1 hi)
  rw [row, Option.any_some, Bool.eq_iff_iff, decide_eq_true_iff, mem_positions, row]
  simp

theorem rowsAt_othersOf (test : Row → Bool) (rows : List Row) :
    rowsAt rows (othersOf rows (positions test rows)) = rows.filter (!test ·) := by
  rw [othersOf_positions, rowsAt_positions]

/-- Setting a cell in the rows that pass sets it at their positions. -/
theorem setsCells_assign (test : Row → Bool) (column : String) (cell : Cell) (rows : List Row) :
    SetsCells rows (rows.map (assign test column cell)) (positions test rows) column cell := by
  refine ⟨List.length_map _, fun i ho _ key => ?_⟩
  have passes : i ∈ positions test rows ↔ test rows[i] = true := by
    rw [mem_positions, List.getElem?_eq_getElem ho]
    simp
  rw [List.getElem_map, assign]
  by_cases h : test rows[i] = true
  · rw [if_pos h, Row.get?_insert]
    exact if_congr (and_iff_right (passes.2 h)).symm rfl rfl
  · rw [if_neg h, if_neg fun both => h (passes.1 both.1)]

end

/-! ## Predicates -/

/-- The positions of the rows whose cell in the column passes a test. -/
def passing (rows : List Row) (column : String) (test : Cell → Bool) : List Nat :=
  positions (fun row => test (row.cell column)) rows

/-- What comes of a predicate: its column is looked for, then its cells are tested. -/
theorem result_predicate [PatternLibrary] (scope : Scope) (p : Predicate) (rows : List Row) :
    (matchingRows scope (some (.predicate p)) rows).result =
      (scope.resolve p.column).result >>= fun column =>
        p.cellTest.result.map (passing rows column) := by
  rw [matchingRows, map_eq_pure_bind, Outcome.result_bind]
  simp only [rowTest, Filter.rowTest, Outcome.result_bind, Outcome.result_pure]
  cases (scope.resolve p.column).result with
  | error e => rfl
  | ok column => cases p.cellTest.result <;> rfl

section

variable {rows : List Row} {column : String} {test : Cell → Bool} {i : Nat}

theorem mem_passing :
    i ∈ passing rows column test ↔ ∃ row, rows[i]? = some row ∧ test (row.cell column) = true :=
  mem_positions

/-- Tests that agree on the cells of a column pass the same rows. -/
theorem passing_congr {test' : Cell → Bool}
    (same : ∀ row ∈ rows, test (row.cell column) = test' (row.cell column)) :
    passing rows column test = passing rows column test' := by
  refine List.filter_congr fun i hi => ?_
  have row := List.getElem?_eq_getElem (List.mem_range.1 hi)
  rw [row, Option.any_some, Option.any_some]
  exact same _ (List.getElem_mem _)

end

/-! ## Statements by their tests -/

section

variable (fuzzy : Bool) (table : Table) (tableRef : String)

theorem result_noteTableName (scope : Scope) : (noteTableName scope).result = .ok () := by
  rw [noteTableName]
  split <;> rfl

variable [PatternLibrary]

theorem result_select_all (filter : Option Filter) :
    (execute fuzzy table (.select .all tableRef filter)).result =
      (rowTest ⟨table.headers, tableRef, fuzzy⟩ filter).result.map fun test =>
        (.selected table.headers (table.rows.filter test), table) := by
  simp only [execute, select, Outcome.result_bind, result_noteTableName, Projection.resolve,
    Outcome.result_pure]
  cases (rowTest ⟨table.headers, tableRef, fuzzy⟩ filter).result with
  | error e => rfl
  | ok test =>
    exact congrArg (fun rows => Except.ok (Answer.selected table.headers rows, table)) (if_pos rfl)

theorem result_delete (filter : Filter) :
    (execute fuzzy table (.delete tableRef (some filter))).result =
      (rowTest ⟨table.headers, tableRef, fuzzy⟩ (some filter)).result.map fun test =>
        (.deleted (table.rows.countP test),
          { table with rows := table.rows.filter (!test ·) }) := by
  simp only [execute, delete, Outcome.result_bind, Outcome.result_pure]
  cases (rowTest ⟨table.headers, tableRef, fuzzy⟩ (some filter)).result <;> rfl

theorem result_update {name target : String} (value : String) (filter : Option Filter)
    (h : (Scope.resolve ⟨table.headers, tableRef, fuzzy⟩ name).result = .ok target) :
    (execute fuzzy table (.update tableRef name value filter)).result =
      (rowTest ⟨table.headers, tableRef, fuzzy⟩ filter).result.map fun test =>
        (.updated target (table.rows.countP test),
          { table with rows := table.rows.map (assign test target (Cell.infer value)) }) := by
  simp only [execute, update, Outcome.result_bind, Outcome.result_pure, h]
  cases (rowTest ⟨table.headers, tableRef, fuzzy⟩ filter).result <;> rfl

end

/-- Statements of the three kinds with one condition are about the rows at the positions. -/
structure ActOn [PatternLibrary] (fuzzy : Bool) (table : Table) (tableRef : String)
    (filter : Filter) (indices : List Nat) : Prop where
  increasing : indices.Pairwise (· < ·)
  inRange : ∀ i ∈ indices, i < table.rows.length
  matching : (matchingRows ⟨table.headers, tableRef, fuzzy⟩ (some filter) table.rows).result =
    .ok indices
  /-- A selection of all columns shows these rows. -/
  selects : (execute fuzzy table (.select .all tableRef (some filter))).result =
    .ok (.selected table.headers (rowsAt table.rows indices), table)
  /-- A deletion leaves the other rows. -/
  deletes : (execute fuzzy table (.delete tableRef (some filter))).result =
    .ok (.deleted indices.length,
      { table with rows := rowsAt table.rows (othersOf table.rows indices) })
  /-- An update of a column sets its cell in these rows and leaves all the rest. -/
  updates : ∀ name literal target,
    (Scope.resolve ⟨table.headers, tableRef, fuzzy⟩ name).result = .ok target →
      ∃ after, (execute fuzzy table (.update tableRef name literal (some filter))).result =
          .ok (.updated target indices.length, after) ∧
        after.headers = table.headers ∧ after.synthetic = table.synthetic ∧
        SetsCells table.rows after.rows indices target (Cell.infer literal)

/-- The three kinds of statements with one condition are about the same rows. If the condition
cannot be evaluated, a selection and a deletion fail with the same error. -/
theorem same_rows_of_filter [PatternLibrary] (fuzzy : Bool) (table : Table) (tableRef : String)
    (filter : Filter) :
    (∃ error, (matchingRows ⟨table.headers, tableRef, fuzzy⟩ (some filter) table.rows).result =
        .error error ∧
      (execute fuzzy table (.select .all tableRef (some filter))).result = .error error ∧
      (execute fuzzy table (.delete tableRef (some filter))).result = .error error) ∨
    ∃ indices, ActOn fuzzy table tableRef filter indices := by
  cases h : (rowTest ⟨table.headers, tableRef, fuzzy⟩ (some filter)).result with
  | error error =>
    refine .inl ⟨error, ?_, ?_, ?_⟩
    · rw [matchingRows, Outcome.map_of_error h]
    · rw [result_select_all, h, Except.map]
    · rw [result_delete, h, Except.map]
  | ok test =>
    refine .inr ⟨positions test table.rows, {
      increasing := pairwise_positions test table.rows
      inRange := fun _ hi => lt_of_mem_positions hi
      matching := ?_
      selects := ?_
      deletes := ?_
      updates := fun name literal target resolved => ?_ }⟩
    · rw [matchingRows, Outcome.map_of_ok h]
    · rw [result_select_all, h, Except.map, rowsAt_positions]
    · rw [result_delete, h, Except.map, length_positions, rowsAt_othersOf]
    · refine ⟨{ table with rows := table.rows.map (assign test target (Cell.infer literal)) }, ?_,
        rfl, rfl, setsCells_assign test target (Cell.infer literal) table.rows⟩
      rw [result_update fuzzy table tableRef literal (some filter) resolved, h, Except.map,
        length_positions]

theorem same_rows_of_filter_greater :
    ActOn true ⟨["id", "name"], [.ofList [("id", .int 3)], .ofList [("id", .int 1)],
      .ofList [("id", .int 2), ("name", .string "b")]], false⟩ "t"
      (.predicate (.compare "ID" (.known .greater) "1")) [0, 2] := by
  have matching : (matchingRows ⟨["id", "name"], "t", true⟩
      (some (.predicate (.compare "ID" (.known .greater) "1")))
      [.ofList [("id", .int 3)], .ofList [("id", .int 1)],
        .ofList [("id", .int 2), ("name", .string "b")]]).result = .ok [0, 2] := by
    decide +kernel
  rcases same_rows_of_filter true ⟨["id", "name"], [.ofList [("id", .int 3)],
      .ofList [("id", .int 1)], .ofList [("id", .int 2), ("name", .string "b")]], false⟩ "t"
      (.predicate (.compare "ID" (.known .greater) "1")) with ⟨error, failed, -⟩ | ⟨indices, acts⟩
  · cases failed.symm.trans matching
  · cases Except.ok.inj (acts.matching.symm.trans matching)
    exact acts

end TableQuery.Query
