import TableQuery.Proofs.Query.Projection
import TableQuery.Proofs.Table

/-!
# Plans

Carrying out a statement falls into two parts. First its names and its condition are resolved, which
looks at the names of the columns only, and may fail or make remarks. What comes of it is a plan: a
test on rows and what to do with the rows that pass. Then the plan is applied to the rows, which
cannot fail. So every property of statements is a property of plans.

* `execute_eq_plan`, `exists_plan_of_execute`: carrying out a statement is applying its plan;
* `comesTo_of_plan`: what the plan of a statement is made of;
* `fits_of_plan`: a plan names columns only, sets a cell that its text gives back and tests a row by
  its cells;
* `Plan.wellFormed_after`: it leaves a well-formed table well-formed;
* `Plan.alike_after`, `Plan.alike_answer`: it makes no difference between an absent cell and a null;
* `Plan.after_eq_self`: a plan that counts no row leaves the table as it is.
-/

namespace TableQuery.Query

/-- What a statement comes to on the columns of a table. -/
inductive Plan
  | select (columns : List String) (test : Row → Bool)
  | update (column : String) (cell : Cell) (test : Row → Bool)
  | delete (test : Row → Bool)

namespace Plan

/-- The rows of a selection. -/
def selection (columns : List String) (test : Row → Bool) (table : Table) : List Row :=
  if columns = table.headers then table.rows.filter test
  else (table.rows.filter test).map (project columns)

def answer (table : Table) : Plan → Answer
  | select columns test => .selected columns (selection columns test table)
  | update column _ test => .updated column (table.rows.countP test)
  | delete test => .deleted (table.rows.countP test)

/-- The table that the plan leaves. -/
def after (table : Table) : Plan → Table
  | select _ _ => table
  | update column cell test => { table with rows := table.rows.map (assign test column cell) }
  | delete test => { table with rows := table.rows.filter (!test ·) }

end Plan

theorem tableAfter_of_ok {table after : Table} {outcome : Outcome (Answer × Table)}
    {answer : Answer} (h : outcome.result = .ok (answer, after)) :
    tableAfter table outcome = after := by
  rw [tableAfter, h]

section

variable [PatternLibrary]

/-- The plan of a statement on a table with these columns. -/
def plan (fuzzy : Bool) (headers : List String) : Statement → Outcome Plan
  | .select projection tableRef filter => do
    noteTableName ⟨headers, tableRef, fuzzy⟩
    let columns ← projection.resolve ⟨headers, tableRef, fuzzy⟩
    let test ← rowTest ⟨headers, tableRef, fuzzy⟩ filter
    return .select columns test
  | .update tableRef name value filter => do
    let column ← Scope.resolve ⟨headers, tableRef, fuzzy⟩ name
    let test ← rowTest ⟨headers, tableRef, fuzzy⟩ filter
    return .update column (Cell.infer value) test
  | .delete _ none => Outcome.fail .unsafeDelete
  | .delete tableRef (some filter) => do
    let test ← rowTest ⟨headers, tableRef, fuzzy⟩ (some filter)
    return .delete test

/-- Carrying out a statement is making its plan and applying it. -/
theorem execute_eq_plan (fuzzy : Bool) (table : Table) (statement : Statement) :
    execute fuzzy table statement =
      (fun p : Plan => (p.answer table, p.after table)) <$> plan fuzzy table.headers statement := by
  cases statement with
  | select projection tableRef filter =>
    simp only [execute, Query.select, plan, map_eq_pure_bind, bind_assoc, pure_bind]
    rfl
  | update tableRef name value filter =>
    simp only [execute, Query.update, plan, map_eq_pure_bind, bind_assoc, pure_bind]
    rfl
  | delete tableRef filter =>
    cases filter with
    | none => rfl
    | some filter =>
      simp only [execute, Query.delete, plan, map_eq_pure_bind, bind_assoc, pure_bind]
      rfl

/-- A statement with a plan is carried out on every table with these columns. -/
theorem execute_of_plan {fuzzy : Bool} {headers : List String} {statement : Statement} {p : Plan}
    (h : (plan fuzzy headers statement).result = .ok p) {table : Table}
    (same : table.headers = headers) :
    execute fuzzy table statement =
      ⟨(plan fuzzy headers statement).diagnostics, .ok (p.answer table, p.after table)⟩ := by
  rw [execute_eq_plan, same, Outcome.map_of_ok h]

/-- A statement that was carried out had a plan. -/
theorem exists_plan_of_execute {fuzzy : Bool} {table after : Table} {statement : Statement}
    {answer : Answer} (h : (execute fuzzy table statement).result = .ok (answer, after)) :
    ∃ p, (plan fuzzy table.headers statement).result = .ok p ∧ answer = p.answer table ∧
      after = p.after table := by
  rw [execute_eq_plan, Outcome.result_map_eq_ok] at h
  obtain ⟨p, hp, e⟩ := h
  obtain ⟨rfl, rfl⟩ := Prod.mk.inj e
  exact ⟨p, hp, rfl, rfl⟩

/-- What a statement comes to: its names are resolved and its condition is made a test. -/
inductive ComesTo (fuzzy : Bool) (headers : List String) : Statement → Plan → Prop
  | select {projection : Projection} {tableRef : String} {filter : Option Filter}
      {columns : List String} {test : Row → Bool}
      (resolved : (projection.resolve ⟨headers, tableRef, fuzzy⟩).result = .ok columns)
      (tested : (rowTest ⟨headers, tableRef, fuzzy⟩ filter).result = .ok test) :
      ComesTo fuzzy headers (.select projection tableRef filter) (.select columns test)
  | update {tableRef name value column : String} {filter : Option Filter} {test : Row → Bool}
      (resolved : (Scope.resolve ⟨headers, tableRef, fuzzy⟩ name).result = .ok column)
      (tested : (rowTest ⟨headers, tableRef, fuzzy⟩ filter).result = .ok test) :
      ComesTo fuzzy headers (.update tableRef name value filter)
        (.update column (Cell.infer value) test)
  | delete {tableRef : String} {filter : Filter} {test : Row → Bool}
      (tested : (rowTest ⟨headers, tableRef, fuzzy⟩ (some filter)).result = .ok test) :
      ComesTo fuzzy headers (.delete tableRef (some filter)) (.delete test)

theorem comesTo_of_plan {fuzzy : Bool} {headers : List String} {statement : Statement} {p : Plan}
    (h : (plan fuzzy headers statement).result = .ok p) : ComesTo fuzzy headers statement p := by
  cases statement with
  | select projection tableRef filter =>
    simp only [plan, Outcome.result_bind_eq_ok] at h
    obtain ⟨_, -, columns, resolved, test, tested, e⟩ := h
    cases e
    exact .select resolved tested
  | update tableRef name value filter =>
    simp only [plan, Outcome.result_bind_eq_ok] at h
    obtain ⟨column, resolved, test, tested, e⟩ := h
    cases e
    exact .update resolved tested
  | delete tableRef filter =>
    cases filter with
    | none => cases h
    | some filter =>
      simp only [plan, Outcome.result_bind_eq_ok] at h
      obtain ⟨test, tested, e⟩ := h
      cases e
      exact .delete tested

/-- The answer of a plan is of the kind of its statement. -/
theorem kind_answer_of_plan {fuzzy : Bool} {headers : List String} {statement : Statement}
    {p : Plan} (h : (plan fuzzy headers statement).result = .ok p) (table : Table) :
    (p.answer table).kind = statement.kind := by
  cases comesTo_of_plan h <;> rfl

end

/-! ## What plans are like -/

/-- The test looks at the cells of a row and at nothing else. -/
def ReadsCells (test : Row → Bool) : Prop :=
  ∃ ofCells : (String → Cell) → Bool, ∀ row : Row, test row = ofCells row.cell

theorem readsCells_const (b : Bool) : ReadsCells fun _ => b :=
  ⟨fun _ => b, fun _ => rfl⟩

namespace Plan

/-- The plan names columns only, sets a cell that its text gives back and tests a row by its
cells. -/
def Fits (headers : List String) : Plan → Prop
  | select columns test => (∀ c ∈ columns, c ∈ headers) ∧ ReadsCells test
  | update column cell test => column ∈ headers ∧ cell.IsStable ∧ ReadsCells test
  | delete test => ReadsCells test

end Plan

section

variable [PatternLibrary]

theorem readsCells_of_filter {scope : Scope} {filter : Filter} {test : Row → Bool}
    (h : (filter.rowTest scope).result = .ok test) : ReadsCells test := by
  cases filter with
  | predicate p =>
    simp only [Filter.rowTest, Outcome.result_bind_eq_ok] at h
    obtain ⟨column, -, cellTest, -, e⟩ := h
    exact ⟨fun cells => cellTest (cells column), fun row => by rw [← Except.ok.inj e]⟩
  | invalid clause reason => cases h

theorem readsCells_of_rowTest {scope : Scope} {filter : Option Filter} {test : Row → Bool}
    (h : (rowTest scope filter).result = .ok test) : ReadsCells test := by
  unfold rowTest at h
  split at h
  · rw [← Except.ok.inj h]
    exact readsCells_const true
  · rw [Outcome.result_bind_eq_ok] at h
    obtain ⟨_, -, e⟩ := h
    rw [← Except.ok.inj e]
    exact readsCells_const false
  · exact readsCells_of_filter h

theorem fits_of_plan {fuzzy : Bool} {headers : List String} {statement : Statement} {p : Plan}
    (h : (plan fuzzy headers statement).result = .ok p) : p.Fits headers := by
  cases comesTo_of_plan h with
  | select columns test => exact ⟨mem_of_projection columns, readsCells_of_rowTest test⟩
  | update column test =>
    exact ⟨Scope.mem_of_resolve column, Cell.infer_text_infer _, readsCells_of_rowTest test⟩
  | delete test => exact readsCells_of_rowTest test

end

/-! ## What plans keep -/

/-- Answers with the same columns, counts and cells. -/
inductive Answer.Alike : Answer → Answer → Prop
  | selected (columns : List String) {rows rows' : List Row}
      (cells : rows.map Row.cell = rows'.map Row.cell) :
      Alike (.selected columns rows) (.selected columns rows')
  | updated (column : String) (count : Nat) : Alike (.updated column count) (.updated column count)
  | deleted (count : Nat) : Alike (.deleted count) (.deleted count)

namespace Answer

variable {a b : Answer}

theorem Alike.kind_eq (h : a.Alike b) : a.kind = b.kind := by
  cases h <;> rfl

theorem Alike.count_eq (h : a.Alike b) : a.count = b.count := by
  cases h with
  | selected columns cells =>
    have := congrArg List.length cells
    rwa [List.length_map, List.length_map] at this
  | updated column count => rfl
  | deleted count => rfl

end Answer

theorem cell_assign (test : Row → Bool) (column : String) (cell : Cell) (row : Row) :
    (assign test column cell row).cell =
      if test row then fun key => if key = column then cell else row.cell key else row.cell := by
  rw [assign]
  split
  · exact funext fun key => Row.cell_insert row column key cell
  · rfl

theorem project_eq (columns : List String) (row : Row) :
    project columns row = .ofList (columns.map fun name => (name, row.cell name)) :=
  rfl

namespace Plan

variable {p : Plan} {t u : Table}

@[simp] theorem headers_after (p : Plan) (t : Table) : (p.after t).headers = t.headers := by
  cases p <;> rfl

@[simp] theorem synthetic_after (p : Plan) (t : Table) : (p.after t).synthetic = t.synthetic := by
  cases p <;> rfl

/-- A plan leaves a well-formed table well-formed. -/
theorem wellFormed_after (hp : p.Fits t.headers) (h : t.WellFormed) : (p.after t).WellFormed := by
  cases p with
  | select columns test => exact h
  | update column cell test =>
    refine h.with_rows fun row hr => ?_
    obtain ⟨old, ho, rfl⟩ := List.mem_map.1 hr
    rw [assign]
    split
    · exact (h.fits old ho).insert hp.1 hp.2.1
    · exact h.fits old ho
  | delete test => exact h.with_rows fun row hr => h.fits row (List.mem_filter.1 hr).1

theorem map_cell_filter {test : Row → Bool} {ofCells : (String → Cell) → Bool}
    (ht : ∀ row : Row, test row = ofCells row.cell) (rows : List Row) :
    (rows.filter test).map Row.cell = (rows.map Row.cell).filter ofCells := by
  rw [List.filter_map]
  exact congrArg _ (List.filter_congr fun row _ => ht row)

theorem countP_eq {test : Row → Bool} {ofCells : (String → Cell) → Bool}
    (ht : ∀ row : Row, test row = ofCells row.cell) (rows : List Row) :
    rows.countP test = (rows.map Row.cell).countP ofCells := by
  rw [List.countP_map]
  exact List.countP_congr fun row _ => by rw [ht, Function.comp_apply]

/-- Alike tables are left alike. -/
theorem alike_after (hp : p.Fits t.headers) (h : t.Alike u) : (p.after t).Alike (p.after u) := by
  cases p with
  | select columns test => exact h
  | update column cell test =>
    obtain ⟨-, -, ofCells, ht⟩ := hp
    refine ⟨h.headers, h.synthetic, ?_⟩
    have set : ∀ rows : List Row, (rows.map (assign test column cell)).map Row.cell =
        (rows.map Row.cell).map fun cells =>
          if ofCells cells then fun key => if key = column then cell else cells key else cells := by
      intro rows
      rw [List.map_map, List.map_map]
      refine List.map_congr_left fun row _ => ?_
      rw [Function.comp_apply, Function.comp_apply, cell_assign, ht]
    show (t.rows.map (assign test column cell)).map Row.cell =
      (u.rows.map (assign test column cell)).map Row.cell
    rw [set, set, h.cells]
  | delete test =>
    obtain ⟨ofCells, ht⟩ := hp
    refine ⟨h.headers, h.synthetic, ?_⟩
    have kept : ∀ rows : List Row, (rows.filter (!test ·)).map Row.cell =
        (rows.map Row.cell).filter (!ofCells ·) :=
      map_cell_filter fun row => by rw [ht]
    show (t.rows.filter (!test ·)).map Row.cell = (u.rows.filter (!test ·)).map Row.cell
    rw [kept, kept, h.cells]

/-- A selection of alike tables has the same cells. -/
theorem map_cell_selection {columns : List String} {test : Row → Bool} (ht : ReadsCells test)
    (h : t.Alike u) :
    (selection columns test t).map Row.cell = (selection columns test u).map Row.cell := by
  obtain ⟨ofCells, ht⟩ := ht
  have rows : (t.rows.filter test).map Row.cell = (u.rows.filter test).map Row.cell := by
    rw [map_cell_filter ht, map_cell_filter ht, h.cells]
  have projected : ∀ rows : List Row, rows.map (project columns) =
      (rows.map Row.cell).map fun cells =>
        .ofList (columns.map fun name => (name, cells name)) := by
    intro rows
    rw [List.map_map]
    exact List.map_congr_left fun row _ => project_eq columns row
  rw [selection, selection, h.headers]
  split
  · exact rows
  · rw [projected, projected, rows]

/-- Alike tables give alike answers. -/
theorem alike_answer (hp : p.Fits t.headers) (h : t.Alike u) : (p.answer t).Alike (p.answer u) := by
  cases p with
  | select columns test => exact .selected columns (map_cell_selection hp.2 h)
  | update column cell test =>
    obtain ⟨-, -, ofCells, ht⟩ := hp
    have count : t.rows.countP test = u.rows.countP test := by
      rw [countP_eq ht, countP_eq ht, h.cells]
    rw [answer, answer, count]
    exact .updated column _
  | delete test =>
    obtain ⟨ofCells, ht⟩ := hp
    have count : t.rows.countP test = u.rows.countP test := by
      rw [countP_eq ht, countP_eq ht, h.cells]
    rw [answer, answer, count]
    exact .deleted _

/-- A plan counts rows of the table. -/
theorem count_answer_le (p : Plan) (t : Table) : (p.answer t).count ≤ t.rows.length := by
  cases p with
  | select columns test =>
    show (selection columns test t).length ≤ t.rows.length
    rw [selection]
    split
    · exact List.length_filter_le test t.rows
    · rw [List.length_map]
      exact List.length_filter_le test t.rows
  | update column cell test => exact List.countP_le_length
  | delete test => exact List.countP_le_length

/-- The rows that a test leaves and those that pass it are all. -/
theorem length_filter_not (test : Row → Bool) (rows : List Row) :
    (rows.filter (!test ·)).length + rows.countP test = rows.length := by
  have parts := List.length_eq_countP_add_countP test (l := rows)
  have others : rows.countP (!test ·) = rows.countP fun row => decide ¬test row = true :=
    List.countP_congr fun row _ => by simp
  rw [← List.countP_eq_length_filter]
  omega

/-- A plan leaves no more rows than there were. -/
theorem length_rows_after_le (p : Plan) (t : Table) :
    (p.after t).rows.length ≤ t.rows.length := by
  cases p with
  | select columns test => exact Nat.le_refl _
  | update column cell test => exact Nat.le_of_eq (List.length_map _)
  | delete test => exact List.length_filter_le _ t.rows

/-- A change that counts no row is none. -/
theorem after_eq_self (h : (p.answer t).kind = .select ∨ (p.answer t).count = 0) :
    p.after t = t := by
  cases p with
  | select columns test => rfl
  | update column cell test =>
    have none : ∀ row ∈ t.rows, ¬test row = true := List.countP_eq_zero.1 (h.resolve_left nofun)
    have rows : t.rows.map (assign test column cell) = t.rows :=
      (List.map_congr_left fun row hr => if_neg (none row hr)).trans (List.map_id _)
    rw [after, rows]
  | delete test =>
    have none : ∀ row ∈ t.rows, ¬test row = true := List.countP_eq_zero.1 (h.resolve_left nofun)
    have rows : t.rows.filter (!test ·) = t.rows :=
      List.filter_eq_self.2 fun row hr => by rw [Bool.eq_false_iff.2 (none row hr)]; rfl
    rw [after, rows]

end Plan

end TableQuery.Query
