import TableQuery.Proofs.Engine
import TableQuery.Proofs.Query.Positions
import TableQuery.Proofs.Query.Selection

/-!
# Selections are shown the same either way

The rows of a selection of all columns are given as they are in the table, where a cell may be
absent, and those of another selection are made anew, with a null for each absent cell. What is
written of a selection and what is told of its columns looks at the cells of these columns only, so
it is the same for either kind of rows.

* `recordsOfTable_project`, `profiles_project`: rows that are made anew;
* `Selected`: what a selection shows of a table;
* `Engine.run_congr`: queries that answer alike;
* `selection_either_way`: a selection shows the right part of the table, and to name all columns is
  to ask for all of them.
-/

namespace TableQuery

open Csv (Codec)
open Query (Answer Filter Outcome PatternLibrary Projection Scope Statement execute matchingRows
  project rowsAt)

/-! ## Rows that are made anew -/

section

variable (columns : List String) (rows : List Row) (synthetic : Bool)

theorem recordsOfTable_project :
    Codec.recordsOfTable ⟨columns, rows.map (project columns), synthetic⟩ =
      Codec.recordsOfTable ⟨columns, rows, synthetic⟩ := by
  have record (row : Row) :
      Codec.recordOfRow columns (project columns row) = Codec.recordOfRow columns row :=
    List.map_congr_left fun column h => by rw [Query.cell_project h]
  rw [Codec.recordsOfTable, Codec.recordsOfTable, List.map_map]
  simp only [Function.comp_def, record]

theorem profiles_project :
    (Table.mk columns (rows.map (project columns)) synthetic).profiles =
      (Table.mk columns rows synthetic).profiles := by
  refine List.map_congr_left fun column h => congrArg (Profile.ofCells column) ?_
  rw [Table.column, Table.column, List.map_map]
  exact List.map_congr_left fun row _ => Query.cell_project h row

end

/-! ## What a selection shows -/

/-- The rows are those of a selection of these columns from the source rows. -/
structure Selected (scope : Scope) (projection : Projection) (columns : List String)
    (synthetic : Bool) (rows sources : List Row) : Prop where
  chosen : projection.Chooses scope columns
  nodup : columns.Nodup
  known : ∀ column ∈ columns, column ∈ scope.headers
  /-- In the columns that are shown, each row has the cells of its source. -/
  cells : List.Forall₂ (fun row source => ∀ column ∈ columns, row.cell column = source.cell column)
    rows sources
  /-- The rows are written as if they were made anew. -/
  written : ∀ codec : Codec, codec.encode ⟨columns, rows, synthetic⟩ =
    codec.encode ⟨columns, sources.map (project columns), synthetic⟩
  /-- Of the columns the same is told as if the rows were made anew. -/
  profiled : (Table.mk columns rows synthetic).profiles =
    (Table.mk columns (sources.map (project columns)) synthetic).profiles

theorem selected_selection {fuzzy : Bool} {table : Table} {projection : Projection}
    {tableRef : String} {columns : List String} (hd : table.headers.Nodup)
    (h : (projection.resolve ⟨table.headers, tableRef, fuzzy⟩).result = .ok columns)
    (test : Row → Bool) :
    Selected ⟨table.headers, tableRef, fuzzy⟩ projection columns table.synthetic
      (Query.Plan.selection columns test table) (table.rows.filter test) where
  chosen := Projection.resolve_eq_ok_iff.1 h
  nodup := Query.nodup_of_projection hd h
  known := Query.mem_of_projection h
  cells := Query.forall₂_selection columns test table
  written codec := by
    rw [Codec.encode, Codec.encode, recordsOfTable_project, Query.Plan.selection]
    split
    · rfl
    · rw [recordsOfTable_project]
  profiled := by
    rw [profiles_project, Query.Plan.selection]
    split
    · rfl
    · rw [profiles_project]

/-! ## Queries that answer alike -/

namespace Engine

variable [PatternLibrary] {engine : Engine} {text query other : String}

theorem run_congr (answers : engine.answer text query = engine.answer text other)
    (kinds : Query.kindOf? query = Query.kindOf? other) :
    engine.run text query = engine.run text other := by
  rw [run, run, outcome, outcome, answers, kinds]

theorem answer_of_allBlank (h : Text.allBlank text = true) (query : String) :
    engine.answer text query = Outcome.fail .emptyTable := by
  rw [answer, h]
  rfl

/-- Two statements of a kind that are carried out alike on the table of a text have the same
report. -/
theorem run_eq_of_execute {table : Table} {s t : Statement} (hd : engine.decode text = .ok table)
    (hs : Query.parse query = .ok s) (ht : Query.parse other = .ok t) (kind : s.kind = t.kind)
    (same : execute engine.fuzzyColumns table s = execute engine.fuzzyColumns table t) :
    engine.run text query = engine.run text other := by
  refine run_congr ?_ (by rw [Query.kind_of_parse hs, Query.kind_of_parse ht, kind])
  cases blank : Text.allBlank text with
  | true => rw [answer_of_allBlank blank, answer_of_allBlank blank]
  | false =>
    rw [answer_of_decode blank hd, answer_of_decode blank hd, Query.answer, Query.answer, hs, ht]
    exact (pure_bind s _).trans (same.trans (pure_bind t _).symm)

end Engine

/-- A selection from a table with distinct columns shows the columns that its names mean, but for
repetitions, and in them the cells of the rows at the positions that the condition selects. It
leaves the table as it is. Whether its rows are those of the table or are made anew can be seen
neither from the text nor from the profiles, so a selection that names all columns in order reports
the same as one that asks for all of them. -/
theorem selection_either_way [PatternLibrary] {table : Table} (hd : table.headers.Nodup)
    (fuzzy : Bool) (tableRef : String) (filter : Option Filter) :
    (∀ projection answer after,
      (execute fuzzy table (.select projection tableRef filter)).result = .ok (answer, after) →
        after = table ∧ ∃ columns rows indices, answer = .selected columns rows ∧
          (matchingRows ⟨table.headers, tableRef, fuzzy⟩ filter table.rows).result = .ok indices ∧
          indices.Pairwise (· < ·) ∧ (∀ i ∈ indices, i < table.rows.length) ∧
          Selected ⟨table.headers, tableRef, fuzzy⟩ projection columns table.synthetic rows
            (rowsAt table.rows indices)) ∧
    execute fuzzy table (.select (.columns table.headers) tableRef filter) =
      execute fuzzy table (.select .all tableRef filter) ∧
    ∀ (engine : Engine) (text named all : String), engine.decode text = .ok table →
      Query.parse named = .ok (.select (.columns table.headers) tableRef filter) →
      Query.parse all = .ok (.select .all tableRef filter) →
      engine.run text named = engine.run text all := by
  refine ⟨fun projection answer after carried => ?_,
    Query.execute_columns_headers fuzzy hd tableRef filter,
    fun engine text named all read hn ha => Engine.run_eq_of_execute read hn ha rfl
      (Query.execute_columns_headers engine.fuzzyColumns hd tableRef filter)⟩
  obtain ⟨p, planned, rfl, rfl⟩ := Query.exists_plan_of_execute carried
  cases Query.comesTo_of_plan planned with
  | @select _ _ _ columns test resolved tested =>
    refine ⟨rfl, columns, _, Query.positions test table.rows, rfl, ?_,
      Query.pairwise_positions test table.rows, fun _ => Query.lt_of_mem_positions, ?_⟩
    · rw [matchingRows, Outcome.map_of_ok tested]
    · rw [Query.rowsAt_positions]
      exact selected_selection hd resolved test

/-- A name with a letter too few, a name again in capitals, and a row that is too short. -/
theorem selection_either_way_short_record : ∃ table : Table,
    Engine.decode ⟨⟨0x2C, .detect⟩, true⟩ "Name,Age\nBob\nAmy,30,x\n" = .ok table ∧
    (execute true table (.select (.columns ["nme", "Age", "NAME"]) "t" none)).result =
      .ok (.selected ["Name", "Age"] table.rows, table) ∧
    table.rows ≠ table.rows.map (project ["Name", "Age"]) ∧
    Selected ⟨["Name", "Age"], "t", true⟩ (.columns ["nme", "Age", "NAME"]) ["Name", "Age"] false
      table.rows table.rows ∧
    Engine.run ⟨⟨0x2C, .detect⟩, true⟩ "Name,Age\nBob\nAmy,30,x\n" "select Name, Age from t" =
      Engine.run ⟨⟨0x2C, .detect⟩, true⟩ "Name,Age\nBob\nAmy,30,x\n" "SELECT * FROM t" := by
  obtain ⟨table, made⟩ : ∃ table : Table, table = ⟨["Name", "Age"],
      [.ofList [("Name", .string "Bob")], .ofList [("Name", .string "Amy"), ("Age", .int 30)]],
      false⟩ :=
    ⟨_, rfl⟩
  have read : Engine.decode ⟨⟨0x2C, .detect⟩, true⟩ "Name,Age\nBob\nAmy,30,x\n" = .ok table := by
    rw [made]
    decide +kernel
  have nodup : table.headers.Nodup := by
    rw [made]
    decide
  have carried : (execute true table (.select (.columns ["nme", "Age", "NAME"]) "t" none)).result =
      .ok (.selected ["Name", "Age"] table.rows, table) := by
    rw [made]
    decide +kernel
  obtain ⟨selects, -, reports⟩ := selection_either_way nodup true "t" none
  obtain ⟨-, columns, rows, indices, answered, matching, -, -, selected⟩ := selects _ _ _ carried
  cases answered
  have all : rowsAt table.rows indices = table.rows := by
    have positions : indices = [0, 1] := by
      refine Except.ok.inj (matching.symm.trans ?_)
      rw [made]
      decide +kernel
    rw [positions, made]
    rfl
  refine ⟨table, read, carried, ?_, ?_, reports _ _ _ _ read ?_ ?_⟩
  · rw [made]
    decide +kernel
  · rw [all] at selected
    rwa [made] at selected ⊢
  · rw [made]
    decide +kernel
  · decide +kernel

end TableQuery
