import TableQuery.Proofs.Csv.Mark
import TableQuery.Proofs.Query.Kind
import TableQuery.Proofs.Query.Plan
import TableQuery.Report

/-!
# What a report is about is a part of the table

A report is about the rows that were selected or about the table that was left. Either is a part of
the table that the query was run on: a selection shows distinct columns of it, and at least one, for
a query has to name one.

* `shows_of_parse`: a selection that was read names a column;
* `forall₂_selection`: the cells that it shows;
* `within_of_plan`: what a report is about.
-/

namespace TableQuery.Query

/-! ## Columns that are named -/

/-- The projection is everything, or it names a column. -/
def Projection.Shows : Projection → Prop
  | all => True
  | columns names => names ≠ []

/-- A selection shows columns. -/
def Statement.Shows : Statement → Prop
  | select projection _ _ => projection.Shows
  | _ => True

section

variable {items rest : List Item}

theorem ne_nil_of_columns {names : List String} (h : columns items = .ok (names, rest)) :
    names ≠ [] := by
  unfold columns at h
  split at h
  · obtain ⟨_, -, e⟩ := bind_eq_ok.1 h
    cases e
    exact List.cons_ne_nil _ _
  · obtain ⟨_, -, e⟩ := bind_eq_ok.1 h
    cases e
    exact List.cons_ne_nil _ _

theorem shows_of_projection {p : Projection} (h : projection items = .ok (p, rest)) : p.Shows := by
  unfold projection at h
  split at h
  · cases h
    trivial
  · obtain ⟨_, read, e⟩ := bind_eq_ok.1 h
    cases e
    exact ne_nil_of_columns read

theorem shows_of_head {kind : StatementKind} {make : Option Filter → Statement}
    (h : head kind items = .ok (make, rest)) (filter : Option Filter) : (make filter).Shows := by
  cases kind with
  | select =>
    obtain ⟨_, read, h⟩ := bind_eq_ok.1 h
    obtain ⟨_, -, h⟩ := bind_eq_ok.1 h
    obtain ⟨_, -, h⟩ := bind_eq_ok.1 h
    cases h
    exact shows_of_projection read
  | update =>
    obtain ⟨_, -, h⟩ := bind_eq_ok.1 h
    obtain ⟨_, -, h⟩ := bind_eq_ok.1 h
    obtain ⟨_, -, h⟩ := bind_eq_ok.1 h
    obtain ⟨_, -, h⟩ := bind_eq_ok.1 h
    obtain ⟨_, -, h⟩ := bind_eq_ok.1 h
    dsimp only at h
    split at h
    · cases h
    · cases h
      trivial
  | delete =>
    obtain ⟨_, -, h⟩ := bind_eq_ok.1 h
    cases h
    trivial

end

/-- A selection that was read names a column. -/
theorem shows_of_parse {query : String} {s : Statement} (h : parse query = .ok s) : s.Shows := by
  rw [parse_of_kindOf? (kind_of_parse h)] at h
  obtain ⟨make, rest, filter, last, read, -, -, rfl⟩ := statement_eq_ok_iff.1 h
  exact shows_of_head read filter

/-! ## What is shown -/

theorem ne_nil_of_projection {scope : Scope} {p : Projection} {shown : List String}
    (hh : scope.headers ≠ []) (hs : p.Shows) (h : (p.resolve scope).result = .ok shown) :
    shown ≠ [] := by
  have chosen := Projection.resolve_eq_ok_iff.1 h
  cases p with
  | all => exact chosen ▸ hh
  | columns names =>
    obtain ⟨meant, each, rfl⟩ := chosen
    cases each with
    | nil => exact absurd rfl hs
    | cons first later =>
      rw [List.eraseDups_cons]
      exact List.cons_ne_nil _ _

/-- In the columns that are shown, the rows of a selection have the cells of the rows that pass. -/
theorem forall₂_selection (columns : List String) (test : Row → Bool) (table : Table) :
    List.Forall₂ (fun row source => ∀ column ∈ columns, row.cell column = source.cell column)
      (Plan.selection columns test table) (table.rows.filter test) := by
  rw [Plan.selection]
  split
  · exact List.forall₂_same.2 fun _ _ _ _ => rfl
  · rw [List.forall₂_map_left_iff]
    exact List.forall₂_same.2 fun row _ column h => cell_project h row

/-! ## What a report is about -/

variable {table : Table}

theorem fits_selection {columns : List String} (h : table.WellFormed) (test : Row → Bool) :
    ∀ row ∈ Plan.selection columns test table, row.Fits columns := by
  intro row hr
  rw [Plan.selection] at hr
  split at hr
  · next all =>
    rw [all]
    exact h.fits row (List.mem_filter.1 hr).1
  · obtain ⟨old, ho, rfl⟩ := List.mem_map.1 hr
    have fits := h.fits old (List.mem_filter.1 ho).1
    rw [project_eq]
    refine Row.fits_ofList fun e he => ?_
    obtain ⟨name, hn, rfl⟩ := List.mem_map.1 he
    exact ⟨hn, fits.isStable_cell name⟩

/-- The rows of a selection from a table with a header are a part of it. -/
theorem within_of_selection {columns : List String} (h : table.WellFormed)
    (hs : table.synthetic = false) (hc : ∀ name ∈ columns, name ∈ table.headers)
    (hd : columns.Nodup) (hn : table.headers ≠ [] → columns ≠ []) (test : Row → Bool) :
    (Table.mk columns (Plan.selection columns test table) table.synthetic).Within table where
  wellFormed := ⟨hd, fun name hm => h.names name (hc name hm),
    fun synthetic => absurd (hs.symm.trans synthetic) nofun, fits_selection h test⟩
  names := hc
  ne_nil := hn
  synthetic_eq := rfl
  length_le := Plan.count_answer_le (.select columns test) table

/-- A table that a plan leaves is a part of the table. -/
theorem within_after {p : Plan} (hp : p.Fits table.headers) (h : table.WellFormed) :
    (p.after table).Within table where
  wellFormed := Plan.wellFormed_after hp h
  names := by rw [Plan.headers_after]; exact fun _ hn => hn
  ne_nil := by rw [Plan.headers_after]; exact id
  synthetic_eq := Plan.synthetic_after p table
  length_le := Plan.length_rows_after_le p table

/-- What a report is about, of a statement that was read and carried out on a table with a header,
is a part of the table. -/
theorem within_of_plan [PatternLibrary] {fuzzy : Bool} {statement : Statement} {p : Plan}
    (h : table.WellFormed) (hs : table.synthetic = false) (shows : statement.Shows)
    (hp : (plan fuzzy table.headers statement).result = .ok p) :
    (Report.tableOf (p.after table) (p.answer table)).Within table := by
  have fits := fits_of_plan hp
  cases comesTo_of_plan hp with
  | select resolved tested =>
    exact within_of_selection h hs fits.1 (nodup_of_projection h.nodup resolved)
      (fun ne => ne_nil_of_projection ne shows resolved) _
  | update resolved tested => exact within_after fits h
  | delete tested => exact within_after fits h

end TableQuery.Query
