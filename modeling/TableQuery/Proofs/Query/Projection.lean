import Mathlib.Data.List.Forall2
import Mathlib.Data.List.Nodup
import TableQuery.Proofs.Query.Scope
import TableQuery.Proofs.Row
import TableQuery.Query.Execution

/-!
# The columns of a selection

A selection shows the columns that its names mean, each once, in the order in which they are first
named. To name all columns in order is to ask for all of them.

* `chooseColumns_eq_ok_iff`, `resolve_eq_ok_iff`: the columns of a projection, by induction on the
  names;
* `mem_of_projection`, `nodup_of_projection`: they are distinct columns of the table;
* `execute_columns_headers`: a selection that names all columns;
* `cell_project`: the cells in the columns of a projection.
-/

namespace TableQuery.Query

/-! ## Repetitions -/

section

variable {α : Type} [BEq α] [LawfulBEq α] {l : List α}

theorem eraseDups_eq_self (h : l.Nodup) : l.eraseDups = l := by
  induction l with
  | nil => rfl
  | cons a l ih =>
    obtain ⟨new, h⟩ := List.nodup_cons.1 h
    have others : (l.filter fun b => !b == a) = l :=
      List.filter_eq_self.2 fun b hb => by
        simp only [Bool.not_eq_true', beq_eq_false_iff_ne]
        exact fun same => new (same ▸ hb)
    rw [List.eraseDups_cons, others, ih h]

theorem nodup_eraseDups : ∀ l : List α, l.eraseDups.Nodup
  | [] => List.nodup_nil
  | a :: l => by
    rw [List.eraseDups_cons, List.nodup_cons]
    refine ⟨fun again => ?_, nodup_eraseDups _⟩
    have other := (List.mem_filter.1 (List.mem_eraseDups.1 again)).2
    simp at other
termination_by l => l.length
decreasing_by exact Nat.lt_succ_of_le (List.length_filter_le _ l)

/-- Of a repetition only the first one counts. -/
theorem eraseDups_append_cons {a : α} (h : a ∈ l) (rest : List α) :
    (l ++ a :: rest).eraseDups = (l ++ rest).eraseDups := by
  have again : ¬l.contains a = false := by simpa using h
  rw [List.eraseDups_append, List.eraseDups_append, List.cons_removeAll, if_neg again]

end

/-! ## Columns -/

section

variable {scope : Scope} {columns : List String}

/-- Each name of the one list means the column of the other that is at its place. -/
def Scope.MeanEach (scope : Scope) : List String → List String → Prop :=
  List.Forall₂ fun name column => (scope.resolve name).result = .ok column

theorem Scope.MeanEach.mem_headers {names meant : List String} (h : scope.MeanEach names meant) :
    ∀ c ∈ meant, c ∈ scope.headers := by
  induction h with
  | nil => exact fun _ hc => absurd hc List.not_mem_nil
  | cons first _ ih => exact List.forall_mem_cons.2 ⟨Scope.mem_of_resolve first, ih⟩

/-- The columns of names are what the names mean, but for repetitions. -/
theorem chooseColumns_eq_ok_iff {chosen names : List String} (hc : chosen.Nodup) :
    (chooseColumns scope chosen names).result = .ok columns ↔
      ∃ meant, scope.MeanEach names meant ∧ columns = (chosen ++ meant).eraseDups := by
  induction names generalizing chosen with
  | nil =>
    rw [chooseColumns, Outcome.result_pure, Except.ok.injEq]
    simp only [Scope.MeanEach, List.forall₂_nil_left_iff, exists_eq_left, List.append_nil,
      eraseDups_eq_self hc, eq_comm]
  | cons name rest ih =>
    have step (column : String) :
        ((if column ∈ chosen then do
            Outcome.note (.columnRepeated column)
            chooseColumns scope chosen rest
          else chooseColumns scope (chosen ++ [column]) rest : Outcome (List String)).result =
            .ok columns) ↔
          ∃ meant, scope.MeanEach rest meant ∧ columns = (chosen ++ column :: meant).eraseDups := by
      by_cases repeated : column ∈ chosen
      · rw [if_pos repeated, Outcome.result_bind_eq_ok]
        simp only [Outcome.result_note, exists_const, ih hc, eraseDups_append_cons repeated,
          true_and]
      · have nodup : (chosen ++ [column]).Nodup :=
          List.nodup_append'.2 ⟨hc, List.nodup_singleton _, List.disjoint_singleton.2 repeated⟩
        rw [if_neg repeated, ih nodup]
        simp only [List.append_assoc, List.singleton_append]
    rw [chooseColumns, Outcome.result_bind_eq_ok]
    simp only [step]
    constructor
    · rintro ⟨column, first, meant, later, rfl⟩
      exact ⟨column :: meant, .cons first later, rfl⟩
    · rintro ⟨_, _ | ⟨first, later⟩, rfl⟩
      exact ⟨_, first, _, later, rfl⟩

/-- The columns are all of them if everything is asked for. Otherwise they are what the names mean,
but for repetitions. -/
def Projection.Chooses (scope : Scope) (shown : List String) : Projection → Prop
  | .all => shown = scope.headers
  | .columns names => ∃ meant, scope.MeanEach names meant ∧ shown = meant.eraseDups

theorem Projection.resolve_eq_ok_iff {projection : Projection} :
    (projection.resolve scope).result = .ok columns ↔ projection.Chooses scope columns := by
  cases projection with
  | all =>
    rw [Projection.resolve, Outcome.result_pure, Except.ok.injEq]
    exact eq_comm
  | columns names => exact chooseColumns_eq_ok_iff List.nodup_nil

theorem mem_of_projection {projection : Projection}
    (h : (projection.resolve scope).result = .ok columns) : ∀ c ∈ columns, c ∈ scope.headers := by
  have chosen := Projection.resolve_eq_ok_iff.1 h
  cases projection with
  | all => exact fun c hc => chosen ▸ hc
  | columns names =>
    obtain ⟨meant, each, rfl⟩ := chosen
    exact fun c hc => each.mem_headers c (List.mem_eraseDups.1 hc)

theorem nodup_of_projection {projection : Projection} (hd : scope.headers.Nodup)
    (h : (projection.resolve scope).result = .ok columns) : columns.Nodup := by
  have chosen := Projection.resolve_eq_ok_iff.1 h
  cases projection with
  | all => exact chosen ▸ hd
  | columns names =>
    obtain ⟨meant, -, rfl⟩ := chosen
    exact nodup_eraseDups meant

/-! ## All columns by name -/

/-- Distinct columns that are called by their names are chosen without a remark. -/
theorem chooseColumns_of_nodup {chosen names : List String}
    (hm : ∀ name ∈ names, name ∈ scope.headers) (hd : (chosen ++ names).Nodup) :
    chooseColumns scope chosen names = pure (chosen ++ names) := by
  induction names generalizing chosen with
  | nil => rw [chooseColumns, List.append_nil]
  | cons name rest ih =>
    obtain ⟨known, hm⟩ := List.forall_mem_cons.1 hm
    rw [List.append_cons] at hd ⊢
    have new : name ∉ chosen := fun old =>
      List.disjoint_of_nodup_append (List.nodup_append.1 hd).1 old (List.mem_singleton_self name)
    rw [chooseColumns, Scope.resolve_of_mem known, pure_bind, if_neg new, ih hm hd]

theorem execute_columns_headers [PatternLibrary] (fuzzy : Bool) {table : Table}
    (hd : table.headers.Nodup) (tableRef : String) (filter : Option Filter) :
    execute fuzzy table (.select (.columns table.headers) tableRef filter) =
      execute fuzzy table (.select .all tableRef filter) := by
  have named : Projection.resolve ⟨table.headers, tableRef, fuzzy⟩ (.columns table.headers) =
      Projection.resolve ⟨table.headers, tableRef, fuzzy⟩ .all :=
    chooseColumns_of_nodup (fun _ h => h) hd
  rw [execute, execute, select, select, named]

end

/-! ## Cells -/

theorem cell_project {columns : List String} {column : String} (h : column ∈ columns) (row : Row) :
    (project columns row).cell column = row.cell column := by
  rw [project, Row.cell, Row.get?_ofList_map, if_pos h, Option.getD_some]

end TableQuery.Query
