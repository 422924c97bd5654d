import TableQuery.Proofs.Csv.Header
import TableQuery.Proofs.Row
import TableQuery.Table

/-!
# Well-formed tables

The invariant of the tables that are read from a text and that statements leave: the names of the
columns are distinct names, a row assigns only columns, and each cell is one that its text gives
back. Tables that differ only in absent cells and nulls are alike.

* `Table.WellFormed`: the invariant;
* `Table.filled`: the table with a null for each absent cell;
* `Alike.filled_eq`: alike tables are equal once they are filled.
-/

namespace TableQuery

/-- The row assigns only these columns, and only cells that their texts give back. -/
def Row.Fits (names : List String) (row : Row) : Prop :=
  ∀ name cell, row.get? name = some cell → name ∈ names ∧ cell.IsStable

namespace Row

variable {names : List String} {row : Row}

theorem Fits.isStable_cell (h : row.Fits names) (name : String) : (row.cell name).IsStable := by
  cases e : row.get? name with
  | none => rw [Row.cell, e]; exact Cell.isStable_null
  | some cell => rw [cell_of_get? e]; exact (h name cell e).2

theorem Fits.insert (h : row.Fits names) {name : String} {cell : Cell} (hn : name ∈ names)
    (hc : cell.IsStable) : (row.insert name cell).Fits names := by
  intro key other e
  rw [get?_insert] at e
  split at e
  · next eq =>
    rw [eq, ← Option.some.inj e]
    exact ⟨hn, hc⟩
  · exact h key other e

theorem Fits.filled_eq_ofList (h : row.Fits names) :
    row.filled names = ofList (names.map fun name => (name, row.cell name)) :=
  Row.filled_eq_ofList fun name cell e => (h name cell e).1

theorem fits_ofList {entries : List (String × Cell)}
    (h : ∀ e ∈ entries, e.1 ∈ names ∧ e.2.IsStable) : (ofList entries).Fits names :=
  fun _ _ e => h _ (mem_of_get?_ofList e)

end Row

namespace Table

/-- What is true of every table that is read from a text, and stays true. -/
structure WellFormed (table : Table) : Prop where
  nodup : table.headers.Nodup
  names : ∀ name ∈ table.headers, Csv.IsName name
  /-- Made-up names are those of the positions. -/
  generated : table.synthetic = true → table.headers = Csv.generatedNames table.headers.length
  fits : ∀ row ∈ table.rows, row.Fits table.headers

/-- The table with a null for each absent cell. -/
def filled (table : Table) : Table :=
  { table with rows := table.rows.map (Row.filled table.headers) }

theorem filled_synthetic (table : Table) : table.filled.synthetic = table.synthetic :=
  rfl

/-- A table with the same columns, and with other rows that fit. -/
theorem WellFormed.with_rows {table : Table} (h : table.WellFormed) {rows : List Row}
    (hr : ∀ row ∈ rows, row.Fits table.headers) :
    ({ table with rows := rows } : Table).WellFormed :=
  ⟨h.nodup, h.names, h.generated, hr⟩

/-- Tables with the same columns and the same cells, where an absent cell counts as null. -/
structure Alike (t u : Table) : Prop where
  headers : t.headers = u.headers
  synthetic : t.synthetic = u.synthetic
  cells : t.rows.map Row.cell = u.rows.map Row.cell

theorem Alike.refl (t : Table) : t.Alike t :=
  ⟨rfl, rfl, rfl⟩

theorem filled_alike (t : Table) : t.filled.Alike t := by
  refine ⟨rfl, rfl, ?_⟩
  rw [filled, List.map_map]
  exact List.map_congr_left fun row _ => Row.cell_filled t.headers row

theorem Alike.length_rows {t u : Table} (h : t.Alike u) : t.rows.length = u.rows.length := by
  have := congrArg List.length h.cells
  rwa [List.length_map, List.length_map] at this

/-- A filled row is made of its cells. -/
theorem WellFormed.filled_rows {t : Table} (h : t.WellFormed) :
    t.filled.rows = (t.rows.map Row.cell).map fun cells =>
      .ofList (t.headers.map fun name => (name, cells name)) := by
  rw [List.map_map]
  exact List.map_congr_left fun row hr => (h.fits row hr).filled_eq_ofList

/-- Alike tables are equal once they are filled. -/
theorem Alike.filled_eq {t u : Table} (h : t.Alike u) (ht : t.WellFormed) (hu : u.WellFormed) :
    t.filled = u.filled := by
  have rows : t.filled.rows = u.filled.rows := by
    rw [ht.filled_rows, hu.filled_rows, h.headers, h.cells]
  rw [Table.mk.injEq]
  exact ⟨h.headers, rows, h.synthetic⟩

end Table

end TableQuery
