import TableQuery.Row

/-!
# Rows by their cells

What a row that is built entry by entry assigns, and rows that are alike: a cell that a row does not
assign counts as null, so two rows may differ and still have the same cells.

* `mem_of_get?_ofList`, `get?_ofList_of_mem`: a row of entries assigns its entries and no other;
* `filled`: the row with a null for each absent cell, which has the same cells (`cell_filled`);
* `filled_eq_ofList`: a row whose columns are known is, when filled, what its cells make of it.
-/

namespace TableQuery.Row

theorem get?_empty (key : String) : empty.get? key = none :=
  rfl

theorem cell_of_get? {row : Row} {name : String} {cell : Cell} (h : row.get? name = some cell) :
    row.cell name = cell := by
  rw [Row.cell, h, Option.getD_some]

theorem cell_insert (row : Row) (name key : String) (cell : Cell) :
    (row.insert name cell).cell key = if key = name then cell else row.cell key := by
  rw [Row.cell, get?_insert, Row.cell]
  split <;> rfl

/-! ## Rows of entries -/

theorem get?_foldl_insert_of_not_mem {entries : List (String × Cell)} {key : String}
    (h : key ∉ entries.map Prod.fst) (row : Row) :
    (entries.foldl (fun r e => r.insert e.1 e.2) row).get? key = row.get? key := by
  induction entries generalizing row with
  | nil => rfl
  | cons e rest ih =>
    rw [List.map_cons, List.mem_cons, not_or] at h
    rw [List.foldl_cons, ih h.2, get?_insert, if_neg h.1]

theorem mem_of_get?_foldl_insert {entries : List (String × Cell)} {key : String} {cell : Cell}
    {row : Row} (h : (entries.foldl (fun r e => r.insert e.1 e.2) row).get? key = some cell) :
    (key, cell) ∈ entries ∨ row.get? key = some cell := by
  induction entries generalizing row with
  | nil => exact .inr h
  | cons e rest ih =>
    rcases ih h with h | h
    · exact .inl (List.mem_cons_of_mem _ h)
    · rw [get?_insert] at h
      split at h
      · next eq =>
        rw [eq, ← Option.some.inj h]
        exact .inl List.mem_cons_self
      · exact .inr h

theorem mem_of_get?_ofList {entries : List (String × Cell)} {key : String} {cell : Cell}
    (h : (ofList entries).get? key = some cell) : (key, cell) ∈ entries :=
  (mem_of_get?_foldl_insert h).resolve_right (by rw [get?_empty]; nofun)

theorem get?_ofList_of_not_mem {entries : List (String × Cell)} {key : String}
    (h : key ∉ entries.map Prod.fst) : (ofList entries).get? key = none :=
  get?_foldl_insert_of_not_mem h empty

theorem get?_foldl_insert_of_mem {entries : List (String × Cell)}
    (hd : (entries.map Prod.fst).Nodup) {key : String} {cell : Cell} (h : (key, cell) ∈ entries)
    (row : Row) : (entries.foldl (fun r e => r.insert e.1 e.2) row).get? key = some cell := by
  induction entries generalizing row with
  | nil => cases h
  | cons e rest ih =>
    rw [List.map_cons, List.nodup_cons] at hd
    rw [List.foldl_cons]
    rcases List.mem_cons.1 h with rfl | h
    · rw [get?_foldl_insert_of_not_mem hd.1, get?_insert, if_pos rfl]
    · exact ih hd.2 h _

/-- Of entries for distinct names each one counts. -/
theorem get?_ofList_of_mem {entries : List (String × Cell)} (hd : (entries.map Prod.fst).Nodup)
    {key : String} {cell : Cell} (h : (key, cell) ∈ entries) :
    (ofList entries).get? key = some cell :=
  get?_foldl_insert_of_mem hd h empty

/-- A row for names with a cell for each. -/
theorem get?_foldl_insert_cells (cells : String → Cell) (names : List String) (row : Row)
    (key : String) : (names.foldl (fun r name => r.insert name (cells name)) row).get? key =
      if key ∈ names then some (cells key) else row.get? key := by
  induction names generalizing row with
  | nil => rfl
  | cons name rest ih =>
    rw [List.foldl_cons, ih, get?_insert]
    by_cases hr : key ∈ rest
    · rw [if_pos hr, if_pos (List.mem_cons_of_mem _ hr)]
    · by_cases e : key = name
      · rw [if_neg hr, if_pos e, e, if_pos List.mem_cons_self]
      · rw [if_neg hr, if_neg e, if_neg (List.not_mem_cons_of_ne_of_not_mem e hr)]

theorem get?_ofList_map (cells : String → Cell) (names : List String) (key : String) :
    (ofList (names.map fun name => (name, cells name))).get? key =
      if key ∈ names then some (cells key) else none := by
  rw [ofList, List.foldl_map]
  exact get?_foldl_insert_cells cells names empty key

/-! ## Filled rows -/

/-- The row with a null for each of the columns that it does not assign. -/
def filled (names : List String) (row : Row) : Row :=
  names.foldl (fun r name => r.insert name (row.cell name)) row

theorem get?_filled (names : List String) (row : Row) (key : String) :
    (row.filled names).get? key = if key ∈ names then some (row.cell key) else row.get? key :=
  get?_foldl_insert_cells row.cell names row key

theorem cell_filled (names : List String) (row : Row) : (row.filled names).cell = row.cell := by
  funext key
  rw [Row.cell, get?_filled]
  split
  · rfl
  · rfl

theorem filled_eq_ofList {names : List String} {row : Row}
    (h : ∀ name cell, row.get? name = some cell → name ∈ names) :
    row.filled names = ofList (names.map fun name => (name, row.cell name)) := by
  refine ext_get? fun key => ?_
  rw [get?_filled, get?_ofList_map]
  split
  · rfl
  · next out =>
    cases e : row.get? key with
    | none => rfl
    | some cell => exact absurd (h key cell e) out

end TableQuery.Row
