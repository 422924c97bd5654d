import TableQuery.Cell

/-!
# Rows

A row assigns cells to names of columns. Its entries are kept in strictly increasing order of the
names, so two rows that assign the same cells to the same names are equal.

* `get?_insert`: what a row assigns after one cell has been set;
* `ext_get?`: a row is what it assigns.
-/

namespace TableQuery

/-- A finite assignment of cells to names, as a list of entries in increasing order of the names. -/
structure Row where
  entries : List (String × Cell)
  sorted : entries.Pairwise fun a b => a.1 < b.1
deriving DecidableEq

namespace Row

def empty : Row :=
  ⟨[], List.Pairwise.nil⟩

def get? (row : Row) (name : String) : Option Cell :=
  row.entries.lookup name

/-- The cell of a column; one that the row does not assign is null. -/
def cell (row : Row) (name : String) : Cell :=
  (row.get? name).getD .null

/-- Sets one entry of an ordered list of entries. -/
def insertEntry (name : String) (cell : Cell) : List (String × Cell) → List (String × Cell)
  | [] => [(name, cell)]
  | entry :: rest =>
    if name < entry.1 then (name, cell) :: entry :: rest
    else if name = entry.1 then (name, cell) :: rest
    else entry :: insertEntry name cell rest

theorem mem_insertEntry {name : String} {cell : Cell} {entries : List (String × Cell)}
    {e : String × Cell} (h : e ∈ insertEntry name cell entries) : e.1 = name ∨ e ∈ entries := by
  induction entries with
  | nil => simp_all [insertEntry]
  | cons entry rest ih =>
    rw [insertEntry] at h
    split at h
    · simp_all only [List.mem_cons]
      rcases h with rfl | h <;> simp_all
    · split at h
      · rcases List.mem_cons.1 h with rfl | h <;> simp_all
      · rcases List.mem_cons.1 h with rfl | h
        · simp
        · rcases ih h with h | h <;> simp_all

theorem sorted_insertEntry {name : String} {cell : Cell} {entries : List (String × Cell)}
    (h : entries.Pairwise fun a b => a.1 < b.1) :
    (insertEntry name cell entries).Pairwise fun a b => a.1 < b.1 := by
  induction entries with
  | nil => simp [insertEntry]
  | cons entry rest ih =>
    rw [List.pairwise_cons] at h
    rw [insertEntry]
    split
    · next lt =>
      refine List.pairwise_cons.2 ⟨fun e he => ?_, List.pairwise_cons.2 h⟩
      rcases List.mem_cons.1 he with rfl | he
      · exact lt
      · exact String.lt_trans lt (h.1 e he)
    · split
      · next eq => exact List.pairwise_cons.2 ⟨fun e he => eq ▸ h.1 e he, h.2⟩
      · next nlt ne =>
        refine List.pairwise_cons.2 ⟨fun e he => ?_, ih h.2⟩
        rcases mem_insertEntry he with he | he
        · rw [he]
          exact Std.lt_of_le_of_ne (String.not_lt.1 nlt) (Ne.symm ne)
        · exact h.1 e he

/-- Sets the cell of one name. -/
def insert (row : Row) (name : String) (cell : Cell) : Row :=
  ⟨insertEntry name cell row.entries, sorted_insertEntry row.sorted⟩

/-- The row with these entries; of several for one name the last counts. -/
def ofList (entries : List (String × Cell)) : Row :=
  entries.foldl (fun row e => row.insert e.1 e.2) empty

theorem lookup_cons_eq_ite (key : String) (entry : String × Cell) (rest : List (String × Cell)) :
    (entry :: rest).lookup key = if key = entry.1 then some entry.2 else rest.lookup key := by
  rw [List.lookup_cons]
  by_cases h : key = entry.1
  · rw [h, beq_self_eq_true, if_pos rfl]
  · rw [beq_eq_false_iff_ne.2 h, if_neg h]

theorem lookup_insertEntry (name key : String) (cell : Cell) (entries : List (String × Cell)) :
    (insertEntry name cell entries).lookup key =
      if key = name then some cell else entries.lookup key := by
  induction entries with
  | nil => rw [insertEntry, lookup_cons_eq_ite]
  | cons entry rest ih =>
    rw [insertEntry]
    split
    · rw [lookup_cons_eq_ite]
    · split
      · next eq => rw [lookup_cons_eq_ite, lookup_cons_eq_ite, ← eq]; split <;> rfl
      · next ne =>
        rw [lookup_cons_eq_ite, ih, lookup_cons_eq_ite]
        by_cases h : key = entry.1
        · rw [if_pos h, if_neg (fun e => ne (e.symm.trans h)), if_pos h]
        · rw [if_neg h, if_neg h]

theorem get?_insert (row : Row) (name key : String) (cell : Cell) :
    (row.insert name cell).get? key = if key = name then some cell else row.get? key :=
  lookup_insertEntry name key cell row.entries

theorem lookup_eq_none_of_lt {key : String} {entries : List (String × Cell)}
    (h : ∀ e ∈ entries, key < e.1) : entries.lookup key = none := by
  induction entries with
  | nil => rfl
  | cons entry rest ih =>
    have lt := h entry (List.mem_cons_self ..)
    rw [lookup_cons_eq_ite, if_neg (Std.ne_of_lt lt)]
    exact ih fun e he => h e (List.mem_cons_of_mem _ he)

/-- The first entry of an ordered list has the least name, so a smaller name is not in it. -/
theorem lookup_cons_eq_none_of_lt {key : String} {entry : String × Cell}
    {rest : List (String × Cell)} (sorted : (entry :: rest).Pairwise fun x y => x.1 < y.1)
    (lt : key < entry.1) : (entry :: rest).lookup key = none :=
  lookup_eq_none_of_lt fun e he => (List.mem_cons.1 he).elim (fun eq => eq ▸ lt)
    fun he => String.lt_trans lt ((List.pairwise_cons.1 sorted).1 e he)

theorem eq_of_lookup_eq {a b : List (String × Cell)}
    (ha : a.Pairwise fun x y => x.1 < y.1) (hb : b.Pairwise fun x y => x.1 < y.1)
    (h : ∀ key, a.lookup key = b.lookup key) : a = b := by
  induction a generalizing b with
  | nil =>
    cases b with
    | nil => rfl
    | cons y _ => have := h y.1; simp [lookup_cons_eq_ite] at this
  | cons x a ih =>
    cases b with
    | nil => have := h x.1; simp [lookup_cons_eq_ite] at this
    | cons y b =>
      have same : x.1 = y.1 := by
        rcases Std.lt_trichotomy x.1 y.1 with lt | eq | gt
        · have := h x.1
          rw [lookup_cons_eq_none_of_lt hb lt, lookup_cons_eq_ite, if_pos rfl] at this
          exact absurd this nofun
        · exact eq
        · have := h y.1
          rw [lookup_cons_eq_none_of_lt ha gt, lookup_cons_eq_ite, if_pos rfl] at this
          exact absurd this nofun
      have value : x.2 = y.2 := by
        have := h x.1
        rw [lookup_cons_eq_ite, lookup_cons_eq_ite, if_pos rfl, if_pos same] at this
        exact Option.some.inj this
      rw [List.pairwise_cons] at ha hb
      refine List.cons_eq_cons.2 ⟨Prod.ext same value, ih ha.2 hb.2 fun key => ?_⟩
      by_cases eq : key = x.1
      · rw [eq, lookup_eq_none_of_lt ha.1, lookup_eq_none_of_lt (same ▸ hb.1)]
      · have := h key
        rwa [lookup_cons_eq_ite, lookup_cons_eq_ite, if_neg eq, if_neg (same ▸ eq)] at this

theorem ext_get? {a b : Row} (h : ∀ key, a.get? key = b.get? key) : a = b := by
  obtain ⟨xs, hx⟩ := a
  obtain ⟨ys, hy⟩ := b
  obtain rfl := eq_of_lookup_eq hx hy h
  rfl

end Row

end TableQuery
