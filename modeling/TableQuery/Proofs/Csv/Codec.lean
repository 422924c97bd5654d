import TableQuery.Csv.Codec
import TableQuery.Proofs.Csv.Records
import TableQuery.Proofs.Table

/-!
# Tables written and read back

The records that a table is read from and the records that it is written as.

* `tableOfRecords_eq`: the parts of the records that are read, the columns and the data;
* `recordOfRow_rowOfRecord`: the fields of a row that was read, each in its normal form;
* `rowOfRecord_recordOfRow`: a row that is written and read back is the row filled;
* `tableOfRecords_recordsOfTable`: a table is read back filled when its first record tells again
  whether it has a header, as it does for a table that was read (`tellsHeader_tableOfRecords`).
-/

namespace TableQuery.Csv

/-! ## Fields of rows -/

theorem map_fst_zip_prefix {α β : Type} (xs : List α) (ys : List β) :
    (xs.zip ys).map Prod.fst <+: xs := by
  induction xs generalizing ys with
  | nil => exact List.nil_prefix
  | cons x xs ih =>
    cases ys with
    | nil => exact List.nil_prefix
    | cons y ys => exact (List.cons_prefix_cons).2 ⟨rfl, ih ys⟩

namespace Codec

variable {headers : List String}

/-- The entries of the row of a record name columns in their order. -/
theorem map_fst_entries_prefix (headers record : List String) :
    (((headers.zip record).map fun (name, field) => (name, Cell.infer field)).map Prod.fst) <+:
      headers := by
  rw [List.map_map]
  exact map_fst_zip_prefix headers record

theorem length_map_fst_entries (headers record : List String) :
    (((headers.zip record).map fun (name, field) => (name, Cell.infer field)).map Prod.fst).length =
      min headers.length record.length := by
  rw [List.length_map, List.length_map, List.length_zip]

/-- The cells of a row that was read: those of the fields, and nothing where a field is missing. -/
theorem cell_rowOfRecord (hd : headers.Nodup) {j : Nat} (hj : j < headers.length)
    (record : List String) :
    (rowOfRecord headers record).cell headers[j] = Cell.infer (record.getD j "") := by
  have start := map_fst_entries_prefix headers record
  by_cases hr : j < record.length
  · have entry : (headers[j], Cell.infer record[j]) ∈
        (headers.zip record).map fun (name, field) => (name, Cell.infer field) := by
      have hz : j < (headers.zip record).length := by
        rw [List.length_zip]
        omega
      refine List.mem_map.2 ⟨(headers.zip record)[j], List.getElem_mem hz, ?_⟩
      rw [List.getElem_zip]
    rw [rowOfRecord, Row.cell_of_get? (Row.get?_ofList_of_mem (hd.sublist start.sublist) entry),
      List.getD_eq_getElem?_getD, List.getElem?_eq_getElem hr, Option.getD_some]
  · have absent : headers[j] ∉
        ((headers.zip record).map fun (name, field) => (name, Cell.infer field)).map Prod.fst := by
      intro h
      obtain ⟨i, hi, e⟩ := List.mem_iff_getElem.1 h
      have hlen := length_map_fst_entries headers record
      rw [start.getElem hi] at e
      have := (hd.getElem_inj_iff).1 e
      omega
    rw [rowOfRecord, Row.cell, Row.get?_ofList_of_not_mem absent,
      List.getD_eq_getElem?_getD, List.getElem?_eq_none (Nat.le_of_not_lt hr), Option.getD_none]
    exact Cell.isStable_null.symm

theorem length_recordOfRow (headers : List String) (row : Row) :
    (recordOfRow headers row).length = headers.length :=
  List.length_map _

/-- The fields of a row that was read: each in its normal form, and an empty one where a field is
missing. -/
theorem recordOfRow_rowOfRecord (hd : headers.Nodup) (record : List String) :
    recordOfRow headers (rowOfRecord headers record) =
      headers.mapIdx fun j _ => Cell.normalForm (record.getD j "") := by
  refine List.ext_getElem (by simp [recordOfRow]) fun j hj _ => ?_
  rw [length_recordOfRow] at hj
  simp only [recordOfRow, List.getElem_map, List.getElem_mapIdx, cell_rowOfRecord hd hj,
    Cell.text_infer]

/-- A row that is written and read back. -/
theorem rowOfRecord_recordOfRow {row : Row} (h : row.Fits headers) :
    rowOfRecord headers (recordOfRow headers row) = row.filled headers := by
  have entries : ((headers.zip (recordOfRow headers row)).map fun (name, field) =>
      (name, Cell.infer field)) = headers.map fun name => (name, row.cell name) := by
    rw [recordOfRow, ← List.map_prod_left_eq_zip, List.map_map]
    exact List.map_congr_left fun name _ => Prod.ext rfl (h.isStable_cell name)
  rw [rowOfRecord, entries, h.filled_eq_ofList]

theorem fits_rowOfRecord (headers record : List String) :
    (rowOfRecord headers record).Fits headers := by
  refine Row.fits_ofList fun e he => ?_
  obtain ⟨⟨name, field⟩, hz, rfl⟩ := List.mem_map.1 he
  exact ⟨(List.of_mem_zip hz).1, Cell.infer_text_infer field⟩

/-! ## Tables as records -/

theorem ne_nil_of_mem_recordsOfTable {table : Table} {record : List String}
    (h : record ∈ recordsOfTable table) : record ≠ [] := by
  rw [recordsOfTable] at h
  split at h
  · cases h
  · next ne =>
    have headers_ne : table.headers ≠ [] := fun e => ne (List.isEmpty_iff.2 e)
    rcases List.mem_append.1 h with h | h
    · split at h
      · cases h
      · rwa [List.mem_singleton.1 h]
    · obtain ⟨row, -, rfl⟩ := List.mem_map.1 h
      exact fun e => headers_ne (List.map_eq_nil_iff.1 e)

theorem recordsOfTable_congr {t u : Table} (h : t.Alike u) :
    recordsOfTable t = recordsOfTable u := by
  have fields : ∀ v : Table, v.rows.map (recordOfRow v.headers) =
      (v.rows.map Row.cell).map fun cells => v.headers.map fun name => (cells name).text := by
    intro v
    rw [List.map_map]
    rfl
  rw [recordsOfTable, recordsOfTable, fields, fields, h.headers, h.synthetic, h.cells]

theorem recordsOfTable_of_header {table : Table} (hs : table.synthetic = false)
    (hh : table.headers ≠ []) :
    recordsOfTable table = table.headers :: table.rows.map (recordOfRow table.headers) := by
  rw [recordsOfTable, List.isEmpty_eq_false_iff.2 hh, hs]
  rfl

theorem recordsOfTable_of_synthetic {table : Table} (hs : table.synthetic = true)
    (hh : table.headers ≠ []) :
    recordsOfTable table = table.rows.map (recordOfRow table.headers) := by
  rw [recordsOfTable, List.isEmpty_eq_false_iff.2 hh, hs]
  rfl

theorem tableOfRecords_of_header {codec : Codec} {first : List String}
    (h : codec.takesHeader first = true) (rest : List (List String)) :
    codec.tableOfRecords (first :: rest) =
      ⟨headerNames first, rest.map (rowOfRecord (headerNames first)), false⟩ :=
  if_pos h

theorem tableOfRecords_of_synthetic {codec : Codec} {first : List String}
    (h : codec.takesHeader first = false) (rest : List (List String)) :
    codec.tableOfRecords (first :: rest) =
      ⟨generatedNames first.length, (first :: rest).map (rowOfRecord (generatedNames first.length)),
        true⟩ :=
  if_neg (Bool.eq_false_iff.1 h)

/-! ## The parts of a text -/

/-- Is the first of the records a header? -/
def hasHeader (codec : Codec) (rs : List (List String)) : Bool :=
  rs.head?.any codec.takesHeader

/-- The columns that the records are read with. -/
def columnsOf (codec : Codec) : List (List String) → List String
  | [] => []
  | first :: _ =>
    if codec.takesHeader first then headerNames first else generatedNames first.length

/-- The records that are read as rows. -/
def dataOf (codec : Codec) (rs : List (List String)) : List (List String) :=
  if codec.hasHeader rs then rs.tail else rs

theorem tableOfRecords_eq (codec : Codec) {rs : List (List String)} (h : rs ≠ []) :
    codec.tableOfRecords rs = ⟨codec.columnsOf rs,
      (codec.dataOf rs).map (rowOfRecord (codec.columnsOf rs)), !codec.hasHeader rs⟩ := by
  obtain ⟨first, rest, rfl⟩ := List.exists_cons_of_ne_nil h
  have flag : codec.hasHeader (first :: rest) = codec.takesHeader first := rfl
  rw [dataOf, columnsOf, flag]
  cases taken : codec.takesHeader first with
  | true => exact tableOfRecords_of_header taken rest
  | false => exact tableOfRecords_of_synthetic taken rest

theorem nodup_columnsOf (codec : Codec) (rs : List (List String)) : (codec.columnsOf rs).Nodup := by
  cases rs with
  | nil => exact List.nodup_nil
  | cons first rest =>
    rw [columnsOf]
    split
    · exact nodup_headerNames first
    · exact nodup_generatedNames _

theorem columnsOf_ne_nil {codec : Codec} {rs : List (List String)} (h : rs ≠ [])
    (hr : ∀ r ∈ rs, r ≠ []) : codec.columnsOf rs ≠ [] := by
  obtain ⟨first, rest, rfl⟩ := List.exists_cons_of_ne_nil h
  have length_eq : (codec.columnsOf (first :: rest)).length = first.length := by
    rw [columnsOf]
    split
    · exact length_headerNames first
    · exact length_generatedNames _
  intro e
  rw [e] at length_eq
  exact hr first List.mem_cons_self (List.length_eq_zero_iff.1 length_eq.symm)

/-! ## Tables that were read -/

theorem wellFormed_empty : Table.empty.WellFormed where
  nodup := List.nodup_nil
  names _ h := absurd h List.not_mem_nil
  generated h := by cases h
  fits _ h := absurd h List.not_mem_nil

/-- Every table that is read is well-formed. -/
theorem wellFormed_tableOfRecords (codec : Codec) (rs : List (List String)) :
    (codec.tableOfRecords rs).WellFormed := by
  have fits : ∀ (headers : List String) (rs : List (List String)),
      ∀ row ∈ rs.map (rowOfRecord headers), row.Fits headers := by
    intro headers rs row h
    obtain ⟨record, -, rfl⟩ := List.mem_map.1 h
    exact fits_rowOfRecord headers record
  cases rs with
  | nil => exact wellFormed_empty
  | cons first rest =>
    cases taken : codec.takesHeader first with
    | true =>
      rw [tableOfRecords_of_header taken]
      exact ⟨nodup_headerNames first, fun _ h => isName_of_mem_headerNames h, nofun, fits _ rest⟩
    | false =>
      rw [tableOfRecords_of_synthetic taken]
      exact ⟨nodup_generatedNames _, fun _ h => isName_of_mem_generatedNames h,
        fun _ => by rw [length_generatedNames], fits _ (first :: rest)⟩

/-- The first of the records that the table is written as tells whether the table has a header. -/
def TellsHeader (codec : Codec) (table : Table) : Prop :=
  ∃ first ∈ (recordsOfTable table).head?, codec.takesHeader first = !table.synthetic

/-- A well-formed table is read back, with its absent cells filled, from records that tell its
header. -/
theorem tableOfRecords_recordsOfTable {codec : Codec} {table : Table} (hw : table.WellFormed)
    (ht : codec.TellsHeader table) :
    codec.tableOfRecords (recordsOfTable table) = table.filled := by
  obtain ⟨first, hf, taken⟩ := ht
  have hh : table.headers ≠ [] := by
    intro e
    rw [recordsOfTable, e] at hf
    cases hf
  have rows : (table.rows.map (recordOfRow table.headers)).map (rowOfRecord table.headers) =
      table.filled.rows := by
    rw [List.map_map]
    exact List.map_congr_left fun row hr => rowOfRecord_recordOfRow (hw.fits row hr)
  obtain ⟨headers, rowList, synthetic⟩ := table
  cases synthetic with
  | false =>
    rw [recordsOfTable_of_header rfl hh] at hf ⊢
    rw [List.head?_cons, Option.mem_def, Option.some.injEq] at hf
    subst hf
    rw [tableOfRecords_of_header taken, headerNames_eq_self hw.names hw.nodup]
    exact congrArg (Table.mk _ · _) rows
  | true =>
    rw [recordsOfTable_of_synthetic rfl hh] at hf ⊢
    obtain ⟨rest, e⟩ := List.head?_eq_some_iff.1 hf
    have hl : first.length = headers.length := by
      have : first ∈ rowList.map (recordOfRow headers) := e ▸ List.mem_cons_self
      obtain ⟨row, -, rfl⟩ := List.mem_map.1 this
      exact length_recordOfRow headers row
    rw [e, tableOfRecords_of_synthetic taken, ← e, hl, ← hw.generated rfl]
    exact congrArg (Table.mk _ · _) rows

/-- If a table with columns is read back, its first record has told the header. -/
theorem tellsHeader_of_tableOfRecords {codec : Codec} {table : Table} (hh : table.headers ≠ [])
    (h : codec.tableOfRecords (recordsOfTable table) = table.filled) : codec.TellsHeader table := by
  cases e : recordsOfTable table with
  | nil =>
    rw [e] at h
    exact absurd (congrArg Table.headers h).symm hh
  | cons first rest =>
    refine ⟨first, by rw [e]; rfl, ?_⟩
    rw [e] at h
    have flag := congrArg Table.synthetic h
    rw [Table.filled_synthetic] at flag
    cases taken : codec.takesHeader first with
    | true =>
      rw [tableOfRecords_of_header taken] at flag
      rw [← flag]
      rfl
    | false =>
      rw [tableOfRecords_of_synthetic taken] at flag
      rw [← flag]
      rfl

/-! ## The header is told again -/

theorem takesHeader_headerNames {codec : Codec} {first : List String}
    (h : codec.takesHeader first = true) : codec.takesHeader (headerNames first) = true := by
  rw [takesHeader] at h ⊢
  cases e : codec.header with
  | present => rfl
  | absent => rw [e] at h; cases h
  | detect => rw [e] at h; exact looksLikeHeader_headerNames h

/-- Some of the names of a header, in any order, are a header. -/
theorem takesHeader_of_subset {codec : Codec} {first names : List String}
    (h : codec.takesHeader first = true) (hn : ∀ name ∈ names, name ∈ headerNames first)
    (ne : names ≠ []) (hd : names.Nodup) : codec.takesHeader names = true := by
  rw [takesHeader] at h ⊢
  cases e : codec.header with
  | present => rfl
  | absent => rw [e] at h; cases h
  | detect => rw [e] at h; exact looksLikeHeader_of_subset h hn ne hd

theorem takesHeader_map_normalForm (codec : Codec) (first : List String) :
    codec.takesHeader (first.map Cell.normalForm) = codec.takesHeader first := by
  rw [takesHeader, takesHeader]
  cases codec.header with
  | present => rfl
  | absent => rfl
  | detect => exact looksLikeHeader_map_normalForm first

/-- A record that has a column for each of its fields is written with the normal forms of them. -/
theorem recordOfRow_rowOfRecord_of_length (hd : headers.Nodup) {record : List String}
    (hl : headers.length = record.length) :
    recordOfRow headers (rowOfRecord headers record) = record.map Cell.normalForm := by
  rw [recordOfRow_rowOfRecord hd]
  refine List.ext_getElem (by rw [List.length_mapIdx, List.length_map, hl]) fun j _ hj => ?_
  rw [List.length_map] at hj
  rw [List.getElem_mapIdx, List.getElem_map, List.getD_eq_getElem?_getD,
    List.getElem?_eq_getElem hj, Option.getD_some]

/-- The record that a table without a header, which was read, is written with first. -/
theorem head?_recordsOfTable_of_synthetic {codec : Codec} {first : List String} (hf : first ≠ [])
    (taken : codec.takesHeader first = false) (rest : List (List String)) :
    (recordsOfTable (codec.tableOfRecords (first :: rest))).head? =
      some (first.map Cell.normalForm) := by
  have hh : generatedNames first.length ≠ [] := by
    intro e
    have length_eq := length_generatedNames first.length
    rw [e] at length_eq
    exact hf (List.length_eq_zero_iff.1 length_eq.symm)
  rw [tableOfRecords_of_synthetic taken, recordsOfTable_of_synthetic rfl hh, List.map_cons,
    List.map_cons, recordOfRow_rowOfRecord_of_length (nodup_generatedNames _)
      (length_generatedNames _)]
  rfl

/-- The header of a table that was read is told again by what the table is written as. -/
theorem tellsHeader_tableOfRecords (codec : Codec) {first : List String} (hf : first ≠ [])
    (rest : List (List String)) : codec.TellsHeader (codec.tableOfRecords (first :: rest)) := by
  cases taken : codec.takesHeader first with
  | true =>
    rw [tableOfRecords_of_header taken]
    refine ⟨headerNames first, ?_, takesHeader_headerNames taken⟩
    rw [recordsOfTable_of_header rfl (headerNames_ne_nil hf)]
    rfl
  | false =>
    refine ⟨first.map Cell.normalForm, head?_recordsOfTable_of_synthetic hf taken rest, ?_⟩
    rw [tableOfRecords_of_synthetic taken]
    exact (takesHeader_map_normalForm codec first).trans taken

theorem length_rows_tableOfRecords_le (codec : Codec) (rs : List (List String)) :
    (codec.tableOfRecords rs).rows.length ≤ rs.length := by
  cases rs with
  | nil => exact Nat.le_refl 0
  | cons first rest =>
    rw [tableOfRecords]
    split
    · exact Nat.le_succ_of_le (Nat.le_of_eq (List.length_map _))
    · exact Nat.le_of_eq (List.length_map _)

/-- Reading the records of a table that was read gives the table filled. -/
theorem tableOfRecords_tableOfRecords (codec : Codec) {rs : List (List String)}
    (hr : ∀ r ∈ rs, r ≠ []) : codec.tableOfRecords (recordsOfTable (codec.tableOfRecords rs)) =
      (codec.tableOfRecords rs).filled := by
  cases rs with
  | nil => rfl
  | cons first rest =>
    exact tableOfRecords_recordsOfTable (wellFormed_tableOfRecords codec _)
      (tellsHeader_tableOfRecords codec (hr first List.mem_cons_self) rest)

end Codec

end TableQuery.Csv
