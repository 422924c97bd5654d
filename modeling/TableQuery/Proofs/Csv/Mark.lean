import Mathlib.Data.List.Perm.Subperm
import TableQuery.Proofs.Csv.RoundTrip

/-!
# Byte order marks before names

A byte order mark before the first field is lost when the field is read. So a text that begins with
one is not what a part of its own table is written as: some of the columns, in any order, with no
more rows. The columns would be the names that the first record gives without the mark, in another
order. But a name that is made up or numbered has more underscores than its field, and every other
name is its field without blanks, so the count of underscores leaves no room for it.

* `headerNames_eq_or`: the names are the fields, or there are more underscores in them;
* `not_perm_headerNames`: no order of the names brings back a mark;
* `Table.Within`: a part of a table;
* `decode_written_of_within`: a part of a table that was read is read back filled.
-/

namespace TableQuery.Csv

open Text (trim trimmed trimStart)

/-! ## Counting underscores -/

def underscores (s : String) : Nat :=
  s.toList.count '_'

/-- The number of underscores in all fields together. -/
def totalUnderscores (record : List String) : Nat :=
  (record.flatMap String.toList).count '_'

theorem count_trimStart (text : List Char) : (trimStart text).count '_' = text.count '_' := by
  induction text with
  | nil => rfl
  | cons c rest ih =>
    rw [trimStart, List.dropWhile_cons]
    split
    · next blank => rw [← trimStart, ih, List.count_cons_of_ne (Text.ne_of_isBlank blank rfl)]
    · rfl

theorem underscores_trimmed (s : String) : underscores (trimmed s) = underscores s := by
  rw [underscores, trimmed, String.toList_ofList, trim, Text.trimEnd, List.count_reverse,
    count_trimStart, List.count_reverse, count_trimStart, underscores]

theorem underscores_generatedName_pos (position : Nat) :
    0 < underscores (generatedName position) := by
  have one : "column_".toList.count '_' = 1 := rfl
  rw [underscores, generatedName, toList_append_natText, List.count_append]
  omega

theorem underscores_lt_suffixed (base : String) (n : Nat) :
    underscores base < underscores (suffixed base n) := by
  have one : "_".toList.count '_' = 1 := rfl
  rw [underscores, underscores, suffixed, toList_append_natText, String.toList_append,
    List.count_append, List.count_append]
  omega

/-- A field is asked for as it is but for blanks, or else gets an underscore. -/
theorem askedName_eq_or (position : Nat) (field : String) :
    askedName position field = trimmed field ∨
      underscores field < underscores (askedName position field) := by
  rw [askedName]
  split
  · next blank =>
    have none : underscores field = 0 := by
      rw [← underscores_trimmed, blank]
      rfl
    rw [none]
    exact .inr (underscores_generatedName_pos position)
  · exact .inl rfl

/-- The name of a field is the field without blanks, or else has more underscores. -/
theorem freshName_askedName_eq_or (names : List String) (position : Nat) (field : String) :
    freshName names (askedName position field) = trimmed field ∨
      underscores field < underscores (freshName names (askedName position field)) := by
  have trimmed_eq := underscores_trimmed field
  rcases freshName_eq_or names (askedName position field) with fresh | ⟨n, fresh⟩
  · rw [fresh]
    exact askedName_eq_or position field
  · have more := underscores_lt_suffixed (askedName position field) n
    rw [fresh]
    rcases askedName_eq_or position field with asked | asked
    · rw [asked] at more ⊢
      omega
    · omega

theorem totalUnderscores_append (front back : List String) :
    totalUnderscores (front ++ back) = totalUnderscores front + totalUnderscores back := by
  rw [totalUnderscores, List.flatMap_append, List.count_append, totalUnderscores, totalUnderscores]

theorem totalUnderscores_cons (field : String) (rest : List String) :
    totalUnderscores (field :: rest) = underscores field + totalUnderscores rest := by
  rw [totalUnderscores, List.flatMap_cons, List.count_append, underscores, totalUnderscores]

theorem totalUnderscores_map_trimmed (record : List String) :
    totalUnderscores (record.map trimmed) = totalUnderscores record := by
  induction record with
  | nil => rfl
  | cons field rest ih =>
    rw [List.map_cons, totalUnderscores_cons, totalUnderscores_cons, underscores_trimmed, ih]

theorem totalUnderscores_perm {record other : List String} (h : record.Perm other) :
    totalUnderscores record = totalUnderscores other :=
  (h.flatMap_right String.toList).count_eq '_'

theorem foldl_nameNext_eq_or (names record : List String) :
    record.foldl nameNext names = names ++ record.map trimmed ∨
      totalUnderscores names + totalUnderscores record <
        totalUnderscores (record.foldl nameNext names) := by
  induction record generalizing names with
  | nil => exact .inl (List.append_nil names).symm
  | cons field rest ih =>
    rw [List.foldl_cons, List.map_cons, totalUnderscores_cons]
    have next : totalUnderscores (nameNext names field) = totalUnderscores names +
        underscores (freshName names (askedName (names.length + 1) field)) := by
      rw [nameNext, totalUnderscores_append, totalUnderscores_cons]
      rfl
    have trimmed_eq := underscores_trimmed field
    rcases ih (nameNext names field) with e | more
    · rw [e]
      rcases freshName_askedName_eq_or names (names.length + 1) field with same | more
      · refine .inl ?_
        rw [nameNext, same, List.append_assoc, List.singleton_append]
      · refine .inr ?_
        rw [totalUnderscores_append, totalUnderscores_map_trimmed]
        omega
    · refine .inr ?_
      rcases freshName_askedName_eq_or names (names.length + 1) field with same | more'
      · rw [same] at next
        omega
      · omega

/-- The names of a header are its fields without blanks, or else there are more underscores in
them. -/
theorem headerNames_eq_or (record : List String) :
    headerNames record = record.map trimmed ∨
      totalUnderscores record < totalUnderscores (headerNames record) := by
  have none : totalUnderscores [] = 0 := rfl
  rcases foldl_nameNext_eq_or [] record with e | more
  · exact .inl e
  · exact .inr (by rwa [none, Nat.zero_add] at more)

namespace Codec

theorem Marked.underscores_eq {field short : String} (h : Marked field.toList short.toList) :
    underscores field = underscores short := by
  obtain ⟨n, e⟩ := h
  rw [underscores, e, List.count_append, List.count_replicate]
  simp [underscores]

/-- No order of the names of a header brings back the marks that were before its first field. -/
theorem not_perm_headerNames {field short : String} {fields : List String}
    (hf : ∀ name ∈ fields, IsName name) (marks : Marked field.toList short.toList) :
    ¬(headerNames (short :: fields)).Perm (field :: fields) := by
  intro perm
  have trims : fields.map trimmed = fields :=
    (List.map_congr_left fun name hn => (hf name hn).trimmed_eq).trans (List.map_id _)
  have total : totalUnderscores (headerNames (short :: fields)) =
      totalUnderscores (short :: fields) := by
    rw [totalUnderscores_cons, ← marks.underscores_eq, ← totalUnderscores_cons]
    exact totalUnderscores_perm perm
  rcases headerNames_eq_or (short :: fields) with e | more
  · rw [e, List.map_cons, trims] at perm
    have same : trimmed short = field :=
      List.singleton_perm_singleton.1 ((List.perm_append_right_iff fields).1 perm)
    have shorter := marks.length_lt
    have := Text.length_trim_le short.toList
    rw [← same, trimmed, String.toList_ofList] at shorter
    omega
  · omega

end Codec

end TableQuery.Csv

namespace TableQuery

open Csv (beginsWithMark headerNames)

/-- A part of a table: some of its columns, but not none, and no more rows. -/
structure Table.Within (part table : Table) : Prop where
  wellFormed : part.WellFormed
  names : ∀ name ∈ part.headers, name ∈ table.headers
  ne_nil : table.headers ≠ [] → part.headers ≠ []
  synthetic_eq : part.synthetic = table.synthetic
  length_le : part.rows.length ≤ table.rows.length

theorem Table.Within.eq_empty {part : Table} (h : part.Within .empty) : part = .empty := by
  have headers : part.headers = [] :=
    List.eq_nil_iff_forall_not_mem.2 fun name hn => absurd (h.names name hn) List.not_mem_nil
  have rows : part.rows = [] := List.length_eq_zero_iff.1 (Nat.le_zero.1 h.length_le)
  have synthetic : part.synthetic = false := h.synthetic_eq
  rw [Table.mk.injEq]
  exact ⟨headers, rows, synthetic⟩

namespace Csv.Codec

variable {codec : Codec} {text : String} {table part : Table}

/-- A text that is what a part of its own table is written as does not begin with a byte order
mark. -/
theorem IsPlain.unmarked_of_within (h : codec.IsPlain) (hd : codec.decode text = .ok table)
    (hs : table.synthetic = false) (hw : part.Within table)
    (same : codec.written (recordsOfTable part) = text) : beginsWithMark text = false := by
  refine Bool.eq_false_iff.2 fun marked => ?_
  rw [← same] at marked
  obtain ⟨field, fields, others, e, read⟩ :=
    h.readRecords_written_of_mark (fun _ hm => ne_nil_of_mem_recordsOfTable hm) marked
  obtain rfl | ⟨first, rest, hr, -, headers, ne_nil, rows⟩ := h.eq_empty_or_header hd hs
  · -- nothing is written
    rw [hw.eq_empty] at e
    cases e
  rw [recordsOfTable_of_header (hw.synthetic_eq.trans hs) (hw.ne_nil ne_nil)] at e
  obtain ⟨names, data⟩ := List.cons.inj e
  rw [same, hr] at read
  rcases read with gone | ⟨short, marks, read⟩
  · -- a record would be missing
    have left := congrArg List.length (Except.ok.inj gone)
    have length_le := hw.length_le
    rw [← data, List.length_map, List.length_cons] at left
    omega
  · -- the columns would be the names of the first record in another order
    obtain ⟨rfl, -⟩ := List.cons.inj (Except.ok.inj read)
    have nodup := hw.wellFormed.nodup
    have isName := hw.wellFormed.names
    have subset := hw.names
    rw [names] at nodup isName subset
    rw [headers] at subset
    have perm : (field :: fields).Perm (headerNames (short :: fields)) :=
      (List.subperm_of_subset nodup subset).perm_of_length_le
        (Nat.le_of_eq (length_headerNames (short :: fields)))
    exact not_perm_headerNames (fun name hn => isName name (List.mem_cons_of_mem _ hn)) marks
      perm.symm

/-- A part of a table that was read is read back filled from what it is written as, unless this is
another text than the table was read from and begins with a byte order mark. -/
theorem IsPlain.decode_written_of_within (h : codec.IsPlain) (hd : codec.decode text = .ok table)
    (hs : table.synthetic = false) (hw : part.Within table)
    (hm : codec.written (recordsOfTable part) ≠ text →
      beginsWithMark (codec.written (recordsOfTable part)) = false) :
    codec.decode (codec.written (recordsOfTable part)) = .ok part.filled := by
  have unmarked : beginsWithMark (codec.written (recordsOfTable part)) = false := by
    by_cases same : codec.written (recordsOfTable part) = text
    · rw [same]
      exact h.unmarked_of_within hd hs hw same
    · exact hm same
  have real := hw.synthetic_eq.trans hs
  rw [decode_of_readRecords
    (h.readRecords_written (fun _ hr => ne_nil_of_mem_recordsOfTable hr) unmarked)]
  obtain rfl | ⟨first, rest, -, taken, headers, ne_nil, -⟩ := h.eq_empty_or_header hd hs
  · rw [hw.eq_empty]
    rfl
  · have subset := hw.names
    rw [headers] at subset
    have ne_nil := hw.ne_nil ne_nil
    refine congrArg Except.ok (tableOfRecords_recordsOfTable hw.wellFormed ⟨part.headers, ?_, ?_⟩)
    · rw [recordsOfTable_of_header real ne_nil]
      rfl
    · rw [real]
      exact takesHeader_of_subset taken subset ne_nil hw.wellFormed.nodup

end Csv.Codec

end TableQuery
