import TableQuery.Proofs.Csv.Codec

/-!
# The round trip of a codec

A codec with a plain delimiter, an ASCII character that is neither the quote nor a break, reads
every text and writes every table. What it writes it reads back, but for one thing: a byte order
mark at the beginning of a text is dropped.

* `readRecords_written`: written records are read back;
* `readRecords_written_of_mark`: what is lost with a byte order mark;
* `decode_written`, `decode_written_iff`: a well-formed table is read back filled;
* `decode_encode_of_decode`: so is every table that was read, with the same decision on its header.
-/

namespace TableQuery.Csv

/-- Does the text begin with a byte order mark? -/
def beginsWithMark (text : String) : Bool :=
  text.toList.head? = some '\uFEFF'

/-- The field that is written first. -/
def firstField? (rs : List (List String)) : Option String :=
  rs.head?.bind List.head?

theorem dropMark_eq_self {text : List Char} (h : text.head? ≠ some '\uFEFF') :
    Codec.dropMark text = text := by
  unfold Codec.dropMark
  split
  · exact absurd rfl h
  · rfl

/-! ## How a text begins -/

section

variable {α : Type} [DecidableEq α] {d : Dialect α}

/-- What a line has behind its first field. -/
def lineTail (d : Dialect α) (fields : List (List α)) : List α :=
  fields.flatMap fun field => d.delimiter :: writeField d field

theorem intercalate_writeField (field : List α) (fields : List (List α)) :
    [d.delimiter].intercalate ((field :: fields).map (writeField d)) =
      writeField d field ++ lineTail d fields := by
  induction fields generalizing field with
  | nil =>
    rw [List.map_cons, List.map_nil, List.intercalate_singleton]
    exact (List.append_nil _).symm
  | cons next rest ih =>
    rw [List.map_cons, List.map_cons, List.intercalate_cons_cons, ← List.map_cons, ih,
      List.append_assoc]
    rfl

theorem lineTail_eq_nil_iff {fields : List (List α)} : lineTail d fields = [] ↔ fields = [] := by
  cases fields with
  | nil => exact ⟨fun _ => rfl, fun _ => rfl⟩
  | cons next rest => exact ⟨nofun, nofun⟩

/-- A record is its line, unless the line is empty. -/
theorem writeRecord_cons {field : List α} {fields : List (List α)} (h : field ≠ [] ∨ fields ≠ []) :
    writeRecord d (field :: fields) =
      writeField d field ++ (lineTail d fields ++ [d.lineFeed]) := by
  have line_ne : ¬(writeField d field ++ lineTail d fields).isEmpty = true := by
    intro e
    obtain ⟨e₁, e₂⟩ := List.append_eq_nil_iff.1 (List.isEmpty_iff.1 e)
    exact h.elim (· (writeField_eq_nil_iff.1 e₁)) (· (lineTail_eq_nil_iff.1 e₂))
  rw [writeRecord, intercalate_writeField, if_neg line_ne, List.append_assoc]

/-- The first letter of a line is a mark, unless the first field is written as it is and begins with
the letter. -/
theorem head?_writeRecord {field : List α} {fields : List (List α)} {a : α}
    (h : (writeRecord d (field :: fields)).head? = some a) :
    a = d.quote ∨ a = d.delimiter ∨ writeField d field = field ∧ field.head? = some a := by
  by_cases empty : field = [] ∧ fields = []
  · rw [empty.1, empty.2] at h
    exact .inl (Option.some.inj h).symm
  rw [writeRecord_cons (not_and_or.1 empty)] at h
  by_cases hm : field.any d.isMark = true
  · rw [writeField_of_any hm] at h
    exact .inl (Option.some.inj h).symm
  have same : writeField d field = field := if_neg hm
  rw [same] at h
  cases field with
  | nil =>
    -- an empty field at the front of a line has a delimiter behind it
    cases fields with
    | nil => exact absurd ⟨rfl, rfl⟩ empty
    | cons next rest => exact .inr (.inl (Option.some.inj h).symm)
  | cons b letters => exact .inr (.inr ⟨same, h⟩)

/-- Only the first field can begin a text with another letter than a mark. -/
theorem head?_writeRecords {rs : List (List (List α))} (hr : ∀ r ∈ rs, r ≠ []) {a : α}
    (ha : d.isMark a = false) (h : (writeRecords d rs).head? = some a) :
    ∃ field fields rest, rs = (field :: fields) :: rest ∧ writeField d field = field ∧
      field.head? = some a := by
  cases rs with
  | nil => cases h
  | cons r rest =>
    obtain ⟨field, fields, rfl⟩ := List.exists_cons_of_ne_nil (hr r List.mem_cons_self)
    have line_ne : writeRecord d (field :: fields) ≠ [] := by
      rw [writeRecord]
      exact List.append_ne_nil_of_right_ne_nil _ (List.cons_ne_nil _ _)
    rw [writeRecords, List.flatMap_cons, List.head?_append_of_ne_nil _ line_ne] at h
    obtain ⟨hd, hq, -⟩ := Dialect.isMark_eq_false_iff.1 ha
    rcases head?_writeRecord h with e | e | ⟨same, first⟩
    · exact absurd e hq
    · exact absurd e hd
    · exact ⟨field, fields, rest, rfl, same, first⟩

theorem mem_writeField {field : List α} {a : α} (h : a ∈ field) : a ∈ writeField d field := by
  rw [writeField]
  split
  · refine List.mem_append_left _ (List.mem_cons_of_mem _ (List.mem_flatMap.2 ⟨a, h, ?_⟩))
    split <;> exact List.mem_cons_self
  · exact h

end

namespace Codec

/-- The delimiter is an ASCII character that is neither the quote nor a break. -/
structure IsPlain (codec : Codec) : Prop where
  textual : codec.delimiter < 128
  ne_quote : codec.delimiter ≠ 0x22
  ne_carriageReturn : codec.delimiter ≠ 0x0D
  ne_lineFeed : codec.delimiter ≠ 0x0A

variable {codec : Codec}

theorem IsPlain.isTextual (h : codec.IsPlain) : codec.isTextual = true :=
  decide_eq_true h.textual

/-- A delimiter below 128 is the character of the same number. -/
theorem toNat_delimiter (h : codec.isTextual = true) :
    codec.charDialect.delimiter.toNat = codec.delimiter.toNat := by
  have small : codec.delimiter.toNat < 128 := UInt8.lt_iff_toNat_lt.1 (of_decide_eq_true h)
  have valid : codec.delimiter.toNat.isValidChar := .inl (by omega)
  show (Char.ofNat codec.delimiter.toNat).toNat = _
  rw [Char.ofNat, dif_pos valid]
  rfl

/-- Bytes that differ are characters that differ. -/
theorem IsPlain.delimiter_ne (h : codec.IsPlain) {b : UInt8} {c : Char} (hc : c.toNat = b.toNat)
    (hb : codec.delimiter ≠ b) : codec.charDialect.delimiter ≠ c := by
  intro e
  have := toNat_delimiter h.isTextual
  rw [e, hc] at this
  exact hb (UInt8.toNat_inj.1 this).symm

theorem IsPlain.lawful (h : codec.IsPlain) : codec.charDialect.Lawful where
  delimiter_ne_quote := h.delimiter_ne rfl h.ne_quote
  isBreak_delimiter := by
    rw [Dialect.isBreak, decide_eq_false (h.delimiter_ne rfl h.ne_carriageReturn),
      decide_eq_false (h.delimiter_ne rfl h.ne_lineFeed)]
    rfl
  isBreak_quote := rfl

/-- The fields of records as lists of letters. -/
def letters (rs : List (List String)) : List (List (List Char)) :=
  rs.map (·.map String.toList)

theorem ne_nil_of_mem_letters {rs : List (List String)} (hr : ∀ r ∈ rs, r ≠ []) :
    ∀ r ∈ letters rs, r ≠ [] := by
  intro r h
  obtain ⟨s, hs, rfl⟩ := List.mem_map.1 h
  exact fun e => hr s hs (List.map_eq_nil_iff.1 e)

theorem map_ofList_letters (rs : List (List String)) :
    (letters rs).map (·.map String.ofList) = rs := by
  have fields : ∀ r : List String, (r.map String.toList).map String.ofList = r := fun r => by
    rw [List.map_map]
    exact (List.map_congr_left fun s _ => String.ofList_toList).trans (List.map_id r)
  rw [letters, List.map_map]
  exact (List.map_congr_left fun r _ => fields r).trans (List.map_id rs)

/-- The text of records. -/
def written (codec : Codec) (rs : List (List String)) : String :=
  String.ofList (writeRecords codec.charDialect (letters rs))

/-- A text is not blank if its first field is not. -/
theorem allBlank_written {field : String} (hf : Text.allBlank field = false) (codec : Codec)
    (fields : List String) (rest : List (List String)) :
    Text.allBlank (codec.written ((field :: fields) :: rest)) = false := by
  obtain ⟨c, hc, blank⟩ := List.all_eq_false.1 hf
  have line_ne : field.toList ≠ [] ∨ fields.map String.toList ≠ [] :=
    .inl fun e => absurd (e ▸ hc) List.not_mem_nil
  refine List.all_eq_false.2 ⟨c, ?_, blank⟩
  rw [written, String.toList_ofList, letters, List.map_cons, List.map_cons, writeRecords,
    List.flatMap_cons, writeRecord_cons line_ne]
  exact List.mem_append_left _ (List.mem_append_left _ (mem_writeField hc))

theorem IsPlain.readRecords_eq (h : codec.IsPlain) (text : String) : codec.readRecords text =
    .ok ((records codec.charDialect (dropMark (dropMark text.toList))).map
      (·.map String.ofList)) :=
  if_pos h.isTextual

theorem IsPlain.encode_eq (h : codec.IsPlain) (table : Table) :
    codec.encode table = .ok (codec.written (recordsOfTable table)) :=
  if_pos h.isTextual

/-- Reading never fails, and gives records that have fields. -/
theorem IsPlain.exists_readRecords (h : codec.IsPlain) (text : String) :
    ∃ rs, codec.readRecords text = .ok rs ∧ ∀ r ∈ rs, r ≠ [] := by
  refine ⟨_, h.readRecords_eq text, fun r hr => ?_⟩
  obtain ⟨letters, hl, rfl⟩ := List.mem_map.1 hr
  exact fun e => ne_nil_of_mem_records hl (List.map_eq_nil_iff.1 e)

/-- Written records are read back. -/
theorem IsPlain.readRecords_written (h : codec.IsPlain) {rs : List (List String)}
    (hr : ∀ r ∈ rs, r ≠ []) (hm : beginsWithMark (codec.written rs) = false) :
    codec.readRecords (codec.written rs) = .ok rs := by
  have unmarked : (codec.written rs).toList.head? ≠ some '\uFEFF' := of_decide_eq_false hm
  rw [h.readRecords_eq, dropMark_eq_self unmarked, dropMark_eq_self unmarked, written,
    String.toList_ofList, records_writeRecords h.lawful (ne_nil_of_mem_letters hr),
    map_ofList_letters]

/-- The byte order mark has no meaning in a text of records. -/
theorem IsPlain.isMark_byteOrderMark (h : codec.IsPlain) :
    codec.charDialect.isMark '\uFEFF' = false := by
  refine Dialect.isMark_eq_false_iff.2 ⟨fun e => ?_, nofun, rfl⟩
  have small : codec.delimiter.toNat < 128 := UInt8.lt_iff_toNat_lt.1 h.textual
  have same : ('\uFEFF').toNat = codec.delimiter.toNat := by
    rw [e]
    exact toNat_delimiter h.isTextual
  have : ('\uFEFF').toNat = 65279 := rfl
  omega

/-- A text begins with a byte order mark only if its first field does. -/
theorem IsPlain.beginsWithMark_of_written (h : codec.IsPlain) {rs : List (List String)}
    (hr : ∀ r ∈ rs, r ≠ []) (hm : beginsWithMark (codec.written rs) = true) :
    ∃ field ∈ firstField? rs, beginsWithMark field = true ∧
      writeField codec.charDialect field.toList = field.toList := by
  have head := of_decide_eq_true hm
  rw [written, String.toList_ofList] at head
  obtain ⟨field, fields, rest, e, same, first⟩ :=
    head?_writeRecords (ne_nil_of_mem_letters hr) h.isMark_byteOrderMark head
  obtain ⟨r, rs', rfl, er, -⟩ := List.map_eq_cons_iff.1 e
  obtain ⟨field, fields', rfl, ef, -⟩ := List.map_eq_cons_iff.1 er
  subst ef
  exact ⟨field, rfl, decide_eq_true first, same⟩

/-- Records whose first field does not begin with a byte order mark are read back. -/
theorem IsPlain.readRecords_written_of_firstField (h : codec.IsPlain) {rs : List (List String)}
    (hr : ∀ r ∈ rs, r ≠ []) (hm : ∀ field ∈ firstField? rs, beginsWithMark field = false) :
    codec.readRecords (codec.written rs) = .ok rs := by
  refine h.readRecords_written hr (Bool.eq_false_iff.2 fun marked => ?_)
  obtain ⟨field, hf, mark, -⟩ := h.beginsWithMark_of_written hr marked
  rw [hm field hf] at mark
  cases mark

/-! ## Marked texts -/

/-- The field is the short one with byte order marks before it. -/
def Marked (field short : List Char) : Prop :=
  ∃ n, field = List.replicate (n + 1) '\uFEFF' ++ short

theorem Marked.length_lt {field short : List Char} (h : Marked field short) :
    short.length < field.length := by
  obtain ⟨n, rfl⟩ := h
  rw [List.length_append, List.length_replicate]
  omega

/-- Dropping a mark takes marks from the front of a text, and nothing from behind. -/
theorem exists_dropMark_append (front : List Char) {back : List Char}
    (hb : back.head? ≠ some '\uFEFF') :
    ∃ n short, front = List.replicate n '\uFEFF' ++ short ∧
      dropMark (front ++ back) = short ++ back := by
  cases front with
  | nil => exact ⟨0, [], rfl, dropMark_eq_self hb⟩
  | cons c rest =>
    by_cases hc : c = '\uFEFF'
    · subst hc
      exact ⟨1, rest, rfl, rfl⟩
    · exact ⟨0, c :: rest, rfl, dropMark_eq_self fun e => hc (Option.some.inj e)⟩

/-- A text whose first field begins with a byte order mark is read with the field without marks, or
without the first record if nothing is left of it. -/
theorem records_dropMark_dropMark {d : Dialect Char} (h : d.Lawful)
    (hb : d.isMark '\uFEFF' = false) {field : List Char} {fields : List (List Char)}
    {rest : List (List (List Char))} (same : writeField d field = field)
    (first : field.head? = some '\uFEFF') (hr : ∀ r ∈ rest, r ≠ []) :
    records d (dropMark (dropMark (writeRecords d ((field :: fields) :: rest)))) = rest ∨
      ∃ short : List Char, Marked field short ∧
        records d (dropMark (dropMark (writeRecords d ((field :: fields) :: rest)))) =
          (short :: fields) :: rest := by
  obtain ⟨tail, hf⟩ := List.head?_eq_some_iff.1 first
  have text : ∀ front, front ≠ [] ∨ fields ≠ [] → writeField d front = front →
      writeRecords d ((front :: fields) :: rest) =
        front ++ (lineTail d fields ++ [d.lineFeed] ++ writeRecords d rest) := by
    intro front hne he
    rw [writeRecords, List.flatMap_cons, writeRecord_cons hne, he, List.append_assoc]
    rfl
  have back : (lineTail d fields ++ [d.lineFeed] ++ writeRecords d rest).head? ≠
      some '\uFEFF' := by
    obtain ⟨hd, -, hk⟩ := Dialect.isMark_eq_false_iff.1 hb
    cases fields with
    | nil =>
      intro e
      have lineFeed : d.lineFeed = '\uFEFF' := Option.some.inj e
      rw [← lineFeed, d.isBreak_lineFeed] at hk
      cases hk
    | cons next others => exact fun e => hd (Option.some.inj e).symm
  rw [text field (.inl (hf ▸ List.cons_ne_nil _ _)) same, hf]
  obtain ⟨n, short, marks, dropped⟩ := exists_dropMark_append tail back
  have marked : ∀ behind : List Char, dropMark ('\uFEFF' :: tail ++ behind) = tail ++ behind :=
    fun _ => rfl
  rw [marked, dropped]
  by_cases empty : short = [] ∧ fields = []
  · -- all that is left of the first line is its break
    rw [empty.1, empty.2]
    exact .inl ((records_lineFeed_cons _).trans (records_writeRecords h hr))
  · have unmarked : ∀ a ∈ short, d.isMark a = false := by
      intro a ha
      have plain : ¬field.any d.isMark = true := by
        intro any
        rw [writeField_of_any any, hf] at same
        obtain ⟨-, hq, -⟩ := Dialect.isMark_eq_false_iff.1 hb
        exact hq (List.cons.inj same).1.symm
      refine Bool.eq_false_iff.2 fun mark => plain (List.any_eq_true.2 ⟨a, ?_, mark⟩)
      rw [hf, marks]
      exact List.mem_cons_of_mem _ (List.mem_append_right _ ha)
    refine .inr ⟨short, ⟨n, by rw [marks]; rfl⟩, ?_⟩
    rw [← text short (not_and_or.1 empty) (writeField_of_not_any unmarked)]
    refine records_writeRecords h fun r hm => ?_
    rcases List.mem_cons.1 hm with rfl | hm
    · exact List.cons_ne_nil _ _
    · exact hr r hm

/-- Written records whose text begins with a byte order mark are read with the first field without
marks, or without the first record. -/
theorem IsPlain.readRecords_written_of_mark (h : codec.IsPlain) {rs : List (List String)}
    (hr : ∀ r ∈ rs, r ≠ []) (hm : beginsWithMark (codec.written rs) = true) :
    ∃ field fields rest, rs = (field :: fields) :: rest ∧
      (codec.readRecords (codec.written rs) = .ok rest ∨
        ∃ short : String, Marked field.toList short.toList ∧
          codec.readRecords (codec.written rs) = .ok ((short :: fields) :: rest)) := by
  have head := of_decide_eq_true hm
  rw [written, String.toList_ofList] at head
  obtain ⟨_, _, _, e, same, first⟩ :=
    head?_writeRecords (ne_nil_of_mem_letters hr) h.isMark_byteOrderMark head
  obtain ⟨r, rest, rfl, er, rfl⟩ := List.map_eq_cons_iff.1 e
  obtain ⟨field, fields, rfl, rfl, rfl⟩ := List.map_eq_cons_iff.1 er
  refine ⟨field, fields, rest, rfl, ?_⟩
  let text := writeRecords codec.charDialect (letters ((field :: fields) :: rest))
  have short_first : records codec.charDialect (dropMark (dropMark text)) = letters rest ∨
      ∃ short : List Char, Marked field.toList short ∧
        records codec.charDialect (dropMark (dropMark text)) =
          letters ((String.ofList short :: fields) :: rest) := by
    have rest_ne := ne_nil_of_mem_letters fun r hm => hr r (List.mem_cons_of_mem _ hm)
    rcases records_dropMark_dropMark h.lawful h.isMark_byteOrderMark same first rest_ne with
      gone | ⟨short, marks, e⟩
    · exact .inl gone
    · refine .inr ⟨short, marks, ?_⟩
      rw [letters, List.map_cons, List.map_cons, String.toList_ofList]
      exact e
  rw [h.readRecords_eq, written, String.toList_ofList]
  rcases short_first with gone | ⟨short, marks, e⟩
  · rw [gone, map_ofList_letters]
    exact .inl rfl
  · rw [e, map_ofList_letters]
    refine .inr ⟨String.ofList short, ?_, rfl⟩
    rwa [String.toList_ofList]

/-! ## Tables -/

theorem decode_of_readRecords {text : String} {rs : List (List String)}
    (h : codec.readRecords text = .ok rs) : codec.decode text = .ok (codec.tableOfRecords rs) := by
  rw [decode, h]
  rfl

theorem IsPlain.exists_decode (h : codec.IsPlain) (text : String) :
    ∃ rs, codec.readRecords text = .ok rs ∧ (∀ r ∈ rs, r ≠ []) ∧
      codec.decode text = .ok (codec.tableOfRecords rs) := by
  obtain ⟨rs, hr, ne⟩ := h.exists_readRecords text
  exact ⟨rs, hr, ne, decode_of_readRecords hr⟩

/-- Every table that is read is well-formed, whatever the delimiter. -/
theorem wellFormed_of_decode {text : String} {table : Table}
    (hd : codec.decode text = .ok table) : table.WellFormed := by
  rw [decode] at hd
  cases read : codec.readRecords text with
  | error fault => rw [read] at hd; cases hd
  | ok rs =>
    rw [read] at hd
    rw [← Except.ok.inj hd]
    exact wellFormed_tableOfRecords codec rs

/-- A text without a header has columns. -/
theorem IsPlain.headers_ne_nil_of_decode (h : codec.IsPlain) {text : String} {table : Table}
    (hd : codec.decode text = .ok table) (hs : table.synthetic = true) : table.headers ≠ [] := by
  obtain ⟨rs, -, ne, e⟩ := h.exists_decode text
  obtain rfl := Except.ok.inj (e.symm.trans hd)
  have hrs : rs ≠ [] := by
    rintro rfl
    cases hs
  rw [tableOfRecords_eq codec hrs]
  exact columnsOf_ne_nil hrs ne

/-- A table with a header that was read is empty, or its columns are the names that the first record
gives. -/
theorem IsPlain.eq_empty_or_header (h : codec.IsPlain) {text : String} {table : Table}
    (hd : codec.decode text = .ok table) (hs : table.synthetic = false) :
    table = .empty ∨ ∃ first rest, codec.readRecords text = .ok (first :: rest) ∧
      codec.takesHeader first = true ∧ table.headers = headerNames first ∧ table.headers ≠ [] ∧
      table.rows.length = rest.length := by
  obtain ⟨rs, hr, ne, e⟩ := h.exists_decode text
  obtain rfl := Except.ok.inj (hd.symm.trans e)
  cases rs with
  | nil => exact .inl rfl
  | cons first rest =>
    cases taken : codec.takesHeader first with
    | true =>
      rw [tableOfRecords_of_header taken]
      exact .inr ⟨first, rest, hr, taken, rfl, headerNames_ne_nil (ne first List.mem_cons_self),
        List.length_map _⟩
    | false =>
      rw [tableOfRecords_of_synthetic taken] at hs
      cases hs

/-- A well-formed table is written as a text that is read as the table filled. -/
theorem IsPlain.decode_written (h : codec.IsPlain) {table : Table} (hw : table.WellFormed)
    (ht : codec.TellsHeader table)
    (hm : ∀ field ∈ firstField? (recordsOfTable table), beginsWithMark field = false) :
    codec.decode (codec.written (recordsOfTable table)) = .ok table.filled := by
  have back := h.readRecords_written_of_firstField
    (fun _ hr => ne_nil_of_mem_recordsOfTable hr) hm
  rw [decode_of_readRecords back, tableOfRecords_recordsOfTable hw ht]

/-- A table without a header is read back exactly if no byte order mark is lost and its first record
does not pass for a header. -/
theorem IsPlain.decode_written_iff (h : codec.IsPlain) {table : Table} (hw : table.WellFormed)
    (hs : table.synthetic = true) (hh : table.headers ≠ []) :
    codec.decode (codec.written (recordsOfTable table)) = .ok table.filled ↔
      beginsWithMark (codec.written (recordsOfTable table)) = false ∧ codec.TellsHeader table := by
  have hr : ∀ r ∈ recordsOfTable table, r ≠ [] := fun _ hr => ne_nil_of_mem_recordsOfTable hr
  refine ⟨fun hd => ?_, fun ⟨hm, ht⟩ => ?_⟩
  · have hm : beginsWithMark (codec.written (recordsOfTable table)) = false := by
      refine Bool.eq_false_iff.2 fun marked => ?_
      obtain ⟨field, fields, rest, e, gone | ⟨short, marks, read⟩⟩ :=
        h.readRecords_written_of_mark hr marked
      · -- one record is missing
        rw [decode_of_readRecords gone] at hd
        have rows := length_rows_tableOfRecords_le codec rest
        have written := congrArg List.length e
        rw [recordsOfTable_of_synthetic hs hh, List.length_map, List.length_cons] at written
        rw [Except.ok.inj hd, Table.filled, List.length_map] at rows
        omega
      · -- the first field is shorter, so it is not what the first cell is written as
        rw [decode_of_readRecords read] at hd
        have back := Except.ok.inj hd
        have flag := congrArg Table.synthetic back
        rw [Table.filled_synthetic, hs] at flag
        have taken : codec.takesHeader (short :: fields) = false := by
          refine Bool.eq_false_iff.2 fun taken => ?_
          rw [tableOfRecords_of_header taken] at flag
          cases flag
        have first := head?_recordsOfTable_of_synthetic (List.cons_ne_nil _ _) taken rest
        rw [back, recordsOfTable_congr (Table.filled_alike table), e] at first
        have same : field = Cell.normalForm short := (List.cons.inj (Option.some.inj first)).1
        have shorter := marks.length_lt
        rw [String.length_toList, String.length_toList] at shorter
        have := Cell.length_normalForm_le short
        rw [← same] at this
        omega
    rw [decode_of_readRecords (h.readRecords_written hr hm)] at hd
    exact ⟨hm, tellsHeader_of_tableOfRecords hh (Except.ok.inj hd)⟩
  · rw [decode_of_readRecords (h.readRecords_written hr hm), tableOfRecords_recordsOfTable hw ht]

/-- The round trip: every text is read as a table, which is written as a text that is read as the
same table with its absent cells filled, and with the same decision on its header. -/
theorem decode_encode_of_decode (h : codec.IsPlain) (text : String) :
    ∃ table, codec.decode text = .ok table ∧
      ((∀ field ∈ firstField? (recordsOfTable table), beginsWithMark field = false) →
        ∃ again, codec.encode table = .ok again ∧ codec.decode again = .ok table.filled) := by
  obtain ⟨rs, -, ne, hd⟩ := h.exists_decode text
  refine ⟨_, hd, fun hm => ⟨_, h.encode_eq _, ?_⟩⟩
  have back := h.readRecords_written_of_firstField
    (fun _ hr => ne_nil_of_mem_recordsOfTable hr) hm
  rw [decode_of_readRecords back, tableOfRecords_tableOfRecords codec ne]

/-- A quoted quote, a blank name, a truth value and a record without its last fields. -/
theorem decode_encode_of_decode_short_record : ∃ table : Table,
    decode ⟨0x2C, .detect⟩ "id,\"a\"\"b\", \n1, TRUE ,x\n2\n" = .ok table ∧
      ∃ again, encode ⟨0x2C, .detect⟩ table = .ok again ∧
        decode ⟨0x2C, .detect⟩ again = .ok table.filled := by
  have plain : (Codec.mk 0x2C .detect).IsPlain := by constructor <;> decide
  obtain ⟨table, read, back⟩ :=
    decode_encode_of_decode plain "id,\"a\"\"b\", \n1, TRUE ,x\n2\n"
  have rows : decode ⟨0x2C, .detect⟩ "id,\"a\"\"b\", \n1, TRUE ,x\n2\n" =
      .ok ⟨["id", "a\"b", "column_3"], [
        .ofList [("id", .int 1), ("a\"b", .bool true), ("column_3", .string "x")],
        .ofList [("id", .int 2)]], false⟩ := by
    decide +kernel
  obtain rfl := Except.ok.inj (rows.symm.trans read)
  exact ⟨_, read, back (by decide +kernel)⟩

end Codec

end TableQuery.Csv
