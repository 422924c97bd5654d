import TableQuery.Proofs.Csv.Bytes
import TableQuery.Proofs.Csv.RoundTrip

/-!
# Delimiters and faults

A codec fails only for its delimiter. One below 128 is a character, and then the bytes of a text are
read as its characters are and written records are the bytes of a text. One from 128 on, between two
fields, is a byte that stands for nothing, whatever the fields are: behind a text it may only begin
a character, and what stands behind it never goes on with one.

* `readAsBytes_eq`, `writeAsBytes_eq`: a delimiter below 128;
* `Stray`: bytes with a byte between texts, which are no text;
* `writeRecords_stray`: a delimiter from 128 on;
* `faults_of_delimiter`: when a codec fails.
-/

namespace TableQuery.Csv

open Text

/-! ## A byte between texts -/

/-- The byte stands behind a text, and before itself or a byte that does not go on with a
character. -/
def Stray (a : UInt8) (bytes : List UInt8) : Prop :=
  ∃ text b rest, bytes = Utf8.encode text ++ a :: b :: rest ∧
    (b = a ∨ Utf8.isContinuation b = false)

section

variable {a : UInt8} {bytes : List UInt8}

theorem Stray.append (h : Stray a bytes) (more : List UInt8) : Stray a (bytes ++ more) := by
  obtain ⟨text, b, rest, rfl, behind⟩ := h
  exact ⟨text, b, rest ++ more, by simp, behind⟩

theorem Stray.encode_append (h : Stray a bytes) (text : List Char) :
    Stray a (Utf8.encode text ++ bytes) := by
  obtain ⟨more, b, rest, rfl, behind⟩ := h
  exact ⟨text ++ more, b, rest, by simp [Utf8.encode_append], behind⟩

theorem Stray.decode_eq (h : Stray a bytes) (ha : 0x80 ≤ a.toNat) :
    ∃ n, Utf8.decode bytes = .error ⟨n, some 1⟩ := by
  obtain ⟨text, b, rest, rfl, behind⟩ := h
  exact ⟨_, Utf8.decode_encode_stray ha behind text rest⟩

end

namespace Codec

variable {codec : Codec}

/-! ## A delimiter that is a character -/

theorem isByteOf_quote (codec : Codec) : IsByteOf codec.byteDialect.quote codec.charDialect.quote :=
  ⟨by simp [charDialect, Dialect.ofChar], rfl⟩

theorem inBytes (h : codec.isTextual = true) : codec.byteDialect.InBytes codec.charDialect where
  delimiter := by
    have small : codec.delimiter.toNat < 128 := UInt8.lt_iff_toNat_lt.1 (of_decide_eq_true h)
    exact ⟨toNat_delimiter h ▸ small, (toNat_delimiter h).symm⟩
  quote := isByteOf_quote codec
  carriageReturn := ⟨by simp [charDialect, Dialect.ofChar], rfl⟩
  lineFeed := ⟨by simp [charDialect, Dialect.ofChar], rfl⟩

theorem decodeFields_map_encode (fault : Nat → Nat → CodecFault) (index : Nat)
    (fields : List (List Char)) :
    decodeFields fault index (fields.map Utf8.encode) = .ok (fields.map String.ofList) := by
  induction fields generalizing index with
  | nil => rfl
  | cons field rest ih =>
    rw [List.map_cons, decodeFields, Utf8.decode_encode]
    show _ <$> decodeFields fault (index + 1) (rest.map Utf8.encode) = _
    rw [ih]
    rfl

theorem decodeRecords_zip_map_encode (bytes : List UInt8) (skipped index : Nat) {starts : List Nat}
    {rs : List (List (List Char))} (h : rs.length ≤ starts.length) :
    decodeRecords bytes skipped index (starts.zip (rs.map (·.map Utf8.encode))) =
      .ok (rs.map (·.map String.ofList)) := by
  induction rs generalizing starts index with
  | nil => rw [List.map_nil, List.zip_nil_right]; rfl
  | cons fields rest ih =>
    obtain ⟨start, starts, rfl⟩ :=
      List.exists_cons_of_length_pos (Nat.lt_of_lt_of_le (Nat.succ_pos _) h)
    rw [List.map_cons, List.zip_cons_cons, decodeRecords, decodeFields_map_encode]
    show _ <$> decodeRecords bytes skipped (index + 1) _ = _
    rw [ih (index + 1) (Nat.le_of_succ_le_succ h)]
    rfl

/-- The bytes of a text are read as its characters are. -/
theorem readAsBytes_eq (h : codec.isTextual = true) (text : String) :
    codec.readAsBytes text = codec.readRecords text := by
  have starts (body : List Char) : (records codec.charDialect body).length ≤
      (recordStarts codec.byteDialect (Utf8.encode body)).length := by
    have le := length_records_le (d := codec.byteDialect) (Utf8.encode body)
    rwa [records_encode (inBytes h), List.length_map] at le
  rw [readRecords, if_pos h, readAsBytes, records_encode (inBytes h)]
  exact decodeRecords_zip_map_encode _ _ _ (starts _)

theorem map_encode_letters (rs : List (List String)) :
    (rs.map (·.map fun s => Utf8.encode s.toList)) = (letters rs).map (·.map Utf8.encode) := by
  simp [letters]

theorem writeAsBytes_eq (h : codec.isTextual = true) (rs : List (List String)) :
    codec.writeAsBytes rs = codec.writeText rs := by
  rw [writeText, if_pos h, writeAsBytes, map_encode_letters, writeRecords_encode (inBytes h),
    Utf8.decode_encode]
  rfl

/-! ## A delimiter that is no character -/

/-- A field is written as the bytes of a text, whatever the delimiter is. -/
theorem exists_writeField_encode (codec : Codec) (field : List Char) :
    ∃ text, writeField codec.byteDialect (Utf8.encode field) = Utf8.encode text := by
  rw [writeField, doubled_encode (isByteOf_quote codec)]
  split
  · refine ⟨['"'] ++ doubled codec.charDialect field ++ ['"'], ?_⟩
    rw [Utf8.encode_append, Utf8.encode_append]
    rfl
  · exact ⟨field, rfl⟩

theorem exists_writeRecord_encode (codec : Codec) {fields : List (List Char)}
    (h : fields.length ≤ 1) :
    ∃ text, writeRecord codec.byteDialect (fields.map Utf8.encode) = Utf8.encode text := by
  obtain ⟨text, line⟩ : ∃ text, [codec.byteDialect.delimiter].intercalate
      ((fields.map Utf8.encode).map (writeField codec.byteDialect)) = Utf8.encode text := by
    match fields, h with
    | [], _ => exact ⟨[], rfl⟩
    | [field], _ =>
      obtain ⟨text, written⟩ := codec.exists_writeField_encode field
      refine ⟨text, ?_⟩
      simpa [List.intercalate_singleton] using written
  rw [writeRecord, line]
  split
  · exact ⟨['"', '"', '\n'], rfl⟩
  · refine ⟨text ++ ['\n'], ?_⟩
    rw [Utf8.encode_append]
    rfl

/-- Behind a delimiter stands a field, the next delimiter or the end of the line. -/
theorem writeRecord_stray (codec : Codec) {fields : List (List Char)} (h : 2 ≤ fields.length) :
    Stray codec.delimiter (writeRecord codec.byteDialect (fields.map Utf8.encode)) := by
  match fields, h with
  | first :: second :: others, _ =>
    obtain ⟨text, e₁⟩ := codec.exists_writeField_encode first
    obtain ⟨next, e₂⟩ := codec.exists_writeField_encode second
    rw [List.map_cons, List.map_cons, writeRecord_cons (.inr (List.cons_ne_nil _ _)), e₁, lineTail,
      List.flatMap_cons, ← lineTail, e₂]
    cases begins : Utf8.encode next with
    | cons b rest =>
      have first_byte : Utf8.isContinuation b = false := Utf8.isContinuation_head_encode begins
      exact ⟨text, b, rest ++ (lineTail codec.byteDialect (others.map Utf8.encode) ++ [0x0A]),
        by simp [byteDialect, Dialect.ofByte], .inr first_byte⟩
    | nil =>
      cases others with
      | nil => exact ⟨text, 0x0A, [], rfl, .inr rfl⟩
      | cons third others => exact ⟨text, codec.delimiter, _, rfl, .inl rfl⟩

theorem exists_writeRecords_encode (codec : Codec) {rs : List (List (List Char))}
    (h : ∀ r ∈ rs, r.length ≤ 1) :
    ∃ text, writeRecords codec.byteDialect (rs.map (·.map Utf8.encode)) = Utf8.encode text := by
  induction rs with
  | nil => exact ⟨[], rfl⟩
  | cons r rest ih =>
    obtain ⟨line, e₁⟩ := codec.exists_writeRecord_encode (h r List.mem_cons_self)
    obtain ⟨text, e₂⟩ := ih fun s hs => h s (List.mem_cons_of_mem r hs)
    refine ⟨line ++ text, ?_⟩
    rw [List.map_cons, writeRecords, List.flatMap_cons, ← writeRecords, e₁, e₂, Utf8.encode_append]

/-- The first record with two fields has the first stray delimiter. -/
theorem writeRecords_stray (codec : Codec) {rs : List (List (List Char))}
    (h : ∃ r ∈ rs, 2 ≤ r.length) :
    Stray codec.delimiter (writeRecords codec.byteDialect (rs.map (·.map Utf8.encode))) := by
  induction rs with
  | nil => obtain ⟨r, hr, -⟩ := h; cases hr
  | cons r rest ih =>
    rw [List.map_cons, writeRecords, List.flatMap_cons, ← writeRecords]
    by_cases wide : 2 ≤ r.length
    · exact (codec.writeRecord_stray wide).append _
    · obtain ⟨line, e⟩ : ∃ line, writeRecord codec.byteDialect (r.map Utf8.encode) =
          Utf8.encode line := codec.exists_writeRecord_encode (by omega)
      obtain ⟨s, hs, long⟩ := h
      rcases List.mem_cons.1 hs with rfl | hs
      · exact absurd long wide
      · rw [e]
        exact (ih ⟨s, hs, long⟩).encode_append line

theorem exists_writeAsBytes (codec : Codec) {rs : List (List String)}
    (h : ∀ r ∈ rs, r.length ≤ 1) : ∃ text, codec.writeAsBytes rs = .ok text := by
  have narrow : ∀ r ∈ letters rs, r.length ≤ 1 := by
    intro r hr
    obtain ⟨s, hs, rfl⟩ := List.mem_map.1 hr
    rw [List.length_map]
    exact h s hs
  obtain ⟨text, written⟩ := codec.exists_writeRecords_encode narrow
  rw [writeAsBytes, map_encode_letters, written, Utf8.decode_encode]
  exact ⟨_, rfl⟩

theorem writeAsBytes_fails (hd : 128 ≤ codec.delimiter) {rs : List (List String)}
    (h : ∃ r ∈ rs, 2 ≤ r.length) :
    ∃ n, codec.writeAsBytes rs = .error (.unwritable ⟨n, some 1⟩) := by
  have wide : ∃ r ∈ letters rs, 2 ≤ r.length := by
    obtain ⟨r, hr, long⟩ := h
    refine ⟨r.map String.toList, List.mem_map_of_mem hr, ?_⟩
    rwa [List.length_map]
  obtain ⟨n, fault⟩ := (codec.writeRecords_stray wide).decode_eq (UInt8.le_iff_toNat_le.1 hd)
  rw [writeAsBytes, map_encode_letters, fault]
  exact ⟨n, rfl⟩

/-! ## When a codec fails -/

/-- The records of a table with two columns have two fields, if there are any. -/
theorem exists_mem_recordsOfTable_iff (table : Table) :
    (∃ r ∈ recordsOfTable table, 2 ≤ r.length) ↔
      2 ≤ table.headers.length ∧ (table.synthetic = false ∨ table.rows ≠ []) := by
  obtain ⟨headers, rows, synthetic⟩ := table
  by_cases none : headers = []
  · subst none
    simp [recordsOfTable]
  · cases synthetic with
    | false =>
      rw [recordsOfTable_of_header rfl none]
      simp [length_recordOfRow]
    | true =>
      rw [recordsOfTable_of_synthetic rfl none]
      simp only [length_recordOfRow, List.mem_map, exists_exists_and_eq_and, Bool.true_eq_false,
        false_or]
      constructor
      · rintro ⟨row, hr, long⟩
        exact ⟨long, List.ne_nil_of_mem hr⟩
      · rintro ⟨long, ne⟩
        obtain ⟨row, hr⟩ := List.exists_mem_of_ne_nil rows ne
        exact ⟨row, hr, long⟩

/-- A codec whose delimiter is a character never fails: the bytes of a text are read, and the bytes
that a table is written as are a text. With any other delimiter a table is not written, for one byte
of what would be written, if and only if some record has two fields, that is, if the table has two
columns and a record to be written. -/
theorem faults_of_delimiter (codec : Codec) :
    (codec.delimiter < 128 →
      (∀ text, ∃ rs, codec.readAsBytes text = .ok rs ∧
        codec.decode text = .ok (codec.tableOfRecords rs)) ∧
      ∀ table, ∃ text, codec.writeAsBytes (recordsOfTable table) = .ok text ∧
        codec.encode table = .ok text) ∧
    (128 ≤ codec.delimiter → ∀ table,
      ((∃ fault, codec.encode table = .error fault) ↔
        ∃ record ∈ recordsOfTable table, 2 ≤ record.length) ∧
      ((∃ record ∈ recordsOfTable table, 2 ≤ record.length) ↔
        2 ≤ table.headers.length ∧ (table.synthetic = false ∨ table.rows ≠ [])) ∧
      ∀ fault, codec.encode table = .error fault → ∃ n, fault = .unwritable ⟨n, some 1⟩) := by
  constructor
  · intro small
    have textual : codec.isTextual = true := decide_eq_true small
    refine ⟨fun text => ?_, fun table => ?_⟩
    · rw [decode, readAsBytes_eq textual, readRecords, if_pos textual]
      exact ⟨_, rfl, rfl⟩
    · rw [writeAsBytes_eq textual, encode, writeText, if_pos textual]
      exact ⟨_, rfl, rfl⟩
  · intro large table
    have bytes : codec.encode table = codec.writeAsBytes (recordsOfTable table) := by
      have other : ¬codec.isTextual = true := by
        rw [isTextual, decide_eq_true_eq]
        exact UInt8.not_lt.2 large
      rw [encode, writeText, if_neg other]
    rw [bytes]
    by_cases wide : ∃ record ∈ recordsOfTable table, 2 ≤ record.length
    · obtain ⟨n, fails⟩ := writeAsBytes_fails large wide
      rw [fails]
      refine ⟨iff_of_true ⟨_, rfl⟩ wide, exists_mem_recordsOfTable_iff table, ?_⟩
      rintro fault ⟨⟩
      exact ⟨n, rfl⟩
    · have narrow : ∀ record ∈ recordsOfTable table, record.length ≤ 1 := fun record hr =>
        Nat.le_of_not_lt fun long => wide ⟨record, hr, long⟩
      obtain ⟨text, written⟩ := codec.exists_writeAsBytes narrow
      rw [written]
      exact ⟨iff_of_false (by simp) wide, exists_mem_recordsOfTable_iff table, by simp⟩

theorem faults_of_delimiter_middle_dot :
    (∃ text, encode ⟨0x2C, .detect⟩ ⟨["a", "·"], [], false⟩ = .ok text) ∧
    (∃ fault, encode ⟨0xB7, .detect⟩ ⟨["a", "·"], [], false⟩ = .error fault) ∧
    ¬∃ fault, encode ⟨0xB7, .detect⟩ ⟨["a", "·"], [], true⟩ = .error fault := by
  obtain ⟨text, -, written⟩ :=
    ((faults_of_delimiter ⟨0x2C, .detect⟩).1 (by decide)).2 ⟨["a", "·"], [], false⟩
  have large := (faults_of_delimiter ⟨0xB7, .detect⟩).2 (by decide)
  refine ⟨⟨text, written⟩, ?_, ?_⟩
  · rw [(large _).1, (large _).2.1]
    exact ⟨Nat.le_refl 2, .inl rfl⟩
  · rw [(large _).1, (large _).2.1]
    simp

end Codec

end TableQuery.Csv
