import TableQuery.Proofs.Csv.Records
import TableQuery.Proofs.Text.Utf8

/-!
# Records of characters and of bytes

Where each mark is a character of one byte, it does not matter whether records are read and written
as characters or as bytes. A mark never lies in a longer character, so the bytes of such a character
have no meaning, and neither has the character.

* `length_records_le`: each record of a text has a start;
* `Dialect.InBytes`: a dialect of bytes that has the marks of a dialect of characters;
* `Progress.foldl_step_encode`: characters and their bytes are read side by side, character by
  character;
* `records_encode`, `writeRecords_encode`: the same for texts and their records.
-/

namespace TableQuery.Csv

open Text.Utf8 (encode encode_append encode_cons encode_eq_nil_iff)

/-! ## Letters without a meaning -/

section

variable {α : Type} [DecidableEq α] {d : Dialect α}

/-- Where a letter without a meaning leaves the reading. -/
def Place.onward : Place → Place
  | .quoted => .quoted
  | _ => .bare

theorem Place.onward_onward (place : Place) : place.onward.onward = place.onward := by
  cases place <;> rfl

theorem Progress.step_of_not_isMark {a : α} (ha : d.isMark a = false) (p : Progress α) :
    p.step d a = p.push a p.place.onward := by
  obtain ⟨hd, hq, hb⟩ := Dialect.isMark_eq_false_iff.1 ha
  have plain := Progress.plain_of_not_isMark ha p
  cases place : p.place <;>
    simp only [Progress.step, place, Progress.openField, hq, hb, plain, if_false, Place.onward,
      Bool.false_eq_true]

/-- Letters without a meaning are letters of the open field. -/
theorem foldl_step_of_not_isMark {letters : List α} (hl : ∀ a ∈ letters, d.isMark a = false)
    (ne : letters ≠ []) (p : Progress α) :
    letters.foldl (Progress.step d) p =
      { p with place := p.place.onward, field := letters.reverse ++ p.field } := by
  induction letters generalizing p with
  | nil => exact absurd rfl ne
  | cons a rest ih =>
    rw [List.foldl_cons, Progress.step_of_not_isMark (hl a List.mem_cons_self)]
    by_cases last : rest = []
    · subst last
      rfl
    · rw [ih (fun b hb => hl b (List.mem_cons_of_mem a hb)) last]
      simp [Progress.push, Place.onward_onward]

/-- A step that ends a record finishes one, and no other step does. -/
theorem Progress.length_records_step (p : Progress α) (a : α) : (p.step d a).records.length =
    p.records.length + if endsRecord p.place (p.step d a).place then 1 else 0 := by
  have plain (place : Place) (start : place ≠ .recordStart) : (p.plain d a).records.length =
      p.records.length + if endsRecord place (p.plain d a).place then 1 else 0 := by
    unfold Progress.plain
    split
    · simp [Progress.endField, endsRecord]
    split
    · simp [Progress.endRecord, endsRecord, start]
    · simp [Progress.push, endsRecord]
  cases place : p.place with
  | recordStart =>
    -- a break ends no record here, and no other letter does
    simp only [Progress.step, place, Progress.openField, Progress.plain]
    split
    · simp [endsRecord]
    split
    · simp [endsRecord]
    split
    · simp [endsRecord, Progress.endField]
    · simp [endsRecord, Progress.push, *]
  | fieldStart =>
    simp only [Progress.step, place, Progress.openField]
    split
    · simp [endsRecord]
    · exact plain _ (by simp)
  | bare =>
    simp only [Progress.step, place]
    exact plain _ (by simp)
  | quoted =>
    simp only [Progress.step, place]
    split <;> simp [endsRecord, push]
  | quoteSeen =>
    simp only [Progress.step, place]
    split
    · simp [endsRecord, push]
    · exact plain _ (by simp)

theorem length_records_foldl (text : List α) (p : Progress α) (offset : Nat) :
    (text.foldl (Progress.step d) p).records.length =
      p.records.length + (recordEnds d p offset text).length := by
  induction text generalizing p offset with
  | nil => rfl
  | cons a rest ih =>
    rw [List.foldl_cons, ih _ (offset + 1), Progress.length_records_step, recordEnds]
    split
    · rw [List.length_cons]; omega
    · omega

omit [DecidableEq α] in
theorem Progress.length_records_finish_le (p : Progress α) :
    p.finish.records.length ≤ p.records.length + 1 := by
  unfold Progress.finish
  split
  · omega
  · exact Nat.le_refl _

/-- There is a start for each record. -/
theorem length_records_le (text : List α) :
    (records d text).length ≤ (recordStarts d text).length := by
  have finished := (text.foldl (Progress.step d) .start).length_records_finish_le
  rw [length_records_foldl text .start 0] at finished
  rw [records, List.length_reverse, recordStarts, List.length_cons]
  exact Nat.le_trans finished (by simp [Progress.start])

end

/-! ## Characters and bytes -/

/-- The byte is the character. -/
def IsByteOf (b : UInt8) (m : Char) : Prop :=
  m.toNat < 0x80 ∧ b.toNat = m.toNat

theorem IsByteOf.encodeChar {b : UInt8} {m : Char} (h : IsByteOf b m) :
    String.utf8EncodeChar m = [b] := by
  rw [Text.Utf8.encodeChar_of_lt h.1, ← h.2, UInt8.ofNat_toNat]

theorem IsByteOf.encode_singleton {b : UInt8} {m : Char} (h : IsByteOf b m) : encode [m] = [b] :=
  (List.flatMap_singleton ..).trans h.encodeChar

/-- A character that is one byte is this byte only if it is this character. -/
theorem IsByteOf.ofNat_eq_iff {b : UInt8} {m c : Char} (h : IsByteOf b m) (lt : c.toNat < 0x80) :
    UInt8.ofNat c.toNat = b ↔ c = m := by
  have value : (UInt8.ofNat c.toNat).toNat = c.toNat := by simp; omega
  rw [← UInt8.toNat_inj, value, h.2]
  exact Char.toNat_inj

/-- The byte does not lie in a character that takes more than one byte. -/
theorem IsByteOf.not_mem {b : UInt8} {m c : Char} (h : IsByteOf b m) (le : 0x80 ≤ c.toNat) :
    c ≠ m ∧ b ∉ String.utf8EncodeChar c := by
  have lt := h.1
  refine ⟨?_, fun hb => ?_⟩
  · rintro rfl
    omega
  · have := Text.Utf8.le_of_mem_encodeChar le hb
    have := h.2
    omega

/-- The marks of the one dialect are the marks of the other as bytes. -/
structure Dialect.InBytes (e : Dialect UInt8) (d : Dialect Char) : Prop where
  delimiter : IsByteOf e.delimiter d.delimiter
  quote : IsByteOf e.quote d.quote
  carriageReturn : IsByteOf e.carriageReturn d.carriageReturn
  lineFeed : IsByteOf e.lineFeed d.lineFeed

section

variable {e : Dialect UInt8} {d : Dialect Char}

/-- A character is a byte that has the same meaning, or bytes without a meaning. -/
theorem Dialect.InBytes.encodeChar_cases (h : e.InBytes d) (c : Char) :
    (∃ b, String.utf8EncodeChar c = [b] ∧ (b = e.delimiter ↔ c = d.delimiter) ∧
      (b = e.quote ↔ c = d.quote) ∧ e.isBreak b = d.isBreak c) ∨
    (d.isMark c = false ∧ ∀ b ∈ String.utf8EncodeChar c, e.isMark b = false) := by
  by_cases lt : c.toNat < 0x80
  · refine .inl ⟨_, Text.Utf8.encodeChar_of_lt lt, h.delimiter.ofNat_eq_iff lt,
      h.quote.ofNat_eq_iff lt, ?_⟩
    simp only [Dialect.isBreak, h.carriageReturn.ofNat_eq_iff lt, h.lineFeed.ofNat_eq_iff lt]
  · have le := Nat.le_of_not_lt lt
    obtain ⟨ne₁, out₁⟩ := h.delimiter.not_mem le
    obtain ⟨ne₂, out₂⟩ := h.quote.not_mem le
    obtain ⟨ne₃, out₃⟩ := h.carriageReturn.not_mem le
    obtain ⟨ne₄, out₄⟩ := h.lineFeed.not_mem le
    refine .inr ⟨?_, fun b hb => ?_⟩
    · simp [Dialect.isMark, Dialect.isBreak, ne₁, ne₂, ne₃, ne₄]
    · have ne {b' : UInt8} (out : b' ∉ String.utf8EncodeChar c) : b ≠ b' := fun eq => out (eq ▸ hb)
      simp [Dialect.isMark, Dialect.isBreak, ne out₁, ne out₂, ne out₃, ne out₄]

end

/-! ## Reading -/

namespace Progress

/-- What has been read, as bytes. -/
def encoded (p : Progress Char) : Progress UInt8 :=
  ⟨p.place, (encode p.field.reverse).reverse, p.fields.map encode, p.records.map (·.map encode)⟩

theorem encoded_start : (start : Progress Char).encoded = start :=
  rfl

theorem encoded_endField (p : Progress Char) : p.endField.encoded = p.encoded.endField := by
  simp [encoded, endField, encode]

theorem encoded_endRecord (p : Progress Char) : p.endRecord.encoded = p.encoded.endRecord := by
  simp [encoded, endRecord, encode]

theorem encoded_finish (p : Progress Char) : p.finish.encoded = p.encoded.finish := by
  unfold finish
  cases place : p.place <;> simp [encoded_endRecord] <;> simp [encoded, place]

theorem encoded_push (p : Progress Char) (c : Char) (place : Place) : (p.push c place).encoded =
    { p.encoded with
      place := place
      field := (String.utf8EncodeChar c).reverse ++ p.encoded.field } := by
  simp [encoded, push, encode]

variable {e : Dialect UInt8} {d : Dialect Char}

/-- A character is read as its bytes are. -/
theorem foldl_step_encodeChar (h : e.InBytes d) (p : Progress Char) (c : Char) :
    (String.utf8EncodeChar c).foldl (step e) p.encoded = (p.step d c).encoded := by
  rcases h.encodeChar_cases c with ⟨b, bytes, delimiter, quote, breaks⟩ | ⟨plain, none⟩
  · have pushed (place : Place) : (p.push c place).encoded = p.encoded.push b place := by
      rw [encoded_push, bytes]
      rfl
    have plain : (p.plain d c).encoded = p.encoded.plain e b := by
      simp only [Progress.plain, delimiter, breaks, apply_ite encoded, encoded_endField,
        encoded_endRecord, pushed]
    have opened : (p.openField d c).encoded = p.encoded.openField e b := by
      simp only [openField, quote, apply_ite encoded, plain]
      rfl
    rw [bytes, List.foldl_cons, List.foldl_nil, step, step,
      show p.encoded.place = p.place from rfl]
    cases p.place with
    | recordStart => simp only [breaks, apply_ite encoded, opened]
    | fieldStart => exact opened.symm
    | bare => exact plain.symm
    | quoted =>
      simp only [quote, apply_ite encoded, pushed]
      rfl
    | quoteSeen => simp only [quote, apply_ite encoded, pushed, plain]
  · obtain ⟨b, rest, bytes, -⟩ := Text.Utf8.exists_encodeChar_eq_cons c
    rw [step_of_not_isMark plain, encoded_push, foldl_step_of_not_isMark none (by simp [bytes])]
    rfl

theorem foldl_step_encode (h : e.InBytes d) (text : List Char) (p : Progress Char) :
    (encode text).foldl (step e) p.encoded = (text.foldl (step d) p).encoded := by
  induction text generalizing p with
  | nil => rfl
  | cons c rest ih =>
    rw [encode_cons, List.foldl_append, foldl_step_encodeChar h, ih, List.foldl_cons]

end Progress

section

variable {e : Dialect UInt8} {d : Dialect Char}

/-- The records of the bytes of a text are the bytes of its records. -/
theorem records_encode (h : e.InBytes d) (text : List Char) :
    records e (encode text) = (records d text).map (·.map encode) := by
  have read := Progress.foldl_step_encode h text .start
  rw [Progress.encoded_start] at read
  rw [records, records, read, ← Progress.encoded_finish, List.map_reverse]
  rfl

/-! ## Writing -/

theorem doubled_append {α : Type} [DecidableEq α] (d : Dialect α) (front back : List α) :
    doubled d (front ++ back) = doubled d front ++ doubled d back :=
  List.flatMap_append

theorem doubled_of_not_mem {α : Type} [DecidableEq α] {d : Dialect α} {field : List α}
    (h : d.quote ∉ field) : doubled d field = field := by
  induction field with
  | nil => rfl
  | cons a rest ih =>
    rw [List.mem_cons, not_or] at h
    rw [doubled, List.flatMap_cons, if_neg (Ne.symm h.1), ← doubled, ih h.2]
    rfl

/-- Characters stay whole when quotes are doubled, for no quote lies in one. -/
theorem doubled_encode (h : IsByteOf e.quote d.quote) (field : List Char) :
    doubled e (encode field) = encode (doubled d field) := by
  induction field with
  | nil => rfl
  | cons c rest ih =>
    have letter : doubled e (String.utf8EncodeChar c) = encode (doubled d [c]) := by
      by_cases lt : c.toNat < 0x80
      · rw [Text.Utf8.encodeChar_of_lt lt]
        by_cases quote : c = d.quote
        · simp [doubled, encode, quote, h.encodeChar, ← h.2]
        · simp [doubled, encode, h.ofNat_eq_iff lt, quote, Text.Utf8.encodeChar_of_lt lt]
      · obtain ⟨ne, out⟩ := h.not_mem (Nat.le_of_not_lt lt)
        rw [doubled_of_not_mem out, doubled_of_not_mem (by simpa using Ne.symm ne)]
        exact (List.flatMap_singleton ..).symm
    rw [encode_cons, doubled_append, ih, letter, ← encode_append, ← doubled_append]
    rfl

theorem any_isMark_encode (h : e.InBytes d) (field : List Char) :
    (encode field).any e.isMark = field.any d.isMark := by
  induction field with
  | nil => rfl
  | cons c rest ih =>
    rw [encode_cons, List.any_append, ih, List.any_cons]
    rcases h.encodeChar_cases c with ⟨b, bytes, delimiter, quote, breaks⟩ | ⟨plain, none⟩
    · simp [bytes, Dialect.isMark, delimiter, quote, breaks]
    · rw [plain, List.any_eq_false.2 fun b hb => by simp [none b hb]]

theorem writeField_encode (h : e.InBytes d) (field : List Char) :
    writeField e (encode field) = encode (writeField d field) := by
  rw [writeField, writeField, any_isMark_encode h, doubled_encode h.quote, apply_ite encode,
    encode_append, encode_cons, h.quote.encodeChar, h.quote.encode_singleton]
  rfl

theorem encode_intercalate {b : UInt8} {m : Char} (h : IsByteOf b m) (texts : List (List Char)) :
    encode ([m].intercalate texts) = [b].intercalate (texts.map encode) := by
  induction texts with
  | nil => rfl
  | cons text rest ih =>
    cases rest with
    | nil => simp [List.intercalate_singleton]
    | cons next rest =>
      rw [List.intercalate_cons_cons, List.map_cons, List.map_cons, List.intercalate_cons_cons,
        encode_append, encode_append, ih, h.encode_singleton, List.map_cons]

theorem writeRecord_encode (h : e.InBytes d) (fields : List (List Char)) :
    writeRecord e (fields.map encode) = encode (writeRecord d fields) := by
  have line : [e.delimiter].intercalate ((fields.map encode).map (writeField e)) =
      encode ([d.delimiter].intercalate (fields.map (writeField d))) := by
    rw [encode_intercalate h.delimiter, List.map_map, List.map_map]
    congr 1
    exact List.map_congr_left fun field _ => writeField_encode h field
  rw [writeRecord, writeRecord, line]
  simp only [List.isEmpty_iff, encode_eq_nil_iff, apply_ite encode, encode_append, encode_cons,
    h.quote.encodeChar, h.lineFeed.encode_singleton]
  rfl

theorem writeRecords_encode (h : e.InBytes d) (rs : List (List (List Char))) :
    writeRecords e (rs.map (·.map encode)) = encode (writeRecords d rs) := by
  induction rs with
  | nil => rfl
  | cons fields rest ih =>
    rw [List.map_cons, writeRecords, List.flatMap_cons, ← writeRecords, ih, writeRecord_encode h,
      ← encode_append]
    rfl

end
end TableQuery.Csv
