import TableQuery.Csv.Reading
import TableQuery.Csv.Writing

/-!
# Written records read back

Reading takes back what writing has written, in every dialect whose delimiter and quote can be told
from each other and from the breaks. The reading is followed letter by letter:

* `foldl_step_writeField`: a written field, whatever letters it has, leaves the reading where the
  next letter ends the field or goes on with it;
* `foldl_step_line`, `foldl_step_writeRecord`: a line gives its record, by induction on the fields;
* `records_writeRecords`: a written text gives all of its records;
* `ne_nil_of_mem_records`: whatever the text is, a record has a field.
-/

namespace TableQuery.Csv

variable {α : Type} [DecidableEq α] {d : Dialect α}

/-- The delimiter and the quote can be told from each other and from the breaks. -/
structure Dialect.Lawful (d : Dialect α) : Prop where
  delimiter_ne_quote : d.delimiter ≠ d.quote
  isBreak_delimiter : d.isBreak d.delimiter = false
  isBreak_quote : d.isBreak d.quote = false

theorem Dialect.isBreak_lineFeed (d : Dialect α) : d.isBreak d.lineFeed = true := by
  simp [Dialect.isBreak]

theorem Dialect.Lawful.lineFeed_ne_quote (h : d.Lawful) : d.lineFeed ≠ d.quote := fun e => by
  have := h.isBreak_quote
  rw [← e, d.isBreak_lineFeed] at this
  cases this

theorem Dialect.Lawful.lineFeed_ne_delimiter (h : d.Lawful) :
    d.lineFeed ≠ d.delimiter := fun e => by
  have := h.isBreak_delimiter
  rw [← e, d.isBreak_lineFeed] at this
  cases this

theorem Dialect.isMark_eq_false_iff {a : α} :
    d.isMark a = false ↔ a ≠ d.delimiter ∧ a ≠ d.quote ∧ d.isBreak a = false := by
  simp only [Dialect.isMark, Bool.or_eq_false_iff, decide_eq_false_iff_not, ne_eq, and_assoc]

/-! ## Single steps -/

namespace Progress

/-- Where a letter without a meaning as a quote leads, does not depend on the place. -/
theorem plain_place (p : Progress α) (place : Place) (a : α) :
    ({ p with place := place } : Progress α).plain d a = p.plain d a := by
  simp only [plain, endField, endRecord, push]

theorem plain_delimiter (p : Progress α) : p.plain d d.delimiter = p.endField := by
  simp [plain]

theorem plain_lineFeed (h : d.Lawful) (p : Progress α) : p.plain d d.lineFeed = p.endRecord := by
  rw [plain, if_neg h.lineFeed_ne_delimiter, if_pos d.isBreak_lineFeed]

theorem plain_of_not_isMark {a : α} (ha : d.isMark a = false) (p : Progress α) :
    p.plain d a = p.push a .bare := by
  obtain ⟨hd, -, hb⟩ := Dialect.isMark_eq_false_iff.1 ha
  rw [plain, if_neg hd, hb, if_neg (by simp)]

/-- The first letter of a field, which is no quote and does not end an empty line. -/
theorem step_first {p : Progress α} {a : α} (ha : a ≠ d.quote)
    (hp : p.place = .fieldStart ∨ p.place = .recordStart ∧ d.isBreak a = false) :
    p.step d a = p.plain d a := by
  rcases hp with hp | ⟨hp, hb⟩
  · simp only [step, hp, openField, if_neg ha]
  · simp only [step, hp, openField, if_neg ha, hb, Bool.false_eq_true, if_false]

theorem step_quote (h : d.Lawful) {p : Progress α}
    (hp : p.place = .fieldStart ∨ p.place = .recordStart) :
    p.step d d.quote = { p with place := .quoted } := by
  rcases hp with hp | hp
  · simp only [step, hp, openField, if_true]
  · simp only [step, hp, openField, if_true, h.isBreak_quote, Bool.false_eq_true, if_false]

end Progress

/-! ## A field -/

/-- Letters without a meaning that go on with a field outside quotes. -/
theorem foldl_step_bare {letters : List α} (hl : ∀ a ∈ letters, d.isMark a = false) {p : Progress α}
    (hp : p.place = .bare) :
    letters.foldl (Progress.step d) p = { p with field := letters.reverse ++ p.field } := by
  induction letters generalizing p with
  | nil => rfl
  | cons a rest ih =>
    have step : p.step d a = p.push a .bare := by
      simp only [Progress.step, hp]
      exact Progress.plain_of_not_isMark (hl a List.mem_cons_self) p
    rw [List.foldl_cons, step, ih (fun b hb => hl b (List.mem_cons_of_mem _ hb)) rfl]
    simp only [Progress.push, List.reverse_cons, List.append_assoc, List.singleton_append, hp]

/-- The letters between the quotes. A doubled quote is seen as one, behind which the field is still
inside its quotes. -/
theorem foldl_step_doubled (field : List α) {p : Progress α} (hp : p.place = .quoted) :
    (doubled d field).foldl (Progress.step d) p = { p with field := field.reverse ++ p.field } := by
  induction field generalizing p with
  | nil => rfl
  | cons a rest ih =>
    have letter : (if a = d.quote then [a, a] else [a]).foldl (Progress.step d) p =
        p.push a .quoted := by
      split
      · next e =>
        simp only [List.foldl_cons, List.foldl_nil, Progress.step, hp, if_pos e, Progress.push]
      · next e => simp only [List.foldl_cons, List.foldl_nil, Progress.step, hp, if_neg e]
    rw [doubled, List.flatMap_cons, List.foldl_append, letter, ← doubled, ih rfl]
    simp only [Progress.push, List.reverse_cons, List.append_assoc, List.singleton_append, hp]

theorem writeField_of_not_any {field : List α} (h : ∀ a ∈ field, d.isMark a = false) :
    writeField d field = field := by
  rw [writeField, if_neg]
  simpa only [List.any_eq_true, not_exists, not_and, Bool.not_eq_true] using h

theorem writeField_of_any {field : List α} (h : field.any d.isMark = true) :
    writeField d field = d.quote :: doubled d field ++ [d.quote] :=
  if_pos h

theorem writeField_eq_nil_iff {field : List α} : writeField d field = [] ↔ field = [] := by
  rw [writeField]
  split
  · next h =>
    refine ⟨fun e => absurd e (by simp), fun e => ?_⟩
    rw [e] at h
    cases h
  · rfl

/-- A written field and one letter behind it, which is no quote, read from the start of a field. -/
theorem foldl_step_writeField (h : d.Lawful) {p : Progress α} {field : List α} {a : α}
    (ha : a ≠ d.quote) (hf : p.field = [])
    (hp : p.place = .fieldStart ∨ p.place = .recordStart ∧ (field ≠ [] ∨ d.isBreak a = false)) :
    (writeField d field ++ [a]).foldl (Progress.step d) p =
      ({ p with field := field.reverse } : Progress α).plain d a := by
  rw [List.foldl_append, List.foldl_cons, List.foldl_nil]
  by_cases hm : field.any d.isMark = true
  · -- the opening quote, the letters, the closing quote, and then `a`
    rw [writeField_of_any hm, List.foldl_append, List.foldl_cons, List.foldl_cons, List.foldl_nil,
      Progress.step_quote h (hp.imp_right And.left), foldl_step_doubled field rfl, hf,
      List.append_nil]
    simp only [Progress.step, if_true, if_neg ha]
    exact Progress.plain_place (d := d) { p with field := field.reverse } .quoteSeen a
  · have hm : ∀ b ∈ field, d.isMark b = false := by
      simpa only [List.any_eq_true, not_exists, not_and, Bool.not_eq_true] using hm
    rw [writeField_of_not_any hm]
    cases field with
    | nil =>
      have hp : p.place = .fieldStart ∨ p.place = .recordStart ∧ d.isBreak a = false :=
        hp.imp_right fun e => ⟨e.1, e.2.resolve_left (· rfl)⟩
      rw [List.foldl_nil, Progress.step_first ha hp, List.reverse_nil, ← hf]
    | cons b rest =>
      have hb := hm b List.mem_cons_self
      obtain ⟨-, hq, hk⟩ := Dialect.isMark_eq_false_iff.1 hb
      rw [List.foldl_cons, Progress.step_first hq (hp.imp_right fun e => ⟨e.1, hk⟩),
        Progress.plain_of_not_isMark hb,
        foldl_step_bare (fun c hc => hm c (List.mem_cons_of_mem _ hc)) rfl]
      simp only [Progress.step, Progress.push, hf, List.reverse_cons]
      rw [Progress.plain_place { p with field := rest.reverse ++ [b] } .bare a]

/-! ## A record -/

omit [DecidableEq α] in
/-- Only a record that is one empty field has an empty line. -/
theorem intercalate_eq_nil {sep : α} {field : List α} {fields : List (List α)}
    (e : [sep].intercalate (field :: fields) = []) : field = [] ∧ fields = [] := by
  cases fields with
  | nil => exact ⟨by rwa [List.intercalate_singleton] at e, rfl⟩
  | cons next rest =>
    rw [List.intercalate_cons_cons] at e
    simp at e

/-- A line, read from the start of a field, ends the record with the fields of the line. -/
theorem foldl_step_line (h : d.Lawful) {p : Progress α} {field : List α} {fields : List (List α)}
    (hf : p.field = [])
    (hp : p.place = .fieldStart ∨ p.place = .recordStart ∧ (field ≠ [] ∨ fields ≠ [])) :
    ([d.delimiter].intercalate ((field :: fields).map (writeField d)) ++ [d.lineFeed]).foldl
      (Progress.step d) p =
      ⟨.recordStart, [], [], (p.fields.reverse ++ field :: fields) :: p.records⟩ := by
  induction fields generalizing p field with
  | nil =>
    rw [List.map_cons, List.map_nil, List.intercalate_singleton,
      foldl_step_writeField h h.lineFeed_ne_quote hf
        (hp.imp_right fun e => ⟨e.1, .inl (e.2.resolve_right (· rfl))⟩),
      Progress.plain_lineFeed h]
    simp only [Progress.endRecord, List.reverse_cons, List.reverse_reverse]
  | cons next rest ih =>
    rw [List.map_cons, List.map_cons, List.intercalate_cons_cons, ← List.map_cons,
      List.append_assoc, List.foldl_append,
      foldl_step_writeField h h.delimiter_ne_quote hf
        (hp.imp_right fun e => ⟨e.1, .inr h.isBreak_delimiter⟩),
      Progress.plain_delimiter, ih rfl (.inl rfl)]
    simp only [Progress.endField, List.reverse_cons, List.reverse_reverse, List.append_assoc,
      List.singleton_append]

theorem foldl_step_writeRecord (h : d.Lawful) {record : List (List α)} (hr : record ≠ [])
    (done : List (List (List α))) :
    (writeRecord d record).foldl (Progress.step d) ⟨.recordStart, [], [], done⟩ =
      ⟨.recordStart, [], [], record :: done⟩ := by
  obtain ⟨field, fields, rfl⟩ := List.exists_cons_of_ne_nil hr
  rw [writeRecord]
  split
  · -- an empty line would be no record, so the one empty field is written in quotes
    next e =>
    obtain ⟨e₁, e₂⟩ := intercalate_eq_nil (List.isEmpty_iff.1 e)
    have opened := Progress.step_quote h (p := ⟨.recordStart, [], [], done⟩) (.inr rfl)
    rw [writeField_eq_nil_iff.1 e₁, List.map_eq_nil_iff.1 e₂, List.cons_append, List.cons_append,
      List.foldl_cons, List.foldl_cons, opened]
    simp only [List.nil_append, List.foldl_cons, List.foldl_nil, Progress.step, if_true,
      if_neg h.lineFeed_ne_quote, Progress.plain_lineFeed h, Progress.endRecord, List.reverse_cons,
      List.reverse_nil]
  · next e =>
    refine foldl_step_line h rfl (.inr ⟨rfl, ?_⟩)
    by_cases hf : field = []
    · exact .inr fun hn => e (by rw [hf, hn]; rfl)
    · exact .inl hf

/-! ## A text -/

theorem foldl_step_writeRecords (h : d.Lawful) {rs : List (List (List α))} (hr : ∀ r ∈ rs, r ≠ [])
    (done : List (List (List α))) :
    (writeRecords d rs).foldl (Progress.step d) ⟨.recordStart, [], [], done⟩ =
      ⟨.recordStart, [], [], rs.reverse ++ done⟩ := by
  induction rs generalizing done with
  | nil => rfl
  | cons r rest ih =>
    rw [writeRecords, List.flatMap_cons, List.foldl_append,
      foldl_step_writeRecord h (hr r List.mem_cons_self), ← writeRecords,
      ih fun s hs => hr s (List.mem_cons_of_mem _ hs)]
    simp only [List.reverse_cons, List.append_assoc, List.singleton_append]

/-- Writing records and reading the text gives the records back. -/
theorem records_writeRecords (h : d.Lawful) {rs : List (List (List α))} (hr : ∀ r ∈ rs, r ≠ []) :
    records d (writeRecords d rs) = rs := by
  rw [records, Progress.start, foldl_step_writeRecords h hr]
  simp only [Progress.finish, List.append_nil, List.reverse_reverse]

/-- A break at the beginning of a text ends no record. -/
theorem records_lineFeed_cons (text : List α) :
    records d (d.lineFeed :: text) = records d text := by
  have stays : (Progress.start : Progress α).step d d.lineFeed = .start :=
    if_pos d.isBreak_lineFeed
  rw [records, List.foldl_cons, stays, records]

/-! ## Records are not empty -/

namespace Progress

/-- Every finished record has a field. -/
def HasFields (p : Progress α) : Prop :=
  ∀ r ∈ p.records, r ≠ []

omit [DecidableEq α] in
theorem HasFields.endRecord {p : Progress α} (h : p.HasFields) : p.endRecord.HasFields := by
  intro r hr
  rcases List.mem_cons.1 hr with rfl | hr
  · simp
  · exact h r hr

theorem HasFields.plain {p : Progress α} (h : p.HasFields) (a : α) : (p.plain d a).HasFields := by
  rw [Progress.plain]
  split
  · exact h
  split
  · exact h.endRecord
  · exact h

theorem HasFields.openField {p : Progress α} (h : p.HasFields) (a : α) :
    (p.openField d a).HasFields := by
  rw [Progress.openField]
  split
  · exact h
  · exact h.plain a

theorem HasFields.step {p : Progress α} (h : p.HasFields) (a : α) : (p.step d a).HasFields := by
  rw [Progress.step]
  cases p.place with
  | recordStart =>
    dsimp only
    split
    · exact h
    · exact h.openField a
  | fieldStart => exact h.openField a
  | bare => exact h.plain a
  | quoted =>
    dsimp only
    split <;> exact h
  | quoteSeen =>
    dsimp only
    split
    · exact h
    · exact h.plain a

theorem HasFields.foldl {p : Progress α} (h : p.HasFields) (text : List α) :
    (text.foldl (Progress.step d) p).HasFields := by
  induction text generalizing p with
  | nil => exact h
  | cons a rest ih => exact ih (h.step a)

omit [DecidableEq α] in
theorem HasFields.finish {p : Progress α} (h : p.HasFields) : p.finish.HasFields := by
  rw [Progress.finish]
  split
  · exact h
  · exact h.endRecord

end Progress

/-- A record has a field. -/
theorem ne_nil_of_mem_records {text : List α} {r : List (List α)} (hr : r ∈ records d text) :
    r ≠ [] := by
  have start : (Progress.start : Progress α).HasFields := fun _ hr => absurd hr List.not_mem_nil
  exact (start.foldl text).finish r (List.mem_reverse.1 hr)

end TableQuery.Csv
