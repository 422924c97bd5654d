import TableQuery.Proofs.Engine
import TableQuery.Proofs.Query.Selection

/-!
# A report describes its text

The text of a report, read again, is the table that the report is about but for absent cells. So
the figures of the report, which were taken from the table in memory, are those of the text: the
profiles of the columns, the names of the columns and the number of rows.

* `exists_read_of_textAfter`: reading the text of a report;
* `Report.Describes`: the columns and the number of rows that a report tells;
* `report_describes`: they are those of the text, and so are the profiles.
-/

namespace TableQuery

open Csv (beginsWithMark)
open Query (PatternLibrary Plan Statement)

namespace Report

/-- The table that was read has the columns and the number of rows that the report tells of what
became of the source. -/
inductive Describes (source read : Table) (report : Report) : Prop
  | select (operation : report.operation = some .select)
      (headers : read.headers = report.affectedColumns)
      (rows : read.rows.length = report.rowsAffected)
  | update (operation : report.operation = some .update)
      (headers : read.headers = source.headers)
      (rows : read.rows.length = source.rows.length)
  | delete (operation : report.operation = some .delete)
      (headers : read.headers = source.headers)
      (rows : read.rows.length + report.rowsAffected = source.rows.length)

theorem tableOf_of_keepsText {answer : Query.Answer} (h : keepsText answer = true)
    (after : Table) : tableOf after answer = after := by
  cases answer with
  | selected columns rows => cases h
  | updated column count => rfl
  | deleted count => rfl

variable {source read : Table}

/-- A table like the one that a report is about is described by it. -/
theorem describes_success {p : Plan}
    (h : read.Alike (tableOf (p.after source) (p.answer source))) (codec : Csv.Codec)
    (text : String) (remarks : List String) :
    Describes source read
      (success codec text (p.answer source) (p.after source) remarks) := by
  have headers := h.headers
  have rows := h.length_rows
  cases p with
  | select columns test => exact .select rfl headers rows
  | update column cell test => exact .update rfl headers (rows.trans (List.length_map _))
  | delete test =>
    refine .delete rfl headers ?_
    rw [rows]
    exact Plan.length_filter_not test source.rows

end Report

namespace Engine

variable {engine : Engine} {text query : String} {table : Table}

/-- The text of a report is read as the table that the report is about. -/
theorem exists_read_of_textAfter [PatternLibrary] (hc : engine.codec.IsPlain)
    (hd : engine.decode text = .ok table)
    (hs : table.synthetic = false) {fuzzy : Bool} {statement : Statement} {p : Plan}
    (shows : statement.Shows)
    (hp : (Query.plan fuzzy table.headers statement).result = .ok p)
    (hm : Report.textAfter engine.codec text (p.answer table) (p.after table) ≠ text →
      beginsWithMark
        (Report.textAfter engine.codec text (p.answer table) (p.after table)) = false) :
    ∃ read, engine.decode
        (Report.textAfter engine.codec text (p.answer table) (p.after table)) = .ok read ∧
      read.Alike (Report.tableOf (p.after table) (p.answer table)) := by
  have hd' := decode_eq_ok_iff.1 hd
  have within := Query.within_of_plan (Csv.Codec.wellFormed_of_decode hd') hs shows hp
  rw [Report.textAfter] at hm ⊢
  cases keeps : Report.keepsText (p.answer table) with
  | true =>
    obtain ⟨change, none⟩ := Report.keepsText_eq_true_iff.1 keeps
    refine ⟨table, by rwa [if_pos rfl], ?_⟩
    rw [Report.tableOf_of_keepsText keeps, Plan.after_eq_self (.inr none)]
    exact .refl table
  | false =>
    rw [keeps, if_neg Bool.false_ne_true] at hm
    rw [if_neg Bool.false_ne_true]
    exact ⟨_, decode_eq_ok_iff.2 (hc.decode_written_of_within hd' hs within hm),
      Table.filled_alike _⟩

/-- A report describes its own text: read again, it is a table with the profiles that the report
gives, with the columns that a selection shows, or those of the source, and with as many rows as the
report counts. -/
theorem report_describes [PatternLibrary] (hc : engine.codec.IsPlain)
    (hd : engine.decode text = .ok table)
    (hs : table.synthetic = false) (he : (engine.run text query).error = none)
    (hm : (engine.run text query).resultText ≠ text →
      beginsWithMark (engine.run text query).resultText = false) :
    ∃ read, engine.decode (engine.run text query).resultText = .ok read ∧
      read.profiles = (engine.run text query).profiles ∧
      Report.Describes table read (engine.run text query) := by
  obtain ⟨source, statement, p, hd', parsed, hp, report⟩ := exists_plan_of_run hc he
  obtain rfl := Except.ok.inj (hd'.symm.trans hd)
  rw [report] at hm ⊢
  obtain ⟨read, decoded, alike⟩ :=
    exists_read_of_textAfter hc hd hs (Query.shows_of_parse parsed) hp hm
  exact ⟨read, decoded, Report.profiles_congr alike, Report.describes_success alike _ _ _⟩

/-- Columns in another order, one of them with a number for a repeated name. -/
theorem report_describes_repeated_name : ∃ table read : Table,
    decode ⟨⟨0x2C, .present⟩, true⟩ "Name,Age, ,Age\nBob,7\nAmy,30,x, TRUE\n" = .ok table ∧
      decode ⟨⟨0x2C, .present⟩, true⟩ (run ⟨⟨0x2C, .present⟩, true⟩
        "Name,Age, ,Age\nBob,7\nAmy,30,x, TRUE\n"
        "SELECT Age_2, Name FROM t WHERE Age > 10").resultText = .ok read ∧
      read.headers = ["Age_2", "Name"] ∧ read.rows.length = 1 ∧
      read.profiles = [⟨"Age_2", .boolean, 1, 1⟩, ⟨"Name", .string, 1, 1⟩] := by
  have plain : (Csv.Codec.mk 0x2C .present).IsPlain := by constructor <;> decide
  have source : decode ⟨⟨0x2C, .present⟩, true⟩ "Name,Age, ,Age\nBob,7\nAmy,30,x, TRUE\n" =
      .ok ⟨["Name", "Age", "column_3", "Age_2"], [
        .ofList [("Name", .string "Bob"), ("Age", .int 7)],
        .ofList [("Name", .string "Amy"), ("Age", .int 30), ("column_3", .string "x"),
          ("Age_2", .bool true)]], false⟩ := by
    decide +kernel
  have report : run ⟨⟨0x2C, .present⟩, true⟩ "Name,Age, ,Age\nBob,7\nAmy,30,x, TRUE\n"
      "SELECT Age_2, Name FROM t WHERE Age > 10" =
        ⟨some .select, "Age_2,Name\ntrue,Amy\n",
          "Selected 1 row of 2 rows, showing 2 columns: Age_2, Name.", 1, ["Age_2", "Name"],
          [⟨"Age_2", .boolean, 1, 1⟩, ⟨"Name", .string, 1, 1⟩], [], true,
          some "Name,Age, ,Age\nBob,7\nAmy,30,x, TRUE\n", none⟩ := by
    decide +kernel
  have success : (run ⟨⟨0x2C, .present⟩, true⟩ "Name,Age, ,Age\nBob,7\nAmy,30,x, TRUE\n"
      "SELECT Age_2, Name FROM t WHERE Age > 10").error = none := by
    rw [report]
  obtain ⟨read, decoded, profiles, described⟩ := report_describes plain source rfl success
    (by rw [report]; exact fun _ => by decide +kernel)
  rw [report] at decoded profiles described
  have columns : read.headers = ["Age_2", "Name"] ∧ read.rows.length = 1 := by
    cases described with
    | select operation headers rows => exact ⟨headers, rows⟩
    | update operation => cases operation
    | delete operation => cases operation
  exact ⟨_, read, source, by rwa [report], columns.1, columns.2, profiles⟩

end Engine

end TableQuery
