import TableQuery.Proofs.Engine

/-!
# Sessions

A session on the text of a table with a header, with a plain delimiter, does what the same queries
do one after the other on the table in memory. Between two queries the table is written and read
again, and what carries it over is this: the names of the columns tell the header again, and a row
that is read back differs from the row that was written in absent cells only, which no statement
tells from nulls.

* `Table.Headed`: the invariant of the table in memory;
* `Engine.Holds`: the text holds the table;
* `Holds.run_tells`: the report of one query tells what came of it in memory;
* `Holds.next`: the query keeps both invariants;
* `session_refines_memory`: so it is for a session, by induction on its queries.
-/

namespace TableQuery

open Csv (Codec beginsWithMark)
open Query (Answer Diagnostic Outcome PatternLibrary QueryError StatementKind)

/-- Runs queries one after the other on a table in memory: what comes of each, and the table that is
left. -/
def Query.session [PatternLibrary] (fuzzy : Bool) (table : Table) :
    List String → List (Outcome (Answer × Table)) × Table
  | [] => ([], table)
  | query :: rest =>
    let outcome := answer fuzzy table query
    let (outcomes, final) := session fuzzy (tableAfter table outcome) rest
    (outcome :: outcomes, final)

/-- The report tells what came of a query in memory: the same error, or the same kind of statement
with the same count and columns, and the text of a selection is the selection written. -/
inductive Report.Tells (codec : Codec) : Report → Outcome (Answer × Table) → Prop
  | failure (operation : Option StatementKind) (text : String) (error : QueryError)
      (remarks : List Diagnostic) :
      Tells codec (.failure operation text error (remarks.map Diagnostic.message))
        ⟨remarks, .error error⟩
  | success {report : Report} {remarks : List Diagnostic} {answer : Answer} {after : Table}
      (error : report.error = none)
      (operation : report.operation = some answer.kind)
      (rowsAffected : report.rowsAffected = answer.count)
      (affectedColumns : report.affectedColumns = columnsOf answer)
      (diagnostics : report.diagnostics = remarks.map Diagnostic.message)
      (selection : answer.kind = .select →
        codec.encode (tableOf after answer) = .ok report.resultText) :
      Tells codec report ⟨remarks, .ok (answer, after)⟩

/-! ## The invariant -/

/-- The table has a header, which its names tell again, and the first name is not taken for a byte
order mark. -/
structure Table.Headed (codec : Codec) (table : Table) : Prop where
  wellFormed : table.WellFormed
  real : table.synthetic = false
  taken : codec.takesHeader table.headers = true
  ne_nil : table.headers ≠ []
  unmarked : ∀ name ∈ table.headers.head?, beginsWithMark name = false

namespace Table.Headed

variable {codec : Codec} {table : Table}

theorem of_decode (hc : codec.IsPlain) {text : String} (hd : codec.decode text = .ok table)
    (hs : table.synthetic = false) (hh : table.headers ≠ [])
    (hm : ∀ name ∈ table.headers.head?, beginsWithMark name = false) : table.Headed codec := by
  refine ⟨Codec.wellFormed_of_decode hd, hs, ?_, hh, hm⟩
  obtain rfl | ⟨first, rest, -, taken, headers, -⟩ := hc.eq_empty_or_header hd hs
  · exact absurd rfl hh
  · rw [headers]
    exact Codec.takesHeader_headerNames taken

theorem after (h : table.Headed codec) {p : Query.Plan} (hp : p.Fits table.headers) :
    (p.after table).Headed codec where
  wellFormed := Query.Plan.wellFormed_after hp h.wellFormed
  real := by rw [Query.Plan.synthetic_after, h.real]
  taken := by rw [Query.Plan.headers_after, h.taken]
  ne_nil := by rw [Query.Plan.headers_after]; exact h.ne_nil
  unmarked := by rw [Query.Plan.headers_after]; exact h.unmarked

theorem recordsOfTable_eq (h : table.Headed codec) : Codec.recordsOfTable table =
    table.headers :: table.rows.map (Codec.recordOfRow table.headers) :=
  Codec.recordsOfTable_of_header h.real h.ne_nil

/-- What the table is written as is read as the table filled. -/
theorem decode_written (h : table.Headed codec) (hc : codec.IsPlain) :
    codec.decode (codec.written (Codec.recordsOfTable table)) = .ok table.filled := by
  refine hc.decode_written h.wellFormed ⟨table.headers, ?_, ?_⟩ ?_
  · rw [h.recordsOfTable_eq]
    rfl
  · rw [h.taken, h.real]
    rfl
  · rw [h.recordsOfTable_eq]
    exact h.unmarked

/-- What the table is written as is not blank. -/
theorem allBlank_written (h : table.Headed codec) :
    Text.allBlank (codec.written (Codec.recordsOfTable table)) = false := by
  obtain ⟨name, names, e⟩ := List.exists_cons_of_ne_nil h.ne_nil
  have isName : Csv.IsName name := h.wellFormed.names name (e ▸ List.mem_cons_self)
  have blank : Text.allBlank name = false := by
    refine Bool.eq_false_iff.2 fun blank => isName.ne_empty ?_
    rw [← isName.trimmed_eq, Text.trimmed_eq_empty_iff, blank]
  rw [h.recordsOfTable_eq, e]
  exact Codec.allBlank_written blank codec names _

end Table.Headed

/-- The text is read as the table, but for absent cells. -/
structure Engine.Holds (engine : Engine) (text : String) (table : Table) : Prop where
  allBlank_eq : Text.allBlank text = false
  exists_read : ∃ read, engine.decode text = .ok read ∧ read.Alike table

/-! ## One query -/

namespace Engine

variable {engine : Engine} {text : String} {table : Table}

/-- The text that a plan leaves. -/
theorem nextText_success (p : Query.Plan) (codec : Codec) (text : String) (table : Table)
    (remarks : List String) :
    (nextText text (.success codec text (p.answer table) (p.after table) remarks) = text ∧
        p.after table = table) ∨
      nextText text (.success codec text (p.answer table) (p.after table) remarks) =
        codec.written (Codec.recordsOfTable (p.after table)) := by
  by_cases hk : (p.answer table).kind = .select
  · exact .inl ⟨if_pos (decide_eq_true hk), Query.Plan.after_eq_self (.inl hk)⟩
  have next : nextText text (.success codec text (p.answer table) (p.after table) remarks) =
      Report.textAfter codec text (p.answer table) (p.after table) :=
    if_neg (by rw [Report.success, decide_eq_false hk]; exact Bool.false_ne_true)
  rw [next]
  rcases Nat.eq_zero_or_pos (p.answer table).count with hz | hpos
  · exact .inl ⟨if_pos (Report.keepsText_eq_true_iff.2 ⟨hk, hz⟩),
      Query.Plan.after_eq_self (.inr hz)⟩
  · exact .inr (Report.textAfter_of_change hk hpos codec text _)

section

variable [PatternLibrary]

/-- A query on a text that holds a table has the plan of the query on the table. -/
theorem Holds.exists_answer_eq (h : engine.Holds text table) (query : String) :
    ∃ read : Table, read.Alike table ∧ engine.answer text query =
      (fun p : Query.Plan => (p.answer read, p.after read)) <$>
        Query.planOf engine.fuzzyColumns table.headers query := by
  obtain ⟨read, hd, alike⟩ := h.exists_read
  refine ⟨read, alike, ?_⟩
  rw [answer_of_decode h.allBlank_eq hd, Query.answer_eq_planOf, alike.headers]

/-- A query that has no plan fails, on the text as on the table, and leaves both. -/
theorem Holds.run_of_error (h : engine.Holds text table) {query : String} {e : QueryError}
    (he : (Query.planOf engine.fuzzyColumns table.headers query).result = .error e) :
    Query.answer engine.fuzzyColumns table query =
        ⟨(Query.planOf engine.fuzzyColumns table.headers query).diagnostics, .error e⟩ ∧
      engine.run text query = .failure (Query.kindOf? query) text e
        ((Query.planOf engine.fuzzyColumns table.headers query).diagnostics.map
          Diagnostic.message) := by
  obtain ⟨read, -, ha⟩ := h.exists_answer_eq query
  rw [Outcome.map_of_error he] at ha
  refine ⟨?_, ?_⟩
  · rw [Query.answer_eq_planOf, Outcome.map_of_error he]
  · rw [Engine.run_of_error (by rw [ha]), remarks, ha]

/-- A plan is carried out on the text as on the table. -/
theorem Holds.run_of_ok (h : engine.Holds text table) (hc : engine.codec.IsPlain) {query : String}
    {p : Query.Plan} (hp : (Query.planOf engine.fuzzyColumns table.headers query).result = .ok p) :
    Query.answer engine.fuzzyColumns table query =
        ⟨(Query.planOf engine.fuzzyColumns table.headers query).diagnostics,
          .ok (p.answer table, p.after table)⟩ ∧
      engine.run text query = .success engine.codec text (p.answer table) (p.after table)
        ((Query.planOf engine.fuzzyColumns table.headers query).diagnostics.map
          Diagnostic.message) := by
  obtain ⟨read, alike, ha⟩ := h.exists_answer_eq query
  rw [Outcome.map_of_ok hp] at ha
  have fits := alike.headers.symm ▸ Query.fits_of_planOf hp
  refine ⟨?_, ?_⟩
  · rw [Query.answer_eq_planOf, Outcome.map_of_ok hp]
  · rw [Engine.run_of_ok hc (by rw [ha]), remarks, ha]
    exact Report.success_congr (Query.Plan.alike_answer fits alike)
      (Query.Plan.alike_after fits alike) _ _ _

/-- The report on a text tells what came of the query on the table. -/
theorem Holds.run_tells (h : engine.Holds text table) (hc : engine.codec.IsPlain) (query : String) :
    (engine.run text query).Tells engine.codec
      (Query.answer engine.fuzzyColumns table query) := by
  cases hp : (Query.planOf engine.fuzzyColumns table.headers query).result with
  | error e =>
    obtain ⟨memory, report⟩ := h.run_of_error hp
    rw [memory, report]
    exact .failure _ _ _ _
  | ok p =>
    obtain ⟨memory, report⟩ := h.run_of_ok hc hp
    rw [memory, report]
    refine .success rfl rfl rfl rfl rfl fun select => ?_
    have written : ¬Report.keepsText (p.answer table) = true :=
      fun keeps => (Report.keepsText_eq_true_iff.1 keeps).1 select
    rw [hc.encode_eq, Report.success, Report.textAfter, if_neg written]

/-- A query leaves a text that holds the table that it leaves in memory. -/
theorem Holds.next (h : engine.Holds text table) (hc : engine.codec.IsPlain)
    (ht : table.Headed engine.codec) (query : String) :
    (Query.tableAfter table (Query.answer engine.fuzzyColumns table query)).Headed engine.codec ∧
      engine.Holds (nextText text (engine.run text query))
        (Query.tableAfter table (Query.answer engine.fuzzyColumns table query)) := by
  cases hp : (Query.planOf engine.fuzzyColumns table.headers query).result with
  | error e =>
    obtain ⟨memory, report⟩ := h.run_of_error hp
    rw [memory, report]
    exact ⟨ht, h⟩
  | ok p =>
    obtain ⟨memory, report⟩ := h.run_of_ok hc hp
    rw [memory, report]
    show (p.after table).Headed engine.codec ∧ engine.Holds _ (p.after table)
    have headed := ht.after (Query.fits_of_planOf hp)
    refine ⟨headed, ?_⟩
    rcases nextText_success p engine.codec text table
      ((Query.planOf engine.fuzzyColumns table.headers query).diagnostics.map
        Diagnostic.message) with ⟨same, unchanged⟩ | written
    · rw [same, unchanged]
      exact h
    · rw [written]
      refine ⟨headed.allBlank_written, (p.after table).filled, ?_, Table.filled_alike _⟩
      exact decode_eq_ok_iff.2 (headed.decode_written hc)

/-! ## A session -/

/-- A session on a text that holds a table, by induction on the queries. -/
theorem Holds.session (h : engine.Holds text table) (hc : engine.codec.IsPlain)
    (ht : table.Headed engine.codec) (queries : List String) :
    List.Forall₂ (Report.Tells engine.codec) (engine.session text queries).1
        (Query.session engine.fuzzyColumns table queries).1 ∧
      (Query.session engine.fuzzyColumns table queries).2.Headed engine.codec ∧
      engine.Holds (engine.session text queries).2
        (Query.session engine.fuzzyColumns table queries).2 := by
  induction queries generalizing text table with
  | nil => exact ⟨.nil, ht, h⟩
  | cons query rest ih =>
    obtain ⟨headed, holds⟩ := h.next hc ht query
    obtain ⟨tells, headed, holds⟩ := ih holds headed
    exact ⟨.cons (h.run_tells hc query) tells, headed, holds⟩

/-- A session on a text does what the queries do one after the other on the table in memory. -/
theorem session_refines_memory (hc : engine.codec.IsPlain) (hb : Text.allBlank text = false)
    (hd : engine.decode text = .ok table) (hs : table.synthetic = false) (hh : table.headers ≠ [])
    (hm : ∀ name ∈ table.headers.head?, beginsWithMark name = false) (queries : List String) :
    List.Forall₂ (Report.Tells engine.codec) (engine.session text queries).1
        (Query.session engine.fuzzyColumns table queries).1 ∧
      ∀ steps : Nat, ∃ read, engine.decode (engine.session text (queries.take steps)).2 = .ok read ∧
        read.filled =
          (Query.session engine.fuzzyColumns table (queries.take steps)).2.filled := by
  have headed := Table.Headed.of_decode hc (decode_eq_ok_iff.1 hd) hs hh hm
  have holds : engine.Holds text table := ⟨hb, table, hd, .refl table⟩
  refine ⟨(holds.session hc headed queries).1, fun steps => ?_⟩
  obtain ⟨-, left, ⟨-, read, hr, alike⟩⟩ := holds.session hc headed (queries.take steps)
  have wellFormed := Codec.wellFormed_of_decode (decode_eq_ok_iff.1 hr)
  exact ⟨read, hr, alike.filled_eq wellFormed left.wellFormed⟩

end

/-- A record without its last field, which is then set, and a row with a quoted field, which is then
deleted. -/
theorem session_refines_memory_short_record : ∃ table : Table,
    decode ⟨⟨0x2C, .detect⟩, true⟩ "id,name\n1,\"a,b\"\n2\n" = .ok table ∧
      List.Forall₂ (Report.Tells ⟨0x2C, .detect⟩)
        (session ⟨⟨0x2C, .detect⟩, true⟩ "id,name\n1,\"a,b\"\n2\n"
          ["UPDATE t SET name = 'TRUE' WHERE id > 1", "DELETE FROM t WHERE id = 1"]).1
        (Query.session true table
          ["UPDATE t SET name = 'TRUE' WHERE id > 1", "DELETE FROM t WHERE id = 1"]).1 ∧
      ∃ read, decode ⟨⟨0x2C, .detect⟩, true⟩
          (session ⟨⟨0x2C, .detect⟩, true⟩ "id,name\n1,\"a,b\"\n2\n"
            ["UPDATE t SET name = 'TRUE' WHERE id > 1", "DELETE FROM t WHERE id = 1"]).2 =
              .ok read ∧
        read.filled = (Query.session true table
          ["UPDATE t SET name = 'TRUE' WHERE id > 1", "DELETE FROM t WHERE id = 1"]).2.filled := by
  have plain : (Codec.mk 0x2C .detect).IsPlain := by constructor <;> decide
  have read : decode ⟨⟨0x2C, .detect⟩, true⟩ "id,name\n1,\"a,b\"\n2\n" =
      .ok ⟨["id", "name"], [.ofList [("id", .int 1), ("name", .string "a,b")],
        .ofList [("id", .int 2)]], false⟩ := by
    decide +kernel
  have refines := session_refines_memory plain (by decide +kernel) read rfl nofun
    (by decide +kernel) ["UPDATE t SET name = 'TRUE' WHERE id > 1", "DELETE FROM t WHERE id = 1"]
  exact ⟨_, read, refines.1, refines.2 2⟩

end Engine

end TableQuery
