import TableQuery.Engine
import TableQuery.Proofs.Csv.RoundTrip
import TableQuery.Proofs.Query.Kind
import TableQuery.Proofs.Query.Plan

/-!
# Reports and what they report

An engine with a plain delimiter reads every text and writes every table, so its report is the one
of a failure exactly if the statement cannot be carried out on the table of the text.

* `answer_of_decode`: a query on a text that is not blank is the query on its table;
* `Report.success_congr`: a report does not tell an absent cell from a null;
* `run_of_ok`, `run_of_error`: the two kinds of reports;
* `exists_plan_of_run`: what a report without an error is the report of;
* `exists_plan_of_edit`: what an edit that counts a row was, and the text that it leaves.
-/

namespace TableQuery

open Csv (Codec)
open Query (Answer Diagnostic Outcome PatternLibrary QueryError Statement StatementKind)

section

variable [PatternLibrary]

/-- The plan of a query on a table with these columns. -/
def Query.planOf (fuzzy : Bool) (headers : List String) (query : String) : Outcome Query.Plan := do
  let statement ← Outcome.ofExcept (Query.parse query)
  Query.plan fuzzy headers statement

theorem Query.answer_eq_planOf (fuzzy : Bool) (table : Table) (query : String) :
    Query.answer fuzzy table query =
      (fun p : Query.Plan => (p.answer table, p.after table)) <$>
        Query.planOf fuzzy table.headers query := by
  rw [Query.answer, Query.planOf, map_bind]
  exact congrArg _ (funext fun statement => Query.execute_eq_plan fuzzy table statement)

theorem Query.fits_of_planOf {fuzzy : Bool} {headers : List String} {query : String}
    {p : Query.Plan} (h : (Query.planOf fuzzy headers query).result = .ok p) : p.Fits headers := by
  rw [Query.planOf, Outcome.result_bind_eq_ok] at h
  obtain ⟨statement, -, hp⟩ := h
  exact Query.fits_of_plan hp

end

namespace Report

/-- The text that is left of a text, written with a plain delimiter. -/
def textAfter (codec : Codec) (text : String) (answer : Answer) (after : Table) : String :=
  if keepsText answer then text else codec.written (Codec.recordsOfTable (tableOf after answer))

/-- The report of a statement that was carried out, with a plain delimiter. -/
def success (codec : Codec) (text : String) (answer : Answer) (after : Table)
    (remarks : List String) : Report where
  operation := some answer.kind
  resultText := textAfter codec text answer after
  summary := summaryOf after.rows.length answer
  rowsAffected := answer.count
  affectedColumns := columnsOf answer
  profiles := (tableOf after answer).profiles
  diagnostics := remarks
  isProjection := answer.kind = .select
  queriedText := if answer.kind = .select then some text else none
  error := none

theorem ofAnswer_eq {codec : Codec} (h : codec.IsPlain) (text : String) (answer : Answer)
    (after : Table) :
    ofAnswer codec text answer after = .ok (success codec text answer after []) := by
  rw [ofAnswer, h.encode_eq, success, textAfter]
  cases keepsText answer <;> rfl

/-! ## Reports on alike tables -/

theorem profiles_congr {t u : Table} (h : t.Alike u) : t.profiles = u.profiles := by
  have column : ∀ (v : Table) (name : String), v.column name =
      (v.rows.map Row.cell).map fun cells => cells name := by
    intro v name
    rw [Table.column, List.map_map]
    rfl
  rw [Table.profiles, Table.profiles, h.headers]
  refine List.map_congr_left fun name _ => ?_
  rw [column, column, h.cells]

variable {a b : Answer} {t u : Table}

theorem alike_tableOf (ha : a.Alike b) (ht : t.Alike u) : (tableOf t a).Alike (tableOf u b) := by
  cases ha with
  | selected columns cells => exact ⟨rfl, ht.synthetic, cells⟩
  | updated column count => exact ht
  | deleted count => exact ht

theorem columnsOf_congr (ha : a.Alike b) : columnsOf a = columnsOf b := by
  cases ha <;> rfl

theorem summaryOf_congr (ha : a.Alike b) (total : Nat) : summaryOf total a = summaryOf total b := by
  have count := ha.count_eq
  cases ha with
  | selected columns cells =>
    exact congrArg (fun n => "Selected " ++ rowCount n ++ " of " ++ rowCount total ++
      ", showing " ++ columnCount columns.length ++ ": " ++ ", ".intercalate columns ++ ".") count
  | updated column count => rfl
  | deleted count => rfl

theorem keepsText_congr (ha : a.Alike b) : keepsText a = keepsText b := by
  cases ha <;> rfl

/-- The report does not tell an absent cell from a null. -/
theorem success_congr (ha : a.Alike b) (ht : t.Alike u) (codec : Codec) (text : String)
    (remarks : List String) :
    success codec text a t remarks = success codec text b u remarks := by
  have table := alike_tableOf ha ht
  have written : textAfter codec text a t = textAfter codec text b u := by
    rw [textAfter, textAfter, keepsText_congr ha, Codec.recordsOfTable_congr table]
  rw [success, success, written, ha.kind_eq, ha.count_eq, columnsOf_congr ha, ht.length_rows,
    summaryOf_congr ha, profiles_congr table]

/-! ## Texts that are left -/

theorem keepsText_eq_true_iff {answer : Answer} :
    keepsText answer = true ↔ answer.kind ≠ .select ∧ answer.count = 0 := by
  cases answer with
  | selected columns rows => exact ⟨nofun, fun h => absurd rfl h.1⟩
  | updated column count => exact decide_eq_true_iff.trans ⟨fun h => ⟨nofun, h⟩, And.right⟩
  | deleted count => exact decide_eq_true_iff.trans ⟨fun h => ⟨nofun, h⟩, And.right⟩

/-- A change that counts a row gives the text of the table that it leaves. -/
theorem textAfter_of_change {answer : Answer} (hk : answer.kind ≠ .select) (hc : 0 < answer.count)
    (codec : Codec) (text : String) (after : Table) :
    textAfter codec text answer after = codec.written (Codec.recordsOfTable after) := by
  have written : ¬keepsText answer = true := fun h => by
    have := (keepsText_eq_true_iff.1 h).2
    omega
  rw [textAfter, if_neg written]
  cases answer with
  | selected columns rows => exact absurd rfl hk
  | updated column count => rfl
  | deleted count => rfl

end Report

namespace Engine

variable {engine : Engine} {text query : String} {table after : Table} {answer : Answer}

theorem decode_eq_ok_iff :
    engine.decode text = .ok table ↔ engine.codec.decode text = .ok table := by
  rw [decode]
  cases engine.codec.decode text with
  | error fault => exact ⟨nofun, nofun⟩
  | ok read =>
    show Except.ok read = .ok table ↔ Except.ok read = .ok table
    rw [Except.ok.injEq, Except.ok.injEq]

variable [PatternLibrary]

/-- A query on a text that is not blank is the query on its table. -/
theorem answer_of_decode (ht : Text.allBlank text = false) (hd : engine.decode text = .ok table)
    (query : String) :
    engine.answer text query = Query.answer engine.fuzzyColumns table query := by
  rw [Engine.answer, Query.answer, ht, hd]
  cases blank : Text.allBlank query with
  | true =>
    rw [Query.parse_of_allBlank blank]
    rfl
  | false => rfl

/-- What a statement that was carried out on a text was carried out on. -/
theorem of_answer_eq_ok (h : (engine.answer text query).result = .ok (answer, after)) :
    Text.allBlank text = false ∧ ∃ statement table, Query.parse query = .ok statement ∧
      engine.decode text = .ok table ∧
      (Query.execute engine.fuzzyColumns table statement).result = .ok (answer, after) := by
  rw [Engine.answer] at h
  cases blank : Text.allBlank text with
  | true => rw [blank] at h; cases h
  | false =>
    cases hq : Text.allBlank query with
    | true => rw [blank, hq] at h; cases h
    | false =>
      rw [blank, hq] at h
      simp only [Bool.false_eq_true, if_false, Outcome.result_bind_eq_ok,
        Outcome.result_ofExcept] at h
      obtain ⟨statement, hs, table, hd, he⟩ := h
      exact ⟨rfl, statement, table, hs, hd, he⟩

/-- The remarks on a query, in words. -/
def remarks (engine : Engine) (text query : String) : List String :=
  (engine.answer text query).diagnostics.map Diagnostic.message

/-- The report of a statement that could not be carried out. -/
theorem run_of_error {e : QueryError} (h : (engine.answer text query).result = .error e) :
    engine.run text query = .failure (Query.kindOf? query) text e (engine.remarks text query) := by
  rw [run, outcome, Outcome.bind_of_error h]
  rfl

/-- The report of a statement that was carried out. -/
theorem run_of_ok (hc : engine.codec.IsPlain)
    (h : (engine.answer text query).result = .ok (answer, after)) : engine.run text query =
      .success engine.codec text answer after (engine.remarks text query) := by
  have reported : engine.outcome text query = ⟨(engine.answer text query).diagnostics,
      .ok (.success engine.codec text answer after [])⟩ := by
    rw [outcome, Outcome.bind_of_ok h]
    show Outcome.mk (_ ++ []) (Report.ofAnswer engine.codec text answer after) = _
    rw [Report.ofAnswer_eq hc, List.append_nil]
  rw [run, reported]
  rfl

/-- A report without an error tells of a statement that was carried out. -/
theorem exists_answer_of_run (hc : engine.codec.IsPlain)
    (h : (engine.run text query).error = none) :
    ∃ answer after, (engine.answer text query).result = .ok (answer, after) ∧
      engine.run text query =
        .success engine.codec text answer after (engine.remarks text query) := by
  cases e : (engine.answer text query).result with
  | error error => rw [run_of_error e] at h; cases h
  | ok result => exact ⟨result.1, result.2, rfl, run_of_ok hc e⟩

/-- A report without an error is that of a plan, which the query comes to on the table of the
text. -/
theorem exists_plan_of_run (hc : engine.codec.IsPlain)
    (h : (engine.run text query).error = none) :
    ∃ table statement p, engine.decode text = .ok table ∧ Query.parse query = .ok statement ∧
      (Query.plan engine.fuzzyColumns table.headers statement).result = .ok p ∧
      engine.run text query = .success engine.codec text (p.answer table) (p.after table)
        (engine.remarks text query) := by
  obtain ⟨answer, after, ha, report⟩ := exists_answer_of_run hc h
  obtain ⟨-, statement, table, parsed, hd, carried⟩ := of_answer_eq_ok ha
  obtain ⟨p, hp, rfl, rfl⟩ := Query.exists_plan_of_execute carried
  exact ⟨table, statement, p, hd, parsed, hp, report⟩

/-- An edit that counts a row is a plan that was carried out on the table of the text, and its text
is what the table that it leaves is written as. -/
theorem exists_plan_of_edit (hc : engine.codec.IsPlain) (he : (engine.run text query).error = none)
    (hk : (engine.run text query).operation = some .update ∨
      (engine.run text query).operation = some .delete)
    (hn : 0 < (engine.run text query).rowsAffected) :
    ∃ table p, engine.codec.decode text = .ok table ∧
      (Query.planOf engine.fuzzyColumns table.headers query).result = .ok p ∧
      (p.answer table).kind ≠ .select ∧ 0 < (p.answer table).count ∧
      (engine.run text query).resultText =
        engine.codec.written (Codec.recordsOfTable (p.after table)) := by
  obtain ⟨table, statement, p, hd, parsed, planned, report⟩ := exists_plan_of_run hc he
  have hp : (Query.planOf engine.fuzzyColumns table.headers query).result = .ok p := by
    rw [Query.planOf, Outcome.result_bind_eq_ok]
    exact ⟨statement, parsed, planned⟩
  rw [report] at hk hn ⊢
  have change : (p.answer table).kind ≠ .select := by
    intro e
    rcases hk with hk | hk
    · exact absurd (e ▸ Option.some.inj hk) nofun
    · exact absurd (e ▸ Option.some.inj hk) nofun
  exact ⟨table, p, decode_eq_ok_iff.1 hd, hp, change, hn,
    Report.textAfter_of_change change hn _ _ _⟩

end Engine

end TableQuery
