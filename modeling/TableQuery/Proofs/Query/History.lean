import Mathlib.Data.List.Forall2
import TableQuery.Proofs.Csv.RoundTrip
import TableQuery.Proofs.Query.Plan

/-!
# Tables through runs of statements

What is true of every table that is read from a text, by any codec, stays true while statements are
carried out on it one after the other, whether they fail or not. The columns never change, and each
row that is left is one of the rows that were read, but for columns that were set.

* `Row.AgreesOff`: a row that differs from another in some columns only;
* `Table.Descends`: what a table keeps of the one that it came from;
* `descends_tableAfter`: what one statement keeps;
* `descends_tableAfterAll`, `wellFormed_tableAfterAll`: what statements keep, by induction on them;
* `Codec.invariant_of_decode`: the tables in the history of a table that was read.
-/

namespace TableQuery

open Query (Answer Outcome Plan Statement execute tableAfter)

/-! ## Rows and tables that come from others -/

/-- The row is the other but for the cells of these columns. -/
def Row.AgreesOff (columns : List String) (row origin : Row) : Prop :=
  ∀ name, name ∉ columns → row.get? name = origin.get? name

namespace Row

variable {columns more : List String}

instance (columns : List String) : Std.Refl (AgreesOff columns) :=
  ⟨fun _ _ _ => rfl⟩

instance (columns : List String) : IsTrans Row (AgreesOff columns) :=
  ⟨fun _ _ _ h k name hn => (h name hn).trans (k name hn)⟩

theorem AgreesOff.mono {row origin : Row} (h : row.AgreesOff columns origin)
    (hc : columns ⊆ more) : row.AgreesOff more origin :=
  fun name hn => h name fun hm => hn (hc hm)

theorem agreesOff_assign (test : Row → Bool) (column : String) (cell : Cell) (row : Row) :
    (Query.assign test column cell row).AgreesOff [column] row := by
  intro name hn
  rw [Query.assign]
  split
  · rw [get?_insert, if_neg fun e => hn (List.mem_singleton.2 e)]
  · rfl

end Row

/-- The table comes from another by setting cells of these columns and taking rows away. -/
structure Table.Descends (columns : List String) (after table : Table) : Prop where
  headers : after.headers = table.headers
  synthetic : after.synthetic = table.synthetic
  rows : List.SublistForall₂ (Row.AgreesOff columns) after.rows table.rows

namespace Table.Descends

variable {columns more : List String} {t u v : Table}

theorem refl (columns : List String) (t : Table) : t.Descends columns t :=
  ⟨rfl, rfl, Std.Refl.refl _⟩

theorem trans (h : v.Descends columns u) (k : u.Descends columns t) : v.Descends columns t :=
  ⟨h.headers.trans k.headers, h.synthetic.trans k.synthetic, IsTrans.trans _ _ _ h.rows k.rows⟩

theorem mono (h : u.Descends columns t) (hc : columns ⊆ more) : u.Descends more t := by
  obtain ⟨origins, agree, sublist⟩ := List.sublistForall₂_iff.1 h.rows
  exact ⟨h.headers, h.synthetic, List.sublistForall₂_iff.2
    ⟨origins, agree.imp fun _ _ off => off.mono hc, sublist⟩⟩

theorem length_rows_le (h : u.Descends columns t) : u.rows.length ≤ t.rows.length := by
  obtain ⟨origins, agree, sublist⟩ := List.sublistForall₂_iff.1 h.rows
  rw [agree.length_eq]
  exact sublist.length_le

end Table.Descends

namespace Query

/-! ## One statement -/

/-- The columns that a statement has set, if it has been carried out. -/
def columnsSet (outcome : Outcome (Answer × Table)) : List String :=
  match outcome.result with
  | .ok (.updated column _, _) => [column]
  | _ => []

theorem descends_after (p : Plan) (t : Table) :
    (p.after t).Descends (columnsSet (pure (p.answer t, p.after t))) t := by
  cases p with
  | select columns test => exact .refl _ t
  | update column cell test =>
    refine ⟨rfl, rfl, ?_⟩
    show List.SublistForall₂ (Row.AgreesOff [column]) (t.rows.map (assign test column cell)) t.rows
    rw [List.sublistForall₂_map_left_iff, List.sublistForall₂_iff]
    exact ⟨t.rows, List.forall₂_same.2 fun row _ => Row.agreesOff_assign test column cell row,
      List.Sublist.refl _⟩
  | delete test => exact ⟨rfl, rfl, List.filter_sublist.sublistForall₂⟩

variable [PatternLibrary]

/-- What a statement leaves of a table: the table itself if it fails, and else what its plan
leaves. -/
theorem tableAfter_cases (fuzzy : Bool) (table : Table) (s : Statement) :
    (∃ e, (execute fuzzy table s).result = .error e ∧
      tableAfter table (execute fuzzy table s) = table) ∨
    ∃ p, (plan fuzzy table.headers s).result = .ok p ∧
      (execute fuzzy table s).result = .ok (p.answer table, p.after table) ∧
      tableAfter table (execute fuzzy table s) = p.after table := by
  cases e : (execute fuzzy table s).result with
  | error error => exact .inl ⟨error, rfl, by rw [tableAfter, e]⟩
  | ok result =>
    obtain ⟨answer, after⟩ := result
    obtain ⟨p, hp, rfl, rfl⟩ := exists_plan_of_execute e
    exact .inr ⟨p, hp, rfl, tableAfter_of_ok e⟩

theorem descends_tableAfter (fuzzy : Bool) (table : Table) (s : Statement) :
    (tableAfter table (execute fuzzy table s)).Descends (columnsSet (execute fuzzy table s))
      table := by
  rcases tableAfter_cases fuzzy table s with ⟨e, -, after⟩ | ⟨p, -, carried, after⟩
  · rw [after]
    exact .refl _ table
  · have columns : columnsSet (execute fuzzy table s) =
        columnsSet (pure (p.answer table, p.after table)) := by
      rw [columnsSet, carried]
      rfl
    rw [after, columns]
    exact descends_after p table

theorem wellFormed_tableAfter {table : Table} (h : table.WellFormed) (fuzzy : Bool)
    (s : Statement) : (tableAfter table (execute fuzzy table s)).WellFormed := by
  rcases tableAfter_cases fuzzy table s with ⟨e, -, after⟩ | ⟨p, hp, -, after⟩
  · rwa [after]
  · rw [after]
    exact Plan.wellFormed_after (fits_of_plan hp) h

/-! ## Runs -/

/-- The table that is left when statements are carried out one after the other. -/
def tableAfterAll (fuzzy : Bool) (table : Table) : List Statement → Table
  | [] => table
  | s :: rest => tableAfterAll fuzzy (tableAfter table (execute fuzzy table s)) rest

/-- The columns that the statements that did not fail have set on the way. -/
def columnsSetByAll (fuzzy : Bool) (table : Table) : List Statement → List String
  | [] => []
  | s :: rest =>
    columnsSet (execute fuzzy table s) ++
      columnsSetByAll fuzzy (tableAfter table (execute fuzzy table s)) rest

theorem tableAfterAll_append (fuzzy : Bool) (table : Table) (earlier later : List Statement) :
    tableAfterAll fuzzy table (earlier ++ later) =
      tableAfterAll fuzzy (tableAfterAll fuzzy table earlier) later := by
  induction earlier generalizing table with
  | nil => rfl
  | cons s rest ih => exact ih _

theorem descends_tableAfterAll (fuzzy : Bool) (table : Table) (statements : List Statement) :
    (tableAfterAll fuzzy table statements).Descends (columnsSetByAll fuzzy table statements)
      table := by
  induction statements generalizing table with
  | nil => exact .refl _ table
  | cons s rest ih =>
    have step := descends_tableAfter fuzzy table s
    exact ((ih _).mono (List.subset_append_right _ _)).trans
      (step.mono (List.subset_append_left _ _))

theorem wellFormed_tableAfterAll {table : Table} (h : table.WellFormed) (fuzzy : Bool)
    (statements : List Statement) : (tableAfterAll fuzzy table statements).WellFormed := by
  induction statements generalizing table with
  | nil => exact h
  | cons s rest ih => exact ih (wellFormed_tableAfter h fuzzy s)

end Query

/-! ## Tables that were read -/

namespace Csv.Codec

open Query (PatternLibrary columnsSetByAll tableAfterAll)

/-- The invariant of tables: a table that any codec has read, and that any statements have been
carried out on, has the columns of the table that was read, which are distinct names. Its rows
assign cells to columns only, every cell is the one that its text gives, and no number is infinite
or none. There are never more rows than before, and each row that is left is one of those that were
read, in their order, but for columns that an update has set. -/
theorem invariant_of_decode [PatternLibrary] {codec : Codec} {text : String} {table : Table}
    (hd : codec.decode text = .ok table) (fuzzy : Bool) (statements : List Statement) :
    (tableAfterAll fuzzy table statements).headers = table.headers ∧
    (tableAfterAll fuzzy table statements).synthetic = table.synthetic ∧
    table.headers.Nodup ∧ (∀ name ∈ table.headers, name ≠ "" ∧ Text.trimmed name = name) ∧
    (∀ row ∈ (tableAfterAll fuzzy table statements).rows, ∀ name cell,
      row.get? name = some cell → name ∈ table.headers ∧ Cell.infer cell.text = cell ∧
        ∀ d, cell = .float d → d.isFinite = true) ∧
    (∀ earlier later, statements = earlier ++ later →
      (tableAfterAll fuzzy table statements).rows.length ≤
        (tableAfterAll fuzzy table earlier).rows.length) ∧
    ∃ origins, origins.Sublist table.rows ∧
      List.Forall₂ (Row.AgreesOff (columnsSetByAll fuzzy table statements))
        (tableAfterAll fuzzy table statements).rows origins := by
  have read := wellFormed_of_decode hd
  have after := Query.wellFormed_tableAfterAll read fuzzy statements
  have descends := Query.descends_tableAfterAll fuzzy table statements
  obtain ⟨origins, agree, sublist⟩ := List.sublistForall₂_iff.1 descends.rows
  refine ⟨descends.headers, descends.synthetic, read.nodup, fun name hn => ?_,
    fun row hr name cell assigned => ?_, fun earlier later e => ?_, origins, sublist, agree⟩
  · have isName := read.names name hn
    exact ⟨isName.ne_empty, isName.trimmed_eq⟩
  · obtain ⟨hn, stable⟩ := after.fits row hr name cell assigned
    refine ⟨descends.headers ▸ hn, stable, fun d e => ?_⟩
    rw [e] at stable
    exact Cell.isFinite_of_infer stable
  · rw [e, Query.tableAfterAll_append]
    exact (Query.descends_tableAfterAll fuzzy _ later).length_rows_le

/-- A column that is set under a name in other letters, two statements that fail and a row that is
taken away. -/
theorem invariant_of_decode_history : ∃ (table : Table) (statements : List Statement),
    decode ⟨0x2C, .detect⟩ "id,name\n1,x\n2\n3, TRUE\n" = .ok table ∧
    statements = [
      .update "t" "NAME" "0.5" (some (.predicate (.compare "id" (.known .less) "3"))),
      .select (.columns ["name", "no such column"]) "t" none, .delete "t" none,
      .delete "t" (some (.predicate (.compare "id" (.known .equal) "1")))] ∧
    (tableAfterAll true table statements).rows =
      [.ofList [("id", .int 2), ("name", .infer "0.5")],
        .ofList [("id", .int 3), ("name", .bool true)]] ∧
    (tableAfterAll true table statements).headers = ["id", "name"] ∧
    ∃ origins, origins.Sublist table.rows ∧ List.Forall₂ (Row.AgreesOff ["name"])
      (tableAfterAll true table statements).rows origins := by
  have read : decode ⟨0x2C, .detect⟩ "id,name\n1,x\n2\n3, TRUE\n" =
      .ok ⟨["id", "name"], [.ofList [("id", .int 1), ("name", .string "x")],
        .ofList [("id", .int 2)], .ofList [("id", .int 3), ("name", .bool true)]], false⟩ := by
    decide +kernel
  obtain ⟨headers, -, -, -, -, -, survives⟩ := invariant_of_decode read true [
    .update "t" "NAME" "0.5" (some (.predicate (.compare "id" (.known .less) "3"))),
    .select (.columns ["name", "no such column"]) "t" none, .delete "t" none,
    .delete "t" (some (.predicate (.compare "id" (.known .equal) "1")))]
  have set : columnsSetByAll true ⟨["id", "name"], [.ofList [("id", .int 1), ("name", .string "x")],
      .ofList [("id", .int 2)], .ofList [("id", .int 3), ("name", .bool true)]], false⟩ [
        .update "t" "NAME" "0.5" (some (.predicate (.compare "id" (.known .less) "3"))),
        .select (.columns ["name", "no such column"]) "t" none, .delete "t" none,
        .delete "t" (some (.predicate (.compare "id" (.known .equal) "1")))] = ["name"] := by
    decide +kernel
  rw [set] at survives
  exact ⟨_, _, read, rfl, by decide +kernel, headers, survives⟩

end Csv.Codec

end TableQuery
