import TableQuery.Proofs.Engine

/-!
# Edits of a text

What an update or a deletion makes of the text that it is run on, record by record, with a plain
delimiter.

* `Edited`: the records that an edit leaves of the records of data;
* `readRecords_resultText`: the result is read as those, behind the header if there was one;
* `decode_resultText_iff`: when the result of an edit of a text without a header is read as the
  table in memory.
-/

namespace TableQuery

open Csv (Codec beginsWithMark firstField?)
open Csv.Codec (rowOfRecord recordOfRow recordsOfTable)
open Query (Answer Filter Outcome PatternLibrary Plan Scope Statement)

namespace Query

/-- What an edit leaves of the records of data under these columns. A field that is not assigned is
left in its normal form, and is empty where the record has none. -/
inductive Edited [PatternLibrary] (fuzzy : Bool) (headers : List String)
    (data : List (List String)) : Statement → List (List String) → Prop
  | update {tableRef name literal column : String} {filter : Option Filter} {test : Row → Bool}
      (target : (Scope.resolve ⟨headers, tableRef, fuzzy⟩ name).result = .ok column)
      (matching : (rowTest ⟨headers, tableRef, fuzzy⟩ filter).result = .ok test) :
      Edited fuzzy headers data (.update tableRef name literal filter)
        (data.map fun record => headers.mapIdx fun j key =>
          if test (rowOfRecord headers record) = true ∧ key = column then (Cell.infer literal).text
          else Cell.normalForm (record.getD j ""))
  | delete {tableRef : String} {filter : Filter} {test : Row → Bool}
      (matching : (rowTest ⟨headers, tableRef, fuzzy⟩ (some filter)).result = .ok test) :
      Edited fuzzy headers data (.delete tableRef (some filter))
        ((data.filter fun record => !test (rowOfRecord headers record)).map fun record =>
          headers.mapIdx fun j _ => Cell.normalForm (record.getD j ""))

variable {headers : List String}

/-- The fields of a row that was read and assigned. -/
theorem recordOfRow_assign (hd : headers.Nodup) (test : Row → Bool) (column : String) (cell : Cell)
    (record : List String) :
    recordOfRow headers (assign test column cell (rowOfRecord headers record)) =
      headers.mapIdx fun j key =>
        if test (rowOfRecord headers record) = true ∧ key = column then cell.text
        else Cell.normalForm (record.getD j "") := by
  cases ht : test (rowOfRecord headers record) with
  | false =>
    have same : assign test column cell (rowOfRecord headers record) = rowOfRecord headers record :=
      if_neg (Bool.eq_false_iff.1 ht)
    rw [same, Codec.recordOfRow_rowOfRecord hd]
    simp only [Bool.false_eq_true, false_and, if_false]
  | true =>
    refine List.ext_getElem ?_ fun j hj _ => ?_
    · rw [Codec.length_recordOfRow, List.length_mapIdx]
    rw [Codec.length_recordOfRow] at hj
    simp only [recordOfRow, List.getElem_map, List.getElem_mapIdx, cell_assign, ht, if_true,
      true_and]
    split
    · rfl
    · rw [Codec.cell_rowOfRecord hd hj, Cell.text_infer]

/-- The rows that a change leaves of rows that were read, as records. -/
theorem edited_of_plan [PatternLibrary] {fuzzy : Bool} {statement : Statement} {p : Plan}
    {t : Table} {data : List (List String)} (hd : headers.Nodup)
    (hp : (plan fuzzy headers statement).result = .ok p) (hk : (p.answer t).kind ≠ .select)
    (hr : t.rows = data.map (rowOfRecord headers)) :
    Edited fuzzy headers data statement ((p.after t).rows.map (recordOfRow headers)) := by
  cases statement with
  | select projection tableRef filter =>
    simp only [plan, Outcome.result_bind_eq_ok] at hp
    obtain ⟨_, -, columns, -, test, -, e⟩ := hp
    rw [← Except.ok.inj e] at hk
    exact absurd rfl hk
  | update tableRef name literal filter =>
    simp only [plan, Outcome.result_bind_eq_ok] at hp
    obtain ⟨column, target, test, matching, e⟩ := hp
    rw [← Except.ok.inj e]
    show Edited fuzzy headers data _
      ((t.rows.map (assign test column (Cell.infer literal))).map (recordOfRow headers))
    rw [hr, List.map_map, List.map_map]
    have records : data.map ((recordOfRow headers ∘ assign test column (Cell.infer literal)) ∘
        rowOfRecord headers) = data.map fun record => headers.mapIdx fun j key =>
          if test (rowOfRecord headers record) = true ∧ key = column then (Cell.infer literal).text
          else Cell.normalForm (record.getD j "") :=
      List.map_congr_left fun record _ => recordOfRow_assign hd test column _ record
    rw [records]
    exact .update target matching
  | delete tableRef filter =>
    cases filter with
    | none => cases hp
    | some filter =>
      simp only [plan, Outcome.result_bind_eq_ok] at hp
      obtain ⟨test, matching, e⟩ := hp
      rw [← Except.ok.inj e]
      show Edited fuzzy headers data _ ((t.rows.filter (!test ·)).map (recordOfRow headers))
      rw [hr, List.filter_map, List.map_map]
      have records : ∀ kept : List (List String),
          kept.map (recordOfRow headers ∘ rowOfRecord headers) =
            kept.map fun record => headers.mapIdx fun j _ => Cell.normalForm (record.getD j "") :=
        fun kept => List.map_congr_left fun record _ => Codec.recordOfRow_rowOfRecord hd record
      rw [records]
      exact .delete matching

end Query

namespace Engine

variable {engine : Engine} {text query : String}

/-- What a plan leaves of a table that was read is written as the header record, if there was one,
and the rows. -/
theorem recordsOfTable_after (codec : Codec) {input : List (List String)} (hi : input ≠ [])
    (ne : ∀ r ∈ input, r ≠ []) (p : Plan) :
    recordsOfTable (p.after (codec.tableOfRecords input)) =
      (if codec.hasHeader input then [codec.columnsOf input] else []) ++
        (p.after (codec.tableOfRecords input)).rows.map (recordOfRow (codec.columnsOf input)) := by
  have columns : (codec.columnsOf input).isEmpty = false :=
    List.isEmpty_eq_false_iff.2 (Codec.columnsOf_ne_nil hi ne)
  rw [recordsOfTable, Plan.headers_after, Plan.synthetic_after, Codec.tableOfRecords_eq _ hi]
  dsimp only
  rw [columns]
  cases codec.hasHeader input <;> rfl

/-- An edit that counts a row leaves the header record if there was one, and behind it what the
statement leaves of the records of data. -/
theorem readRecords_resultText [PatternLibrary] (hc : engine.codec.IsPlain)
    (he : (engine.run text query).error = none)
    (hk : (engine.run text query).operation = some .update ∨
      (engine.run text query).operation = some .delete)
    (hn : 0 < (engine.run text query).rowsAffected) :
    ∃ input statement data expected, engine.codec.readRecords text = .ok input ∧
      Query.parse query = .ok statement ∧
      Query.Edited engine.fuzzyColumns (engine.codec.columnsOf input) (engine.codec.dataOf input)
        statement data ∧
      expected = (if engine.codec.hasHeader input then [engine.codec.columnsOf input] else []) ++
        data ∧
      (engine.run text query).resultText = engine.codec.written expected ∧
      ((∀ field ∈ firstField? expected, beginsWithMark field = false) →
        engine.codec.readRecords (engine.run text query).resultText = .ok expected) := by
  obtain ⟨table, p, hd, hp, change, count, written⟩ := exists_plan_of_edit hc he hk hn
  obtain ⟨statement, hs, hp⟩ := Outcome.result_bind_eq_ok.1 hp
  obtain ⟨input, hr, ne, hd'⟩ := hc.exists_decode text
  obtain rfl := Except.ok.inj (hd'.symm.trans hd)
  have hi : input ≠ [] := by
    intro e
    have none : (p.answer (engine.codec.tableOfRecords input)).count ≤ 0 := by
      rw [e]
      exact p.count_answer_le Table.empty
    exact absurd count (Nat.not_lt.2 none)
  have parts := Codec.tableOfRecords_eq engine.codec hi
  rw [congrArg Table.headers parts] at hp
  refine ⟨input, statement, (p.after (engine.codec.tableOfRecords input)).rows.map
    (recordOfRow (engine.codec.columnsOf input)), _, hr, hs, ?_, rfl, ?_, fun hm => ?_⟩
  · exact Query.edited_of_plan (Codec.nodup_columnsOf _ input) hp change (congrArg Table.rows parts)
  · rw [written, recordsOfTable_after _ hi ne]
  · rw [← recordsOfTable_after _ hi ne] at hm ⊢
    rw [written]
    exact hc.readRecords_written_of_firstField
      (fun _ h => Codec.ne_nil_of_mem_recordsOfTable h) hm

/-- Leading zeros and blanks stay, a truth value is written in small letters, and a record without
its last fields is filled up. -/
theorem readRecords_resultText_short_record : ∃ statement data,
    Query.parse "UPDATE t SET name = 'a,b' WHERE id < 7" = .ok statement ∧
      Query.Edited true ["id", "name", "flag"] [["007", " x", "TRUE"], ["2"]] statement data ∧
      Codec.readRecords ⟨0x2C, .detect⟩ (run ⟨⟨0x2C, .detect⟩, true⟩
        "id,name,flag\n007, x,TRUE\n2\n" "UPDATE t SET name = 'a,b' WHERE id < 7").resultText =
          .ok (["id", "name", "flag"] :: data) := by
  have plain : (Codec.mk 0x2C .detect).IsPlain := by constructor <;> decide
  have success : (run ⟨⟨0x2C, .detect⟩, true⟩ "id,name,flag\n007, x,TRUE\n2\n"
      "UPDATE t SET name = 'a,b' WHERE id < 7").error = none := by
    decide +kernel
  obtain ⟨input, statement, data, expected, hr, hs, edited, e, -, back⟩ :=
    readRecords_resultText plain success (.inl (by decide +kernel)) (by decide +kernel)
  have records : Codec.readRecords ⟨0x2C, .detect⟩ "id,name,flag\n007, x,TRUE\n2\n" =
      .ok [["id", "name", "flag"], ["007", " x", "TRUE"], ["2"]] := by
    decide +kernel
  obtain rfl := Except.ok.inj (records.symm.trans hr)
  have header : expected = ["id", "name", "flag"] :: data := e
  rw [header] at back
  have unmarked : ∀ field ∈ Csv.firstField? (["id", "name", "flag"] :: data),
      beginsWithMark field = false := by
    rintro _ ⟨⟩
    decide +kernel
  exact ⟨statement, data, hs, edited, back unmarked⟩

/-- An edit of a text without a header that counts a row leaves no header in memory. Its result is
read as the table in memory exactly if no byte order mark is lost at its beginning, a record is left
and the first record does not pass for a header. -/
theorem decode_resultText_iff [PatternLibrary] (hc : engine.codec.IsPlain) {table after : Table}
    (hd : engine.decode text = .ok table) (hs : table.synthetic = true)
    (he : (engine.run text query).error = none)
    (hk : (engine.run text query).operation = some .update ∨
      (engine.run text query).operation = some .delete)
    (hn : 0 < (engine.run text query).rowsAffected)
    (ha : Query.tableAfter table (Query.answer engine.fuzzyColumns table query) = after) :
    after.synthetic = true ∧ after.headers = Csv.generatedNames after.headers.length ∧
      (engine.decode (engine.run text query).resultText = .ok after.filled ↔
        beginsWithMark (engine.run text query).resultText = false ∧
          ∃ first ∈ (recordsOfTable after).head?, engine.codec.takesHeader first = false) := by
  obtain ⟨read, p, hd', hp, -, count, written⟩ := exists_plan_of_edit hc he hk hn
  obtain rfl := Except.ok.inj ((decode_eq_ok_iff.1 hd).symm.trans hd')
  rw [Query.answer_eq_planOf, Outcome.map_of_ok hp] at ha
  have ha : p.after table = after := ha
  have wellFormed : table.WellFormed := Codec.wellFormed_of_decode hd'
  have left : after.WellFormed := ha ▸ Plan.wellFormed_after (Query.fits_of_planOf hp) wellFormed
  have synthetic : after.synthetic = true := by rw [← ha, Plan.synthetic_after, hs]
  have ne_nil : after.headers ≠ [] := by
    rw [← ha, Plan.headers_after]
    exact hc.headers_ne_nil_of_decode hd' hs
  refine ⟨synthetic, left.generated synthetic, ?_⟩
  rw [decode_eq_ok_iff, written, ha, hc.decode_written_iff left synthetic ne_nil, Codec.TellsHeader,
    synthetic]
  rfl

/-- A row of numbers that an update leaves alone stays a row. -/
theorem decode_resultText_iff_numbers :
    decode ⟨⟨0x2C, .detect⟩, true⟩ (run ⟨⟨0x2C, .detect⟩, true⟩ "1,2\n3,4\n"
      "UPDATE t SET column_2 = 'x' WHERE column_1 = 3").resultText =
        .ok (Table.filled ⟨["column_1", "column_2"],
          [.ofList [("column_1", .int 1), ("column_2", .int 2)],
            .ofList [("column_1", .int 3), ("column_2", .string "x")]], true⟩) := by
  have plain : (Codec.mk 0x2C .detect).IsPlain := by constructor <;> decide
  have read : decode ⟨⟨0x2C, .detect⟩, true⟩ "1,2\n3,4\n" =
      .ok ⟨["column_1", "column_2"], [.ofList [("column_1", .int 1), ("column_2", .int 2)],
          .ofList [("column_1", .int 3), ("column_2", .int 4)]], true⟩ := by
    decide +kernel
  have success : (run ⟨⟨0x2C, .detect⟩, true⟩ "1,2\n3,4\n"
      "UPDATE t SET column_2 = 'x' WHERE column_1 = 3").error = none := by
    decide +kernel
  refine (decode_resultText_iff plain read rfl success (.inl (by decide +kernel))
    (by decide +kernel) ?_).2.2.2 ⟨?_, ["1", "2"], ?_, ?_⟩
  · decide +kernel
  · decide +kernel
  · decide +kernel
  · decide +kernel

/-- A deletion can leave a row first that passes for a header, which is then lost as a row. -/
theorem decode_resultText_ne_of_names : ∃ table after,
    decode ⟨⟨0x2C, .detect⟩, true⟩ "1,2\na,b\n" = .ok table ∧ table.synthetic = true ∧
      (run ⟨⟨0x2C, .detect⟩, true⟩ "1,2\na,b\n" "DELETE FROM t WHERE column_1 = '1'").error = none ∧
      (run ⟨⟨0x2C, .detect⟩, true⟩ "1,2\na,b\n" "DELETE FROM t WHERE column_1 = '1'").operation =
        some .delete ∧
      (run ⟨⟨0x2C, .detect⟩, true⟩ "1,2\na,b\n"
        "DELETE FROM t WHERE column_1 = '1'").rowsAffected = 1 ∧
      Query.tableAfter table
        (Query.answer true table "DELETE FROM t WHERE column_1 = '1'") = after ∧
      decode ⟨⟨0x2C, .detect⟩, true⟩ (run ⟨⟨0x2C, .detect⟩, true⟩ "1,2\na,b\n"
        "DELETE FROM t WHERE column_1 = '1'").resultText ≠ .ok after.filled := by
  refine ⟨⟨["column_1", "column_2"], [.ofList [("column_1", .int 1), ("column_2", .int 2)],
      .ofList [("column_1", .string "a"), ("column_2", .string "b")]], true⟩,
    ⟨["column_1", "column_2"], [.ofList [("column_1", .string "a"), ("column_2", .string "b")]],
      true⟩, ?_⟩
  decide +kernel

end Engine

end TableQuery
