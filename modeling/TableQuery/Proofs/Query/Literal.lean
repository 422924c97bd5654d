import TableQuery.Proofs.Query.Shapes

/-!
# What an update finds again by its literal

An update keeps the cell of its literal, while a comparison looks at the literal as it is written.
The two agree on blanks, which are the number zero, on numbers and on all other texts, which are
kept as they are. They do not agree on a truth value with blanks around it: the cell drops the
blanks and the comparison does not.

* `IsPadded`: truth values with blanks around them;
* `isEqual_infer_iff`: when the cell of a literal is equal to the literal;
* `SetsCells.mem_holding_iff`: a comparison of a column that was set;
* `finds_or_misses_of_setsCells`: what equality finds of the rows that were set;
* `update_found_by_literal`: the rows of an update, by its literal and by the trimmed one.
-/

namespace TableQuery.Query

open Text (trim trimmed)

/-- Is the literal a truth value with blanks before or behind it? -/
def IsPadded (literal : String) : Prop :=
  (Cell.readBool? (trim literal.toList)).isSome = true ∧ trimmed literal ≠ literal

instance (literal : String) : Decidable (IsPadded literal) :=
  inferInstanceAs (Decidable (_ ∧ _))

/-! ## The cell of a literal -/

section

variable {literal : String} {b : Bool}

/-- The names of the truth values are in letters of ASCII. -/
theorem isAscii_of_readBool? {text : List Char} (h : Cell.readBool? text = some b) :
    ∀ c ∈ text, Text.isAscii c = true := by
  have names : (Cell.bool b).text.toList.all Text.isAscii = true := by
    cases b <;> decide
  intro c hc
  rw [← Text.isAscii_toLower]
  refine List.all_eq_true.1 names c.toLower ?_
  rw [← Cell.readBool?_eq_some_iff.1 h]
  exact List.mem_map_of_mem hc

/-- A truth value is the same up to case as its name only if no blanks are around it. -/
theorem lowercased_text_bool_eq_iff (h : Cell.readBool? (trim literal.toList) = some b) :
    Text.lowercased (Cell.bool b).text = Text.lowercased literal ↔ trimmed literal = literal := by
  have name : Text.lowercased (Cell.bool b).text = (Cell.bool b).text := by
    cases b <;> decide +kernel
  have word := Cell.readBool?_eq_some_iff.1 h
  have letters : Text.lowercase literal.toList = literal.toList.map Char.toLower :=
    Text.lowercase_eq_map (Text.isPlain_of_trim (isAscii_of_readBool? h))
  rw [name, Text.lowercased, letters, ← String.toList_inj, String.toList_ofList, ← word,
    ← String.toList_inj, Text.toList_trimmed]
  -- small letters are as many as there were, so equal texts mean that no blank was taken off
  refine ⟨fun same => (Text.trim_sublist _).eq_of_length ?_, fun same => by rw [same]⟩
  simpa only [List.length_map] using congrArg List.length same

/-- A blank literal is the number zero, as nothing is. -/
theorem isEqual_null_of_blank (h : trim literal.toList = []) : isEqual .null literal = true := by
  rw [isEqual, numbers?, Cell.read?_of_trim_eq_nil h]
  rfl

/-- The cell of a literal is equal to the literal unless this is a truth value with blanks around
it. -/
theorem isEqual_infer_iff (literal : String) :
    isEqual (Cell.infer literal) literal = true ↔ ¬IsPadded literal := by
  by_cases blank : trim literal.toList = []
  · rw [Cell.infer_of_trim_eq_nil blank]
    refine iff_of_true (isEqual_null_of_blank blank) fun padded => ?_
    rw [IsPadded, blank] at padded
    cases padded.1
  cases h : Cell.readBool? (trim literal.toList) with
  | none =>
    have kept := Cell.text_infer_of_readBool?_eq_none blank h
    refine iff_of_true (isEqual_of_lowercased_eq (Cell.infer_text_infer literal) ?_)
      fun padded => ?_
    · rw [kept]
    · rw [IsPadded, h] at padded
      cases padded.1
  | some b =>
    rw [Cell.infer_of_readBool?_eq_some h, isEqual, numbers?_eq_none (.inl (Cell.number?_bool b)),
      decide_eq_true_iff, lowercased_text_bool_eq_iff h, IsPadded, h, Option.isSome_some]
    simp

/-- A padded truth value has the cell of the bare one. -/
theorem IsPadded.infer_trimmed (h : IsPadded literal) :
    Cell.infer (trimmed literal) = Cell.infer literal := by
  obtain ⟨b, found⟩ := Option.isSome_iff_exists.1 h.1
  rw [Cell.infer_of_readBool?_eq_some found, Cell.infer_of_readBool?_eq_some]
  rwa [Text.toList_trimmed, Text.trim_trim]

theorem not_isPadded_trimmed (literal : String) : ¬IsPadded (trimmed literal) :=
  fun padded => padded.2 (Text.trimmed_trimmed literal)

end

/-! ## The rows of an update -/

/-- The condition that a column is equal to a literal. -/
def equalTo (name literal : String) : Filter :=
  .predicate (.compare name (.known .equal) literal)

/-- The condition selects all rows at the positions. -/
def Finds [PatternLibrary] (scope : Scope) (filter : Filter) (rows : List Row)
    (indices : List Nat) : Prop :=
  ∃ found, (filter.evaluate scope rows).result = .ok found ∧ ∀ i ∈ indices, i ∈ found

/-- The condition can be evaluated and selects no row at the positions. -/
def Misses [PatternLibrary] (scope : Scope) (filter : Filter) (rows : List Row)
    (indices : List Nat) : Prop :=
  ∃ found, (filter.evaluate scope rows).result = .ok found ∧ ∀ i ∈ indices, i ∉ found

section

variable {old new : List Row} {indices : List Nat} {column : String} {cell : Cell}

/-- A comparison of a column that was set goes by the cell that it was set to. -/
theorem SetsCells.mem_holding_iff (h : SetsCells old new indices column cell) {i : Nat}
    (hi : i ∈ indices) (ho : i < old.length) (literal : String) (c : Comparison) :
    i ∈ holding new column literal c ↔ c.holds cell literal = true := by
  have hn : i < new.length := h.1 ▸ ho
  have assigned : new[i].cell column = cell := by
    refine Row.cell_of_get? ?_
    rw [h.2 i ho hn column, if_pos ⟨hi, rfl⟩]
  rw [mem_holding (List.getElem?_eq_getElem hn), assigned]

variable [PatternLibrary]

theorem result_evaluate_equalTo {scope : Scope} {name : String} (literal : String)
    (rows : List Row) (resolved : (scope.resolve name).result = .ok column) :
    ((equalTo name literal).evaluate scope rows).result =
      .ok (holding rows column literal .equal) := by
  have compared := result_comparing scope name literal .equal rows
  rwa [resolved] at compared

/-- What equality finds of the rows in which a column was set to the cell of a text. -/
theorem finds_or_misses_of_setsCells {value : String}
    (h : SetsCells old new indices column (Cell.infer value))
    (inRange : ∀ i ∈ indices, i < old.length) {scope : Scope} {name : String}
    (resolved : (scope.resolve name).result = .ok column) :
    (¬IsPadded value → Finds scope (equalTo name value) new indices) ∧
    (IsPadded value → Misses scope (equalTo name value) new indices ∧
      Finds scope (equalTo name (trimmed value)) new indices) := by
  have mem_iff (literal : String) : ∀ i ∈ indices,
      (i ∈ holding new column literal .equal ↔ isEqual (Cell.infer value) literal = true) :=
    fun i hi => h.mem_holding_iff hi (inRange i hi) literal .equal
  have evaluates (literal : String) := result_evaluate_equalTo literal new resolved
  refine ⟨fun bare => ⟨_, evaluates value, fun i hi => ?_⟩, fun padded =>
    ⟨⟨_, evaluates value, fun i hi => ?_⟩, _, evaluates (trimmed value), fun i hi => ?_⟩⟩
  · rw [mem_iff value i hi]
    exact (isEqual_infer_iff value).2 bare
  · rw [mem_iff value i hi]
    exact fun same => (isEqual_infer_iff value).1 same padded
  · rw [mem_iff (trimmed value) i hi, ← padded.infer_trimmed]
    exact (isEqual_infer_iff (trimmed value)).2 (not_isPadded_trimmed value)

end

/-- An update assigns the cell of its literal to as many rows as it counts. Afterwards the column
has the names that it had, and equality with the literal selects all the assigned rows, under
whatever name the column is meant. If the literal is a truth value with blanks around it, equality
with it selects none of them, but equality with the truth value alone selects all. -/
theorem update_found_by_literal [PatternLibrary] {fuzzy : Bool} {table after : Table}
    {tableRef name value column : String} {filter : Option Filter} {count : Nat}
    (h : (execute fuzzy table (.update tableRef name value filter)).result =
      .ok (.updated column count, after)) :
    ∃ assigned,
      (matchingRows ⟨table.headers, tableRef, fuzzy⟩ filter table.rows).result = .ok assigned ∧
      assigned.length = count ∧
      SetsCells table.rows after.rows assigned column (Cell.infer value) ∧
      (Scope.resolve ⟨after.headers, tableRef, fuzzy⟩ name).result = .ok column ∧
      ∀ (scope : Scope) (other : String), (scope.resolve other).result = .ok column →
        (¬IsPadded value → Finds scope (equalTo other value) after.rows assigned) ∧
        (IsPadded value → Misses scope (equalTo other value) after.rows assigned ∧
          Finds scope (equalTo other (trimmed value)) after.rows assigned) := by
  obtain ⟨p, planned, answered, rfl⟩ := exists_plan_of_execute h
  cases comesTo_of_plan planned with
  | @update _ _ _ target _ test resolved tested =>
    obtain ⟨rfl, rfl⟩ := Answer.updated.inj answered
    have sets := setsCells_assign test column (Cell.infer value) table.rows
    refine ⟨positions test table.rows, ?_, length_positions test table.rows, sets, resolved,
      fun scope other means => ?_⟩
    · rw [matchingRows, Outcome.map_of_ok tested]
    · exact finds_or_misses_of_setsCells sets (fun _ => lt_of_mem_positions) means

/-- A number in another spelling under names in other letters, and a padded truth value. -/
theorem update_found_by_literal_spellings :
    (∃ after, (execute true ⟨["k", "n"], [.ofList [("k", .string "a")],
        .ofList [("k", .string "b"), ("n", .int 1)]], false⟩
        (.update "t" "N" " 0x10 " (some (.predicate (.like "k" "B"))))).result =
          .ok (.updated "n" 1, after) ∧
      Finds ⟨["k", "n"], "u", false⟩ (equalTo "n" " 0x10 ") after.rows [1]) ∧
    ∃ after, (execute true ⟨["k", "n"], [.ofList [("k", .string "a")],
        .ofList [("k", .string "b"), ("n", .int 1)]], false⟩
        (.update "t" "n" "TRUE " none)).result = .ok (.updated "n" 2, after) ∧
      Misses ⟨["k", "n"], "t", true⟩ (equalTo "N" "TRUE ") after.rows [0, 1] ∧
      Finds ⟨["k", "n"], "t", true⟩ (equalTo "N" "TRUE") after.rows [0, 1] := by
  constructor
  · have updates : (execute true ⟨["k", "n"], [.ofList [("k", .string "a")],
        .ofList [("k", .string "b"), ("n", .int 1)]], false⟩
        (.update "t" "N" " 0x10 " (some (.predicate (.like "k" "B"))))).result =
          .ok (.updated "n" 1, ⟨["k", "n"], [.ofList [("k", .string "a")],
            .ofList [("k", .string "b"), ("n", .string " 0x10 ")]], false⟩) := by
      decide +kernel
    obtain ⟨assigned, matching, -, -, -, finds⟩ := update_found_by_literal updates
    have same : assigned = [1] := Except.ok.inj (matching.symm.trans (by decide +kernel))
    subst same
    exact ⟨_, updates, (finds _ _ (by decide +kernel)).1 (by decide +kernel)⟩
  · have updates : (execute true ⟨["k", "n"], [.ofList [("k", .string "a")],
        .ofList [("k", .string "b"), ("n", .int 1)]], false⟩
        (.update "t" "n" "TRUE " none)).result =
          .ok (.updated "n" 2, ⟨["k", "n"], [.ofList [("k", .string "a"), ("n", .bool true)],
            .ofList [("k", .string "b"), ("n", .bool true)]], false⟩) := by
      decide +kernel
    obtain ⟨assigned, matching, -, -, -, finds⟩ := update_found_by_literal updates
    have same : assigned = [0, 1] := Except.ok.inj (matching.symm.trans (by decide +kernel))
    subst same
    have padded := (finds ⟨["k", "n"], "t", true⟩ "N" (by decide +kernel)).2 (by decide +kernel)
    exact ⟨_, updates, padded⟩

/-- A truth value with blanks around it, of which the column afterwards holds the bare one. -/
theorem not_always_found_by_literal :
    ¬∀ (codec : Csv.Codec) (text : String) (table after : Table) (fuzzy : Bool)
        (tableRef name value column : String) (filter : Option Filter) (count : Nat)
        (assigned : List Nat),
      codec.decode text = .ok table →
      (execute fuzzy table (.update tableRef name value filter)).result =
        .ok (.updated column count, after) →
      (matchingRows ⟨table.headers, tableRef, fuzzy⟩ filter table.rows).result = .ok assigned →
      Finds ⟨after.headers, tableRef, fuzzy⟩ (equalTo name value) after.rows assigned := by
  intro always
  have read : Csv.Codec.decode ⟨0x2C, .detect⟩ "c\nx\n" =
      .ok ⟨["c"], [.ofList [("c", .string "x")]], false⟩ := by
    decide +kernel
  have updates : (execute true ⟨["c"], [.ofList [("c", .string "x")]], false⟩
      (.update "t" "c" " true " none)).result =
        .ok (.updated "c" 1, ⟨["c"], [.ofList [("c", .bool true)]], false⟩) := by
    decide +kernel
  have matching : (matchingRows ⟨["c"], "t", true⟩ none
      [.ofList [("c", .string "x")]]).result = .ok [0] := by
    decide +kernel
  have evaluated : ((equalTo "c" " true ").evaluate ⟨["c"], "t", true⟩
      [.ofList [("c", .bool true)]]).result = .ok [] := by
    decide +kernel
  obtain ⟨found, finds, all⟩ := always _ _ _ _ _ _ _ _ _ _ _ _ read updates matching
  obtain rfl : found = [] := Except.ok.inj (finds.symm.trans evaluated)
  exact List.not_mem_nil (all 0 (List.mem_singleton_self 0))

end TableQuery.Query
