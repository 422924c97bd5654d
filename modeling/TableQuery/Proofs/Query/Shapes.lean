import TableQuery.Proofs.Number.Spelling
import TableQuery.Proofs.Query.Comparison
import TableQuery.Proofs.Query.Pattern

/-!
# Lists, equality and patterns

Three conditions ask whether the cell of a column is a given text. A list compares texts up to case.
Equality does so only unless both texts are read as numbers, which may be the same in different
spellings; but texts that are the same up to case are never different numbers, so equality takes
every row that a list of the one text takes. A pattern of letters alone compares texts as they are
folded, which for texts of ASCII is the same as up to case.

* `isEqual_of_lowercased_eq`: texts that are the same up to case are equal;
* `accepts_iff_lowercased_eq`: a pattern of letters of ASCII;
* `shapes_agree`: the three conditions on a column that was read from a text.
-/

namespace TableQuery.Query

/-! ## One cell -/

section

variable {cell : Cell} {literal : String}

/-- Texts that are the same up to case are equal, also when they are compared as numbers. -/
theorem isEqual_of_lowercased_eq (hs : cell.IsStable)
    (same : Text.lowercased cell.text = Text.lowercased literal) : isEqual cell literal = true := by
  unfold isEqual
  split
  · next a b both =>
    obtain ⟨ha, hb⟩ := numbers?_eq_some both
    have na := isNaN_of_number? hs ha
    rw [Cell.number?_eq_read?_text hs] at ha
    obtain rfl : a = b := Number.eq_of_lowercased_eq same ha hb
    rw [Double.equal_eq_decide na na]
    exact decide_eq_true rfl
  · exact decide_eq_true same

/-- What is no number is compared as a text. -/
theorem isEqual_of_read?_eq_none (h : Number.read? literal = none) :
    isEqual cell literal = decide (Text.lowercased cell.text = Text.lowercased literal) := by
  rw [isEqual, numbers?_eq_none (.inr h)]

end

/-- Is every character of the text one of ASCII? -/
def IsAscii (text : String) : Prop :=
  ∀ c ∈ text.toList, Text.isAscii c = true

/-- Is the text, as a pattern, one of letters of ASCII alone? -/
def IsWord (text : String) : Prop :=
  IsAscii text ∧ ∀ c ∈ text.toList, c ≠ '%' ∧ c ≠ '_'

/-- A text of ASCII matches a word exactly if they are the same up to case. -/
theorem accepts_iff_lowercased_eq {word text : String} (hw : IsWord word) (ht : IsAscii text) :
    Pattern.accepts (word.toList.map Piece.ofChar) text = true ↔
      Text.lowercased text = Text.lowercased word := by
  rw [accepts_map_ofChar, cuts_iff_map_foldChar hw.2, Text.map_foldChar_of_ascii ht,
    Text.map_foldChar_of_ascii hw.1, Text.lowercased, Text.lowercased, String.ofList_inj]

/-! ## The rows of a table -/

/-- The condition that the cell of a column is among texts. -/
def listing (name : String) (values : List String) : Option Filter :=
  some (.predicate (.among name values))

/-- The condition that the cell of a column matches a pattern. -/
def resembling (name pattern : String) : Option Filter :=
  some (.predicate (.like name pattern))

theorem result_cellTest_like [PatternLibrary] (name pattern : String) :
    (Predicate.like name pattern).cellTest.result = (Pattern.ofString pattern).map fun _ cell =>
      Pattern.accepts (pattern.toList.map Piece.ofChar) cell.text := by
  rw [Predicate.cellTest, Outcome.result_bind, Outcome.result_ofExcept]
  cases h : Pattern.ofString pattern with
  | error e => rfl
  | ok pieces =>
    obtain ⟨-, rfl⟩ := ofString_eq_ok_iff.1 h
    rfl

/-- The rows whose cell in the column is among the texts. -/
def listed (rows : List Row) (column : String) (values : List String) : List Nat :=
  passing rows column fun cell => Text.lowercased cell.text ∈ values.map Text.lowercased

/-- The rows whose cell in the column matches the pattern. -/
def resembled (rows : List Row) (column pattern : String) : List Nat :=
  passing rows column fun cell => Pattern.accepts (pattern.toList.map Piece.ofChar) cell.text

/-- Is the cell of the column a text of ASCII in the row at this position? -/
def IsAsciiAt (rows : List Row) (column : String) (i : Nat) : Prop :=
  ∃ row, rows[i]? = some row ∧ IsAscii (row.cell column).text

/-- The rows that lists, equalities and patterns select in a column, by their positions. -/
structure ShapesAgree (rows : List Row) (column : String) (among : List String → List Nat)
    (equal like : String → List Nat) : Prop where
  /-- What is on the list of one text is equal to it. -/
  equal_of_among : ∀ v, ∀ i ∈ among [v], i ∈ equal v
  /-- A text that is no number is equal to nothing else. -/
  among_eq_equal : ∀ v, Number.read? v = none → among [v] = equal v
  /-- A list takes what the lists of its single texts take. -/
  mem_among : ∀ values i, i ∈ among values ↔ ∃ v ∈ values, i ∈ among [v]
  /-- The order of a list does not matter, nor does repetition. -/
  among_congr : ∀ values values', (∀ v, v ∈ values ↔ v ∈ values') → among values = among values'
  /-- A pattern takes the cells that its pieces match, of whatever size it is. -/
  mem_like : ∀ v i, i ∈ like v ↔ ∃ row, rows[i]? = some row ∧
    Pattern.accepts (v.toList.map Piece.ofChar) (row.cell column).text = true
  /-- As a pattern, a word takes the same cells of ASCII as on a list. -/
  like_iff_among : ∀ v, IsWord v → ∀ i, IsAsciiAt rows column i → (i ∈ like v ↔ i ∈ among [v])

section

variable {rows : List Row} {column : String}

theorem mem_listed {values : List String} {i : Nat} : i ∈ listed rows column values ↔
    ∃ row, rows[i]? = some row ∧
      ∃ v ∈ values, Text.lowercased v = Text.lowercased (row.cell column).text := by
  simp only [listed, mem_passing, decide_eq_true_iff, List.mem_map]

theorem mem_listed_singleton {v : String} {i : Nat} : i ∈ listed rows column [v] ↔
    ∃ row, rows[i]? = some row ∧ Text.lowercased v = Text.lowercased (row.cell column).text := by
  simp only [mem_listed, List.mem_singleton, exists_eq_left]

theorem shapesAgree_of_isStable (hs : ∀ row ∈ rows, (row.cell column).IsStable) :
    ShapesAgree rows column (listed rows column) (holding rows column · .equal)
      (resembled rows column) where
  equal_of_among v i hi := by
    obtain ⟨row, hr, same⟩ := mem_listed_singleton.1 hi
    rw [mem_holding hr]
    exact isEqual_of_lowercased_eq (hs row (List.mem_of_getElem? hr)) same.symm
  among_eq_equal v hv := by
    show _ = passing rows column (Comparison.equal.holds · v)
    refine passing_congr fun row _ => ?_
    rw [Comparison.holds, isEqual_of_read?_eq_none hv, List.map_singleton, decide_eq_decide]
    exact List.mem_singleton
  mem_among values i := by
    simp only [mem_listed_singleton]
    rw [mem_listed]
    constructor
    · rintro ⟨row, hr, v, hv, same⟩
      exact ⟨v, hv, row, hr, same⟩
    · rintro ⟨v, hv, row, hr, same⟩
      exact ⟨row, hr, v, hv, same⟩
  among_congr values values' same := by
    refine passing_congr fun row _ => ?_
    rw [decide_eq_decide, List.mem_map, List.mem_map]
    exact exists_congr fun v => and_congr_left' (same v)
  mem_like v i := mem_passing
  like_iff_among v hv i := by
    rintro ⟨row, hr, ascii⟩
    rw [resembled, mem_passing, mem_listed_singleton, hr]
    simp only [Option.some.injEq, exists_eq_left']
    exact (accepts_iff_lowercased_eq hv ascii).trans eq_comm

end

/-- Lists, equalities and patterns on a column that was read from a text agree on words. The cells
that a pattern takes are told by its pieces, for every pattern; they are selected if the library
takes the pattern, and otherwise the pattern is refused. If the column is unknown or ambiguous all
three fail, with one error. -/
theorem shapes_agree [PatternLibrary] {codec : Csv.Codec} {text : String} {table : Table}
    (hd : codec.decode text = .ok table) (fuzzy : Bool) (tableRef name : String) :
    (∀ e, (Scope.resolve ⟨table.headers, tableRef, fuzzy⟩ name).result = .error e →
      ∀ filter, (∃ values, filter = listing name values) ∨
          (∃ v, filter = comparing name v .equal) ∨ (∃ v, filter = resembling name v) →
        (matchingRows ⟨table.headers, tableRef, fuzzy⟩ filter table.rows).result = .error e) ∧
    ∀ column, (Scope.resolve ⟨table.headers, tableRef, fuzzy⟩ name).result = .ok column →
      ∃ (among : List String → List Nat) (equal like : String → List Nat),
        (∀ values, (matchingRows ⟨table.headers, tableRef, fuzzy⟩ (listing name values)
          table.rows).result = .ok (among values)) ∧
        (∀ v, (matchingRows ⟨table.headers, tableRef, fuzzy⟩ (comparing name v .equal)
          table.rows).result = .ok (equal v)) ∧
        (∀ v, (matchingRows ⟨table.headers, tableRef, fuzzy⟩ (resembling name v)
          table.rows).result = (Pattern.ofString v).map fun _ => like v) ∧
        ShapesAgree table.rows column among equal like := by
  have stable : ∀ column, ∀ row ∈ table.rows, (row.cell column).IsStable := fun column row hr =>
    ((Csv.Codec.wellFormed_of_decode hd).fits row hr).isStable_cell column
  refine ⟨fun e missing filter shape => ?_, fun column found => ⟨_, _, _, fun values => ?_,
    fun v => ?_, fun v => ?_, shapesAgree_of_isStable (stable column)⟩⟩
  · rcases shape with ⟨values, rfl⟩ | ⟨v, rfl⟩ | ⟨v, rfl⟩ <;>
      exact (result_predicate _ _ _).trans (congrArg (· >>= _) missing)
  · rw [listing, result_predicate, Predicate.column, found]
    rfl
  · rw [result_comparing, found]
    rfl
  · rw [resembling, result_predicate, Predicate.column, found]
    rw [result_cellTest_like]
    cases Pattern.ofString v <;> rfl

/-- A word in two cases, a number in three spellings and a long s, which is folded to a short s. -/
theorem shapes_agree_spellings : ∃ table : Table,
    Csv.Codec.decode ⟨0x2C, .detect⟩ "code,n\nabc,1\n31,2\n0x1F,3\nABC,4\n0X1f,5\n\u017F,6\n" =
      .ok table ∧
    ∃ (among : List String → List Nat) (equal like : String → List Nat),
      (∀ values, (matchingRows ⟨table.headers, "t", true⟩ (listing "Code" values)
        table.rows).result = .ok (among values)) ∧
      ShapesAgree table.rows "code" among equal like ∧
      among ["0x1f"] = [2, 4] ∧ equal "0x1f" = [1, 2, 4] ∧
      among ["aBc", "0x1f", "abC"] = [0, 2, 3, 4] ∧ like "s" = [5] ∧ among ["s"] = [] := by
  have read : Csv.Codec.decode ⟨0x2C, .detect⟩
      "code,n\nabc,1\n31,2\n0x1F,3\nABC,4\n0X1f,5\n\u017F,6\n" = .ok ⟨["code", "n"], [
        .ofList [("code", .string "abc"), ("n", .int 1)],
        .ofList [("code", .int 31), ("n", .int 2)],
        .ofList [("code", .string "0x1F"), ("n", .int 3)],
        .ofList [("code", .string "ABC"), ("n", .int 4)],
        .ofList [("code", .string "0X1f"), ("n", .int 5)],
        .ofList [("code", .string "\u017F"), ("n", .int 6)]], false⟩ := by
    decide +kernel
  obtain ⟨among, equal, like, lists, equals, patterns, agree⟩ :=
    (shapes_agree read true "t" "Code").2 "code" (by decide +kernel)
  have pattern : Pattern.ofString "s" = .ok [.letter 's'] := by decide +kernel
  have matched := patterns "s"
  rw [pattern] at matched
  refine ⟨_, read, among, equal, like, lists, agree, ?_, ?_, ?_, ?_, ?_⟩
  · exact Except.ok.inj ((lists ["0x1f"]).symm.trans (by decide +kernel))
  · exact Except.ok.inj ((equals "0x1f").symm.trans (by decide +kernel))
  · exact Except.ok.inj ((lists ["aBc", "0x1f", "abC"]).symm.trans (by decide +kernel))
  · exact Except.ok.inj (matched.symm.trans (by decide +kernel))
  · exact Except.ok.inj ((lists ["s"]).symm.trans (by decide +kernel))

end TableQuery.Query
