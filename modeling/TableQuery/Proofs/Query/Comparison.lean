import TableQuery.Proofs.Number.Reading
import TableQuery.Proofs.Query.History
import TableQuery.Proofs.Query.Positions

/-!
# What comparisons select

The six comparisons of a column with one literal. Equality and its negation take every row between
them. The four others take a row only if its cell is a number, as the literal is, and of such rows
each is in one of three places: before the literal, at it or behind it. That nothing that is read is
no number at all is what makes this so.

Integers are compared as doubles, so two integers are told apart exactly if their rounded values
are.

* `holds_of_numbers`: numbers are compared by their places;
* `result_comparing`: the rows that a comparison selects;
* `comparisons_partition`: the six comparisons of a column that was read from a text;
* `integers_compared_rounded`: integers compared with the decimal texts of integers.
-/

namespace TableQuery

open Double (IsNearest gapOf roundedInt)

namespace Query

/-! ## One cell -/

/-- The comparisons that only numbers take part in. -/
def Comparison.isOrder : Comparison → Bool
  | equal => false
  | notEqual => false
  | _ => true

/-- The relation between places in the order of numbers that a comparison is. -/
def Comparison.relates : Comparison → Int → Int → Bool
  | equal, x, y => x = y
  | notEqual, x, y => x ≠ y
  | greater, x, y => y < x
  | less, x, y => x < y
  | greaterOrEqual, x, y => y ≤ x
  | lessOrEqual, x, y => x ≤ y

/-- Of two places, one is before, at or behind the other. -/
theorem existsUnique_relates (x y : Int) :
    ∃! c, c ∈ [.less, .equal, .greater] ∧ Comparison.relates c x y = true := by
  obtain less | same | more := Int.lt_trichotomy x y
  · refine ⟨.less, by simp [Comparison.relates, less], fun c hc => ?_⟩
    cases c <;> simp_all [Comparison.relates]
    omega
  · refine ⟨.equal, by simp [Comparison.relates, same], fun c hc => ?_⟩
    cases c <;> simp_all [Comparison.relates]
  · refine ⟨.greater, by simp [Comparison.relates, more], fun c hc => ?_⟩
    cases c <;> simp_all [Comparison.relates]
    omega

section

variable {c : Comparison} {cell : Cell} {literal : String} {a b : Double}

theorem numbers?_eq_none (h : cell.number? = none ∨ Number.read? literal = none) :
    numbers? cell literal = none := by
  unfold numbers?
  split
  · next ha hb => simp [ha, hb] at h
  · rfl

theorem numbers?_eq_some {a b : Double} (h : numbers? cell literal = some (a, b)) :
    cell.number? = some a ∧ Number.read? literal = some b := by
  unfold numbers? at h
  split at h
  · next ha hb =>
    cases h
    exact ⟨ha, hb⟩
  · cases h

/-- What is no number is in no order. -/
theorem holds_of_isOrder (hc : c.isOrder = true)
    (h : cell.number? = none ∨ Number.read? literal = none) : c.holds cell literal = false := by
  have none := numbers?_eq_none h
  cases c <;> simp_all [Comparison.isOrder, Comparison.holds, holdsOfNumbers]

/-- Numbers are compared by their places. -/
theorem holds_of_numbers (ha : cell.number? = some a) (hb : Number.read? literal = some b)
    (na : a.isNaN = false) (nb : b.isNaN = false) :
    c.holds cell literal = c.relates a.place b.place := by
  have both : numbers? cell literal = some (a, b) := by rw [numbers?, ha, hb]
  have less := Double.less_eq_decide na nb
  have greater := Double.less_eq_decide nb na
  have equal := Double.equal_eq_decide na nb
  rw [Bool.eq_iff_iff]
  cases c <;>
    simp [Comparison.holds, Comparison.relates, isEqual, holdsOfNumbers, both, less, greater,
      equal] <;>
    omega

/-- No cell that its text gives back counts as what is no number. -/
theorem isNaN_of_number? (hs : cell.IsStable) (h : cell.number? = some a) : a.isNaN = false := by
  cases cell with
  | int i =>
    obtain rfl := Option.some.inj h
    exact Double.isNaN_ofInt _
  | float d =>
    obtain rfl := Option.some.inj h
    have finite : d.rank < Double.infinityRank := of_decide_eq_true (Cell.isFinite_of_infer hs)
    exact decide_eq_false (Nat.not_lt.2 (Nat.le_of_lt finite))
  | null => exact Number.isNaN_of_read? h
  | bool b => exact Number.isNaN_of_read? h
  | string s => exact Number.isNaN_of_read? h

end

/-! ## The rows of a table -/

/-- The comparison of a column with a literal. -/
def comparing (name literal : String) (c : Comparison) : Option Filter :=
  some (.predicate (.compare name (.known c) literal))

theorem rowTest_comparing [PatternLibrary] (scope : Scope) (name literal : String)
    (c : Comparison) : rowTest scope (comparing name literal c) =
      (fun column (row : Row) => c.holds (row.cell column) literal) <$> scope.resolve name := by
  rw [map_eq_pure_bind]
  rfl

/-- All comparisons of a column fail with the same error, or each selects the rows for whose cells
it holds. -/
theorem result_comparing [PatternLibrary] (scope : Scope) (name literal : String) (c : Comparison)
    (rows : List Row) :
    (matchingRows scope (comparing name literal c) rows).result =
      (scope.resolve name).result.map fun column =>
        positions (fun row : Row => c.holds (row.cell column) literal) rows := by
  rw [comparing, result_predicate, Predicate.column]
  cases (scope.resolve name).result <;> rfl

/-- Does the cell of the column count as a number in the row at this position? -/
def IsNumeric (rows : List Row) (column : String) (i : Nat) : Prop :=
  ∃ row, rows[i]? = some row ∧ (row.cell column).number? ≠ none

/-- The rows that the comparisons of a column with a literal select, by their positions. -/
structure Partition (rows : List Row) (column literal : String) (M : Comparison → List Nat) :
    Prop where
  /-- Equality and its negation have no row in common. -/
  disjoint : ∀ i, ¬(i ∈ M .equal ∧ i ∈ M .notEqual)
  /-- They leave no row out. -/
  all : ∀ i, i ∈ M .equal ∨ i ∈ M .notEqual ↔ i < rows.length
  /-- A literal that is no number comes neither before nor behind anything. -/
  unordered : Number.read? literal = none → ∀ c, c.isOrder = true → M c = []
  /-- A number is before, at or behind another one. -/
  numeric : Number.read? literal ≠ none → ∀ i, IsNumeric rows column i →
    ∃! c, c ∈ [.less, .equal, .greater] ∧ i ∈ M c
  /-- What is no number comes neither before nor behind a number. -/
  others : Number.read? literal ≠ none → ∀ i, ¬IsNumeric rows column i →
    ∀ c, c.isOrder = true → i ∉ M c
  lessOrEqual : Number.read? literal ≠ none → ∀ i,
    i ∈ M .lessOrEqual ↔ i ∈ M .less ∨ i ∈ M .equal ∧ IsNumeric rows column i
  greaterOrEqual : Number.read? literal ≠ none → ∀ i,
    i ∈ M .greaterOrEqual ↔ i ∈ M .greater ∨ i ∈ M .equal ∧ IsNumeric rows column i

section

variable {rows : List Row} {column literal : String} {i : Nat} {row : Row}

/-- The positions at which a comparison holds. -/
def holding (rows : List Row) (column literal : String) (c : Comparison) : List Nat :=
  positions (fun row => c.holds (row.cell column) literal) rows

theorem mem_holding (h : rows[i]? = some row) (c : Comparison) :
    i ∈ holding rows column literal c ↔ c.holds (row.cell column) literal = true := by
  rw [holding, mem_positions, h]
  simp

theorem isNumeric_iff (h : rows[i]? = some row) :
    IsNumeric rows column i ↔ (row.cell column).number? ≠ none := by
  rw [IsNumeric, h]
  simp

/-- In the row of a number, a comparison with a number holds of two places. -/
theorem exists_place (hs : ∀ row ∈ rows, (row.cell column).IsStable)
    (hl : Number.read? literal ≠ none) (hn : IsNumeric rows column i) :
    ∃ x y : Int, ∀ c, i ∈ holding rows column literal c ↔ c.relates x y = true := by
  obtain ⟨row, hr, hn⟩ := hn
  obtain ⟨a, ha⟩ := Option.ne_none_iff_exists'.1 hn
  obtain ⟨b, hb⟩ := Option.ne_none_iff_exists'.1 hl
  have na := isNaN_of_number? (hs row (List.mem_of_getElem? hr)) ha
  have nb := Number.isNaN_of_read? hb
  exact ⟨a.place, b.place, fun c => by rw [mem_holding hr, holds_of_numbers ha hb na nb]⟩

/-- A row is not equal exactly if it is there and not equal. -/
theorem mem_holding_notEqual :
    i ∈ holding rows column literal .notEqual ↔
      i < rows.length ∧ i ∉ holding rows column literal .equal := by
  cases h : rows[i]? with
  | none =>
    have outside := List.getElem?_eq_none_iff.1 h
    refine iff_of_false (fun hi => ?_) fun both => absurd both.1 (Nat.not_lt.2 outside)
    exact absurd (lt_of_mem_positions hi) (Nat.not_lt.2 outside)
  | some row =>
    rw [mem_holding h, mem_holding h, and_iff_right (List.getElem?_eq_some_iff.1 h).1]
    simp [Comparison.holds]

/-- What is no number is in no row of an order. -/
theorem not_mem_holding (hn : ¬IsNumeric rows column i) {c : Comparison}
    (hc : c.isOrder = true) : i ∉ holding rows column literal c := by
  intro hi
  obtain ⟨row, hr, holds⟩ := mem_positions.1 hi
  rw [isNumeric_iff hr, not_not] at hn
  rw [holds_of_isOrder hc (.inl hn)] at holds
  cases holds

theorem holding_eq_nil (hl : Number.read? literal = none) {c : Comparison}
    (hc : c.isOrder = true) : holding rows column literal c = [] := by
  refine List.eq_nil_iff_forall_not_mem.2 fun i hi => ?_
  obtain ⟨row, hr, holds⟩ := mem_positions.1 hi
  rw [holds_of_isOrder hc (.inr hl)] at holds
  cases holds

theorem partition_holding (hs : ∀ row ∈ rows, (row.cell column).IsStable) :
    Partition rows column literal (holding rows column literal) where
  disjoint i both := (mem_holding_notEqual.1 both.2).2 both.1
  all i := by
    rw [mem_holding_notEqual]
    exact ⟨fun h => h.elim lt_of_mem_positions And.left,
      fun h => (Classical.em _).imp_right (And.intro h)⟩
  unordered hl _ hc := holding_eq_nil hl hc
  numeric hl i hn := by
    obtain ⟨x, y, holds⟩ := exists_place hs hl hn
    simp only [holds]
    exact existsUnique_relates x y
  others _ i hn c hc := not_mem_holding hn hc
  lessOrEqual hl i := by
    by_cases hn : IsNumeric rows column i
    · obtain ⟨x, y, holds⟩ := exists_place hs hl hn
      simp only [holds, hn, and_true, Comparison.relates, decide_eq_true_iff]
      omega
    · simp [not_mem_holding hn (rfl : Comparison.lessOrEqual.isOrder = true),
        not_mem_holding hn (rfl : Comparison.less.isOrder = true), hn]
  greaterOrEqual hl i := by
    by_cases hn : IsNumeric rows column i
    · obtain ⟨x, y, holds⟩ := exists_place hs hl hn
      simp only [holds, hn, and_true, Comparison.relates, decide_eq_true_iff]
      omega
    · simp [not_mem_holding hn (rfl : Comparison.greaterOrEqual.isOrder = true),
        not_mem_holding hn (rfl : Comparison.greater.isOrder = true), hn]

end

/-- The comparisons of a column that was read from a text with a literal partition its rows. If the
column is unknown or ambiguous they all fail, with one error. -/
theorem comparisons_partition [PatternLibrary] {codec : Csv.Codec} {text : String} {table : Table}
    (hd : codec.decode text = .ok table) (fuzzy : Bool) (tableRef name literal : String) :
    (∀ e, (Scope.resolve ⟨table.headers, tableRef, fuzzy⟩ name).result = .error e →
      ∀ c, (matchingRows ⟨table.headers, tableRef, fuzzy⟩ (comparing name literal c)
        table.rows).result = .error e) ∧
    (∀ column, (Scope.resolve ⟨table.headers, tableRef, fuzzy⟩ name).result = .ok column →
      ∃ M : Comparison → List Nat,
        (∀ c, (matchingRows ⟨table.headers, tableRef, fuzzy⟩ (comparing name literal c)
          table.rows).result = .ok (M c)) ∧
        Partition table.rows column literal M) ∧
    ∀ s d, Number.read? s = some d → d.isNaN = false := by
  have stable : ∀ column, ∀ row ∈ table.rows, (row.cell column).IsStable := fun column row hr =>
    ((Csv.Codec.wellFormed_of_decode hd).fits row hr).isStable_cell column
  refine ⟨fun e missing c => ?_, fun column found => ⟨holding table.rows column literal,
    fun c => ?_, partition_holding (stable column)⟩, fun s d => Number.isNaN_of_read?⟩
  · rw [result_comparing, missing]
    rfl
  · rw [result_comparing, found]
    rfl

/-- A number in three spellings, a blank, a word and an infinity, compared with one. -/
theorem comparisons_partition_mixed : ∃ table : Table,
    Csv.Codec.decode ⟨0x2C, .detect⟩ "n,m\n1,a\n,b\n0x10,c\nabc,d\n1.0,e\n-Infinity,f\n" =
      .ok table ∧
    ∃ M : Comparison → List Nat,
      (∀ c, (matchingRows ⟨table.headers, "t", true⟩ (comparing "N" "1" c) table.rows).result =
        .ok (M c)) ∧
      Partition table.rows "n" "1" M ∧ M .less = [1, 5] ∧ M .equal = [0, 4] ∧ M .greater = [2] ∧
      M .notEqual = [1, 2, 3, 5] := by
  have read : Csv.Codec.decode ⟨0x2C, .detect⟩
      "n,m\n1,a\n,b\n0x10,c\nabc,d\n1.0,e\n-Infinity,f\n" = .ok ⟨["n", "m"], [
        .ofList [("n", .int 1), ("m", .string "a")], .ofList [("n", .null), ("m", .string "b")],
        .ofList [("n", .string "0x10"), ("m", .string "c")],
        .ofList [("n", .string "abc"), ("m", .string "d")],
        .ofList [("n", .string "1.0"), ("m", .string "e")],
        .ofList [("n", .string "-Infinity"), ("m", .string "f")]], false⟩ := by
    decide +kernel
  obtain ⟨M, matching, parts⟩ :=
    (comparisons_partition read true "t" "N" "1").2.1 "n" (by decide +kernel)
  refine ⟨_, read, M, matching, parts, ?_, ?_, ?_, ?_⟩
  · exact Except.ok.inj ((matching .less).symm.trans (by decide +kernel))
  · exact Except.ok.inj ((matching .equal).symm.trans (by decide +kernel))
  · exact Except.ok.inj ((matching .greater).symm.trans (by decide +kernel))
  · exact Except.ok.inj ((matching .notEqual).symm.trans (by decide +kernel))

/-! ## Integers -/

section

variable {i j : Int64}

/-- The size of an integer of 64 bits. -/
theorem natAbs_toInt_lt (i : Int64) : i.toInt.natAbs < 2 ^ 64 := by
  have low := i.le_toInt
  have high := i.toInt_lt
  omega

/-- Integers are compared as their rounded values are. -/
theorem holds_int (c : Comparison) :
    c.holds (.int i) (Cell.int j).text = c.relates (roundedInt i.toInt) (roundedInt j.toInt) := by
  have less := Double.place_ofInt_lt_iff (natAbs_toInt_lt i) (natAbs_toInt_lt j)
  have same := Double.place_ofInt_eq_iff (natAbs_toInt_lt i) (natAbs_toInt_lt j)
  have literal : Number.read? (Cell.int j).text = some (.ofInt j.toInt) :=
    Number.read?_intDigits j.toInt
  rw [holds_of_numbers rfl literal (Double.isNaN_ofInt _) (Double.isNaN_ofInt _), Bool.eq_iff_iff]
  cases c <;> simp only [Comparison.relates, decide_eq_true_iff] <;> omega

/-- Rounding does not matter next to a small integer. -/
theorem holds_int_of_small (small : i.toInt.natAbs < 2 ^ 53 ∨ j.toInt.natAbs < 2 ^ 53)
    (c : Comparison) :
    c.holds (.int i) (Cell.int j).text = c.relates i.toInt j.toInt := by
  have before := Double.roundedInt_lt_iff small
  have behind := Double.roundedInt_lt_iff small.symm
  rw [holds_int, Bool.eq_iff_iff]
  cases c <;> simp only [Comparison.relates, decide_eq_true_iff] <;> omega

end

/-- Comparisons of integers with the decimal texts of integers, and deletions by them, tell two
integers apart by their nearest doubles, whose order is that of the integers. They are exact next to
every integer below `2 ^ 53` in size. -/
theorem integers_compared_rounded [PatternLibrary] :
    (∀ (i j : Int64) (c : Comparison), c.holds (.int i) (Cell.int j).text =
      c.relates (roundedInt i.toInt) (roundedInt j.toInt)) ∧
    (∀ i : Int64, IsNearest (gapOf i.toInt.natAbs) i.toInt (roundedInt i.toInt)) ∧
    (∀ i j : Int64, i.toInt ≤ j.toInt → roundedInt i.toInt ≤ roundedInt j.toInt) ∧
    (∀ i j : Int64, i.toInt.natAbs < 2 ^ 53 ∨ j.toInt.natAbs < 2 ^ 53 → ∀ c : Comparison,
      c.holds (.int i) (Cell.int j).text = c.relates i.toInt j.toInt) ∧
    ∀ (fuzzy : Bool) (table : Table) (tableRef name column : String) (j : Int64),
      (Scope.resolve ⟨table.headers, tableRef, fuzzy⟩ name).result = .ok column →
        ∃ removed : Row → Bool,
          (execute fuzzy table
            (.delete tableRef (comparing name (Cell.int j).text .equal))).result =
              .ok (.deleted (table.rows.countP removed),
                { table with rows := table.rows.filter (!removed ·) }) ∧
          ∀ row ∈ table.rows, ∀ i, row.cell column = .int i →
            (removed row = true ↔ roundedInt i.toInt = roundedInt j.toInt) := by
  refine ⟨fun _ _ => holds_int, fun i => Double.isNearest_roundedInt i.toInt,
    fun _ _ => (Double.roundedInt_mono ·), fun _ _ => holds_int_of_small,
    fun fuzzy table tableRef name column j found =>
      ⟨fun row => Comparison.equal.holds (row.cell column) (Cell.int j).text, ?_, ?_⟩⟩
  · rw [comparing, result_delete, ← comparing, rowTest_comparing, Outcome.map_of_ok found]
    rfl
  · intro row _ i cell
    beta_reduce
    rw [cell, holds_int, Comparison.relates, decide_eq_true_iff]

/-- An integer between two doubles, which goes to the even one below it, and a deletion by it. -/
theorem integers_compared_rounded_tie :
    Comparison.equal.holds (.int 9007199254740993) (Cell.int 9007199254740992).text = true ∧
    IsNearest 2 9007199254740993 9007199254740992 ∧
    roundedInt 9007199254740993 ≤ roundedInt 9007199254740995 ∧
    Comparison.less.holds (.int 9007199254740991) (Cell.int 9007199254740993).text = true ∧
    ∃ removed : Row → Bool,
      (execute true ⟨["id"], [.ofList [("id", .int 9007199254740994)],
          .ofList [("id", .int 9007199254740992)], .ofList [("id", .string "x")]], false⟩
        (.delete "t" (comparing "ID" (Cell.int 9007199254740993).text .equal))).result =
          .ok (.deleted 1, ⟨["id"],
            [.ofList [("id", .int 9007199254740994)], .ofList [("id", .string "x")]], false⟩) ∧
      removed (.ofList [("id", .int 9007199254740992)]) = true := by
  obtain ⟨rounded, nearest, mono, exact, deletes⟩ := integers_compared_rounded
  refine ⟨?_, ?_, mono 9007199254740993 9007199254740995 (by decide), ?_, ?_⟩
  · rw [rounded]
    decide +kernel
  · have gap : gapOf (9007199254740993 : Int64).toInt.natAbs = 2 := by decide +kernel
    have value : roundedInt (9007199254740993 : Int64).toInt = 9007199254740992 := by
      decide +kernel
    have tie := nearest 9007199254740993
    rwa [gap, value] at tie
  · rw [exact _ _ (.inl (by decide))]
    decide
  · obtain ⟨removed, -, removes⟩ := deletes true
      ⟨["id"], [.ofList [("id", .int 9007199254740994)],
        .ofList [("id", .int 9007199254740992)], .ofList [("id", .string "x")]], false⟩
      "t" "ID" "id" 9007199254740993 (by decide +kernel)
    exact ⟨removed, by decide +kernel,
      (removes _ (by simp) 9007199254740992 (by decide +kernel)).2 (by decide +kernel)⟩

/-- Three integers behind `2 ^ 53`, of which two have the same double. -/
theorem not_integers_compared_exactly :
    (¬∀ (i j : Int64) (c : Comparison),
      c.holds (.int i) (Cell.int j).text = c.relates i.toInt j.toInt) ∧
    (execute true ⟨["id"], [.ofList [("id", .int 9007199254740994)],
        .ofList [("id", .int 9007199254740993)], .ofList [("id", .int 9007199254740992)]], false⟩
      (.delete "t" (comparing "id" "9007199254740992" .equal))).result =
        .ok (.deleted 2, ⟨["id"], [.ofList [("id", .int 9007199254740994)]], false⟩) := by
  refine ⟨fun exact => ?_, by decide +kernel⟩
  have same := exact 9007199254740993 9007199254740992 .equal
  revert same
  decide +kernel

end Query

end TableQuery
