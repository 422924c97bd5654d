import TableQuery.Proofs.Number.Grammar
import TableQuery.Proofs.Query.Comparison
import TableQuery.Proofs.Query.Cut
import TableQuery.Proofs.Query.Writing

/-!
# Numbers without quotes

A query is cut into tokens by rules of its own, and what counts as a number in a comparison is read
by others. Both leave the same text behind a sign, a point and an exponent, so the tokens of numbers
are the numerals in decimal notation that begin with a digit. Each of them is read as a number, and
behind a minus as the opposite one. So a comparison with a number that stands without quotes is one
of numbers wherever the cell is a number too.

* `BareNumeral`: the numerals that begin with a digit;
* `isLexeme_number_iff`: the tokens of numbers are the bare numerals;
* `read?_of_bareNumeral`: what such a numeral is read as, alone and behind a minus;
* `compare_of_numbers`, `mem_matchingRows_iff`: comparisons with a number, in a cell and in a table;
* `bare_numbers_numeric`: the numbers of every query, and the comparisons with them.
-/

namespace TableQuery.Number

/-- A numeral in decimal notation that begins with a digit, so that no sign stands before it. -/
inductive BareNumeral : List Char → Decimal → Prop
  | mk {mantissa whole fraction exponent : List Char} {scale : Int}
      (pointed : Mantissa mantissa whole fraction)
      (all : ∀ c ∈ whole ++ fraction, isDigit c = true) (ne : whole ≠ [])
      (scaled : Exponent exponent scale) :
      BareNumeral (mantissa ++ exponent)
        ⟨false, ofDigits (whole ++ fraction), scale - fraction.length⟩

/-! ## Numerals that begin with a digit -/

/-- The size of a double does not depend on the sign. -/
theorem toDouble_negated (d : Decimal) :
    Decimal.toDouble { d with negative := !d.negative } = d.toDouble.negate := by
  simp only [Decimal.toDouble]
  repeat' split
  all_goals rfl

section

variable {text sign : List Char} {d : Decimal} {negative : Bool}

/-- Any sign may be put before a numeral that begins with a digit. -/
theorem BareNumeral.signed (h : BareNumeral text d) (hs : Sign sign negative) :
    DecimalNumeral (sign ++ text) { d with negative := negative } := by
  obtain ⟨pointed, all, ne, scaled⟩ := h
  exact .mk hs pointed all (List.append_ne_nil_of_left_ne_nil ne _) scaled

theorem BareNumeral.negative_eq (h : BareNumeral text d) : d.negative = false := by
  cases h
  rfl

theorem BareNumeral.exists_cons (h : BareNumeral text d) :
    ∃ c rest, text = c :: rest ∧ isDigit c = true := by
  obtain ⟨pointed, all, ne, scaled⟩ := h
  obtain ⟨c, digits, rfl⟩ := List.exists_cons_of_ne_nil ne
  have digit := all c (by simp)
  cases pointed with
  | whole => exact ⟨c, _, rfl, digit⟩
  | point => exact ⟨c, _, rfl, digit⟩

/-- A numeral that begins with a digit is a number, and the opposite one behind a minus. -/
theorem read?_of_bareNumeral {s : String} (h : BareNumeral s.toList d) :
    read? s = some d.toDouble ∧ read? ("-" ++ s) = some d.toDouble.negate := by
  have plain := h.signed .none
  have minus := h.signed .minus
  rw [← h.negative_eq] at plain
  rw [← Bool.not_false, ← h.negative_eq] at minus
  refine ⟨read?_of_ofChars? (ofChars?_eq_some_iff.2 plain), ?_⟩
  rw [← toDouble_negated]
  apply read?_of_ofChars?
  rw [String.toList_append]
  exact ofChars?_eq_some_iff.2 minus

end

end TableQuery.Number

namespace TableQuery.Query

open Number (BareNumeral DecimalNumeral Exponent Sign)

/-! ## What is left behind the parts of a number -/

theorem sign_takeSign (text : List Char) :
    Sign (takeSign text).1 (Number.takeSign text).1 ∧
      (takeSign text).2 = (Number.takeSign text).2 := by
  unfold Number.takeSign
  split
  · exact ⟨.minus, rfl⟩
  · exact ⟨.plus, rfl⟩
  · next minus plus =>
    cases text with
    | nil => exact ⟨.none, rfl⟩
    | cons c rest =>
      have other : ¬(c = '+' ∨ c = '-') := by
        rintro (rfl | rfl)
        · exact plus rest rfl
        · exact minus rest rfl
      rw [takeSign, if_neg other]
      exact ⟨.none, rfl⟩

theorem snd_takePoint (text : List Char) : (takePoint text).2 = (Number.takeFraction text).2 := by
  unfold Number.takeFraction
  split
  · rfl
  · next other =>
    unfold takePoint
    split
    · next rest => exact absurd rfl (other rest)
    · rfl

/-- Nothing is left behind an exponent exactly if the text is one. -/
theorem snd_takeExponent_eq_nil_iff {text : List Char} :
    (takeExponent text).2 = [] ↔ ∃ scale, Exponent text scale := by
  cases text with
  | nil => exact ⟨fun _ => ⟨0, .none⟩, fun _ => rfl⟩
  | cons mark rest =>
    obtain ⟨signed, left⟩ := sign_takeSign rest
    rw [takeExponent_cons]
    constructor
    · intro nothing
      split at nothing
      · next exponent =>
        have all := List.dropWhile_eq_nil_iff.1 nothing
        have ne : (takeSign rest).2 ≠ [] := fun none => exponent.2 (by rw [none]; rfl)
        have numeral := Exponent.some exponent.1 signed all ne
        rw [(cutsOff_takeSign rest).1] at numeral
        exact ⟨_, numeral⟩
      · cases nothing
    · rintro ⟨scale, h⟩
      cases h with
      | @some _ sign digits negative letter spelled all ne =>
        rw [Number.takeSign_append_digits spelled all] at left
        rw [left, List.takeWhile_eq_self_iff.2 all, if_pos ⟨letter, ne⟩]
        exact List.dropWhile_eq_nil_iff.2 all

/-- A number is taken as a whole exactly if what follows its digits and its point is an exponent. -/
theorem takeNumber_eq_self_iff {c : Char} {rest : List Char} (digit : Number.isDigit c = true) :
    takeNumber rest = (rest, []) ↔
      ∃ scale, Exponent (Number.takeFraction ((c :: rest).dropWhile Number.isDigit)).2 scale := by
  have whole := (cutsOff_takeNumber rest).1
  have left : (takeNumber rest).2 =
      (takeExponent (Number.takeFraction ((c :: rest).dropWhile Number.isDigit)).2).2 := by
    rw [List.dropWhile_cons_of_pos digit, ← snd_takePoint]
    rfl
  rw [← snd_takeExponent_eq_nil_iff, ← left]
  constructor
  · intro all
    rw [all]
  · intro nothing
    rw [nothing, List.append_nil] at whole
    exact Prod.ext whole nothing

/-- The tokens of numbers are the numerals that begin with a digit. -/
theorem isLexeme_number_iff {text : String} :
    (Token.number text).IsLexeme ↔ ∃ d, BareNumeral text.toList d := by
  constructor
  · rintro ⟨c, rest, begins, digit, alone⟩
    obtain ⟨scale, scaled⟩ := (takeNumber_eq_self_iff digit).1 alone
    obtain ⟨mantissa, pointed, whole⟩ := Number.exists_mantissa (c :: rest)
    have all : ∀ b ∈ (c :: rest).takeWhile Number.isDigit ++
        (Number.takeFraction ((c :: rest).dropWhile Number.isDigit)).1,
        Number.isDigit b = true :=
      List.forall_mem_append.2 ⟨List.all_eq_true.1 List.all_takeWhile,
        fun b => Number.isDigit_of_mem_takeFraction⟩
    have numeral := BareNumeral.mk pointed all (by simp [digit]) scaled
    rw [← whole, ← begins] at numeral
    exact ⟨_, numeral⟩
  · rintro ⟨d, numeral⟩
    obtain ⟨c, rest, begins, digit⟩ := numeral.exists_cons
    refine ⟨c, rest, begins, digit, (takeNumber_eq_self_iff digit).2 ?_⟩
    rw [← begins]
    generalize text.toList = letters at numeral
    obtain ⟨pointed, all, ne, scaled⟩ := numeral
    rw [(Number.takeFraction_of_mantissa pointed all scaled.head).2]
    exact ⟨_, scaled⟩

/-! ## Comparing numbers -/

/-- What a comparison says of two numbers. What is no number at all is only unequal. -/
def Comparison.ofNumbers (c : Comparison) (a b : Double) : Bool :=
  if a.isNaN || b.isNaN then c = .notEqual else c.relates a.place b.place

/-- What an operator says of two numbers, if it is known. -/
def Operator.ofNumbers (operator : Operator) (a b : Double) : Except String Bool :=
  match operator with
  | known c => .ok (c.ofNumbers a b)
  | unknown text => .error text

section

variable {cell : Cell} {literal : String} {a b : Double}

theorem holds_eq_ofNumbers (ha : cell.number? = some a) (hb : Number.read? literal = some b)
    (c : Comparison) : c.holds cell literal = c.ofNumbers a b := by
  by_cases none : (a.isNaN || b.isNaN) = true
  · have both : numbers? cell literal = some (a, b) := by rw [numbers?, ha, hb]
    have equal : a.equal b = false := by grind [Double.equal]
    have less : a.less b = false := by grind [Double.less]
    have greater : b.less a = false := by grind [Double.less]
    rw [Comparison.ofNumbers, if_pos none]
    cases c <;> simp [Comparison.holds, isEqual, holdsOfNumbers, both, equal, less, greater]
  · rw [Comparison.ofNumbers, if_neg none]
    simp only [Bool.or_eq_true, not_or, Bool.not_eq_true] at none
    exact holds_of_numbers ha hb none.1 none.2

/-- A number is compared with a number by their values alone. -/
theorem compare_of_numbers (ha : cell.number? = some a) (hb : Number.read? literal = some b)
    (operator : Operator) : operator.compare cell literal = operator.ofNumbers a b := by
  cases operator with
  | known c => exact congrArg Except.ok (holds_eq_ofNumbers ha hb c)
  | unknown text => rfl

end

/-- A cell passes the test of a comparison if the operator says yes. -/
theorem result_cellTest_compare [PatternLibrary] (name literal : String) (operator : Operator) :
    (Predicate.compare name operator literal).cellTest.result =
      .ok fun cell => operator.compare cell literal = .ok true := by
  cases operator with
  | known c =>
    refine congrArg Except.ok (funext fun cell => ?_)
    show c.holds cell literal = _
    simp [Operator.compare]
  | unknown text =>
    refine congrArg Except.ok (funext fun cell => ?_)
    simp [Operator.compare]

/-- A comparison with a number selects a row whose cell is a number by these two numbers. -/
theorem mem_matchingRows_iff [PatternLibrary] {scope : Scope} {name column literal : String}
    {b : Double} (hb : Number.read? literal = some b)
    (found : (scope.resolve name).result = .ok column) (operator : Operator) (rows : List Row) :
    ∃ indices, (matchingRows scope (some (.predicate (.compare name operator literal)))
        rows).result = .ok indices ∧
      ∀ i row a, rows[i]? = some row → (row.cell column).number? = some a →
        (i ∈ indices ↔ operator.ofNumbers a b = .ok true) := by
  refine ⟨passing rows column fun cell => operator.compare cell literal = .ok true, ?_, ?_⟩
  · rw [result_predicate, Predicate.column, found, result_cellTest_compare]
    rfl
  · intro i row a hr ha
    rw [mem_passing, hr]
    simp [compare_of_numbers ha hb]

/-! ## Numbers in queries -/

/-- The tokens of a number without quotes, behind a minus or not, and the literal that they are. -/
inductive BareLiteral : List Token → String → Prop
  | number (text : String) : BareLiteral [.number text] text
  | negated (text : String) : BareLiteral [.minus, .number text] ("-" ++ text)

section

variable {query column literal : String} {s : Statement} {token : Token} {value : List Token}
  {operator : Operator}

/-- Every token of a number is a numeral that begins with a digit. -/
theorem exists_bareNumeral_of_mem_lex {text : String} (h : .ok (.number text) ∈ lex query) :
    ∃ d, BareNumeral text.toList d :=
  isLexeme_number_iff.1 (isLexeme_of_mem_items h)

theorem BareLiteral.literal?_eq (h : BareLiteral value literal) :
    literal? value = some literal := by
  cases h <;> rfl

/-- A literal of a query that stands without quotes is read as a number. -/
theorem BareLiteral.exists_read? (h : BareLiteral value literal)
    (ht : ∀ token ∈ value, .ok token ∈ lex query) :
    ∃ number, Number.read? literal = some number := by
  cases h with
  | number =>
    obtain ⟨d, numeral⟩ := exists_bareNumeral_of_mem_lex (ht (.number literal) (by simp))
    exact ⟨_, (Number.read?_of_bareNumeral numeral).1⟩
  | negated text =>
    obtain ⟨d, numeral⟩ := exists_bareNumeral_of_mem_lex (ht (.number text) (by simp))
    exact ⟨_, (Number.read?_of_bareNumeral numeral).2⟩

/-- A clause of a column, an operator and a literal is the comparison that it spells. -/
theorem filter_of_comparison (h : parse query = .ok s)
    (hc : clauseOf query = (.ident column :: token :: value).map .ok)
    (ht : operator? token = some operator) (hl : literal? value = some literal) :
    s.filter = some (.predicate (.compare column operator literal)) := by
  obtain ⟨filter, made, e⟩ := filter_of_clauseOf h (by rw [hc]; exact nofun)
  rw [hc, ofItems_map_ok, Filter.ofTokens, conditionOn_operator ht hl] at made
  rw [e, Except.ok.inj made]

end

/-- Numbers without quotes are numbers. The token of a number is a decimal numeral that begins with
a digit, and is read as the number that this stands for, and behind a minus as the opposite one; and
every such numeral is a token. So a clause of a column, an operator and such a number, behind a
minus or not, is a comparison that says of every cell that is a number what the operator says of the
two numbers, and it selects the rows of these cells by that. -/
theorem bare_numbers_numeric [PatternLibrary] :
    (∀ query text, .ok (.number text) ∈ lex query → ∃ d, BareNumeral text.toList d ∧
      d.toDouble.isNaN = false ∧ Number.read? text = some d.toDouble ∧
        Number.read? ("-" ++ text) = some d.toDouble.negate) ∧
    (∀ text d, BareNumeral text.toList d → lex text = [.ok (.number text)]) ∧
    ∀ query s column token operator value literal, parse query = .ok s →
      clauseOf query = (.ident column :: token :: value).map .ok →
      operator? token = some operator → BareLiteral value literal →
        s.filter = some (.predicate (.compare column operator literal)) ∧
        ∃ number : Double, Number.read? literal = some number ∧
          (∀ cell a, cell.number? = some a →
            operator.compare cell literal = operator.ofNumbers a number) ∧
          ∀ scope target rows, (scope.resolve column).result = .ok target →
            ∃ indices, (matchingRows scope s.filter rows).result = .ok indices ∧
              ∀ i row a, rows[i]? = some row → (row.cell target).number? = some a →
                (i ∈ indices ↔ operator.ofNumbers a number = .ok true) := by
  refine ⟨fun query text h => ?_, fun text d numeral => ?_,
    fun query s column token operator value literal h hc ht bare => ?_⟩
  · obtain ⟨d, numeral⟩ := exists_bareNumeral_of_mem_lex h
    exact ⟨d, numeral, Number.isNaN_toDouble d, Number.read?_of_bareNumeral numeral⟩
  · exact items_number (isLexeme_number_iff.2 ⟨d, numeral⟩)
  · have filter := filter_of_comparison h hc ht bare.literal?_eq
    have inside : ∀ token ∈ value, .ok token ∈ lex query := fun token hm => by
      apply (clauseOf_sublist query).subset
      rw [hc]
      exact List.mem_map_of_mem (List.mem_cons_of_mem _ (List.mem_cons_of_mem _ hm))
    obtain ⟨number, read⟩ := bare.exists_read? inside
    refine ⟨filter, number, read, fun cell a ha => compare_of_numbers ha read operator, ?_⟩
    intro scope target rows found
    rw [filter]
    exact mem_matchingRows_iff read found operator rows

/-- Numbers that end before a letter, a point or an exponent without digits; and a comparison with a
negated one in a column that spells numbers in other ways. -/
theorem bare_numbers_numeric_cut_short :
    lex "0x10 1.e5x 5.e+" = [.ok (.number "0"), .ok (.ident "x10"), .ok (.number "1.e5"),
      .ok (.ident "x"), .ok (.number "5."), .ok (.ident "e"),
      .error (.unexpectedCharacter '+')] ∧
    (∃ d, BareNumeral "1.e5".toList d ∧ d.toDouble.isNaN = false ∧
      Number.read? "1.e5" = some d.toDouble ∧ Number.read? "-1.e5" = some d.toDouble.negate) ∧
    lex "5." = [.ok (.number "5.")] ∧
    ∃ number, Number.read? "-1.E+02" = some number ∧
      Operator.compare (.known .equal) (.string "-0100.0 ") "-1.E+02" =
        .ok (Comparison.equal.ofNumbers (.ofInt (-100)) number) ∧
      (matchingRows ⟨["n"], "t", true⟩
        (some (.predicate (.compare "N" (.known .equal) "-1.E+02")))
        [.ofList [("n", .int (-100))], .ofList [("n", .string "-1.E+02x")],
          .ofList [("n", .string "-0100.0 ")], .ofList []]).result = .ok [0, 2] ∧
      Comparison.equal.ofNumbers (.ofInt (-100)) number = true := by
  have cut : lex "0x10 1.e5x 5.e+" = [.ok (.number "0"), .ok (.ident "x10"),
      .ok (.number "1.e5"), .ok (.ident "x"), .ok (.number "5."), .ok (.ident "e"),
      .error (.unexpectedCharacter '+')] := by
    decide +kernel
  have read : parse "DELETE FROM t WHERE\"N\"=-1.E+02;" =
      .ok (.delete "t" (some (.predicate (.compare "N" (.known .equal) "-1.E+02")))) := by
    decide +kernel
  have clause : clauseOf "DELETE FROM t WHERE\"N\"=-1.E+02;" =
      [.ident "N", .equal, .minus, .number "1.E+02"].map .ok := by
    decide +kernel
  obtain ⟨-, number, value, cells, rows⟩ :=
    bare_numbers_numeric.2.2 _ _ _ _ _ _ _ read clause rfl (.negated "1.E+02")
  obtain ⟨indices, matched, numeric⟩ := rows ⟨["n"], "t", true⟩ "n"
    [.ofList [("n", .int (-100))], .ofList [("n", .string "-1.E+02x")],
      .ofList [("n", .string "-0100.0 ")], .ofList []] (by decide +kernel)
  obtain rfl : indices = [0, 2] := Except.ok.inj (matched.symm.trans (by decide +kernel))
  have equal := (numeric 0 _ (.ofInt (-100)) rfl (by decide +kernel)).1 (by decide)
  obtain ⟨d, numeral, -⟩ := bare_numbers_numeric.1 _ "5." (by rw [cut]; simp)
  exact ⟨cut, bare_numbers_numeric.1 _ "1.e5" (by rw [cut]; simp),
    bare_numbers_numeric.2.1 "5." d numeral, number, value, cells _ _ (by decide +kernel), matched,
    Except.ok.inj equal⟩

end TableQuery.Query
