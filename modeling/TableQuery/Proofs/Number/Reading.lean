import Mathlib.Data.List.TakeWhile
import TableQuery.Proofs.Number.Letters
import TableQuery.Proofs.Number.Rounding
import TableQuery.Proofs.Text.Lowercase
import TableQuery.Proofs.Text.Trim

/-!
# Numbers that are read

Whatever is read as a number is one: a text without letters is no name, so it is read only in
decimal notation. A text in decimal notation is read as the number that it stands for: it is no name
of an infinity, announces no base and has no blanks around it. In particular the decimal text of an
integer is read as the double of that integer, so a cell that holds the integer and a literal that
spells it count as the same number.

* `readDouble?_of_any_eq_false`: what is read without letters;
* `isNaN_of_read?`: no text is read as what is no number;
* `mem_digits`, `forall_isDecimalLetter`: the letters of decimal notation, by which facts on them
  are decided;
* `readTrimmed?_of_ofChars?`, `read?_of_ofChars?`: the number of a text in decimal notation;
* `read?_intDigits`: the number of the decimal text of an integer.
-/

namespace TableQuery.Number

open Double (isNaN_nearest)

/-! ## Names -/

theorem isOtherLetter_of_toLower {c : Char} (h : c.toLower = 'n') : isOtherLetter c = true := by
  have capitals : ∀ k ∈ List.range 26, (Char.ofNat (k + 65)).toLower = 'n' →
      isOtherLetter (Char.ofNat (k + 65)) = true := by
    decide
  refine Text.forall_toLower (r := fun c d => d = 'n' → isOtherLetter c = true) capitals ?_ c h
  rintro _ - rfl
  decide

/-- Without letters there is no name, so what is read is decimal notation. -/
theorem readDouble?_of_any_eq_false {text : List Char} (h : text.any isOtherLetter = false) :
    readDouble? text = (Decimal.ofChars? text).map Decimal.toDouble := by
  have unnamed (negative : Bool) : specialValue? negative (takeSign text).2 = none := by
    refine Option.eq_none_iff_forall_not_mem.2 fun d hd => ?_
    have all : ∀ name ∈ specialNames, 'n' ∈ name := by decide
    obtain ⟨c, hc, small⟩ := List.mem_map.1 (all _ (map_toLower_mem_specialNames hd))
    have plain := List.any_eq_false.1 h c ((takeSign_suffix text).subset hc)
    exact plain (isOtherLetter_of_toLower small)
  unfold readDouble?
  cases Decimal.ofChars? text with
  | some d => rfl
  | none => exact unnamed _

/-! ## Nothing is read as no number -/

theorem isNaN_toDouble (d : Decimal) : d.toDouble.isNaN = false := by
  unfold Decimal.toDouble
  repeat' split
  · rfl
  · rfl
  · rfl
  · exact isNaN_nearest _ _ _
  · exact isNaN_nearest _ _ _

theorem isNaN_of_readTrimmed? {text : List Char} {d : Double} (h : readTrimmed? text = some d) :
    d.isNaN = false := by
  unfold readTrimmed? at h
  split at h
  · cases h; rfl
  split at h
  · cases h; rfl
  split at h
  · cases h; rfl
  split at h
  · obtain ⟨n, -, rfl⟩ := Option.map_eq_some_iff.1 h
    exact isNaN_nearest _ _ _
  · rw [Option.ite_none_left_eq_some, Bool.not_eq_true] at h
    obtain ⟨plain, read⟩ := h
    rw [readDouble?_of_any_eq_false plain, Option.map_eq_some_iff] at read
    obtain ⟨decimal, -, rfl⟩ := read
    exact isNaN_toDouble decimal

theorem isNaN_of_read? {s : String} {d : Double} (h : read? s = some d) : d.isNaN = false :=
  isNaN_of_readTrimmed? h

/-! ## The letters of decimal notation -/

/-- The ten digits. -/
def digits : List Char :=
  ['0', '1', '2', '3', '4', '5', '6', '7', '8', '9']

theorem mem_digits {c : Char} (h : isDigit c = true) : c ∈ digits := by
  have all : ∀ n ∈ List.range 58, 48 ≤ n → Char.ofNat n ∈ digits := by decide
  simp only [isDigit, Bool.and_eq_true, decide_eq_true_eq, Char.le_def,
    UInt32.le_iff_toNat_le] at h
  rw [← Char.ofNat_toNat c]
  exact all c.toNat (List.mem_range.2 (Nat.lt_succ_of_le h.2)) h.1

/-- The letters of decimal notation. -/
def decimalLetters : List Char :=
  digits ++ ['+', '-', '.', 'e', 'E']

theorem mem_decimalLetters {c : Char} (h : isDecimalLetter c = true) : c ∈ decimalLetters := by
  simp only [isDecimalLetter, Bool.or_eq_true, decide_eq_true_eq] at h
  rw [decimalLetters, List.mem_append]
  rcases h with ((((digit | rfl) | rfl) | rfl) | rfl) | rfl
  · exact .inl (mem_digits digit)
  all_goals exact .inr (by decide)

/-- What is true of the fifteen letters of decimal notation. -/
theorem forall_isDecimalLetter {p : Char → Bool} (all : decimalLetters.all p = true) {c : Char}
    (h : isDecimalLetter c = true) : p c = true :=
  List.all_eq_true.1 all c (mem_decimalLetters h)

/-! ## Decimal notation -/

/-- The names of the infinities. -/
def infinityNames : List (List Char) :=
  ["Infinity".toList, "+Infinity".toList, "-Infinity".toList]

theorem readTrimmed?_of_not_mem {text : List Char} (h : text ∉ infinityNames) :
    readTrimmed? text = if text.isEmpty then some (.zero false)
      else match announced? text with
        | some (base, digits) => (readRadix? base digits).map (.nearest false · 1)
        | none =>
          if text.any isOtherLetter then none
          else (Decimal.ofChars? text).map Decimal.toDouble := by
  simp only [infinityNames, List.mem_cons, List.not_mem_nil, or_false, not_or] at h
  have named := not_or.2 ⟨h.1, h.2.1⟩
  have decimal : (if text.any isOtherLetter then none else readDouble? text) =
      if text.any isOtherLetter then none else (Decimal.ofChars? text).map Decimal.toDouble := by
    split
    · rfl
    · next plain => exact readDouble?_of_any_eq_false (Bool.not_eq_true _ ▸ plain)
  rw [readTrimmed?, if_neg named, if_neg h.2.2]
  cases announced? text with
  | none => exact congrArg (if text.isEmpty then some (Double.zero false) else ·) decimal
  | some found => rfl

theorem not_mem_of_ofChars? {text : List Char} {d : Decimal} (h : Decimal.ofChars? text = some d) :
    text ∉ infinityNames := by
  have unread : ∀ name ∈ infinityNames, Decimal.ofChars? name = none := by decide
  intro named
  rw [unread text named] at h
  cases h

theorem announced?_of_ofChars? {text : List Char} {d : Decimal}
    (h : Decimal.ofChars? text = some d) : announced? text = none := by
  unfold announced?
  split
  · next mark rest =>
    have letter : isDecimalLetter mark = true := isDecimalLetter_of_ofChars? h (by simp)
    have silent : (announcedBase? mark).isNone = true :=
      forall_isDecimalLetter (p := fun c => (announcedBase? c).isNone) (by decide) letter
    rw [Option.isNone_iff_eq_none.1 silent, Option.map_none, ite_self]
  · rfl

/-- A text in decimal notation is the number that it stands for. -/
theorem readTrimmed?_of_ofChars? {text : List Char} {d : Decimal}
    (h : Decimal.ofChars? text = some d) : readTrimmed? text = some d.toDouble := by
  have nonempty : text.isEmpty = false := by
    rw [List.isEmpty_eq_false_iff]
    rintro rfl
    cases h
  have letters : text.any isOtherLetter = false := List.any_eq_false.2 fun c hc => by
    have letter := isDecimalLetter_of_ofChars? h hc
    simpa using forall_isDecimalLetter (p := fun c => !isOtherLetter c) (by decide) letter
  rw [readTrimmed?_of_not_mem (not_mem_of_ofChars? h), nonempty, announced?_of_ofChars? h, letters,
    h]
  rfl

/-- No blank stands in decimal notation. -/
theorem trim_of_ofChars? {text : List Char} {d : Decimal} (h : Decimal.ofChars? text = some d) :
    Text.trim text = text := by
  have visible : ∀ c ∈ text, Text.isBlank c = false := fun c hc => by
    have letter := isDecimalLetter_of_ofChars? h hc
    simpa using forall_isDecimalLetter (p := fun c => !Text.isBlank c) (by decide) letter
  exact Text.trim_eq_self (fun c hc => visible c (List.mem_of_mem_head? hc))
    fun c hc => visible c (List.mem_of_getLast? hc)

theorem read?_of_ofChars? {s : String} {d : Decimal} (h : Decimal.ofChars? s.toList = some d) :
    read? s = some d.toDouble := by
  rw [read?, trim_of_ofChars? h, readTrimmed?_of_ofChars? h]

/-! ## The text of an integer -/

theorem takeSign_of_digits {text : List Char} (h : text.all isDigit = true) :
    takeSign text = (false, text) := by
  have digit := List.all_eq_true.1 h
  unfold takeSign
  split
  · exact absurd (digit '-' List.mem_cons_self) (by decide)
  · exact absurd (digit '+' List.mem_cons_self) (by decide)
  · rfl

/-- The sign of an integer and its digits. -/
theorem takeSign_intDigits (i : Int) :
    takeSign (intDigits i) = (decide (i < 0), natDigits i.natAbs) := by
  unfold intDigits
  split
  · next negative =>
    rw [decide_eq_true negative]
    rfl
  · next positive =>
    rw [decide_eq_false positive]
    exact takeSign_of_digits (all_isDigit_natDigits _)

theorem ofChars?_intDigits (i : Int) :
    Decimal.ofChars? (intDigits i) = some ⟨decide (i < 0), i.natAbs, 0⟩ := by
  have all := List.all_eq_true.1 (all_isDigit_natDigits i.natAbs)
  rw [Decimal.ofChars?, takeSign_intDigits]
  simp [List.takeWhile_eq_self_iff.2 all, List.dropWhile_eq_nil_iff.2 all, natDigits_ne_nil,
    takeFraction, readScale?, ofDigits_natDigits]

/-- No power of ten has to be formed for an integer, and its double is the nearest one. -/
theorem toDouble_integer (i : Int) :
    Decimal.toDouble ⟨decide (i < 0), i.natAbs, 0⟩ = .ofInt i := by
  by_cases h : i = 0
  · subst h
    decide +kernel
  · simp [Decimal.toDouble, Double.ofInt, h]

/-- The decimal text of an integer is read as the double of the integer. -/
theorem read?_intDigits (i : Int) : read? (String.ofList (intDigits i)) = some (.ofInt i) := by
  rw [← toDouble_integer]
  apply read?_of_ofChars?
  rw [String.toList_ofList, ofChars?_intDigits]

end TableQuery.Number
