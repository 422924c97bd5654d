import TableQuery.Number.Digits
import TableQuery.Text.Alphabetic
import TableQuery.Text.Blank

/-!
# What blanks are not

There are twenty-five blank characters, so that a class of characters holds no blank is a fact about
these.

* `mem_blankPoints`: the code points of the blanks;
* `isAlphanumeric_of_isBlank`: a blank is neither a letter nor a number sign;
* `isBlank_of_isDigit`: a digit is no blank.
-/

namespace TableQuery.Text

/-- The code points of the blanks. -/
def blankPoints : List Nat :=
  blankRanges.flatMap fun range => List.range' range.1 (range.2 + 1 - range.1)

theorem exists_range_of_holds {ranges : List (Nat × Nat)} {n : Nat} (h : holds ranges n = true) :
    ∃ range ∈ ranges, range.1 ≤ n ∧ n ≤ range.2 := by
  induction ranges with
  | nil => cases h
  | cons range rest ih =>
    rw [holds] at h
    split at h
    · cases h
    · next first =>
      rcases Bool.or_eq_true_iff.1 h with last | h
      · exact ⟨range, List.mem_cons_self, Nat.le_of_not_lt first, of_decide_eq_true last⟩
      · obtain ⟨other, hm, bounds⟩ := ih h
        exact ⟨other, List.mem_cons_of_mem _ hm, bounds⟩

theorem mem_blankPoints {c : Char} (h : isBlank c = true) : c.toNat ∈ blankPoints := by
  obtain ⟨range, hm, first, last⟩ := exists_range_of_holds h
  refine List.mem_flatMap.2 ⟨range, hm, List.mem_range'_1.2 ⟨first, ?_⟩⟩
  omega

theorem isAlphanumeric_of_isBlank {c : Char} (h : isBlank c = true) :
    isAlphanumeric c = false := by
  have letters : ∀ n ∈ blankPoints, holds alphabeticRanges n = false := by decide +kernel
  have numbers : ∀ n ∈ blankPoints, holds numericRanges n = false := by decide +kernel
  rw [isAlphanumeric, isAlphabetic, isNumeric, inRanges, inRanges, letters _ (mem_blankPoints h),
    numbers _ (mem_blankPoints h)]
  rfl

theorem isBlank_of_isDigit {c : Char} (h : Number.isDigit c = true) : isBlank c = false := by
  have all : ∀ n ∈ List.range 58, 48 ≤ n → holds blankRanges n = false := by decide
  simp only [Number.isDigit, Bool.and_eq_true, decide_eq_true_eq, Char.le_def,
    UInt32.le_iff_toNat_le] at h
  exact all c.toNat (List.mem_range.2 (Nat.lt_succ_of_le h.2)) h.1

/-- A character that is no blank differs from every blank. -/
theorem ne_of_isBlank {b c : Char} (hb : isBlank b = true) (hc : isBlank c = false) : b ≠ c :=
  fun e => by rw [e, hc] at hb; cases hb

end TableQuery.Text
