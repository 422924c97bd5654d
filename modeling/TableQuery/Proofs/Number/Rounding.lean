import Mathlib.Algebra.Order.Ring.Nat
import Mathlib.Order.Monotone.Basic
import TableQuery.Number.Double

/-!
# Integers as doubles

The double of an integer is the integer rounded to 53 binary digits, with a tie going to the number
whose last digit is even. So two integers are compared as doubles exactly as their rounded values
are. Rounding never turns two integers around, and it changes none up to `2 ^ 53` in size.

* `strictMono_unitsAt`: the order of the ranks is the order of the numbers at them;
* `rounded`, `roundedInt`: numbers rounded to 53 binary digits;
* `unitsAt_nearestRank`: the number at the rank of a natural number is that number rounded;
* `isNearest_roundedInt`: what an integer is rounded to;
* `place_ofInt_lt_iff`, `place_ofInt_eq_iff`: integers in the order of doubles.
-/

namespace TableQuery.Double

/-! ## The order of doubles -/

section

variable {a b : Double} (ha : a.isNaN = false) (hb : b.isNaN = false)
include ha hb

theorem less_eq_decide : a.less b = decide (a.place < b.place) := by
  simp [less, ha, hb]

theorem equal_eq_decide : a.equal b = decide (a.place = b.place) := by
  simp [equal, ha, hb, beq_eq_decide]

end

theorem isNaN_nearest (negative : Bool) (num den : Nat) :
    (nearest negative num den).isNaN = false :=
  decide_eq_false (Nat.not_lt.2 (Nat.min_le_left _ _))

/-! ## Ranks and sizes -/

/-- The size of the number at a rank, in multiples of the least positive one. -/
def unitsAt (rank : Nat) : Nat :=
  (if rank < ranksPerPower then rank else rank % ranksPerPower + ranksPerPower) *
    2 ^ (rank / ranksPerPower - 1)

/-- Between two neighbouring powers of two, both included, the numbers are equally far apart. -/
theorem unitsAt_block {s k : Nat} (low : ranksPerPower ≤ k) (high : k ≤ 2 * ranksPerPower) :
    unitsAt (s * ranksPerPower + k) = k * 2 ^ s := by
  have positive : 0 < ranksPerPower := by decide
  have outside : ¬s * ranksPerPower + k < ranksPerPower := by omega
  rw [unitsAt, if_neg outside]
  rcases Nat.lt_or_eq_of_le high with inside | rfl
  · obtain ⟨r, rfl⟩ := Nat.exists_eq_add_of_le low
    have rest : r < ranksPerPower := by omega
    have place : s * ranksPerPower + (ranksPerPower + r) = r + ranksPerPower * (s + 1) := by
      rw [Nat.mul_add, Nat.mul_comm s]; omega
    rw [place, Nat.add_mul_mod_self_left, Nat.mod_eq_of_lt rest, Nat.add_mul_div_left _ _ positive,
      Nat.div_eq_of_lt rest, Nat.zero_add, Nat.add_sub_cancel, Nat.add_comm r]
  · have place : s * ranksPerPower + 2 * ranksPerPower = ranksPerPower * (s + 2) := by
      rw [Nat.mul_add, Nat.mul_comm s, Nat.mul_comm 2]
    rw [place, Nat.mul_mod_right, Nat.mul_div_cancel_left _ positive, Nat.zero_add,
      show s + 2 - 1 = s + 1 from rfl, Nat.pow_succ', Nat.mul_left_comm, Nat.mul_assoc]

theorem unitsAt_of_lt {rank : Nat} (h : rank < ranksPerPower) : unitsAt rank = rank := by
  rw [unitsAt, if_pos h, Nat.div_eq_of_lt h]
  exact Nat.mul_one rank

theorem unitsAt_lt_succ (rank : Nat) : unitsAt rank < unitsAt (rank + 1) := by
  rcases Nat.lt_or_ge rank ranksPerPower with small | large
  · rw [unitsAt_of_lt small]
    rcases Nat.lt_or_eq_of_le (Nat.succ_le_of_lt small) with below | top
    · rw [unitsAt_of_lt below]
      exact Nat.lt_succ_self rank
    · have := unitsAt_block (s := 0) (Nat.le_refl ranksPerPower) (by omega)
      rw [Nat.zero_mul, Nat.zero_add] at this
      rw [show rank + 1 = ranksPerPower from top, this]
      omega
  · -- the rank is in a block, and so is the next one
    obtain ⟨s, k, rfl, low, high⟩ : ∃ s k, rank = s * ranksPerPower + k ∧ ranksPerPower ≤ k ∧
        k < 2 * ranksPerPower := by
      refine ⟨rank / ranksPerPower - 1, rank % ranksPerPower + ranksPerPower, ?_, by omega, ?_⟩
      · have parts := Nat.div_add_mod' rank ranksPerPower
        have first : 1 ≤ rank / ranksPerPower := (Nat.le_div_iff_mul_le (by decide)).2 (by omega)
        rw [Nat.sub_mul]
        have : 1 * ranksPerPower ≤ rank / ranksPerPower * ranksPerPower :=
          Nat.mul_le_mul_right _ first
        omega
      · have := Nat.mod_lt rank (show 0 < ranksPerPower by decide)
        omega
    rw [Nat.add_assoc, unitsAt_block low (by omega), unitsAt_block (by omega) (by omega)]
    exact Nat.mul_lt_mul_of_pos_right (Nat.lt_succ_self k) (Nat.two_pow_pos s)

theorem strictMono_unitsAt : StrictMono unitsAt :=
  strictMono_nat_of_lt_succ unitsAt_lt_succ

/-! ## Rounding -/

section

variable {num den : Nat}

theorem roundQuotient_of_dvd (h : 0 < den) (hd : den ∣ num) :
    roundQuotient num den = num / den := by
  simp [roundQuotient, Nat.mod_eq_zero_of_dvd hd, h]

theorem roundQuotient_mul_right {c : Nat} (hc : 0 < c) (num den : Nat) :
    roundQuotient (num * c) (den * c) = roundQuotient num den := by
  have less : 2 * (num % den * c) < den * c ↔ 2 * (num % den) < den := by
    rw [← Nat.mul_assoc, Nat.mul_lt_mul_right hc]
  have tie : 2 * (num % den * c) = den * c ↔ 2 * (num % den) = den := by
    rw [← Nat.mul_assoc, Nat.mul_left_inj (Nat.ne_of_gt hc)]
  simp only [roundQuotient, Nat.mul_div_mul_right _ _ hc, Nat.mul_mod_mul_right, less, tie]

theorem le_roundQuotient (num den : Nat) : num / den ≤ roundQuotient num den := by
  simp only [roundQuotient]
  split <;> omega

theorem roundQuotient_le (num den : Nat) : roundQuotient num den ≤ num / den + 1 := by
  simp only [roundQuotient]
  split <;> omega

theorem roundQuotient_mono {a b : Nat} (h : a ≤ b) (den : Nat) :
    roundQuotient a den ≤ roundQuotient b den := by
  have quotients := Nat.div_le_div_right (c := den) h
  rcases Nat.lt_or_eq_of_le quotients with less | same
  · exact (roundQuotient_le a den).trans (Nat.le_trans less (le_roundQuotient b den))
  · -- between the same two candidates, the larger number has the larger rest
    have rest : a % den ≤ b % den := by
      have ha := Nat.div_add_mod a den
      have hb := Nat.div_add_mod b den
      rw [same] at ha
      omega
    simp only [roundQuotient, same]
    split <;> split <;> omega

/-- A quotient is rounded by half a step at most. -/
theorem dist_roundQuotient (h : 0 < den) (num : Nat) :
    num * 2 ≤ roundQuotient num den * den * 2 + den ∧
      roundQuotient num den * den * 2 ≤ num * 2 + den := by
  have parts := Nat.div_add_mod' num den
  have rest := Nat.mod_lt num h
  simp only [roundQuotient]
  split
  · omega
  · rw [Nat.add_mul, Nat.one_mul]
    omega

/-- A quotient that is half a step away from what it is rounded to is rounded to an even number. -/
theorem even_roundQuotient (h : 0 < den) (tie : num * 2 = roundQuotient num den * den * 2 + den ∨
    roundQuotient num den * den * 2 = num * 2 + den) : 2 ∣ roundQuotient num den := by
  have parts := Nat.div_add_mod' num den
  have rest := Nat.mod_lt num h
  simp only [roundQuotient] at tie ⊢
  split at tie
  · next down => rw [if_pos down]; omega
  · next up => rw [if_neg up]; rw [Nat.add_mul, Nat.one_mul] at tie; omega

end

/-- How far apart the numbers of 53 binary digits are between the powers of two around a number; one
if the number is small. -/
def gapOf (n : Nat) : Nat :=
  2 ^ (n.log2 - 52)

/-- A natural number rounded to 53 binary digits. -/
def rounded (n : Nat) : Nat :=
  roundQuotient n (gapOf n) * gapOf n

/-- An integer rounded to 53 binary digits. -/
def roundedInt (i : Int) : Int :=
  if i < 0 then -(rounded i.natAbs : Int) else rounded i.natAbs

theorem gapOf_pos (n : Nat) : 0 < gapOf n :=
  Nat.two_pow_pos _

/-- The second integer is the multiple of the gap that is nearest to the first, and an even multiple
if there are two. -/
structure IsNearest (gap : Nat) (i r : Int) : Prop where
  dvd : (gap : Int) ∣ r
  dist : (r - i).natAbs * 2 ≤ gap
  even : (r - i).natAbs * 2 = gap → 2 * (gap : Int) ∣ r

theorem isNearest_roundedInt (i : Int) : IsNearest (gapOf i.natAbs) i (roundedInt i) := by
  have multiple : gapOf i.natAbs ∣ rounded i.natAbs := Nat.dvd_mul_left _ _
  have near := dist_roundQuotient (gapOf_pos i.natAbs) i.natAbs
  have even (tie) : 2 * gapOf i.natAbs ∣ rounded i.natAbs :=
    Nat.mul_dvd_mul_right (even_roundQuotient (gapOf_pos i.natAbs) tie) _
  rw [← rounded] at near even
  rw [roundedInt]
  split
  · exact ⟨Int.dvd_neg.2 (Int.natCast_dvd_natCast.2 multiple), by omega,
      fun tie => Int.dvd_neg.2 (Int.natCast_dvd_natCast.2 (even (by omega)))⟩
  · exact ⟨Int.natCast_dvd_natCast.2 multiple, by omega,
      fun tie => Int.natCast_dvd_natCast.2 (even (by omega))⟩

theorem rounded_of_dvd {n : Nat} (h : gapOf n ∣ n) : rounded n = n := by
  rw [rounded, roundQuotient_of_dvd (gapOf_pos n) h, Nat.div_mul_cancel h]

/-- Rounding changes no number up to `2 ^ 53`. -/
theorem rounded_of_le {n : Nat} (h : n ≤ 2 ^ 53) : rounded n = n := by
  refine rounded_of_dvd ?_
  rcases Nat.lt_or_eq_of_le h with less | rfl
  · have : n.log2 - 52 = 0 := by
      rcases Nat.eq_zero_or_pos n with rfl | positive
      · simp
      · have := (Nat.log2_lt (Nat.ne_of_gt positive)).2 less
        omega
    rw [gapOf, this]
    exact Nat.one_dvd n
  · rw [gapOf, Nat.log2_two_pow]
    decide

/-- A rounded number stays between the two powers of two that the number is between. -/
theorem rounded_mem {n : Nat} (h : n ≠ 0) :
    2 ^ n.log2 ≤ rounded n ∧ rounded n ≤ 2 ^ (n.log2 + 1) := by
  have low := Nat.log2_self_le h
  have high := Nat.lt_log2_self (n := n)
  rcases Nat.lt_or_ge n.log2 52 with small | large
  · rw [rounded_of_le]
    · exact ⟨low, high.le⟩
    · exact high.le.trans (Nat.pow_le_pow_right (by decide) (by omega))
  · -- both powers are multiples of the gap, and rounding keeps the order
    have multiple : ∀ e, n.log2 ≤ e → roundQuotient (2 ^ e) (gapOf n) * gapOf n = 2 ^ e := by
      intro e he
      have hd : gapOf n ∣ 2 ^ e := Nat.pow_dvd_pow 2 (by omega)
      rw [roundQuotient_of_dvd (gapOf_pos n) hd, Nat.div_mul_cancel hd]
    constructor
    · rw [← multiple n.log2 (Nat.le_refl _)]
      exact Nat.mul_le_mul_right _ (roundQuotient_mono low _)
    · rw [← multiple (n.log2 + 1) (by omega)]
      exact Nat.mul_le_mul_right _ (roundQuotient_mono high.le _)

theorem rounded_mono {a b : Nat} (h : a ≤ b) : rounded a ≤ rounded b := by
  rcases Nat.eq_zero_or_pos a with rfl | positive
  · exact Nat.zero_le _
  have ha : a ≠ 0 := Nat.ne_of_gt positive
  have hb : b ≠ 0 := by omega
  have logs : a.log2 ≤ b.log2 :=
    (Nat.le_log2 hb).2 ((Nat.log2_self_le ha).trans h)
  rcases Nat.lt_or_eq_of_le logs with less | same
  · calc rounded a ≤ 2 ^ (a.log2 + 1) := (rounded_mem ha).2
      _ ≤ 2 ^ b.log2 := Nat.pow_le_pow_right (by decide) less
      _ ≤ rounded b := (rounded_mem hb).1
  · have gaps : gapOf a = gapOf b := by rw [gapOf, gapOf, same]
    rw [rounded, rounded, gaps]
    exact Nat.mul_le_mul_right _ (roundQuotient_mono h _)

theorem roundedInt_mono {i j : Int} (h : i ≤ j) : roundedInt i ≤ roundedInt j := by
  simp only [roundedInt]
  split <;> split
  · have := rounded_mono (show j.natAbs ≤ i.natAbs by omega)
    omega
  · omega
  · omega
  · have := rounded_mono (show i.natAbs ≤ j.natAbs by omega)
    omega

theorem roundedInt_of_natAbs_le {i : Int} (h : i.natAbs ≤ 2 ^ 53) : roundedInt i = i := by
  rw [roundedInt, rounded_of_le h]
  split <;> omega

/-- Rounding does not bring two integers together if one of them is below `2 ^ 53` in size. -/
theorem roundedInt_lt_iff {i j : Int} (small : i.natAbs < 2 ^ 53 ∨ j.natAbs < 2 ^ 53) :
    roundedInt i < roundedInt j ↔ i < j := by
  constructor
  · intro less
    by_contra not
    have := roundedInt_mono (Int.not_lt.1 not)
    omega
  · intro less
    rcases small with first | second
    · have next := roundedInt_mono (show i + 1 ≤ j from less)
      rw [roundedInt_of_natAbs_le (i := i + 1) (by omega)] at next
      rw [roundedInt_of_natAbs_le first.le]
      omega
    · have previous := roundedInt_mono (show i ≤ j - 1 by omega)
      rw [roundedInt_of_natAbs_le (i := j - 1) (by omega)] at previous
      rw [roundedInt_of_natAbs_le second.le]
      omega

/-! ## The double of an integer -/

theorem log2_mul_two_pow {n : Nat} (h : n ≠ 0) (k : Nat) : (n * 2 ^ k).log2 = n.log2 + k := by
  have positive := Nat.two_pow_pos k
  refine (Nat.log2_eq_iff (Nat.mul_ne_zero h (Nat.ne_of_gt positive))).2 ⟨?_, ?_⟩
  · rw [Nat.pow_add]
    exact Nat.mul_le_mul_right _ (Nat.log2_self_le h)
  · rw [Nat.add_right_comm, Nat.pow_add]
    exact Nat.mul_lt_mul_of_pos_right Nat.lt_log2_self positive

theorem nearestRank_zero : nearestRank 0 1 = 0 := by
  decide +kernel

/-- The significand of a natural number is the number rounded, but for doublings. -/
theorem roundQuotient_mul_two_pow (n : Nat) {u : Nat} (hu : 52 ≤ u) :
    roundQuotient (n * 2 ^ u) (2 ^ (n.log2 + (u - 52))) * 2 ^ (n.log2 + (u - 52)) =
      rounded n * 2 ^ u := by
  rcases Nat.le_total 52 n.log2 with large | small
  · have scale : 2 ^ (n.log2 + (u - 52)) = gapOf n * 2 ^ u := by
      rw [gapOf, ← Nat.pow_add]
      congr 1
      omega
    rw [scale, roundQuotient_mul_right (Nat.two_pow_pos u), rounded, Nat.mul_assoc]
  · -- a number with few digits is not rounded at all
    have few : n ≤ 2 ^ 53 :=
      Nat.lt_log2_self.le.trans (Nat.pow_le_pow_right (by decide) (by omega))
    have multiple : 2 ^ (n.log2 + (u - 52)) ∣ n * 2 ^ u :=
      Dvd.dvd.mul_left (Nat.pow_dvd_pow 2 (by omega)) n
    rw [roundQuotient_of_dvd (Nat.two_pow_pos _) multiple, Nat.div_mul_cancel multiple,
      rounded_of_le few]

theorem significand_mem {n : Nat} (h : n ≠ 0) {u : Nat} (hu : 52 ≤ u) :
    ranksPerPower ≤ roundQuotient (n * 2 ^ u) (2 ^ (n.log2 + (u - 52))) ∧
      roundQuotient (n * 2 ^ u) (2 ^ (n.log2 + (u - 52))) ≤ 2 * ranksPerPower := by
  have positive := Nat.two_pow_pos (n.log2 + (u - 52))
  have bounds := rounded_mem h
  have size := roundQuotient_mul_two_pow n hu
  -- in units, the powers of two around the number are these numbers of steps
  have power : ∀ e, 2 ^ (n.log2 + e) * 2 ^ u = 2 ^ (52 + e) * 2 ^ (n.log2 + (u - 52)) := by
    intro e
    rw [← Nat.pow_add, ← Nat.pow_add]
    congr 1
    omega
  constructor
  · refine Nat.le_of_mul_le_mul_right ?_ positive
    rw [size]
    exact (power 0).symm.trans_le (Nat.mul_le_mul_right _ bounds.1)
  · refine Nat.le_of_mul_le_mul_right ?_ positive
    rw [size]
    exact (Nat.mul_le_mul_right _ bounds.2).trans_eq (power 1)

/-- The number at the rank of a natural number is that number rounded to 53 binary digits. -/
theorem unitsAt_nearestRank {n : Nat} (h : n < 2 ^ 64) :
    unitsAt (nearestRank n 1) = rounded n * 2 ^ 1074 := by
  rcases Nat.eq_zero_or_pos n with rfl | positive
  · rw [nearestRank_zero]
    decide +kernel
  have nonzero : n ≠ 0 := Nat.ne_of_gt positive
  have logBound : n.log2 < 64 := (Nat.log2_lt nonzero).2 h
  unfold nearestRank
  generalize hu : 1074 = u
  simp only [Nat.pow_eq, Nat.div_one, Nat.one_mul]
  rw [log2_mul_two_pow nonzero]
  have scale : n.log2 + u - 52 = n.log2 + (u - 52) := by omega
  have bounds := significand_mem nonzero (u := u) (by omega)
  rw [scale, Nat.min_eq_right, unitsAt_block bounds.1 bounds.2,
    roundQuotient_mul_two_pow n (by omega)]
  have below := Nat.mul_le_mul_right ranksPerPower (show n.log2 + (u - 52) ≤ 1085 by omega)
  have infinity : infinityRank = 2047 * ranksPerPower := rfl
  omega

/-! ## Integers in the order of doubles -/

theorem nearestRank_lt_iff {n m : Nat} (hn : n < 2 ^ 64) (hm : m < 2 ^ 64) :
    nearestRank n 1 < nearestRank m 1 ↔ rounded n < rounded m := by
  rw [← strictMono_unitsAt.lt_iff_lt, unitsAt_nearestRank hn, unitsAt_nearestRank hm,
    Nat.mul_lt_mul_right (Nat.two_pow_pos 1074)]

section

variable {i j : Int}

theorem isNaN_ofInt (i : Int) : (ofInt i).isNaN = false :=
  isNaN_nearest _ _ _

theorem place_ofInt (i : Int) : (ofInt i).place =
    if i < 0 then -(nearestRank i.natAbs 1 : Int) else nearestRank i.natAbs 1 := by
  simp [place, ofInt, nearest]

theorem place_ofInt_lt_iff (hi : i.natAbs < 2 ^ 64) (hj : j.natAbs < 2 ^ 64) :
    (ofInt i).place < (ofInt j).place ↔ roundedInt i < roundedInt j := by
  have forth := nearestRank_lt_iff hi hj
  have back := nearestRank_lt_iff hj hi
  have first := nearestRank_lt_iff (Nat.two_pow_pos 64) hi
  have second := nearestRank_lt_iff (Nat.two_pow_pos 64) hj
  rw [nearestRank_zero, rounded_of_le (Nat.zero_le _)] at first second
  rw [place_ofInt, place_ofInt, roundedInt, roundedInt]
  split <;> split <;> omega

theorem place_ofInt_eq_iff (hi : i.natAbs < 2 ^ 64) (hj : j.natAbs < 2 ^ 64) :
    (ofInt i).place = (ofInt j).place ↔ roundedInt i = roundedInt j := by
  have forth := place_ofInt_lt_iff hi hj
  have back := place_ofInt_lt_iff hj hi
  omega

end

end TableQuery.Double
