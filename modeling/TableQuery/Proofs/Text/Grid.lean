import TableQuery.Proofs.Text.Edits

/-!
# Distances on a grid

The distance of two words can also be found on a grid with a row for each beginning of one word and
a column for each beginning of the other. Cell after cell is filled from the cells above it, to its
left and two rows and columns before it. All reading and writing here tells when there is no such
cell or letter, and it never comes to that: the last cell is filled, with the distance.

* `Grid.distance?`: the distance by filling a grid, nothing if a cell or a letter is missing;
* `Filled`: which cells hold the distances of beginnings already;
* `Filled.next?`: what goes into a cell;
* `exists_border?`, `exists_row?`, `exists_filled?`: the loops over the cells do not fail;
* `distance_counts_edits`: the distance of two words and its bounds.
-/

namespace TableQuery.Text

/-- A table of numbers, row by row. -/
structure Grid where
  rows : List (List Nat)

namespace Grid

/-- The number in a cell, if there is such a cell. -/
def get? (grid : Grid) (i j : Nat) : Option Nat :=
  grid.rows[i]?.bind (·[j]?)

/-- The grid with another number in a cell, if there is such a cell. -/
def set? (grid : Grid) (i j value : Nat) : Option Grid :=
  grid.rows[i]?.bind fun row =>
    if j < row.length then some ⟨grid.rows.set i (row.set j value)⟩ else none

def zeros (height width : Nat) : Grid :=
  ⟨List.replicate height (List.replicate width 0)⟩

/-- The grid with the distances to the empty word in its first column and its first row. -/
def border? (height width : Nat) : Option Grid := do
  let grid ← (List.range height).foldlM (fun grid i => grid.set? i 0 i) (zeros height width)
  (List.range width).foldlM (fun grid j => grid.set? 0 j j) grid

/-- What goes into the cell of the beginnings of `i + 1` and of `j + 1` letters. -/
def next? (s t : List Char) (grid : Grid) (i j : Nat) : Option Nat := do
  let x ← s[i]?
  let y ← t[j]?
  let single := cheapest x y (← grid.get? i (j + 1)) (← grid.get? (i + 1) j) (← grid.get? i j)
  match i, j with
  | i' + 1, j' + 1 =>
    if x = (← t[j']?) ∧ (← s[i']?) = y then
      return min single ((← grid.get? i' j') + 1)
    else
      return single
  | _, _ => return single

/-- The grid with that cell filled. -/
def fill? (s t : List Char) (i : Nat) (grid : Grid) (j : Nat) : Option Grid := do
  grid.set? (i + 1) (j + 1) (← next? s t grid i j)

/-- The grid with the row of the beginning of `i + 1` letters filled from left to right. -/
def row? (s t : List Char) (grid : Grid) (i : Nat) : Option Grid :=
  (List.range t.length).foldlM (fill? s t i) grid

/-- The grid with all its cells filled, one row after the other. -/
def filled? (s t : List Char) : Option Grid := do
  (List.range s.length).foldlM (row? s t) (← border? (s.length + 1) (t.length + 1))

/-- The distance of two words, which the last cell holds. -/
def distance? (s t : List Char) : Option Nat :=
  if s = [] ∨ t = [] then some (max s.length t.length)
  else (filled? s t).bind (·.get? s.length t.length)

/-! ## Cells -/

section

variable {grid grid' : Grid} {i j k l old value : Nat}

theorem exists_set? (h : grid.get? i j = some old) (value : Nat) :
    ∃ grid', grid.set? i j value = some grid' := by
  obtain ⟨row, found, cell⟩ := Option.bind_eq_some_iff.1 h
  obtain ⟨lt, -⟩ := List.getElem?_eq_some_iff.1 cell
  exact ⟨_, by rw [set?, found, Option.bind_some, if_pos lt]⟩

theorem get?_of_set? (h : grid.set? i j value = some grid') :
    grid'.get? k l = if k = i ∧ l = j then some value else grid.get? k l := by
  obtain ⟨row, found, written⟩ := Option.bind_eq_some_iff.1 h
  obtain ⟨lt, e⟩ := Option.ite_none_right_eq_some.1 written
  obtain rfl := Option.some.inj e
  obtain ⟨hi, -⟩ := List.getElem?_eq_some_iff.1 found
  by_cases hk : k = i
  · subst hk
    rw [get?, get?, found, List.getElem?_set_self hi, Option.bind_some, Option.bind_some]
    by_cases hl : l = j
    · subst hl
      rw [List.getElem?_set_self lt, if_pos ⟨rfl, rfl⟩]
    · rw [List.getElem?_set_ne (Ne.symm hl), if_neg fun h => hl h.2]
  · rw [get?, get?, List.getElem?_set_ne (Ne.symm hk), if_neg fun h => hk h.1]

theorem get?_zeros {height width : Nat} (hi : i < height) (hj : j < width) :
    (zeros height width).get? i j = some 0 := by
  rw [get?, zeros, List.getElem?_replicate_of_lt hi, Option.bind_some,
    List.getElem?_replicate_of_lt hj]

end

/-! ## Filling -/

/-- A loop over numbers does not fail if its step does not, and ends with what the steps keep. -/
theorem exists_foldlM_range {α : Type} {step : α → Nat → Option α} (keeps : Nat → α → Prop)
    {n : Nat} (next : ∀ k < n, ∀ a, keeps k a → ∃ b, step a k = some b ∧ keeps (k + 1) b) {a : α}
    (start : keeps 0 a) : ∃ b, (List.range n).foldlM step a = some b ∧ keeps n b := by
  induction n with
  | zero => exact ⟨a, rfl, start⟩
  | succ n ih =>
    obtain ⟨b, before, kept⟩ := ih fun k hk => next k (Nat.lt_succ_of_lt hk)
    obtain ⟨c, last, kept⟩ := next n (Nat.lt_succ_self n) b kept
    refine ⟨c, ?_, kept⟩
    rw [List.range_succ, List.foldlM_append, before]
    simpa using last

/-- The grid has a cell for any two beginnings of the words, and those cells that are done hold the
distances. -/
def Filled (s t : List Char) (done : Nat → Nat → Prop) (grid : Grid) : Prop :=
  ∀ i ≤ s.length, ∀ j ≤ t.length, ∃ d, grid.get? i j = some d ∧
    (done i j → d = frontDistance s t i j)

section

variable {s t : List Char} {done done' : Nat → Nat → Prop} {grid : Grid} {i j : Nat}

theorem Filled.get? (h : Filled s t done grid) (hi : i ≤ s.length) (hj : j ≤ t.length)
    (hd : done i j) : grid.get? i j = some (frontDistance s t i j) := by
  obtain ⟨d, found, same⟩ := h i hi j hj
  rw [found, same hd]

theorem Filled.mono (h : Filled s t done grid)
    (fewer : ∀ i ≤ s.length, ∀ j ≤ t.length, done' i j → done i j) : Filled s t done' grid := by
  intro i hi j hj
  obtain ⟨d, found, same⟩ := h i hi j hj
  exact ⟨d, found, fun hd => same (fewer i hi j hj hd)⟩

/-- One more cell can be filled. -/
theorem Filled.exists_set? (h : Filled s t done grid) (hi : i ≤ s.length) (hj : j ≤ t.length)
    {value : Nat} (hv : value = frontDistance s t i j)
    (one : ∀ k l, done' k l → done k l ∨ k = i ∧ l = j) :
    ∃ grid', grid.set? i j value = some grid' ∧ Filled s t done' grid' := by
  obtain ⟨old, found, -⟩ := h i hi j hj
  obtain ⟨grid', written⟩ := Grid.exists_set? found value
  refine ⟨grid', written, fun k hk l hl => ?_⟩
  rw [get?_of_set? written]
  by_cases here : k = i ∧ l = j
  · obtain ⟨rfl, rfl⟩ := here
    exact ⟨value, if_pos ⟨rfl, rfl⟩, fun _ => hv⟩
  · obtain ⟨d, there, same⟩ := h k hk l hl
    exact ⟨d, (if_neg here).trans there, fun hd => same ((one k l hd).resolve_right here)⟩

/-- What goes into a cell is the distance, if all cells above it and to its left are done. -/
theorem Filled.next? (h : Filled s t done grid) (hi : i < s.length) (hj : j < t.length)
    (before : ∀ k l, k ≤ i + 1 → l ≤ j + 1 → k ≤ i ∨ l ≤ j → done k l) :
    next? s t grid i j = some (frontDistance s t (i + 1) (j + 1)) := by
  have above := h.get? (Nat.le_of_lt hi) hj (before i (j + 1) (by omega) (by omega) (by omega))
  have left := h.get? hi (Nat.le_of_lt hj) (before (i + 1) j (by omega) (by omega) (by omega))
  have corner := h.get? (Nat.le_of_lt hi) (Nat.le_of_lt hj)
    (before i j (by omega) (by omega) (by omega))
  simp only [Grid.next?, List.getElem?_eq_getElem hi, List.getElem?_eq_getElem hj, above, left,
    corner, Option.bind_eq_bind, Option.bind_some]
  -- only behind the first row and the first column there are neighbours to exchange
  rcases i with _ | i
  · rw [frontDistance_succ_of_zero hi hj (.inl rfl)]
    rfl
  rcases j with _ | j
  · rw [frontDistance_succ_of_zero hi hj (.inr rfl)]
    rfl
  have far := h.get? (Nat.le_of_lt (Nat.lt_of_succ_lt hi)) (Nat.le_of_lt (Nat.lt_of_succ_lt hj))
    (before i j (by omega) (by omega) (by omega))
  simp only [frontDistance_succ_succ hi hj, far, List.getElem?_eq_getElem (Nat.lt_of_succ_lt hi),
    List.getElem?_eq_getElem (Nat.lt_of_succ_lt hj), Option.bind_some]
  split <;> rfl

theorem Filled.exists_fill? (h : Filled s t done grid) (hi : i < s.length) (hj : j < t.length)
    (before : ∀ k l, k ≤ i + 1 → l ≤ j + 1 → k ≤ i ∨ l ≤ j → done k l)
    (one : ∀ k l, done' k l → done k l ∨ k = i + 1 ∧ l = j + 1) :
    ∃ grid', fill? s t i grid j = some grid' ∧ Filled s t done' grid' := by
  rw [fill?, h.next? hi hj before]
  exact h.exists_set? hi hj rfl one

end

section

variable (s t : List Char)

theorem exists_border? : ∃ grid, border? (s.length + 1) (t.length + 1) = some grid ∧
    Filled s t (fun i j => i = 0 ∨ j = 0) grid := by
  have blank : Filled s t (fun i j => j = 0 ∧ i < 0) (zeros (s.length + 1) (t.length + 1)) :=
    fun i hi j hj => ⟨0, get?_zeros (Nat.lt_succ_of_le hi) (Nat.lt_succ_of_le hj),
      fun h => absurd h.2 (Nat.not_lt_zero i)⟩
  obtain ⟨column, written, filled⟩ := exists_foldlM_range
    (fun k => Filled s t fun i j => j = 0 ∧ i < k)
    (fun k hk grid h => h.exists_set? (Nat.le_of_lt_succ hk) (Nat.zero_le _)
      (frontDistance_zero_right (Nat.le_of_lt_succ hk)).symm (by omega)) blank
  obtain ⟨row, written', filled⟩ := exists_foldlM_range
    (fun k => Filled s t fun i j => j = 0 ∨ i = 0 ∧ j < k)
    (fun k hk grid h => h.exists_set? (Nat.zero_le _) (Nat.le_of_lt_succ hk)
      (frontDistance_zero_left (Nat.le_of_lt_succ hk)).symm (by omega))
    (filled.mono (by omega))
  refine ⟨row, ?_, filled.mono (by omega)⟩
  rw [border?, written]
  exact written'

variable {s t}

theorem exists_row? {i : Nat} (hi : i < s.length) {grid : Grid}
    (h : Filled s t (fun k l => k ≤ i ∨ l = 0) grid) :
    ∃ grid', row? s t grid i = some grid' ∧ Filled s t (fun k l => k ≤ i + 1 ∨ l = 0) grid' := by
  obtain ⟨grid', written, filled⟩ := exists_foldlM_range
    (fun n => Filled s t fun k l => k ≤ i ∨ l = 0 ∨ k = i + 1 ∧ l ≤ n)
    (fun j hj grid h => h.exists_fill? hi hj (by omega) (by omega)) (h.mono (by omega))
  exact ⟨grid', written, filled.mono (by omega)⟩

variable (s t)

theorem exists_filled? : ∃ grid, filled? s t = some grid ∧ Filled s t (fun _ _ => True) grid := by
  obtain ⟨border, bordered, start⟩ := exists_border? s t
  obtain ⟨grid, written, filled⟩ := exists_foldlM_range
    (fun n => Filled s t fun k l => k ≤ n ∨ l = 0)
    (fun i hi grid h => exists_row? hi h) (start.mono (by omega))
  refine ⟨grid, ?_, filled.mono (by omega)⟩
  rw [filled?, bordered]
  exact written

/-- No cell and no letter is missing, and the last cell holds the least number of edits. -/
theorem distance?_eq : distance? s t = some (alignment s t) := by
  rw [distance?]
  split
  · next empty =>
    rcases empty with rfl | rfl
    · rw [alignment_nil_left, List.length_nil, Nat.zero_max]
    · rw [alignment_nil_right, List.length_nil, Nat.max_zero]
  · obtain ⟨grid, written, filled⟩ := exists_filled? s t
    rw [written, Option.bind_some, filled.get? (Nat.le_refl _) (Nat.le_refl _) trivial,
      frontDistance_length]

end

end Grid

/-- The distance of two words is found on a grid without a cell or a letter missing. It is the
number of the recursion on the words and the least number of edits between them, does not depend on
which word is edited, is zero for equal words only, and lies between the difference and the maximum
of their lengths. -/
theorem distance_counts_edits (s t : List Char) :
    Grid.distance? s t = some (distance s t) ∧
      distance s t = alignment s t ∧
      IsLeast {n | Edits s t n} (distance s t) ∧
      distance s t = distance t s ∧
      (distance s t = 0 ↔ s = t) ∧
      max s.length t.length - min s.length t.length ≤ distance s t ∧
      distance s t ≤ max s.length t.length := by
  rw [distance_eq_alignment, distance_eq_alignment]
  have lengths := (edits_alignment s t).length_le
  exact ⟨Grid.distance?_eq s t, rfl, isLeast_alignment s t, alignment_comm s t,
    alignment_eq_zero_iff, by omega, alignment_le_max s t⟩

end TableQuery.Text
