import Mathlib.Data.List.Infix
import TableQuery.Text.Distance

/-!
# Distances row by row

The rows of distances are filled from the shorter words on, each from the two rows before it. What
stands in them is what the recursion on the two words says.

* `extendRow_eq`: the next row, if the two rows before it hold distances;
* `distance_eq_alignment`: the distance is the least number of edits.
-/

namespace TableQuery.Text

/-- The distances from a word to all endings of another, the longest ending first. -/
def alignments (s t : List Char) : List Nat :=
  t.tails.map (alignment s)

theorem alignments_cons (s : List Char) (y : Char) (t : List Char) :
    alignments s (y :: t) = alignment s (y :: t) :: alignments s t :=
  rfl

theorem headD_alignments (s t : List Char) : (alignments s t).headD 0 = alignment s t := by
  cases t <;> rfl

theorem alignment_nil_left (t : List Char) : alignment [] t = t.length := by
  rw [alignment]

theorem alignment_nil_right (s : List Char) : alignment s [] = s.length := by
  cases s <;> simp [alignment]

theorem alignments_nil (t : List Char) : alignments [] t = (List.range (t.length + 1)).reverse := by
  induction t with
  | nil => exact congrArg (fun n => [n]) (alignment_nil_left [])
  | cons y t ih =>
    rw [alignments_cons, ih, alignment_nil_left, List.length_cons,
      List.range_succ (n := t.length + 1), List.reverse_append, List.reverse_singleton,
      List.singleton_append]

/-- The next row is made of distances if the two rows before it are. -/
theorem extendRow_eq (x : Char) {s t : List Char} {twoBelow : List Nat}
    (h : ∀ y s', s = y :: s' → twoBelow = alignments s' t) :
    extendRow x s.head? t (alignments s t) twoBelow = alignments (x :: s) t := by
  induction t generalizing twoBelow with
  | nil =>
    show [alignment s [] + 1] = [alignment (x :: s) []]
    rw [alignment_nil_right, alignment_nil_right, List.length_cons]
  | cons y t ih =>
    have below : ∀ x' s', s = x' :: s' → twoBelow.tail = alignments s' t := fun x' s' e => by
      rw [h x' s' e]
      rfl
    have row := ih below
    cases t with
    | nil =>
      rw [alignments_cons s, extendRow.eq_2, row, headD_alignments, headD_alignments,
        alignments_cons]
      cases s <;> simp [alignment]
    | cons y' t' =>
      rw [alignments_cons s, extendRow.eq_1, row, headD_alignments, headD_alignments,
        alignments_cons]
      refine congrArg (· :: _) ?_
      cases s with
      | nil => simp [alignment]
      | cons x' s' =>
        have exchanged : (twoBelow.drop 2).headD 0 = alignment s' t' := by
          rw [h x' s' rfl, alignments_cons, alignments_cons]
          exact headD_alignments s' t'
        rw [exchanged]
        simp only [List.head?_cons, Option.some.injEq]
        rw [alignment.eq_3]

theorem rows_eq (t s : List Char) :
    (rows t s).current = alignments s t ∧
      ∀ y s', s = y :: s' → (rows t s).previous = alignments s' t := by
  induction s with
  | nil => exact ⟨(alignments_nil t).symm, nofun⟩
  | cons x s ih =>
    obtain ⟨current, previous⟩ := ih
    refine ⟨?_, fun y s' e => ?_⟩
    · rw [rows]
      show extendRow x s.head? t (rows t s).current (rows t s).previous = _
      rw [current]
      exact extendRow_eq x previous
    · cases e
      exact current

/-- The distance is the least number of edits. -/
theorem distance_eq_alignment (s t : List Char) : distance s t = alignment s t := by
  rw [distance, (rows_eq t s).1, headD_alignments]

end TableQuery.Text
