import Mathlib.Order.Bounds.Basic
import TableQuery.Proofs.Text.Distance

/-!
# The least number of edits

A script of edits goes through two words from left to right. It keeps a letter, deletes, inserts or
replaces one, or exchanges two neighbours, and what it has gone past is not edited again. The number
of `alignment` is the least number of edits of a script. Scripts may be turned around and read from
the right, so the same numbers are found from the first letters and from the last.

* `Edits`: the scripts between two words, with the number of their edits;
* `isLeast_alignment`: no script has fewer edits, and one has as many;
* `alignment_comm`, `alignment_reverse`, `alignment_eq_zero_iff`: what follows for the distance;
* `frontDistance_succ_of_zero`, `frontDistance_succ_succ`: the distance of two beginnings, by what
  becomes of their last letters.
-/

namespace TableQuery.Text

/-- One word is turned into the other by a number of edits. -/
inductive Edits : List Char → List Char → Nat → Prop
  | nil : Edits [] [] 0
  | keep (c : Char) {s t : List Char} {n : Nat} (h : Edits s t n) : Edits (c :: s) (c :: t) n
  | delete (c : Char) {s t : List Char} {n : Nat} (h : Edits s t n) : Edits (c :: s) t (n + 1)
  | insert (c : Char) {s t : List Char} {n : Nat} (h : Edits s t n) : Edits s (c :: t) (n + 1)
  | replace (c d : Char) {s t : List Char} {n : Nat} (h : Edits s t n) :
      Edits (c :: s) (d :: t) (n + 1)
  | exchange (c d : Char) {s t : List Char} {n : Nat} (h : Edits s t n) :
      Edits (c :: d :: s) (d :: c :: t) (n + 1)

/-! ## Scripts -/

namespace Edits

variable {s t s' t' : List Char} {m n : Nat}

protected theorem refl (s : List Char) : Edits s s 0 := by
  induction s with
  | nil => exact nil
  | cons c s ih => exact ih.keep c

theorem eq_of_zero (h : Edits s t 0) : s = t := by
  generalize zero : 0 = n at h
  induction h with
  | nil => rfl
  | keep c h ih => rw [ih zero]
  | _ => cases zero

protected theorem symm (h : Edits s t n) : Edits t s n := by
  induction h with
  | nil => exact nil
  | keep c h ih => exact ih.keep c
  | delete c h ih => exact ih.insert c
  | insert c h ih => exact ih.delete c
  | replace c d h ih => exact ih.replace d c
  | exchange c d h ih => exact ih.exchange d c

theorem append (h : Edits s t m) (h' : Edits s' t' n) : Edits (s ++ s') (t ++ t') (m + n) := by
  induction h with
  | nil => rwa [Nat.zero_add]
  | keep c h ih => exact ih.keep c
  | delete c h ih => rw [Nat.succ_add]; exact ih.delete c
  | insert c h ih => rw [Nat.succ_add]; exact ih.insert c
  | replace c d h ih => rw [Nat.succ_add]; exact ih.replace c d
  | exchange c d h ih => rw [Nat.succ_add]; exact ih.exchange c d

/-- Read from the right, an edit is an edit of the same kind. -/
theorem reverse (h : Edits s t n) : Edits s.reverse t.reverse n := by
  induction h with
  | nil => exact nil
  | keep c h ih => simpa using ih.append (nil.keep c)
  | delete c h ih => simpa using ih.append (nil.delete c)
  | insert c h ih => simpa using ih.append (nil.insert c)
  | replace c d h ih => simpa using ih.append (nil.replace c d)
  | exchange c d h ih => simpa using ih.append (nil.exchange d c)

theorem length_le (h : Edits s t n) : s.length ≤ t.length + n ∧ t.length ≤ s.length + n := by
  induction h with
  | nil => exact ⟨Nat.le_refl 0, Nat.le_refl 0⟩
  | _ => simp only [List.length_cons]; omega

/-- The letters of the shorter word may be replaced, and what is left of the longer one deleted or
inserted. -/
theorem exists_le_max (s t : List Char) : ∃ n ≤ max s.length t.length, Edits s t n := by
  induction s generalizing t with
  | nil =>
    induction t with
    | nil => exact ⟨0, Nat.zero_le _, nil⟩
    | cons d t ih =>
      obtain ⟨n, le, h⟩ := ih
      exact ⟨n + 1, by simp only [List.length_nil, List.length_cons] at le ⊢; omega, h.insert d⟩
  | cons c s ih =>
    cases t with
    | nil =>
      obtain ⟨n, le, h⟩ := ih []
      exact ⟨n + 1, by simp only [List.length_nil, List.length_cons] at le ⊢; omega, h.delete c⟩
    | cons d t =>
      obtain ⟨n, le, h⟩ := ih t
      exact ⟨n + 1, by simp only [List.length_cons]; omega, h.replace c d⟩

theorem min (hm : Edits s t m) (hn : Edits s t n) : Edits s t (min m n) := by
  rcases Nat.le_total m n with le | le
  · rwa [Nat.min_eq_left le]
  · rwa [Nat.min_eq_right le]

end Edits

/-! ## Single edits -/

/-- The least of a deletion, an insertion and one letter against another, from the numbers of edits
of what each of them leaves. -/
def cheapest (x y : Char) (deleted inserted both : Nat) : Nat :=
  min (min (deleted + 1) (inserted + 1)) (both + if x = y then 0 else 1)

section

variable (x y : Char) (s t : List Char)

/-- Where there are no two neighbours to exchange, a single edit comes first. -/
theorem alignment_cons_cons_of_nil (h : s = [] ∨ t = []) : alignment (x :: s) (y :: t) =
    cheapest x y (alignment s (y :: t)) (alignment (x :: s) t) (alignment s t) :=
  alignment.eq_4 x s y t fun _ _ _ _ hs ht => by
    rcases h with h | h
    · exact List.cons_ne_nil _ _ (hs.symm.trans h)
    · exact List.cons_ne_nil _ _ (ht.symm.trans h)

theorem alignment_cons_cons_cons_cons (x' y' : Char) :
    alignment (x :: x' :: s) (y :: y' :: t) =
      let single := cheapest x y (alignment (x' :: s) (y :: y' :: t))
        (alignment (x :: x' :: s) (y' :: t)) (alignment (x' :: s) (y' :: t))
      if x = y' ∧ x' = y then min single (alignment s t + 1) else single :=
  alignment.eq_3 x y x' s y' t

theorem alignment_cons_cons_le : alignment (x :: s) (y :: t) ≤
    cheapest x y (alignment s (y :: t)) (alignment (x :: s) t) (alignment s t) := by
  rcases s with _ | ⟨x', s⟩
  · exact Nat.le_of_eq (alignment_cons_cons_of_nil x y [] t (.inl rfl))
  rcases t with _ | ⟨y', t⟩
  · exact Nat.le_of_eq (alignment_cons_cons_of_nil x y _ [] (.inr rfl))
  rw [alignment_cons_cons_cons_cons]
  split
  · exact Nat.min_le_left _ _
  · exact Nat.le_refl _

theorem alignment_cons_left_le : alignment (x :: s) t ≤ alignment s t + 1 := by
  cases t with
  | nil => rw [alignment_nil_right, alignment_nil_right, List.length_cons]
  | cons y t =>
    have := alignment_cons_cons_le x y s t
    rw [cheapest] at this
    omega

theorem alignment_cons_right_le : alignment s (y :: t) ≤ alignment s t + 1 := by
  cases s with
  | nil => rw [alignment_nil_left, alignment_nil_left, List.length_cons]
  | cons x s =>
    have := alignment_cons_cons_le x y s t
    rw [cheapest] at this
    omega

theorem alignment_both_le :
    alignment (x :: s) (y :: t) ≤ alignment s t + if x = y then 0 else 1 :=
  (alignment_cons_cons_le x y s t).trans (Nat.min_le_right _ _)

theorem alignment_exchange_le : alignment (x :: y :: s) (y :: x :: t) ≤ alignment s t + 1 := by
  rw [alignment_cons_cons_cons_cons]
  simp only [and_self, if_true]
  exact Nat.min_le_right _ _

end

theorem Edits.cheapest {x y : Char} {s t : List Char} {deleted inserted both : Nat}
    (hd : Edits s (y :: t) deleted) (hi : Edits (x :: s) t inserted) (hb : Edits s t both) :
    Edits (x :: s) (y :: t) (cheapest x y deleted inserted both) := by
  refine ((hd.delete x).min (hi.insert y)).min ?_
  split
  · next same => exact same ▸ hb.keep x
  · exact hb.replace x y

/-! ## The least number -/

/-- A script that has as many edits. -/
theorem edits_alignment (s t : List Char) : Edits s t (alignment s t) := by
  fun_induction alignment s t with
  | case1 t =>
    induction t with
    | nil => exact .nil
    | cons d t ih => exact ih.insert d
  | case2 s ne =>
    clear ne
    induction s with
    | nil => exact .nil
    | cons c s ih => exact ih.delete c
  | case3 x y x' s y' t exchanged single deleted inserted both neighbours =>
    obtain ⟨rfl, rfl⟩ := exchanged
    exact (deleted.cheapest inserted both).min (neighbours.exchange _ _)
  | case4 x y x' s y' t other single deleted inserted both =>
    exact deleted.cheapest inserted both
  | case5 x s y t single other deleted inserted both =>
    exact deleted.cheapest inserted both

/-- No script has fewer edits. -/
theorem alignment_le {s t : List Char} {n : Nat} (h : Edits s t n) : alignment s t ≤ n := by
  induction h with
  | nil => exact Nat.le_of_eq (alignment_nil_left [])
  | @keep c s t n h ih =>
    have := alignment_both_le c c s t
    rw [if_pos rfl] at this
    exact this.trans ih
  | delete c h ih => exact (alignment_cons_left_le c _ _).trans (Nat.succ_le_succ ih)
  | insert c h ih => exact (alignment_cons_right_le c _ _).trans (Nat.succ_le_succ ih)
  | @replace c d s t n h ih =>
    have := alignment_both_le c d s t
    split at this <;> omega
  | exchange c d h ih => exact (alignment_exchange_le c d _ _).trans (Nat.succ_le_succ ih)

theorem isLeast_alignment (s t : List Char) : IsLeast {n | Edits s t n} (alignment s t) :=
  ⟨edits_alignment s t, fun _ h => alignment_le h⟩

theorem alignment_comm (s t : List Char) : alignment s t = alignment t s :=
  Nat.le_antisymm (alignment_le (edits_alignment t s).symm)
    (alignment_le (edits_alignment s t).symm)

theorem alignment_reverse (s t : List Char) :
    alignment s.reverse t.reverse = alignment s t := by
  have le (s t : List Char) : alignment s.reverse t.reverse ≤ alignment s t :=
    alignment_le (edits_alignment s t).reverse
  have back := le s.reverse t.reverse
  rw [List.reverse_reverse, List.reverse_reverse] at back
  exact Nat.le_antisymm (le s t) back

theorem alignment_eq_zero_iff {s t : List Char} : alignment s t = 0 ↔ s = t := by
  constructor
  · intro zero
    exact (zero ▸ edits_alignment s t).eq_of_zero
  · rintro rfl
    exact Nat.le_zero.1 (alignment_le (.refl s))

theorem alignment_le_max (s t : List Char) : alignment s t ≤ max s.length t.length := by
  obtain ⟨n, le, h⟩ := Edits.exists_le_max s t
  exact (alignment_le h).trans le

/-! ## Beginnings of words -/

/-- The least number of edits between the first `i` letters of a word and the first `j` of
another. -/
def frontDistance (s t : List Char) (i j : Nat) : Nat :=
  alignment (s.take i) (t.take j)

section

variable {s t : List Char} {i j : Nat}

theorem frontDistance_zero_left (hj : j ≤ t.length) : frontDistance s t 0 j = j := by
  rw [frontDistance, List.take_zero, alignment_nil_left, List.length_take, Nat.min_eq_left hj]

theorem frontDistance_zero_right (hi : i ≤ s.length) : frontDistance s t i 0 = i := by
  rw [frontDistance, List.take_zero, alignment_nil_right, List.length_take, Nat.min_eq_left hi]

theorem frontDistance_length (s t : List Char) :
    frontDistance s t s.length t.length = alignment s t := by
  rw [frontDistance, List.take_length, List.take_length]

theorem frontDistance_eq_reverse (s t : List Char) (i j : Nat) :
    frontDistance s t i j = alignment (s.take i).reverse (t.take j).reverse :=
  (alignment_reverse _ _).symm

theorem reverse_take_succ (hi : i < s.length) :
    (s.take (i + 1)).reverse = s[i] :: (s.take i).reverse := by
  rw [List.take_succ_eq_append_getElem hi, List.reverse_append]
  rfl

theorem frontDistance_succ_of_zero (hi : i < s.length) (hj : j < t.length) (edge : i = 0 ∨ j = 0) :
    frontDistance s t (i + 1) (j + 1) = cheapest s[i] t[j] (frontDistance s t i (j + 1))
      (frontDistance s t (i + 1) j) (frontDistance s t i j) := by
  simp only [frontDistance_eq_reverse, reverse_take_succ hi, reverse_take_succ hj]
  refine alignment_cons_cons_of_nil _ _ _ _ ?_
  rcases edge with rfl | rfl
  · exact .inl rfl
  · exact .inr rfl

theorem frontDistance_succ_succ (hi : i + 1 < s.length) (hj : j + 1 < t.length) :
    frontDistance s t (i + 2) (j + 2) =
      let single := cheapest s[i + 1] t[j + 1] (frontDistance s t (i + 1) (j + 2))
        (frontDistance s t (i + 2) (j + 1)) (frontDistance s t (i + 1) (j + 1))
      if s[i + 1] = t[j] ∧ s[i] = t[j + 1] then min single (frontDistance s t i j + 1)
      else single := by
  simp only [frontDistance_eq_reverse, reverse_take_succ hi, reverse_take_succ hj,
    reverse_take_succ (Nat.lt_of_succ_lt hi), reverse_take_succ (Nat.lt_of_succ_lt hj)]
  exact alignment_cons_cons_cons_cons _ _ _ _ _ _

end

end TableQuery.Text
