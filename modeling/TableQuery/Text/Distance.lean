/-!
# The distance of two words

The optimal string alignment distance: the least number of insertions, deletions, replacements and
exchanges of neighbours that turn one word into the other, where no part is edited twice.

* `alignment`: the distance, by recursion on the two words;
* `distance`: the same, one row of distances after the other.
-/

namespace TableQuery.Text

/-- The least number of edits, by what becomes of the first letters. -/
def alignment : List Char → List Char → Nat
  | [], t => t.length
  | s, [] => s.length
  | x :: s, y :: t =>
    let single := min (min (alignment s (y :: t) + 1) (alignment (x :: s) t + 1))
      (alignment s t + if x = y then 0 else 1)
    match s, t with
    | x' :: s', y' :: t' => if x = y' ∧ x' = y then min single (alignment s' t' + 1) else single
    | _, _ => single
termination_by s t => s.length + t.length

/-- The distances from a word to all endings of another, the longest ending first, together with
the same row for the word without its first letter. -/
structure Rows where
  current : List Nat
  previous : List Nat

/-- The distances from a word that begins with `x` to all endings of `t`, from the rows of the word
without `x`, whose first letter is `next`. -/
def extendRow (x : Char) (next : Option Char) : List Char → (below twoBelow : List Nat) → List Nat
  | y :: t, d :: below, twoBelow =>
    let row := extendRow x next t below twoBelow.tail
    let single := min (min (d + 1) (row.headD 0 + 1)) (below.headD 0 + if x = y then 0 else 1)
    let best :=
      match t with
      | y' :: _ =>
        if x = y' ∧ next = some y then min single ((twoBelow.drop 2).headD 0 + 1) else single
      | [] => single
    best :: row
  | _, below, _ => [below.headD 0 + 1]

/-- The rows of a word against the endings of another. -/
def rows (t : List Char) : List Char → Rows
  | [] => ⟨(List.range (t.length + 1)).reverse, []⟩
  | x :: s =>
    let below := rows t s
    ⟨extendRow x s.head? t below.current below.previous, below.current⟩

/-- The least number of edits that turn the one word into the other. -/
def distance (s t : List Char) : Nat :=
  (rows t s).current.headD 0

end TableQuery.Text
