import Mathlib.Data.Finset.Sort
import TableQuery.Proofs.Query.Positions

/-!
# Statements in place

A statement can be carried out on the one table that is in memory, step by step: it looks names and
positions up, which may make remarks or fail, and then changes the rows at the positions one after
the other, or takes all rows out and puts some of them back. The positions are put into a set first,
so that a row would be changed once even if its position came twice. What a step has changed stays
changed when a later step fails. Since all that can fail comes before the first change, and the
positions are in increasing order, this comes to the same as `execute`, which makes a new table.

* `InPlace`: steps on the table in memory;
* `InPlace.execute`: a statement, step by step;
* `sort_positions`, `rowsOutside_positions`: what the sets of positions come to;
* `Refines`: the steps do what an outcome says, by one lemma for looking up and one for each end;
* `execute_refines`: the steps of a statement do what `execute` says.
-/

namespace TableQuery.Query

/-- The table in memory and the remarks that were made. -/
structure Memory where
  table : Table
  remarks : List Diagnostic
deriving DecidableEq

/-- Steps on the memory, which keeps what was done to it before an error. -/
abbrev InPlace (α : Type) := ExceptT QueryError (StateM Memory) α

namespace InPlace

/-- What the steps come to on a memory, and the memory that they leave. -/
def run {α : Type} (steps : InPlace α) (memory : Memory) : Except QueryError α × Memory :=
  (ExceptT.run steps).run memory

/-- The table as it is now. -/
def table : InPlace Table := do
  return (← get).table

/-- Looks something up, which changes no row. -/
def look {α : Type} (x : Outcome α) : InPlace α := do
  modify fun m => { m with remarks := m.remarks ++ x.diagnostics }
  liftExcept x.result

/-- Changes the rows. -/
def changeRows (f : List Row → List Row) : InPlace Unit :=
  modify fun m => { m with table := { m.table with rows := f m.table.rows } }

/-- Takes all rows out of the table. -/
def takeRows : InPlace (List Row) := do
  let rows := (← table).rows
  changeRows fun _ => []
  return rows

/-- Sets the cell of a column in one row after the other. -/
def setCells (column : String) (cell : Cell) : List Nat → InPlace Unit
  | [] => pure ()
  | i :: rest => do
    changeRows (·.modify i (·.insert column cell))
    setCells column cell rest

/-- The rows whose positions are not in the set. -/
def rowsOutside (rows : List Row) (matched : Finset Nat) : List Row :=
  (rows.zipIdx.filter fun numbered => numbered.2 ∉ matched).map Prod.fst

section

variable [PatternLibrary]

def select (fuzzy : Bool) (projection : Projection) (tableRef : String) (filter : Option Filter) :
    InPlace Answer := do
  let source ← table
  let scope : Scope := ⟨source.headers, tableRef, fuzzy⟩
  look (noteTableName scope)
  let columns ← look (projection.resolve scope)
  let indices ← look (matchingRows scope filter source.rows)
  let rows := rowsAt source.rows indices
  return .selected columns (if columns = source.headers then rows else rows.map (project columns))

def update (fuzzy : Bool) (tableRef name value : String) (filter : Option Filter) :
    InPlace Answer := do
  let source ← table
  let scope : Scope := ⟨source.headers, tableRef, fuzzy⟩
  let column ← look (scope.resolve name)
  let targets := (← look (matchingRows scope filter source.rows)).toFinset
  setCells column (Cell.infer value) targets.sort
  return .updated column targets.card

def delete (fuzzy : Bool) (tableRef : String) (filter : Option Filter) : InPlace Answer := do
  match filter with
  | none => throw .unsafeDelete
  | some filter =>
    let source ← table
    let indices ← look (matchingRows ⟨source.headers, tableRef, fuzzy⟩ (some filter) source.rows)
    let matched := indices.toFinset
    let rows ← takeRows
    changeRows fun _ => rowsOutside rows matched
    let left ← table
    return .deleted (source.rows.length - left.rows.length)

/-- Carries out a statement on the table in memory. -/
def execute (fuzzy : Bool) : Statement → InPlace Answer
  | .select projection tableRef filter => select fuzzy projection tableRef filter
  | .update tableRef name value filter => update fuzzy tableRef name value filter
  | .delete tableRef filter => delete fuzzy tableRef filter

end

/-! ## Steps one by one -/

section

variable {α β : Type} {x : Outcome α} {memory : Memory}

theorem run_look_bind_of_ok {a : α} (h : x.result = .ok a) (f : α → InPlace β) :
    (look x >>= f).run memory =
      (f a).run { memory with remarks := memory.remarks ++ x.diagnostics } := by
  rw [look, h]
  rfl

theorem run_look_bind_of_error {e : QueryError} (h : x.result = .error e) (f : α → InPlace β) :
    (look x >>= f).run memory =
      (.error e, { memory with remarks := memory.remarks ++ x.diagnostics }) := by
  rw [look, h]
  rfl

end

/-- The rows with the cell of a column set in one of them after the other. -/
def withCells (column : String) (cell : Cell) (indices : List Nat) (rows : List Row) : List Row :=
  indices.foldl (fun rows i => rows.modify i (·.insert column cell)) rows

theorem run_setCells_bind {α : Type} (column : String) (cell : Cell) (indices : List Nat)
    (f : Unit → InPlace α) (t : Table) (remarks : List Diagnostic) :
    (setCells column cell indices >>= f).run ⟨t, remarks⟩ =
      (f ()).run ⟨{ t with rows := withCells column cell indices t.rows }, remarks⟩ := by
  induction indices generalizing t with
  | nil => rfl
  | cons i rest ih => exact ih _

/-- Positions in order are set once each, so the order of the steps does not matter. -/
theorem getElem?_withCells {column : String} {cell : Cell} {indices : List Nat}
    (distinct : indices.Pairwise (· < ·)) (rows : List Row) (j : Nat) :
    (withCells column cell indices rows)[j]? =
      if j ∈ indices then rows[j]?.map (·.insert column cell) else rows[j]? := by
  induction indices generalizing rows with
  | nil => rfl
  | cons i rest ih =>
    obtain ⟨first, distinct⟩ := List.pairwise_cons.1 distinct
    rw [withCells, List.foldl_cons, ← withCells, ih distinct, List.getElem?_modify]
    by_cases e : i = j
    · -- The row is set in this step, and no later position is its own.
      subst e
      have once : i ∉ rest := fun hm => Nat.lt_irrefl i (first i hm)
      rw [if_neg once, if_pos List.mem_cons_self]
      cases rows[i]? with
      | none => rfl
      | some row => exact congrArg some (if_pos rfl)
    · have later : j ∈ i :: rest ↔ j ∈ rest :=
        List.mem_cons.trans ⟨fun h => h.resolve_left (Ne.symm e), .inr⟩
      have same : (fun row : Row => if i = j then row.insert column cell else row) <$> rows[j]? =
          rows[j]? := by
        cases rows[j]? with
        | none => rfl
        | some row => exact congrArg some (if_neg e)
      rw [same, if_congr later rfl rfl]

theorem withCells_positions (test : Row → Bool) (column : String) (cell : Cell) (rows : List Row) :
    withCells column cell (positions test rows) rows = rows.map (assign test column cell) := by
  refine List.ext_getElem? fun j => ?_
  rw [getElem?_withCells (pairwise_positions test rows), List.getElem?_map]
  cases h : rows[j]? with
  | none => exact ite_self _
  | some row =>
    have passes : j ∈ positions test rows ↔ test row = true := by
      rw [mem_positions, h]
      simp
    rw [if_congr passes rfl rfl, Option.map_some, Option.map_some, assign]
    split <;> rfl

/-! ## Sets of positions -/

section

variable (test : Row → Bool) (rows : List Row)

theorem nodup_positions : (positions test rows).Nodup :=
  (pairwise_positions test rows).nodup

/-- The set of the positions, taken in order, gives them back. -/
theorem sort_positions : (positions test rows).toFinset.sort = positions test rows :=
  (List.toFinset_sort (· ≤ ·) (nodup_positions test rows)).2
    ((pairwise_positions test rows).imp Nat.le_of_lt)

theorem card_positions : (positions test rows).toFinset.card = rows.countP test := by
  rw [List.toFinset_card_of_nodup (nodup_positions test rows), length_positions]

/-- Outside the positions of a test are the rows that do not pass it. -/
theorem rowsOutside_positions :
    rowsOutside rows (positions test rows).toFinset = rows.filter (!test ·) := by
  have outside : ∀ numbered ∈ rows.zipIdx,
      decide (numbered.2 ∉ (positions test rows).toFinset) = !test numbered.1 := by
    rintro ⟨row, i⟩ hm
    have placed := List.mk_mem_zipIdx_iff_getElem?.1 hm
    simp [mem_positions, placed]
  calc rowsOutside rows (positions test rows).toFinset
      = (rows.zipIdx.filter ((!test ·) ∘ Prod.fst)).map Prod.fst := by
        rw [rowsOutside, List.filter_congr outside]
        rfl
    _ = (rows.zipIdx.map Prod.fst).filter (!test ·) := List.filter_map.symm
    _ = rows.filter (!test ·) := by rw [List.zipIdx_map_fst]

end

end InPlace

/-! ## The steps of a statement -/

/-- From the table the steps come to the answer, the remarks and the table of the outcome. -/
def Refines (table : Table) (steps : InPlace Answer) (outcome : Outcome (Answer × Table)) : Prop :=
  ∀ remarks, steps.run ⟨table, remarks⟩ =
    (outcome.result.map Prod.fst, ⟨tableAfter table outcome, remarks ++ outcome.diagnostics⟩)

section

variable {α β : Type} {t : Table}

/-- Looking something up comes to an error, or goes on from the same table. -/
theorem Refines.look_map {x : Outcome α} (h : α → β) {f : β → InPlace Answer}
    {g : α → Outcome (Answer × Table)} (hf : ∀ a, x.result = .ok a → Refines t (f (h a)) (g a)) :
    Refines t (InPlace.look (h <$> x) >>= f) (x >>= g) := by
  intro remarks
  cases hx : x.result with
  | error e =>
    have mapped := Outcome.map_of_error hx h
    rw [InPlace.run_look_bind_of_error (by rw [mapped]), mapped, Outcome.bind_of_error hx]
    rfl
  | ok a =>
    have mapped := Outcome.map_of_ok hx h
    rw [InPlace.run_look_bind_of_ok (by rw [mapped]), mapped, Outcome.bind_of_ok hx]
    refine (hf a hx _).trans ?_
    rw [List.append_assoc]
    rfl

theorem Refines.look {x : Outcome α} {f : α → InPlace Answer} {g : α → Outcome (Answer × Table)}
    (hf : ∀ a, x.result = .ok a → Refines t (f a) (g a)) :
    Refines t (InPlace.look x >>= f) (x >>= g) := by
  have looked := Refines.look_map id hf
  rwa [id_map] at looked

theorem Refines.table {f : Table → InPlace Answer} {outcome : Outcome (Answer × Table)}
    (h : Refines t (f t) outcome) : Refines t (InPlace.table >>= f) outcome :=
  h

/-- The last steps: the table is what the outcome says, and nothing is remarked. -/
theorem Refines.of_run {steps : InPlace Answer} {answer : Answer} {after : Table}
    (h : ∀ remarks, steps.run ⟨t, remarks⟩ = (.ok answer, ⟨after, remarks⟩)) :
    Refines t steps (pure (answer, after)) := by
  intro remarks
  rw [h, Outcome.diagnostics_pure, List.append_nil]
  rfl

/-- The rows that are missing are those that pass. -/
theorem length_sub_length_filter_not (test : Row → Bool) (rows : List Row) :
    rows.length - (rows.filter (!test ·)).length = rows.countP test := by
  have parts := Plan.length_filter_not test rows
  omega

variable [PatternLibrary]

theorem refines_select (fuzzy : Bool) (projection : Projection) (tableRef : String)
    (filter : Option Filter) : Refines t (InPlace.select fuzzy projection tableRef filter)
      (execute fuzzy t (.select projection tableRef filter)) := by
  rw [InPlace.select, execute, select]
  refine Refines.table ?_
  refine Refines.look fun _ _ => ?_
  refine Refines.look fun columns _ => ?_
  refine Refines.look_map (positions · t.rows) fun test _ => ?_
  rw [rowsAt_positions]
  exact Refines.of_run fun _ => rfl

theorem refines_update (fuzzy : Bool) (tableRef name value : String) (filter : Option Filter) :
    Refines t (InPlace.update fuzzy tableRef name value filter)
      (execute fuzzy t (.update tableRef name value filter)) := by
  rw [InPlace.update, execute, update]
  refine Refines.table ?_
  refine Refines.look fun column _ => ?_
  refine Refines.look_map (positions · t.rows) fun test _ => ?_
  refine Refines.of_run fun remarks => ?_
  rw [InPlace.run_setCells_bind, InPlace.sort_positions, InPlace.withCells_positions,
    InPlace.card_positions]
  rfl

theorem refines_delete (fuzzy : Bool) (tableRef : String) (filter : Option Filter) :
    Refines t (InPlace.delete fuzzy tableRef filter)
      (execute fuzzy t (.delete tableRef filter)) := by
  cases filter with
  | none =>
    intro remarks
    show (_, Memory.mk t remarks) = (_, Memory.mk t (remarks ++ []))
    rw [List.append_nil]
    rfl
  | some filter =>
    rw [InPlace.delete, execute, delete]
    refine Refines.table ?_
    refine Refines.look_map (positions · t.rows) fun test _ => ?_
    refine Refines.of_run fun remarks => ?_
    -- The steps count what is missing, the outcome counts what passes.
    show (Except.ok (Answer.deleted (t.rows.length -
      (InPlace.rowsOutside t.rows (positions test t.rows).toFinset).length)), Memory.mk ⟨t.headers,
        InPlace.rowsOutside t.rows (positions test t.rows).toFinset, t.synthetic⟩ remarks) = _
    rw [InPlace.rowsOutside_positions, length_sub_length_filter_not]

/-- The steps of a statement on the table in memory do what the statement is to do. -/
theorem execute_refines (fuzzy : Bool) (t : Table) (s : Statement) :
    Refines t (InPlace.execute fuzzy s) (execute fuzzy t s) := by
  cases s with
  | select projection tableRef filter => exact refines_select fuzzy projection tableRef filter
  | update tableRef name value filter => exact refines_update fuzzy tableRef name value filter
  | delete tableRef filter => exact refines_delete fuzzy tableRef filter

end

end TableQuery.Query
