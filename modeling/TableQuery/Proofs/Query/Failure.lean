import TableQuery.Proofs.Query.Scope
import TableQuery.Query.Execution

/-!
# How statements fail

What can go wrong when a statement is carried out, and what is remarked on the way. Looking a name
up fails only for want of a column, and remarks on names only. A condition can fail besides because
its pattern is too large, and a deletion because it has no condition. Nothing else fails: a clause
that could not be read and an operator that is not known are remarked on.

* `LooksUp`: a step that looks names up, and its closure under steps that follow each other;
* `looksUp_resolve`, `looksUp_projection`: names of columns;
* `rowTest_eq_error`, `execute_eq_error`: the errors of conditions and of statements.
-/

namespace TableQuery.Query

/-- A column is missing. -/
def QueryError.IsColumnNotFound : QueryError → Prop
  | columnNotFound .. => True
  | _ => False

/-- Is the remark on a name: on one that stands for another, on that of the table or on one that is
repeated? -/
def Diagnostic.isOnNames : Diagnostic → Bool
  | columnReplaced .. => true
  | tableNamedLikeColumn _ => true
  | columnRepeated _ => true
  | clauseIgnored .. => false
  | operatorIgnored _ => false

namespace Outcome

variable {α β : Type} {x : Outcome α} {f : α → Outcome β}

theorem result_bind_eq_error {e : QueryError} : (x >>= f).result = .error e ↔
    x.result = .error e ∨ ∃ a, x.result = .ok a ∧ (f a).result = .error e := by
  cases h : x.result with
  | error e' => simp [bind_of_error h]
  | ok a => simp [bind_of_ok h]

/-- A step that looks names up: it fails only for want of a column, and remarks on names only. -/
structure LooksUp (x : Outcome α) : Prop where
  fails : ∀ e, x.result = .error e → e.IsColumnNotFound
  remarks : ∀ d ∈ x.diagnostics, d.isOnNames = true

theorem looksUp_pure (a : α) : (pure a : Outcome α).LooksUp :=
  ⟨fun _ h => (by cases h), fun _ h => absurd h List.not_mem_nil⟩

theorem looksUp_note {d : Diagnostic} (h : d.isOnNames = true) : (note d).LooksUp :=
  ⟨fun _ h => (by cases h), fun _ hd => List.mem_singleton.1 hd ▸ h⟩

theorem LooksUp.bind (hx : x.LooksUp) (hf : ∀ a, (f a).LooksUp) : (x >>= f).LooksUp := by
  cases h : x.result with
  | error e =>
    rw [bind_of_error h]
    refine ⟨fun e' he => ?_, hx.remarks⟩
    obtain rfl := Except.error.inj he
    exact hx.fails e h
  | ok a =>
    rw [bind_of_ok h]
    exact ⟨(hf a).fails, fun d hd =>
      (List.mem_append.1 hd).elim (hx.remarks d) ((hf a).remarks d)⟩

end Outcome

open Outcome (LooksUp)

section

variable {scope : Scope} {e : QueryError}

/-! ## Names -/

theorem looksUp_resolve (scope : Scope) (name : String) : (scope.resolve name).LooksUp := by
  unfold Scope.resolve
  split
  · exact Outcome.looksUp_pure _
  split
  · exact (Outcome.looksUp_note rfl).bind fun _ => Outcome.looksUp_pure _
  · refine ⟨fun e he => ?_, nofun⟩
    obtain rfl := Except.error.inj he
    exact trivial

theorem looksUp_chooseColumns (scope : Scope) (chosen names : List String) :
    (chooseColumns scope chosen names).LooksUp := by
  induction names generalizing chosen with
  | nil => exact Outcome.looksUp_pure _
  | cons name rest ih =>
    refine (looksUp_resolve scope name).bind fun column => ?_
    split
    · exact (Outcome.looksUp_note rfl).bind fun _ => ih chosen
    · exact ih (chosen ++ [column])

theorem looksUp_projection (scope : Scope) (projection : Projection) :
    (projection.resolve scope).LooksUp := by
  cases projection with
  | all => exact Outcome.looksUp_pure _
  | columns names => exact looksUp_chooseColumns scope [] names

theorem looksUp_noteTableName (scope : Scope) : (noteTableName scope).LooksUp := by
  unfold noteTableName
  split
  · exact Outcome.looksUp_note rfl
  · exact Outcome.looksUp_pure _

/-! ## Conditions and statements -/

variable [PatternLibrary]

theorem cellTest_eq_error {p : Predicate} (h : p.cellTest.result = .error e) :
    e = .patternTooLarge := by
  unfold Predicate.cellTest at h
  split at h
  · rw [Outcome.result_bind_eq_error] at h
    rcases h with h | ⟨_, -, h⟩
    · rw [Outcome.result_ofExcept, Pattern.ofString] at h
      split at h
      · exact (Except.error.inj h).symm
      · cases h
    · cases h
  · cases h
  · cases h
  · cases h

/-- A condition fails only for want of a column or because its pattern is too large. -/
theorem rowTest_eq_error {filter : Option Filter} (h : (rowTest scope filter).result = .error e) :
    e.IsColumnNotFound ∨ e = .patternTooLarge := by
  unfold rowTest at h
  split at h
  · cases h
  · cases h
  · next filter readable =>
    cases filter with
    | invalid clause reason => exact absurd rfl (readable clause reason)
    | predicate p =>
      simp only [Filter.rowTest, Outcome.result_bind_eq_error] at h
      rcases h with missing | ⟨_, -, large | ⟨_, -, h⟩⟩
      · exact .inl ((looksUp_resolve scope _).fails e missing)
      · exact .inr (cellTest_eq_error large)
      · cases h

/-- The errors of statements that are carried out. -/
theorem execute_eq_error {fuzzy : Bool} {table : Table} {s : Statement}
    (h : (execute fuzzy table s).result = .error e) :
    e.IsColumnNotFound ∨ e = .patternTooLarge ∨ e = .unsafeDelete := by
  have of_test : e.IsColumnNotFound ∨ e = .patternTooLarge →
      e.IsColumnNotFound ∨ e = .patternTooLarge ∨ e = .unsafeDelete :=
    fun h => h.imp_right .inl
  cases s with
  | select projection tableRef filter =>
    simp only [execute, Query.select, Outcome.result_bind_eq_error] at h
    rcases h with h | ⟨_, -, h | ⟨_, -, h | ⟨_, -, h⟩⟩⟩
    · exact .inl ((looksUp_noteTableName _).fails e h)
    · exact .inl ((looksUp_projection _ _).fails e h)
    · exact of_test (rowTest_eq_error h)
    · cases h
  | update tableRef name value filter =>
    simp only [execute, Query.update, Outcome.result_bind_eq_error] at h
    rcases h with h | ⟨_, -, h | ⟨_, -, h⟩⟩
    · exact .inl ((looksUp_resolve _ _).fails e h)
    · exact of_test (rowTest_eq_error h)
    · cases h
  | delete tableRef filter =>
    cases filter with
    | none => exact .inr (.inr (Except.error.inj h).symm)
    | some filter =>
      simp only [execute, Query.delete, Outcome.result_bind_eq_error] at h
      rcases h with h | ⟨_, -, h⟩
      · exact of_test (rowTest_eq_error h)
      · cases h

end

end TableQuery.Query
