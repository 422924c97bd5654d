import TableQuery.Query.Outcome

/-!
# Outcomes taken apart

The result and the remarks of steps that follow each other.

* `bind_eq_ok`: two steps without remarks;
* `bind_of_ok`, `bind_of_error`: two steps, by what the first comes to;
* `result_bind_eq_ok`: two steps have a result exactly if both of them have one.
-/

namespace TableQuery.Query

section

variable {ε ε' α β : Type} {x : Except ε α}

theorem bind_eq_ok {f : α → Except ε β} {b : β} :
    x >>= f = .ok b ↔ ∃ a, x = .ok a ∧ f a = .ok b := by
  cases x <;> simp [bind, Except.bind]

theorem mapError_eq_ok {f : ε → ε'} {a : α} : x.mapError f = .ok a ↔ x = .ok a := by
  cases x with
  | error e => exact iff_of_false (fun h => by cases h) (fun h => by cases h)
  | ok b =>
    show Except.ok b = .ok a ↔ Except.ok b = .ok a
    rw [Except.ok.injEq, Except.ok.injEq]

end

namespace Outcome

variable {α β : Type}

@[simp] theorem result_pure (a : α) : (pure a : Outcome α).result = .ok a := rfl
@[simp] theorem result_note (d : Diagnostic) : (note d).result = .ok () := rfl
@[simp] theorem result_ofExcept (r : Except QueryError α) : (ofExcept r).result = r := rfl
@[simp] theorem diagnostics_pure (a : α) : (pure a : Outcome α).diagnostics = [] := rfl

theorem bind_of_error {x : Outcome α} {e : QueryError} (h : x.result = .error e)
    (f : α → Outcome β) : x >>= f = ⟨x.diagnostics, .error e⟩ := by
  show Outcome.bind x f = _
  rw [Outcome.bind, h]

theorem bind_of_ok {x : Outcome α} {a : α} (h : x.result = .ok a) (f : α → Outcome β) :
    x >>= f = ⟨x.diagnostics ++ (f a).diagnostics, (f a).result⟩ := by
  show Outcome.bind x f = _
  rw [Outcome.bind, h]

theorem result_bind (x : Outcome α) (f : α → Outcome β) :
    (x >>= f).result = x.result >>= fun a => (f a).result := by
  cases h : x.result with
  | error e => rw [bind_of_error h]; rfl
  | ok a => rw [bind_of_ok h]; rfl

theorem result_bind_eq_ok {x : Outcome α} {f : α → Outcome β} {b : β} :
    (x >>= f).result = .ok b ↔ ∃ a, x.result = .ok a ∧ (f a).result = .ok b := by
  cases h : x.result with
  | error e => simp [bind_of_error h]
  | ok a => simp [bind_of_ok h]

theorem map_of_ok {x : Outcome α} {a : α} (h : x.result = .ok a) (f : α → β) :
    f <$> x = ⟨x.diagnostics, .ok (f a)⟩ := by
  rw [map_eq_pure_bind, bind_of_ok h]
  exact congrArg (Outcome.mk · _) (List.append_nil _)

theorem map_of_error {x : Outcome α} {e : QueryError} (h : x.result = .error e) (f : α → β) :
    f <$> x = ⟨x.diagnostics, .error e⟩ := by
  rw [map_eq_pure_bind, bind_of_error h]

theorem result_map_eq_ok {x : Outcome α} {f : α → β} {b : β} :
    (f <$> x).result = .ok b ↔ ∃ a, x.result = .ok a ∧ f a = b := by
  rw [map_eq_pure_bind, result_bind_eq_ok]
  simp only [result_pure, Except.ok.injEq]

end Outcome

end TableQuery.Query
