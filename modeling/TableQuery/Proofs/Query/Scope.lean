import TableQuery.Proofs.Query.Outcome
import TableQuery.Query.Scope

/-!
# A name means a column

Whatever a name is taken for is one of the columns.

* `mem_of_mem_candidates`: the columns that a name may mean are columns;
* `mem_of_resolve`: so is the one that it means.
-/

namespace TableQuery.Query

theorem mem_of_mem_closest {lower : String} {headers : List String} {header : String}
    (h : header ∈ closest lower headers) : header ∈ headers := by
  rw [closest] at h
  simp only at h
  split at h
  · cases h
  · obtain ⟨scored, hs, rfl⟩ := List.mem_map.1 h
    obtain ⟨found, hf, rfl⟩ := List.mem_map.1 (List.mem_filter.1 (List.mem_filter.1 hs).1).1
    exact hf

namespace Scope

variable {scope : Scope} {name : String}

theorem mem_of_mem_sameLetters {header : String} (h : header ∈ scope.sameLetters name) :
    header ∈ scope.headers :=
  (List.mem_filter.1 h).1

theorem mem_of_mem_candidates {header : String} (h : header ∈ scope.candidates name) :
    header ∈ scope.headers := by
  rw [candidates] at h
  split at h
  · split at h
    · exact mem_of_mem_closest h
    · cases h
  · exact mem_of_mem_sameLetters h

theorem mem_of_resolve {column : String} (h : (scope.resolve name).result = .ok column) :
    column ∈ scope.headers := by
  rw [resolve] at h
  split at h
  · next hn => rwa [← Except.ok.inj h]
  · split at h
    · next header e =>
      have found : header = column := Except.ok.inj h
      have candidate : header ∈ scope.candidates name := e ▸ List.mem_singleton_self header
      rw [← found]
      exact mem_of_mem_candidates candidate
    · cases h

theorem resolve_of_mem (h : name ∈ scope.headers) : scope.resolve name = pure name :=
  if_pos h

end Scope

end TableQuery.Query
