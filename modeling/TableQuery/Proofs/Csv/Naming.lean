import Mathlib.Logic.Function.Iterate
import TableQuery.Proofs.Csv.OwnName

/-!
# The search for a free name ends

A column is given the name that its field asks for, or this name with the first number from two on
with which no column before it has it. The numbers are tried one after the other. The names tried
are distinct, so that not more of them can be taken than there are columns before, and the search
comes to an end.

* `tried`, `tried_injective`: the names that are tried;
* `Search`, `Search.rounds_le`: a search up to its end, and how long it takes;
* `search_freshName`: the name that the search ends with;
* `naming_gives_distinct_names`: what the names of a header are like.
-/

namespace TableQuery.Csv

open Text (trimmed)

/-- One round of a search: the name with a number is tried next, and the number is counted up. -/
def tryNext (base : String) (state : String × Nat) : String × Nat :=
  (suffixed base state.2, state.2 + 1)

/-- The name that is tried after so many rounds. -/
def tried (base : String) (rounds : Nat) : String :=
  ((tryNext base)^[rounds] (base, 2)).1

/-- A search goes on as long as the name that is tried is taken, and ends with a free one. -/
structure Search (taken : List String) (base : String) (rounds : Nat) (name : String) : Prop where
  name_eq : tried base rounds = name
  free : name ∉ taken
  taken_of_lt : ∀ m < rounds, tried base m ∈ taken

/-! ## The names that are tried -/

section

variable {base : String}

theorem iterate_tryNext (base : String) (rounds : Nat) :
    (tryNext base)^[rounds + 1] (base, 2) = (suffixed base (rounds + 2), rounds + 3) := by
  induction rounds with
  | zero => rfl
  | succ rounds ih => rw [Function.iterate_succ_apply', ih, tryNext]

theorem tried_succ (base : String) (rounds : Nat) :
    tried base (rounds + 1) = suffixed base (rounds + 2) :=
  congrArg Prod.fst (iterate_tryNext base rounds)

theorem suffixed_ne_self (base : String) (n : Nat) : suffixed base n ≠ base := by
  intro e
  rw [suffixed, String.append_assoc, ← String.toList_inj, String.toList_append] at e
  have none := List.append_right_eq_self.1 e
  rw [String.toList_append] at none
  cases none

theorem tried_injective (base : String) : Function.Injective (tried base) := by
  rintro (_ | m) (_ | n) e
  · rfl
  · rw [tried_succ] at e
    exact absurd e.symm (suffixed_ne_self base _)
  · rw [tried_succ] at e
    exact absurd e (suffixed_ne_self base _)
  · rw [tried_succ, tried_succ] at e
    exact congrArg (· - 1) (suffixed_injective base e)

end

/-! ## Searches -/

section

variable {taken : List String} {base name name' : String} {rounds rounds' : Nat}

/-- All the names tried before the last one are taken, and they are distinct. -/
theorem Search.rounds_le (h : Search taken base rounds name) : rounds ≤ taken.length := by
  have distinct : ((List.range rounds).map (tried base)).Nodup :=
    List.nodup_range.map (tried_injective base)
  have fits := distinct.length_le_of_subset fun other mem => by
    obtain ⟨m, lt, rfl⟩ := List.mem_map.1 mem
    exact h.taken_of_lt m (List.mem_range.1 lt)
  rwa [List.length_map, List.length_range] at fits

theorem Search.unique (h : Search taken base rounds name) (h' : Search taken base rounds' name') :
    rounds' = rounds ∧ name' = name := by
  have le {m n : Nat} {a b : String} (hm : Search taken base m a) (hn : Search taken base n b) :
      m ≤ n := Nat.le_of_not_lt fun lt => hn.free (hn.name_eq ▸ hm.taken_of_lt n lt)
  obtain rfl := Nat.le_antisymm (le h' h) (le h h')
  exact ⟨rfl, h'.name_eq.symm.trans h.name_eq⟩

/-- The search for a free name ends. -/
theorem search_freshName (taken : List String) (base : String) :
    ∃ rounds, Search taken base rounds (freshName taken base) := by
  by_cases h : base ∈ taken
  · obtain ⟨n, e, two_le, free, taken_of_lt⟩ := exists_isLeastFree h
    obtain ⟨n, rfl⟩ := Nat.exists_eq_add_of_le' two_le
    refine ⟨n + 1, ?_, e ▸ free, fun m lt => ?_⟩
    · rw [tried_succ, e]
    · cases m with
      | zero => exact h
      | succ m => rw [tried_succ]; exact taken_of_lt (m + 2) (by omega) (by omega)
  · refine ⟨0, (freshName_of_not_mem h).symm, freshName_not_mem taken base, nofun⟩

end

/-- The search for the name of each column ends, in one way, after no more rounds than there are
columns before it. The names are as many as the fields, distinct, not empty and trimmed. A field
that is not blank keeps its text if no column before it has this name, and names are named as
themselves. -/
theorem naming_gives_distinct_names (record : List String) :
    (∀ i field, record[i]? = some field → ∃ name rounds, rounds ≤ i ∧
        (headerNames record)[i]? = some name ∧
        Search ((headerNames record).take i) (askedName (i + 1) field) rounds name ∧
        ∀ name' rounds',
          Search ((headerNames record).take i) (askedName (i + 1) field) rounds' name' →
            rounds' = rounds ∧ name' = name) ∧
      (headerNames record).length = record.length ∧
      (headerNames record).Nodup ∧
      (∀ name ∈ headerNames record, name ≠ "" ∧ trimmed name = name) ∧
      (∀ i field, record[i]? = some field → trimmed field ≠ "" →
        trimmed field ∉ (headerNames record).take i →
          (headerNames record)[i]? = some (trimmed field)) ∧
      headerNames (headerNames record) = headerNames record := by
  refine ⟨fun i field found => ?_, length_headerNames record, nodup_headerNames record,
    fun name hn => ?_, fun i field found visible free => ?_, headerNames_headerNames record⟩
  · obtain ⟨rounds, search⟩ :=
      search_freshName ((headerNames record).take i) (askedName (i + 1) field)
    refine ⟨_, rounds, ?_, getElem?_headerNames found, search, fun _ _ => search.unique⟩
    exact Nat.le_trans search.rounds_le (List.length_take_le _ _)
  · obtain ⟨ne_empty, trimmed_eq⟩ := isName_of_mem_headerNames hn
    exact ⟨ne_empty, trimmed_eq⟩
  · have asked : askedName (i + 1) field = trimmed field := if_neg visible
    rw [getElem?_headerNames found, asked, freshName_of_not_mem free]

/-- A name that looks as if it had been given a number, and one that is free only with a three. -/
theorem naming_gives_distinct_names_numbered :
    headerNames [" id", "", "id_2 ", "id"] = ["id", "column_2", "id_2", "id_3"] ∧
      (∃ rounds, rounds ≤ 3 ∧ Search ["id", "column_2", "id_2"] "id" rounds "id_3") ∧
      trimmed "id_2 " = "id_2" ∧
      (headerNames [" id", "", "id_2 ", "id"])[2]? = some "id_2" := by
  have names : headerNames [" id", "", "id_2 ", "id"] = ["id", "column_2", "id_2", "id_3"] := by
    decide +kernel
  obtain ⟨searches, -, -, -, keeps, -⟩ :=
    naming_gives_distinct_names [" id", "", "id_2 ", "id"]
  obtain ⟨name, rounds, le, given, search, -⟩ := searches 3 "id" rfl
  rw [names] at given search
  obtain rfl : "id_3" = name := Option.some.inj given
  have asked : askedName 4 "id" = "id" := by decide +kernel
  rw [asked] at search
  have trim_eq : trimmed "id_2 " = "id_2" := by decide +kernel
  refine ⟨names, ⟨rounds, le, search⟩, trim_eq, ?_⟩
  rw [keeps 2 "id_2 " rfl (by decide +kernel) (by rw [names]; decide +kernel), trim_eq]

end TableQuery.Csv
