import TableQuery.Proofs.Csv.RoundTrip
import TableQuery.Proofs.Query.Scope

/-!
# Names that only one field has

The columns of a header are named from left to right, each by its field unless an earlier column has
the name. No other field asks for a name that only one field has, but an earlier column may have
been given it as a made-up name, from the position of a blank field or as a name with a number
behind it. Then the name stays with the earlier column, and the column of the field gets a number.
In either case exactly one column has the name.

* `take_headerNames`, `getElem?_headerNames`: the names one by one;
* `trimmed_eq_or_madeUp`: a column has the name of its field or a made-up one;
* `OwnName.exists_goesTo`: the column that has the name;
* `own_name_goes_to_one_column`: the same of a text that is read, and what its rows have under the
  name.
-/

namespace TableQuery.Csv

open Text (trimmed)

/-! ## The names one by one -/

theorem prefix_foldl_nameNext (names record : List String) :
    names <+: record.foldl nameNext names := by
  induction record generalizing names with
  | nil => exact List.prefix_refl names
  | cons field rest ih => exact (List.prefix_append names _).trans (ih _)

theorem headerNames_append (front back : List String) :
    headerNames (front ++ back) = back.foldl nameNext (headerNames front) :=
  List.foldl_append

/-- The names of the first fields do not depend on the fields behind them. -/
theorem prefix_headerNames {front record : List String} (h : front <+: record) :
    headerNames front <+: headerNames record := by
  obtain ⟨back, rfl⟩ := h
  rw [headerNames_append]
  exact prefix_foldl_nameNext _ _

theorem take_headerNames {record : List String} {i : Nat} (h : i ≤ record.length) :
    (headerNames record).take i = headerNames (record.take i) := by
  have length_eq : (headerNames (record.take i)).length = i := by
    rw [length_headerNames, List.length_take, Nat.min_eq_left h]
  have taken := List.prefix_iff_eq_take.1 (prefix_headerNames (List.take_prefix i record))
  rw [length_eq] at taken
  exact taken.symm

theorem length_take_headerNames {record : List String} {i : Nat} (h : i ≤ record.length) :
    ((headerNames record).take i).length = i := by
  rw [List.length_take, length_headerNames, Nat.min_eq_left h]

/-- Each name is made from its field and the names before it. -/
theorem getElem?_headerNames {record : List String} {i : Nat} {field : String}
    (h : record[i]? = some field) :
    (headerNames record)[i]? =
      some (freshName ((headerNames record).take i) (askedName (i + 1) field)) := by
  obtain ⟨hi, e⟩ := List.getElem?_eq_some_iff.1 h
  have length_eq := length_take_headerNames (Nat.le_of_lt hi)
  -- what is named first stays first, so it is enough to look at the step that names this field
  have next : (headerNames record).take (i + 1) = (headerNames record).take i ++
      [freshName ((headerNames record).take i) (askedName (i + 1) field)] := by
    rw [take_headerNames hi, List.take_succ_eq_append_getElem hi, e, headerNames_append,
      ← take_headerNames (Nat.le_of_lt hi)]
    show nameNext _ field = _
    rw [nameNext, length_eq]
  rw [← List.getElem?_take_of_lt (Nat.lt_succ_self i), next,
    List.getElem?_append_right (Nat.le_of_eq length_eq), length_eq, Nat.sub_self]
  rfl

/-! ## Own names -/

/-- The field at the position is the only one that has this name. -/
structure OwnName (record : List String) (i : Nat) (name : String) : Prop where
  ne_empty : name ≠ ""
  field : (record[i]?).map trimmed = some name
  alone : ∀ j, j ≠ i → (record[j]?).map trimmed ≠ some name

/-- A name that the column at the position was given though its field does not have it: the one of
the position, as the field is blank, or one with a number, as an earlier column has the name that
was asked for. -/
inductive MadeUp (record : List String) (j : Nat) : String → Prop
  | generated (blank : (record[j]?).map trimmed = some "") : MadeUp record j (generatedName (j + 1))
  | numbered {field : String} {n : Nat} (found : record[j]? = some field)
      (taken : askedName (j + 1) field ∈ (headerNames record).take j)
      (least : IsLeastFree ((headerNames record).take j) (askedName (j + 1) field) n) :
      MadeUp record j (suffixed (askedName (j + 1) field) n)

section

variable {record : List String} {i j : Nat} {name : String}

theorem exists_suffixed_of_madeUp (h : MadeUp record j name) :
    ∃ base n, name = suffixed base n := by
  cases h with
  | generated => exact ⟨"column", j + 1, rfl⟩
  | numbered found taken least => exact ⟨_, _, rfl⟩

/-- A column has the name of its field or a made-up one. -/
theorem trimmed_eq_or_madeUp (h : (headerNames record)[j]? = some name) :
    (record[j]?).map trimmed = some name ∨ MadeUp record j name := by
  have hj : j < record.length := by
    rw [← length_headerNames]
    exact (List.getElem?_eq_some_iff.1 h).1
  have found := List.getElem?_eq_getElem hj
  have given := getElem?_headerNames found
  rw [h, Option.some.injEq] at given
  by_cases taken : askedName (j + 1) record[j] ∈ (headerNames record).take j
  · obtain ⟨n, e, least⟩ := exists_isLeastFree taken
    rw [given, e]
    exact .inr (.numbered found taken least)
  · rw [freshName_of_not_mem taken, askedName] at given
    split at given
    · next blank =>
      rw [given]
      exact .inr (.generated (by rw [found, Option.map_some, blank]))
    · rw [given, found]
      exact .inl rfl

/-- Where a name goes that only the field at position `i` has: to the column at position `j`. -/
structure GoesTo (record : List String) (i j : Nat) (name : String) : Prop where
  named : (headerNames record)[j]? = some name
  /-- No other column has the name. -/
  only : ∀ k, (headerNames record)[k]? = some name → k = j
  le : j ≤ i
  /-- An earlier column was given the name before the field was come to. -/
  madeUp : j ≠ i → MadeUp record j name
  /-- Then the column of the field gets a number. -/
  renamed : j ≠ i → ∃ n, (headerNames record)[i]? = some (suffixed name n) ∧
    IsLeastFree ((headerNames record).take i) name n

theorem eq_of_getElem?_headerNames {k : Nat} (hj : (headerNames record)[j]? = some name)
    (hk : (headerNames record)[k]? = some name) : k = j :=
  (List.getElem?_inj (List.getElem?_eq_some_iff.1 hk).1 (nodup_headerNames record)).1
    (hk.trans hj.symm)

/-- A field asks for its own name, and is given it unless the name is taken. -/
theorem OwnName.getElem?_eq (own : OwnName record i name) :
    (headerNames record)[i]? = some (freshName ((headerNames record).take i) name) := by
  obtain ⟨field, found, rfl⟩ := Option.map_eq_some_iff.1 own.field
  rw [getElem?_headerNames found, askedName, if_neg own.ne_empty]

/-- Exactly one column has the own name of a field: that of the field, unless an earlier one was
given it. -/
theorem OwnName.exists_goesTo (own : OwnName record i name) : ∃ j, GoesTo record i j name := by
  have given := own.getElem?_eq
  by_cases taken : name ∈ (headerNames record).take i
  · obtain ⟨j, hj⟩ := List.mem_iff_getElem?.1 taken
    obtain ⟨lt, hj⟩ : j < i ∧ (headerNames record)[j]? = some name := by
      rwa [List.getElem?_take, Option.ite_none_right_eq_some] at hj
    obtain ⟨n, e, least⟩ := exists_isLeastFree taken
    rw [e] at given
    exact ⟨j, {
      named := hj
      only := fun _ hk => eq_of_getElem?_headerNames hj hk
      le := Nat.le_of_lt lt
      madeUp := fun ne => (trimmed_eq_or_madeUp hj).resolve_left (own.alone j ne)
      renamed := fun _ => ⟨n, given, least⟩ }⟩
  · rw [freshName_of_not_mem taken] at given
    exact ⟨i, {
      named := given
      only := fun _ hk => eq_of_getElem?_headerNames given hk
      le := Nat.le_refl i
      madeUp := fun ne => absurd rfl ne
      renamed := fun ne => absurd rfl ne }⟩

/-- What does not end in an underscore and a number is never made up. -/
theorem GoesTo.eq_of_ne_suffixed (h : GoesTo record i j name)
    (unnumbered : ∀ base n, name ≠ suffixed base n) : j = i := by
  by_contra ne
  obtain ⟨base, n, e⟩ := exists_suffixed_of_madeUp (h.madeUp ne)
  exact unnumbered base n e

end

/-- A name that only one field of a header has is the name of exactly one column of the table that
is read, and means it. This is the column of the field, unless an earlier column was given the name
as a made-up one. No name is made up that does not end in an underscore and a number. -/
theorem own_name_goes_to_one_column {codec : Codec} {text : String} {first : List String}
    {rest : List (List String)} (read : codec.readRecords text = .ok (first :: rest))
    (header : codec.takesHeader first = true) :
    ∃ table, codec.decode text = .ok table ∧ table.headers = headerNames first ∧
      ∀ i name, OwnName first i name → ∃ j, GoesTo first i j name ∧
        ((∀ base n, name ≠ suffixed base n) → j = i) ∧
        (∀ tableRef fuzzy, Query.Scope.resolve ⟨table.headers, tableRef, fuzzy⟩ name = pure name) ∧
        table.rows.map (·.cell name) = rest.map fun record => Cell.infer (record.getD j "") := by
  refine ⟨_, Codec.decode_of_readRecords read, ?_⟩
  rw [Codec.tableOfRecords_of_header header]
  refine ⟨rfl, fun i name own => ?_⟩
  obtain ⟨j, goes⟩ := own.exists_goesTo
  obtain ⟨hj, e⟩ := List.getElem?_eq_some_iff.1 goes.named
  refine ⟨j, goes, goes.eq_of_ne_suffixed, fun tableRef fuzzy =>
    Query.Scope.resolve_of_mem (List.mem_of_getElem? goes.named), ?_⟩
  rw [List.map_map]
  refine List.map_congr_left fun record _ => ?_
  rw [Function.comp_apply, ← e, Codec.cell_rowOfRecord (nodup_headerNames first) hj]

/-- A name that a blank field before it was given, and one that stays with its field. -/
theorem own_name_goes_to_one_column_blank : ∃ table,
    Codec.decode ⟨0x2C, .detect⟩ ",column_1,id\n1,2,3\n4,5\n" = .ok table ∧
    table.headers = ["column_1", "column_1_2", "id"] ∧
    GoesTo ["", "column_1", "id"] 1 0 "column_1" ∧ GoesTo ["", "column_1", "id"] 2 2 "id" ∧
    table.rows.map (·.cell "column_1") = [.int 1, .int 4] ∧
    table.rows.map (·.cell "id") = [.int 3, .null] := by
  have read : Codec.readRecords ⟨0x2C, .detect⟩ ",column_1,id\n1,2,3\n4,5\n" =
      .ok [["", "column_1", "id"], ["1", "2", "3"], ["4", "5"]] := by
    decide +kernel
  have own : OwnName ["", "column_1", "id"] 1 "column_1" := by
    refine ⟨by decide, by decide +kernel, fun j ne => ?_⟩
    rcases j with _ | _ | _ | j
    · decide +kernel
    · exact absurd rfl ne
    · decide +kernel
    · exact nofun
  have id : OwnName ["", "column_1", "id"] 2 "id" := by
    refine ⟨by decide, by decide +kernel, fun j ne => ?_⟩
    rcases j with _ | _ | _ | j
    · decide +kernel
    · decide +kernel
    · exact absurd rfl ne
    · exact nofun
  obtain ⟨table, decoded, headers, goes⟩ := own_name_goes_to_one_column read (by decide +kernel)
  obtain ⟨j, moved, -, -, firsts⟩ := goes 1 "column_1" own
  obtain ⟨k, kept, -, -, thirds⟩ := goes 2 "id" id
  obtain rfl : 0 = j := moved.only 0 (by decide +kernel)
  obtain rfl : 2 = k := kept.only 2 (by decide +kernel)
  refine ⟨table, decoded, headers.trans (by decide +kernel), moved, kept, firsts.trans ?_,
    thirds.trans ?_⟩ <;> decide +kernel

/-- A blank field whose made-up name is the name of the field behind it. -/
theorem not_always_own_name :
    ¬∀ (codec : Codec) (text : String) (first : List String) (rest : List (List String))
        (table : Table), codec.readRecords text = .ok (first :: rest) →
      codec.takesHeader first = true → codec.decode text = .ok table →
      ∀ i name, OwnName first i name → table.headers[i]? = some name := by
  intro always
  have read : Codec.readRecords ⟨0x2C, .detect⟩ ",column_1\n1,2\n" =
      .ok [["", "column_1"], ["1", "2"]] := by
    decide +kernel
  have decoded : Codec.decode ⟨0x2C, .detect⟩ ",column_1\n1,2\n" =
      .ok ⟨["column_1", "column_1_2"], [.ofList [("column_1", .int 1), ("column_1_2", .int 2)]],
        false⟩ := by
    decide +kernel
  have own : OwnName ["", "column_1"] 1 "column_1" := by
    refine ⟨by decide, by decide +kernel, fun j ne => ?_⟩
    rcases j with _ | _ | j
    · decide +kernel
    · exact absurd rfl ne
    · exact nofun
  have kept := always _ _ _ _ _ read (by decide +kernel) decoded 1 "column_1" own
  exact absurd kept (by decide)

end TableQuery.Csv
