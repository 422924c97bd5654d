import Mathlib.Data.List.Nodup
import TableQuery.Csv.Header
import TableQuery.Proofs.Cell
import TableQuery.Proofs.Text.Blank

/-!
# The names of columns are distinct and stay

The names that a header gives are distinct, not empty and trimmed. A record with these properties
gives its own fields as names, so naming the columns twice is naming them once. A header that is
recognised by its fields is recognised again by the names that it gave.

* `freshName_not_mem`: a free name is found, for there are more candidates than names taken, and
  `exists_isLeastFree` says which;
* `nodup_headerNames`, `isName_of_mem_headerNames`: what names are like;
* `headerNames_headerNames`: names name themselves;
* `looksLikeHeader_headerNames`: a recognised header gives names that look like a header;
* `looksLikeHeader_map_normalForm`: reading the fields of a record as cells and writing them again
  does not change whether it looks like a header.
-/

namespace TableQuery.Csv

open Text (trim trimmed isBlank)

/-- A text that names a column: not empty, and without blanks at its ends. -/
structure IsName (name : String) : Prop where
  ne_empty : name ≠ ""
  trimmed_eq : trimmed name = name

theorem natText_injective : Function.Injective Number.natText := fun m n e => by
  rw [Number.natText, Number.natText, String.ofList_inj] at e
  rw [← Number.ofDigits_natDigits m, e, Number.ofDigits_natDigits]

theorem generatedName_injective : Function.Injective generatedName := fun m n e => by
  rw [generatedName, generatedName, String.append_right_inj] at e
  exact natText_injective e

theorem suffixed_injective (base : String) : Function.Injective (suffixed base) := fun m n e => by
  rw [suffixed, suffixed, String.append_right_inj] at e
  exact natText_injective e

/-! ## Free names -/

section

variable {taken : List String} {base : String}

theorem freshName_of_not_mem (h : base ∉ taken) : freshName taken base = base :=
  if_neg h

/-- A number that makes a free name of a taken one. The candidates are distinct and one more than
the taken names, so they are not all taken. -/
theorem exists_suffixed_not_mem (taken : List String) (base : String) :
    ∃ k ∈ List.range (taken.length + 1), suffixed base (k + 2) ∉ taken := by
  let candidates := (List.range (taken.length + 1)).map fun k => suffixed base (k + 2)
  have distinct : candidates.Nodup := List.nodup_range.map fun m n e => by
    have := suffixed_injective base e
    omega
  refine Classical.byContradiction fun none => ?_
  have all : ∀ name ∈ candidates, name ∈ taken := fun name h => by
    obtain ⟨k, hk, rfl⟩ := List.mem_map.1 h
    exact Classical.byContradiction fun free => none ⟨k, hk, free⟩
  have fits := distinct.length_le_of_subset all
  simp only [candidates, List.length_map, List.length_range] at fits
  omega

/-- The least number from two on with which the name is free. -/
structure IsLeastFree (taken : List String) (base : String) (n : Nat) : Prop where
  two_le : 2 ≤ n
  free : suffixed base n ∉ taken
  taken_of_lt : ∀ m, 2 ≤ m → m < n → suffixed base m ∈ taken

/-- The numbers before a number of a range are the smaller ones. -/
theorem mem_of_range_eq_append {count k m : Nat} {before behind : List Nat}
    (split : List.range count = before ++ k :: behind) (lt : m < k) : m ∈ before := by
  rw [List.range_eq_range', List.range'_eq_append_iff] at split
  obtain ⟨j, -, rfl, rest⟩ := split
  obtain ⟨rfl, -⟩ := List.range'_eq_cons_iff.1 rest.symm
  rw [← List.range_eq_range', List.mem_range]
  omega

/-- A taken name gets the least number with which it is free. -/
theorem exists_isLeastFree (h : base ∈ taken) :
    ∃ n, freshName taken base = suffixed base n ∧ IsLeastFree taken base n := by
  rw [freshName, if_pos h]
  cases found : (List.range (taken.length + 1)).findSome? fun k =>
      if suffixed base (k + 2) ∈ taken then none else some (suffixed base (k + 2)) with
  | none =>
    obtain ⟨k, hk, free⟩ := exists_suffixed_not_mem taken base
    have missed := List.findSome?_eq_none_iff.1 found k hk
    rw [if_neg free] at missed
    cases missed
  | some name =>
    obtain ⟨before, k, behind, split, hk, missed⟩ := List.findSome?_eq_some_iff.1 found
    rw [Option.ite_none_left_eq_some] at hk
    refine ⟨k + 2, (Option.some.inj hk.2).symm, Nat.le_add_left 2 k, hk.1, fun m two_le lt => ?_⟩
    obtain ⟨m, rfl⟩ := Nat.exists_eq_add_of_le' two_le
    have earlier := missed m (mem_of_range_eq_append split (Nat.lt_of_add_lt_add_right lt))
    refine Classical.byContradiction fun free => ?_
    rw [if_neg free] at earlier
    cases earlier

theorem freshName_not_mem (taken : List String) (base : String) : freshName taken base ∉ taken := by
  by_cases h : base ∈ taken
  · obtain ⟨n, e, least⟩ := exists_isLeastFree h
    rw [e]
    exact least.free
  · rwa [freshName_of_not_mem h]

/-- A free name is the name asked for, or that name with a number. -/
theorem freshName_eq_or (taken : List String) (base : String) :
    freshName taken base = base ∨ ∃ n, freshName taken base = suffixed base n := by
  by_cases h : base ∈ taken
  · obtain ⟨n, e, -⟩ := exists_isLeastFree h
    exact .inr ⟨n, e⟩
  · exact .inl (freshName_of_not_mem h)

end

/-! ## Names -/

theorem isBlank_getLast_natDigits (n : Nat) :
    ∀ c ∈ (Number.natDigits n).getLast?, isBlank c = false := fun _ hc =>
  Text.isBlank_of_isDigit
    (List.all_eq_true.1 (Number.all_isDigit_natDigits n) _ (List.mem_of_getLast? hc))

theorem toList_append_natText (front : String) (n : Nat) :
    (front ++ Number.natText n).toList = front.toList ++ Number.natDigits n := by
  rw [String.toList_append, Number.natText, String.toList_ofList]

/-- A text that begins with a letter and ends with a number is a name. -/
theorem isName_append_natText {front : String} (n : Nat) (hf : front ≠ "")
    (hh : ∀ c ∈ front.toList.head?, isBlank c = false) : IsName (front ++ Number.natText n) := by
  have hf : front.toList ≠ [] := by rwa [ne_eq, String.toList_eq_nil_iff]
  refine ⟨fun e => ?_, ?_⟩
  · rw [← String.toList_eq_nil_iff, toList_append_natText] at e
    exact hf (List.append_eq_nil_iff.1 e).1
  · rw [trimmed, toList_append_natText, Text.trim_eq_self, ← toList_append_natText,
      String.ofList_toList]
    · rwa [List.head?_append_of_ne_nil _ hf]
    · intro c hc
      rw [List.getLast?_append_of_ne_nil _ (Number.natDigits_ne_nil n)] at hc
      exact isBlank_getLast_natDigits n c hc

theorem isName_generatedName (position : Nat) : IsName (generatedName position) := by
  refine isName_append_natText position (by decide) fun c hc => ?_
  have first : 'c' = c := Option.some.inj hc
  rw [← first]
  rfl

theorem IsName.isBlank_head {name : String} (h : IsName name) :
    ∀ c ∈ name.toList.head?, isBlank c = false := by
  have := Text.isBlank_head_trim name.toList
  rwa [← String.toList_ofList (l := trim name.toList), ← trimmed, h.trimmed_eq] at this

theorem isName_suffixed {base : String} (h : IsName base) (n : Nat) : IsName (suffixed base n) := by
  refine isName_append_natText n (fun e => ?_) ?_
  · rw [String.append_eq_empty_iff] at e
    exact h.ne_empty e.1
  · have hb : base.toList ≠ [] := by
      rw [ne_eq, String.toList_eq_nil_iff]
      exact h.ne_empty
    rw [String.toList_append, List.head?_append_of_ne_nil _ hb]
    exact h.isBlank_head

theorem isName_askedName (position : Nat) (field : String) : IsName (askedName position field) := by
  rw [askedName]
  split
  · exact isName_generatedName position
  · next h => exact ⟨h, Text.trimmed_trimmed field⟩

theorem isName_freshName {base : String} (h : IsName base) (taken : List String) :
    IsName (freshName taken base) := by
  rcases freshName_eq_or taken base with e | ⟨n, e⟩
  · rwa [e]
  · rw [e]
    exact isName_suffixed h n

theorem askedName_of_isName {name : String} (h : IsName name) (position : Nat) :
    askedName position name = name := by
  rw [askedName, h.trimmed_eq]
  exact if_neg h.ne_empty

/-! ## The names of a header -/

/-- One more name behind the names so far. -/
def nameNext (names : List String) (field : String) : List String :=
  names ++ [freshName names (askedName (names.length + 1) field)]

theorem headerNames_eq_foldl (record : List String) :
    headerNames record = record.foldl nameNext [] :=
  rfl

theorem length_foldl_nameNext (names record : List String) :
    (record.foldl nameNext names).length = names.length + record.length := by
  induction record generalizing names with
  | nil => rfl
  | cons field rest ih =>
    rw [List.foldl_cons, ih, nameNext, List.length_append, List.length_singleton, List.length_cons]
    omega

theorem length_headerNames (record : List String) :
    (headerNames record).length = record.length := by
  rw [headerNames_eq_foldl, length_foldl_nameNext, List.length_nil, Nat.zero_add]

theorem headerNames_ne_nil {record : List String} (h : record ≠ []) : headerNames record ≠ [] := by
  intro e
  have length_eq := length_headerNames record
  rw [e] at length_eq
  exact h (List.length_eq_zero_iff.1 length_eq.symm)

theorem nodup_foldl_nameNext {names : List String} (h : names.Nodup) (record : List String) :
    (record.foldl nameNext names).Nodup := by
  induction record generalizing names with
  | nil => exact h
  | cons field rest ih =>
    refine ih (List.nodup_append'.2 ⟨h, List.nodup_singleton _, ?_⟩)
    rw [List.disjoint_singleton]
    exact freshName_not_mem names _

theorem nodup_headerNames (record : List String) : (headerNames record).Nodup :=
  nodup_foldl_nameNext List.nodup_nil record

/-- A property of all the names that fields ask for, which a number behind a name does not spoil, is
a property of all the names of a header. -/
theorem forall_mem_foldl_nameNext (p : String → Prop) {record : List String}
    (asked : ∀ field ∈ record, ∀ position, p (askedName position field))
    (fresh : ∀ base, p base → ∀ taken, p (freshName taken base)) {names : List String}
    (h : ∀ name ∈ names, p name) : ∀ name ∈ record.foldl nameNext names, p name := by
  induction record generalizing names with
  | nil => exact h
  | cons field rest ih =>
    refine ih (fun f hf => asked f (List.mem_cons_of_mem _ hf)) fun name hn => ?_
    rcases List.mem_append.1 hn with hn | hn
    · exact h name hn
    · rw [List.mem_singleton.1 hn]
      exact fresh _ (asked field List.mem_cons_self _) names

theorem isName_of_mem_headerNames {record : List String} {name : String}
    (h : name ∈ headerNames record) : IsName name :=
  forall_mem_foldl_nameNext IsName (fun field _ position => isName_askedName position field)
    (fun _ hb taken => isName_freshName hb taken) (fun _ hn => absurd hn List.not_mem_nil) name h

/-- Distinct names stay as they are. -/
theorem foldl_nameNext_eq_append {names record : List String} (hr : ∀ name ∈ record, IsName name)
    (hd : (names ++ record).Nodup) : record.foldl nameNext names = names ++ record := by
  induction record generalizing names with
  | nil => rw [List.append_nil]; rfl
  | cons name rest ih =>
    have free : name ∉ names := fun h =>
      (List.nodup_append'.1 hd).2.2 h List.mem_cons_self
    have next : nameNext names name = names ++ [name] := by
      rw [nameNext, askedName_of_isName (hr name List.mem_cons_self), freshName_of_not_mem free]
    rw [List.foldl_cons, next, ih (fun n hn => hr n (List.mem_cons_of_mem _ hn)),
      List.append_assoc, List.singleton_append]
    rwa [List.append_assoc, List.singleton_append]

theorem headerNames_eq_self {names : List String} (hn : ∀ name ∈ names, IsName name)
    (hd : names.Nodup) : headerNames names = names :=
  foldl_nameNext_eq_append hn hd

/-- Naming the columns twice is naming them once. -/
theorem headerNames_headerNames (record : List String) :
    headerNames (headerNames record) = headerNames record :=
  headerNames_eq_self (fun _ h => isName_of_mem_headerNames h) (nodup_headerNames record)

theorem length_generatedNames (count : Nat) : (generatedNames count).length = count := by
  rw [generatedNames, List.length_map, List.length_range]

theorem nodup_generatedNames (count : Nat) : (generatedNames count).Nodup :=
  List.nodup_range.map fun _ _ e => Nat.succ_inj.1 (generatedName_injective e)

theorem isName_of_mem_generatedNames {count : Nat} {name : String}
    (h : name ∈ generatedNames count) : IsName name := by
  obtain ⟨i, -, rfl⟩ := List.mem_map.1 h
  exact isName_generatedName _

/-! ## Looking like a header -/

/-- The fields of a record that are not blank, trimmed. -/
def namesIn (record : List String) : List String :=
  (record.map trimmed).filter (· ≠ "")

theorem looksLikeHeader_iff {record : List String} : looksLikeHeader record = true ↔
    namesIn record ≠ [] ∧ (∀ name ∈ namesIn record, isNameLike name = true) ∧
      (namesIn record).Nodup := by
  simp only [looksLikeHeader, namesIn, Bool.and_eq_true, Bool.not_eq_true',
    List.isEmpty_eq_false_iff, List.all_eq_true, decide_eq_true_eq, and_assoc, ne_eq]

theorem mem_namesIn {record : List String} {name : String} :
    name ∈ namesIn record ↔ name ≠ "" ∧ ∃ field ∈ record, trimmed field = name := by
  simp only [namesIn, List.mem_filter, List.mem_map, decide_eq_true_eq, and_comm]

/-- A trimmed text with an underscore reads neither as a number nor as a truth value. -/
theorem isNameLike_of_underscore {name : String} (h : '_' ∈ name.toList)
    (ht : trimmed name = name) : isNameLike name = true := by
  have trim_eq : trim name.toList = name.toList := by
    rwa [← String.toList_inj, trimmed, String.toList_ofList] at ht
  have noNumber : Number.read? name = none := Number.read?_eq_none (trim_eq.symm ▸ h)
  rw [isNameLike, Cell.infer_of_underscore h ht, noNumber]
  rfl

theorem isNameLike_generatedName (position : Nat) : isNameLike (generatedName position) = true := by
  refine isNameLike_of_underscore ?_ (isName_generatedName position).trimmed_eq
  rw [generatedName, toList_append_natText]
  exact List.mem_append_left _ (by decide)

theorem isNameLike_suffixed {base : String} (h : IsName base) (n : Nat) :
    isNameLike (suffixed base n) = true := by
  refine isNameLike_of_underscore ?_ (isName_suffixed h n).trimmed_eq
  rw [suffixed, toList_append_natText, String.toList_append]
  exact List.mem_append_left _ (List.mem_append_right _ (by decide))

theorem isNameLike_of_mem_headerNames {record : List String} (h : looksLikeHeader record = true)
    {name : String} (hn : name ∈ headerNames record) : isNameLike name = true := by
  obtain ⟨-, like, -⟩ := looksLikeHeader_iff.1 h
  have asked : ∀ field ∈ record, ∀ position,
      IsName (askedName position field) ∧ isNameLike (askedName position field) = true := by
    intro field hf position
    refine ⟨isName_askedName position field, ?_⟩
    rw [askedName]
    split
    · exact isNameLike_generatedName position
    · next hne => exact like _ (mem_namesIn.2 ⟨hne, field, hf, rfl⟩)
  have fresh : ∀ base, IsName base ∧ isNameLike base = true → ∀ taken,
      IsName (freshName taken base) ∧ isNameLike (freshName taken base) = true := by
    intro base hb taken
    refine ⟨isName_freshName hb.1 taken, ?_⟩
    rcases freshName_eq_or taken base with e | ⟨n, e⟩
    · rw [e]; exact hb.2
    · rw [e]; exact isNameLike_suffixed hb.1 n
  exact (forall_mem_foldl_nameNext (fun name => IsName name ∧ isNameLike name = true) asked fresh
    (fun _ hm => absurd hm List.not_mem_nil) name hn).2

theorem namesIn_eq_self {names : List String} (hn : ∀ name ∈ names, IsName name) :
    namesIn names = names := by
  have same : names.map trimmed = names :=
    (List.map_congr_left fun name h => (hn name h).trimmed_eq).trans (List.map_id _)
  rw [namesIn, same, List.filter_eq_self]
  exact fun name h => decide_eq_true (hn name h).ne_empty

/-- Some of the names of a recognised header, in any order, are recognised. -/
theorem looksLikeHeader_of_subset {record names : List String} (h : looksLikeHeader record = true)
    (hn : ∀ name ∈ names, name ∈ headerNames record) (ne : names ≠ []) (hd : names.Nodup) :
    looksLikeHeader names = true := by
  rw [looksLikeHeader_iff, namesIn_eq_self fun name hm => isName_of_mem_headerNames (hn name hm)]
  exact ⟨ne, fun name hm => isNameLike_of_mem_headerNames h (hn name hm), hd⟩

/-- The names of a recognised header are recognised. -/
theorem looksLikeHeader_headerNames {record : List String} (h : looksLikeHeader record = true) :
    looksLikeHeader (headerNames record) = true := by
  have nonempty : record ≠ [] := by
    rintro rfl
    exact (looksLikeHeader_iff.1 h).1 rfl
  exact looksLikeHeader_of_subset h (fun _ hn => hn) (headerNames_ne_nil nonempty)
    (nodup_headerNames record)

/-! ## Fields written again -/

theorem isNameLike_eq_false_of_readBool? {text : List Char} {b : Bool} (ht : trim text = text)
    (h : Cell.readBool? text = some b) : isNameLike (String.ofList text) = false := by
  have cell : Cell.infer (String.ofList text) = .bool b := by
    refine Cell.infer_of_readBool?_eq_some ?_
    rwa [String.toList_ofList, ht]
  rw [isNameLike, cell]
  rfl

/-- The name of a truth value is not like the name of a column, however it is written. -/
theorem trimmed_normalForm (field : String) :
    trimmed (Cell.normalForm field) = trimmed field ∨
      isNameLike (trimmed field) = false ∧ trimmed field ≠ "" ∧
        isNameLike (trimmed (Cell.normalForm field)) = false ∧
          trimmed (Cell.normalForm field) ≠ "" := by
  cases h : Cell.readBool? (trim field.toList) with
  | none =>
    rw [Cell.normalForm]
    split
    · next blank => exact .inl ((Text.trimmed_eq_empty_iff field).2 blank).symm
    · rw [if_neg (Cell.readBool?_eq_none_iff.1 h)]
      exact .inl rfl
  | some b =>
    have written : Cell.normalForm field = (Cell.bool b).text := by
      rw [← Cell.text_infer, Cell.infer_of_readBool?_eq_some h]
    have nonempty : trim field.toList ≠ [] := by
      intro e
      rw [e] at h
      cases h
    have word : trim (Cell.bool b).text.toList = (Cell.bool b).text.toList ∧
        Cell.readBool? (Cell.bool b).text.toList = some b := by
      cases b <;> decide +kernel
    have word_ne : (Cell.bool b).text.toList ≠ [] := by
      cases b <;> decide
    rw [written, trimmed, trimmed, word.1]
    refine .inr ⟨isNameLike_eq_false_of_readBool? (Text.trim_trim _) h, ?_,
      isNameLike_eq_false_of_readBool? word.1 word.2, ?_⟩
    · rwa [ne_eq, String.ofList_eq_empty_iff]
    · rwa [ne_eq, String.ofList_eq_empty_iff]

/-- Whether a record looks like a header, shows as well when its fields are written again. -/
theorem looksLikeHeader_map_normalForm (record : List String) :
    looksLikeHeader (record.map Cell.normalForm) = looksLikeHeader record := by
  by_cases same : ∀ field ∈ record, trimmed (Cell.normalForm field) = trimmed field
  · have maps : (record.map Cell.normalForm).map trimmed = record.map trimmed := by
      rw [List.map_map]
      exact List.map_congr_left same
    rw [looksLikeHeader, looksLikeHeader, maps]
  · -- a truth value among the fields settles it, before and after
    simp only [not_forall] at same
    obtain ⟨field, hf, differ⟩ := same
    obtain ⟨old, oldName, new, newName⟩ := (trimmed_normalForm field).resolve_left differ
    have refused : ∀ rs : List String, ∀ f ∈ rs, trimmed f ≠ "" → isNameLike (trimmed f) = false →
        looksLikeHeader rs = false := by
      intro rs f hm hne hl
      refine Bool.eq_false_iff.2 fun h => ?_
      have := (looksLikeHeader_iff.1 h).2.1 _ (mem_namesIn.2 ⟨hne, f, hm, rfl⟩)
      rw [hl] at this
      cases this
    rw [refused record field hf oldName old,
      refused _ _ (List.mem_map_of_mem hf) newName new]

end TableQuery.Csv
