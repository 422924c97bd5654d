import Mathlib.Data.List.Nodup
import Mathlib.Data.List.Perm.Basic
import TableQuery.Proofs.Query.Scope
import TableQuery.Proofs.Text.Distance

/-!
# No column is guessed

A name means itself, or the only column that has its letters, or the only column that is closest to
it. Where several columns come into question it means none of them, and they are told in the error.
Nothing depends on the order of the columns.

* `mem_closest`, `mem_candidates`: which columns come into question;
* `Scope.Means`: what a name means, and the remarks on it;
* `resolve_eq_ok_iff`, `resolve_of_not_means`: the two ends of looking a name up;
* `resolve_never_guesses`: both together, and that the order of the columns does not matter.
-/

namespace TableQuery.Query

theorem Outcome.exists_error_iff {α : Type} {x : Outcome α} :
    (∃ e, x.result = .error e) ↔ ∀ a remarks, x ≠ ⟨remarks, .ok a⟩ := by
  obtain ⟨remarks, result⟩ := x
  cases result with
  | error e => exact iff_of_true ⟨e, rfl⟩ fun _ _ same => by cases same
  | ok a => exact iff_of_false (fun ⟨_, failed⟩ => by cases failed) fun other => other a remarks rfl

/-! ## Close names -/

/-- The number of edits between two names in lower case. -/
def edits (name header : String) : Nat :=
  Text.alignment (Text.lowercase name.toList) (Text.lowercase header.toList)

section

variable {name header : String} {headers : List String}

/-- The names that are close enough, with their numbers of edits. -/
def scored (name : String) (headers : List String) : List (Nat × String) :=
  (headers.map fun header => (edits name header, header)).filter
    (·.1 ≤ closeness (Text.lowercased name))

theorem closest_eq (name : String) (headers : List String) :
    closest (Text.lowercased name) headers =
      match ((scored name headers).map Prod.fst).min? with
      | none => []
      | some least => ((scored name headers).filter (·.1 = least)).map Prod.snd := by
  have distanceTo (other : String) : Text.distance (Text.lowercased name).toList
      (Text.lowercase other.toList) = edits name other := by
    rw [Text.lowercased, String.toList_ofList, Text.distance_eq_alignment, edits]
  have raw : (headers.map fun header => (Text.distance (Text.lowercased name).toList
      (Text.lowercase header.toList), header)).filter (·.1 ≤ closeness (Text.lowercased name)) =
        scored name headers := by
    simp only [distanceTo, scored]
  rw [← raw]
  rfl

theorem mem_scored {n : Nat} : (n, header) ∈ scored name headers ↔
    header ∈ headers ∧ edits name header = n ∧ n ≤ closeness (Text.lowercased name) := by
  rw [scored, List.mem_filter, List.mem_map]
  simp [and_assoc]

theorem mem_map_fst_scored {n : Nat} : n ∈ (scored name headers).map Prod.fst ↔
    n ≤ closeness (Text.lowercased name) ∧ ∃ header ∈ headers, edits name header = n := by
  rw [List.mem_map]
  constructor
  · rintro ⟨⟨_, header⟩, hm, rfl⟩
    obtain ⟨column, same, near⟩ := mem_scored.1 hm
    exact ⟨near, header, column, same⟩
  · rintro ⟨near, header, column, same⟩
    exact ⟨(n, header), mem_scored.2 ⟨column, same, near⟩, rfl⟩

/-- The closest names are those that are close enough and no further away than any other. -/
theorem mem_closest : header ∈ closest (Text.lowercased name) headers ↔
    header ∈ headers ∧ edits name header ≤ closeness (Text.lowercased name) ∧
      ∀ other ∈ headers, edits name header ≤ edits name other := by
  rw [closest_eq]
  cases best : ((scored name headers).map Prod.fst).min? with
  | none =>
    rw [List.min?_eq_none_iff] at best
    refine iff_of_false List.not_mem_nil fun ⟨column, near, _⟩ => ?_
    have found := mem_map_fst_scored.2 ⟨near, header, column, rfl⟩
    rw [best] at found
    cases found
  | some least =>
    rw [List.min?_eq_some_iff] at best
    obtain ⟨reached, least_le⟩ := best
    obtain ⟨near, winner, hw, same⟩ := mem_map_fst_scored.1 reached
    have taken : header ∈ ((scored name headers).filter (·.1 = least)).map Prod.snd ↔
        header ∈ headers ∧ edits name header = least := by
      simp only [List.mem_map, List.mem_filter, decide_eq_true_iff, Prod.exists, mem_scored]
      constructor
      · rintro ⟨_, _, ⟨⟨column, e, -⟩, rfl⟩, rfl⟩
        exact ⟨column, e⟩
      · rintro ⟨column, e⟩
        exact ⟨least, header, ⟨⟨column, e, near⟩, rfl⟩, rfl⟩
    refine taken.trans (and_congr_right fun column => ⟨fun e => ?_, fun ⟨close, all⟩ => ?_⟩)
    · refine ⟨e ▸ near, fun other ho => ?_⟩
      by_cases far : edits name other ≤ closeness (Text.lowercased name)
      · exact e ▸ least_le _ (mem_map_fst_scored.2 ⟨far, other, ho, rfl⟩)
      · omega
    · have above := least_le _ (mem_map_fst_scored.2 ⟨close, header, column, rfl⟩)
      have below := all winner hw
      omega

theorem closest_sublist (name : String) (headers : List String) :
    (closest (Text.lowercased name) headers).Sublist headers := by
  have names : (headers.map fun header => (edits name header, header)).map Prod.snd = headers := by
    rw [List.map_map]
    exact List.map_id headers
  rw [closest_eq]
  split
  · exact List.nil_sublist _
  · refine ((List.filter_sublist.trans List.filter_sublist).map Prod.snd).trans ?_
    rw [names]

end

/-! ## The columns that come into question -/

namespace Scope

variable {scope : Scope} {name header : String}

/-- The names are the same up to case. -/
def SameLetters (name header : String) : Prop :=
  Text.lowercased header = Text.lowercased name

/-- No column is closer to the name, and the column is close enough: one edit away from a name of up
to four letters, two from a longer one. -/
structure IsClosest (scope : Scope) (name header : String) : Prop where
  column : header ∈ scope.headers
  near : edits name header ≤ if (Text.lowercased name).length ≤ 4 then 1 else 2
  least : ∀ other ∈ scope.headers, edits name header ≤ edits name other

/-- The columns that come into question for a name that is no column. -/
inductive MayMean (scope : Scope) (name header : String) : Prop
  | letters (column : header ∈ scope.headers) (same : SameLetters name header)
  | close (none : ∀ other ∈ scope.headers, ¬SameLetters name other) (on : scope.fuzzy = true)
      (closest : scope.IsClosest name header)

theorem mem_sameLetters :
    header ∈ scope.sameLetters name ↔ header ∈ scope.headers ∧ SameLetters name header := by
  rw [sameLetters, List.mem_filter, decide_eq_true_iff, SameLetters]

theorem sameLetters_eq_nil_iff :
    scope.sameLetters name = [] ↔ ∀ other ∈ scope.headers, ¬SameLetters name other := by
  simp only [List.eq_nil_iff_forall_not_mem, mem_sameLetters, not_and]

theorem mem_candidates : header ∈ scope.candidates name ↔ scope.MayMean name header := by
  rw [candidates]
  split
  · next none =>
    rw [sameLetters_eq_nil_iff] at none
    split
    · next on =>
      rw [mem_closest]
      constructor
      · rintro ⟨column, near, least⟩
        exact .close none on ⟨column, near, least⟩
      · rintro (⟨column, same⟩ | ⟨-, -, column, near, least⟩)
        · exact absurd same (none header column)
        · exact ⟨column, near, least⟩
    · next off =>
      refine iff_of_false List.not_mem_nil ?_
      rintro (⟨column, same⟩ | ⟨-, on, -⟩)
      · exact none header column same
      · exact off on
  · next several =>
    rw [mem_sameLetters]
    constructor
    · rintro ⟨column, same⟩
      exact .letters column same
    · rintro (⟨column, same⟩ | ⟨none, -, -⟩)
      · exact ⟨column, same⟩
      · exact absurd (sameLetters_eq_nil_iff.2 none) several

theorem candidates_sublist (scope : Scope) (name : String) :
    (scope.candidates name).Sublist scope.headers := by
  rw [candidates]
  split
  · split
    · exact closest_sublist name scope.headers
    · exact List.nil_sublist _
  · exact List.filter_sublist

/-- Of distinct columns one is the only candidate if no other comes into question. -/
theorem candidates_eq_singleton_iff (distinct : scope.headers.Nodup) :
    scope.candidates name = [header] ↔
      scope.MayMean name header ∧ ∀ other, scope.MayMean name other → other = header := by
  have nodup := distinct.sublist (candidates_sublist scope name)
  rw [← List.perm_singleton, List.perm_ext_iff_of_nodup nodup (List.nodup_singleton header)]
  simp only [mem_candidates, List.mem_singleton]
  constructor
  · intro same
    exact ⟨(same header).2 rfl, fun other => (same other).1⟩
  · rintro ⟨may, only⟩ other
    exact ⟨only other, fun e => e ▸ may⟩

/-! ## What a name means -/

/-- What a name means, and the remarks on it. -/
inductive Means (scope : Scope) (name : String) : String → List Diagnostic → Prop
  | itself (column : name ∈ scope.headers) : Means scope name name []
  | letters {header : String} (missing : name ∉ scope.headers) (column : header ∈ scope.headers)
      (same : SameLetters name header)
      (only : ∀ other ∈ scope.headers, SameLetters name other → other = header) :
      Means scope name header [.columnReplaced name header]
  | close {header : String} (none : ∀ other ∈ scope.headers, ¬SameLetters name other)
      (on : scope.fuzzy = true) (closest : scope.IsClosest name header)
      (only : ∀ other, scope.IsClosest name other → other = header) :
      Means scope name header [.columnReplaced name header]

/-- A name that is no column means the only column that comes into question. -/
theorem means_iff_of_not_mem {remarks : List Diagnostic} (missing : name ∉ scope.headers) :
    scope.Means name header remarks ↔ remarks = [.columnReplaced name header] ∧
      scope.MayMean name header ∧ ∀ other, scope.MayMean name other → other = header := by
  constructor
  · rintro (column | ⟨-, column, same, only⟩ | ⟨none, on, closest, only⟩)
    · exact absurd column missing
    · refine ⟨rfl, .letters column same, ?_⟩
      rintro other (⟨ho, letters⟩ | ⟨none, -, -⟩)
      · exact only other ho letters
      · exact absurd same (none header column)
    · refine ⟨rfl, .close none on closest, ?_⟩
      rintro other (⟨ho, letters⟩ | ⟨-, -, close⟩)
      · exact absurd letters (none other ho)
      · exact only other close
  · rintro ⟨rfl, ⟨column, same⟩ | ⟨none, on, closest⟩, only⟩
    · exact .letters missing column same fun other ho letters => only other (.letters ho letters)
    · exact .close none on closest fun other close => only other (.close none on close)

theorem resolve_of_candidates_eq (missing : name ∉ scope.headers)
    (only : scope.candidates name = [header]) :
    scope.resolve name = ⟨[.columnReplaced name header], .ok header⟩ := by
  rw [resolve, if_neg missing, only]
  rfl

theorem resolve_of_candidates_ne (missing : name ∉ scope.headers)
    (several : ∀ header, scope.candidates name ≠ [header]) :
    scope.resolve name = Outcome.fail (scope.notFound name) := by
  rw [resolve, if_neg missing]
  split
  · next header only => exact absurd only (several header)
  · rfl

/-- Looking a name up comes to what it means. -/
theorem resolve_eq_ok_iff (distinct : scope.headers.Nodup) {remarks : List Diagnostic} :
    scope.resolve name = ⟨remarks, .ok header⟩ ↔ scope.Means name header remarks := by
  by_cases column : name ∈ scope.headers
  · rw [resolve_of_mem column]
    constructor
    · rintro ⟨⟩
      exact .itself column
    · rintro (_ | ⟨missing, -⟩ | ⟨none, -⟩)
      · rfl
      · exact absurd column missing
      · exact absurd rfl (none name column)
  · rw [means_iff_of_not_mem column, ← candidates_eq_singleton_iff distinct]
    by_cases only : scope.candidates name = [header]
    · rw [resolve_of_candidates_eq column only, and_iff_left only]
      simp [eq_comm]
    · refine iff_of_false (fun resolved => ?_) fun means => only means.2
      by_cases several : ∀ other, scope.candidates name ≠ [other]
      · rw [resolve_of_candidates_ne column several] at resolved
        cases resolved
      · push Not at several
        obtain ⟨other, one⟩ := several
        rw [resolve_of_candidates_eq column one] at resolved
        cases resolved
        exact only one

/-- A name that means nothing is not found, and the error tells what came into question. -/
theorem resolve_of_not_means (distinct : scope.headers.Nodup)
    (nothing : ∀ header remarks, ¬scope.Means name header remarks) :
    scope.resolve name = Outcome.fail (scope.notFound name) := by
  have missing : name ∉ scope.headers := fun column => nothing name _ (.itself column)
  refine resolve_of_candidates_ne missing fun header only => ?_
  rw [candidates_eq_singleton_iff distinct] at only
  exact nothing header _ ((means_iff_of_not_mem missing).2 ⟨rfl, only⟩)

/-! ## The order of the columns -/

variable {headers others : List String} {tableRef : String} {fuzzy : Bool}

theorem IsClosest.of_mem_iff (same : ∀ h, h ∈ headers ↔ h ∈ others)
    (closest : IsClosest ⟨headers, tableRef, fuzzy⟩ name header) :
    IsClosest ⟨others, tableRef, fuzzy⟩ name header :=
  ⟨(same _).1 closest.column, closest.near, fun other ho => closest.least other ((same _).2 ho)⟩

theorem Means.of_mem_iff (same : ∀ h, h ∈ headers ↔ h ∈ others) {remarks : List Diagnostic}
    (means : Means ⟨headers, tableRef, fuzzy⟩ name header remarks) :
    Means ⟨others, tableRef, fuzzy⟩ name header remarks := by
  obtain column | ⟨missing, column, letters, only⟩ | ⟨none, on, closest, only⟩ := means
  · exact .itself ((same _).1 column)
  · exact .letters (mt (same _).2 missing) ((same _).1 column) letters
      fun other ho => only other ((same _).2 ho)
  · exact .close (fun other ho => none other ((same _).2 ho)) on (closest.of_mem_iff same)
      fun other close => only other (close.of_mem_iff fun h => (same h).symm)

end Scope

open Scope (Means MayMean)

/-- Looking a name up never guesses. It comes to a column, with a remark unless it is the name
itself, exactly if the name means this column. In every other case no column is found, there is no
remark, and the error tells all columns and those of them that came into question. If the columns
are in another order the name means the same, or again nothing. -/
theorem resolve_never_guesses {headers : List String} (distinct : headers.Nodup)
    (tableRef : String) (fuzzy : Bool) (name : String) :
    (∀ header remarks,
      Scope.resolve ⟨headers, tableRef, fuzzy⟩ name = ⟨remarks, .ok header⟩ ↔
        Means ⟨headers, tableRef, fuzzy⟩ name header remarks) ∧
    ((∀ header remarks, ¬Means ⟨headers, tableRef, fuzzy⟩ name header remarks) →
      ∃ candidates,
        Scope.resolve ⟨headers, tableRef, fuzzy⟩ name = ⟨[], .error (.columnNotFound name headers
          candidates (Text.lowercased name = Text.lowercased tableRef))⟩ ∧
        candidates.Sublist headers ∧
        ∀ header, header ∈ candidates ↔ MayMean ⟨headers, tableRef, fuzzy⟩ name header) ∧
    ∀ others, headers.Perm others →
      (∀ header remarks,
        Scope.resolve ⟨others, tableRef, fuzzy⟩ name = ⟨remarks, .ok header⟩ ↔
          Scope.resolve ⟨headers, tableRef, fuzzy⟩ name = ⟨remarks, .ok header⟩) ∧
      ((∃ e, (Scope.resolve ⟨others, tableRef, fuzzy⟩ name).result = .error e) ↔
        ∃ e, (Scope.resolve ⟨headers, tableRef, fuzzy⟩ name).result = .error e) := by
  refine ⟨fun header remarks => Scope.resolve_eq_ok_iff distinct, fun nothing => ?_,
    fun others perm => ?_⟩
  · exact ⟨Scope.candidates ⟨headers, tableRef, fuzzy⟩ name,
      Scope.resolve_of_not_means distinct nothing, Scope.candidates_sublist _ name,
      fun header => Scope.mem_candidates⟩
  · have same (header : String) (remarks : List Diagnostic) :
        Scope.resolve ⟨others, tableRef, fuzzy⟩ name = ⟨remarks, .ok header⟩ ↔
          Scope.resolve ⟨headers, tableRef, fuzzy⟩ name = ⟨remarks, .ok header⟩ := by
      rw [Scope.resolve_eq_ok_iff (perm.nodup_iff.1 distinct), Scope.resolve_eq_ok_iff distinct]
      exact ⟨Means.of_mem_iff fun h => perm.mem_iff.symm, Means.of_mem_iff fun h => perm.mem_iff⟩
    refine ⟨same, ?_⟩
    rw [Outcome.exists_error_iff, Outcome.exists_error_iff]
    exact forall₂_congr fun header remarks => not_congr (same header remarks)

/-- A name with two letters exchanged, and one that is as close to two columns. -/
theorem resolve_never_guesses_exchanged :
    Means ⟨["City", "Names", "Name"], "t", true⟩ "naem" "Name" [.columnReplaced "naem" "Name"] ∧
    Scope.resolve ⟨["Name", "City", "Names"], "t", true⟩ "naem" =
      ⟨[.columnReplaced "naem" "Name"], .ok "Name"⟩ ∧
    ∃ candidates, Scope.resolve ⟨["cat", "dog", "car"], "CAB", true⟩ "cab" =
        ⟨[], .error (.columnNotFound "cab" ["cat", "dog", "car"] candidates true)⟩ ∧
      ∀ header, header ∈ candidates ↔
        MayMean ⟨["cat", "dog", "car"], "CAB", true⟩ "cab" header := by
  have resolved : Scope.resolve ⟨["City", "Names", "Name"], "t", true⟩ "naem" =
      ⟨[.columnReplaced "naem" "Name"], .ok "Name"⟩ := by
    rfl
  have tied : Scope.resolve ⟨["cat", "dog", "car"], "CAB", true⟩ "cab" =
      ⟨[], .error (.columnNotFound "cab" ["cat", "dog", "car"] ["cat", "car"] true)⟩ := by
    rfl
  have distinct : ["City", "Names", "Name"].Nodup := by decide
  have distinctTied : ["cat", "dog", "car"].Nodup := by decide
  obtain ⟨means, -, order⟩ := resolve_never_guesses distinct "t" true "naem"
  obtain ⟨meansTied, missing, -⟩ := resolve_never_guesses distinctTied "CAB" true "cab"
  obtain ⟨candidates, failed, -, told⟩ := missing fun header remarks means => by
    have found := (meansTied header remarks).2 means
    rw [tied] at found
    cases found
  have usedAsTable : decide (Text.lowercased "cab" = Text.lowercased "CAB") = true := by
    decide +kernel
  rw [usedAsTable] at failed
  refine ⟨?_, ?_, candidates, failed, told⟩
  · exact (means _ _).1 resolved
  · exact ((order _ (by decide +kernel)).1 _ _).2 resolved

end TableQuery.Query
