import TableQuery.Text.Blank

/-!
# Trimmed texts

A text is trimmed when neither its first nor its last letter is blank. Trimming gives such a text,
and leaves one as it is.

* `trim_eq_self`: a text without blanks at its ends is trimmed already;
* `trim_trim`: trimming once is enough.
-/

namespace TableQuery.Text

theorem trimStart_eq_self {text : List Char} (h : ∀ c ∈ text.head?, isBlank c = false) :
    trimStart text = text := by
  cases text with
  | nil => rfl
  | cons c rest =>
    have hc : isBlank c = false := h c rfl
    rw [trimStart, List.dropWhile_cons, hc, if_neg (by simp)]

theorem isBlank_head_trimStart (text : List Char) :
    ∀ c ∈ (trimStart text).head?, isBlank c = false := by
  intro c hc
  have := List.head?_dropWhile_not isBlank text
  rw [trimStart, Option.mem_def] at hc
  rwa [hc] at this

theorem trimEnd_isPrefix (text : List Char) : trimEnd text <+: text := by
  rw [← List.reverse_suffix, trimEnd, List.reverse_reverse]
  exact List.dropWhile_suffix isBlank

theorem isBlank_head_trim (text : List Char) : ∀ c ∈ (trim text).head?, isBlank c = false := by
  intro c hc
  obtain ⟨rest, e⟩ := trimEnd_isPrefix (trimStart text)
  refine isBlank_head_trimStart text c ?_
  rw [← e, List.head?_append]
  rw [trim, Option.mem_def] at hc
  rw [hc]
  rfl

theorem isBlank_getLast_trim (text : List Char) :
    ∀ c ∈ (trim text).getLast?, isBlank c = false := by
  intro c hc
  rw [trim, trimEnd, List.getLast?_reverse] at hc
  exact isBlank_head_trimStart _ c hc

theorem trim_eq_self {text : List Char} (hh : ∀ c ∈ text.head?, isBlank c = false)
    (hl : ∀ c ∈ text.getLast?, isBlank c = false) : trim text = text := by
  have hr : ∀ c ∈ text.reverse.head?, isBlank c = false := by rwa [List.head?_reverse]
  rw [trim, trimStart_eq_self hh, trimEnd, trimStart_eq_self hr, List.reverse_reverse]

theorem trim_trim (text : List Char) : trim (trim text) = trim text :=
  trim_eq_self (isBlank_head_trim text) (isBlank_getLast_trim text)

theorem trim_sublist (text : List Char) : (trim text).Sublist text :=
  (trimEnd_isPrefix _).sublist.trans (List.dropWhile_sublist _)

theorem length_trim_le (text : List Char) : (trim text).length ≤ text.length :=
  (trim_sublist text).length_le

theorem toList_trimmed (s : String) : (trimmed s).toList = trim s.toList := by
  rw [trimmed, String.toList_ofList]

theorem trimmed_trimmed (s : String) : trimmed (trimmed s) = trimmed s := by
  rw [trimmed, toList_trimmed, trim_trim, trimmed]

theorem trimmed_eq_empty_iff (s : String) : trimmed s = "" ↔ allBlank s = true := by
  rw [trimmed, allBlank, ← trim_eq_nil_iff, ← String.toList_inj, String.toList_ofList]
  rfl

end TableQuery.Text
