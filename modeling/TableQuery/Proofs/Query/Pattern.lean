import Mathlib.Data.List.Forall2
import TableQuery.Query.Pattern

/-!
# What a pattern means

A text matches a pattern when it can be cut into parts, one for each character of the pattern in
order: any part for `%`, one character for `_`, and for every other character one that is the same
letter up to case. The matching tells for all endings of a text at once which of them match, and
each character of the pattern tells it from what is left of the pattern.

* `Cuts`: a text cut as a pattern says;
* `cuts_append`: a pattern behind another one;
* `cuts_iff_map_foldChar`: a pattern of letters alone;
* `marks_endings`: the endings that match, by induction on the pattern;
* `accepts_iff_cuts`: so it is for a text, and for patterns one behind the other.
-/

namespace TableQuery.Query

/-- May the part of a text stand where the character stands in a pattern? -/
def StandsFor (c : Char) (part : List Char) : Prop :=
  if c = '%' then True
  else if c = '_' then part.length = 1
  else ∃ d, part = [d] ∧ Text.foldChar d = Text.foldChar c

/-- The text can be cut into parts, one for each character of the pattern in order. -/
def Cuts (pattern text : List Char) : Prop :=
  ∃ parts : List (List Char), parts.flatten = text ∧ List.Forall₂ StandsFor pattern parts

section

variable {c : Char} {pattern text : List Char}

theorem cuts_nil : Cuts [] text ↔ text = [] := by
  constructor
  · rintro ⟨parts, rfl, cut⟩
    rw [List.forall₂_nil_left_iff.1 cut]
    rfl
  · rintro rfl
    exact ⟨[], rfl, .nil⟩

theorem cuts_cons : Cuts (c :: pattern) text ↔
    ∃ part rest, text = part ++ rest ∧ StandsFor c part ∧ Cuts pattern rest := by
  constructor
  · rintro ⟨parts, rfl, cut⟩
    obtain ⟨part, others, first, later, rfl⟩ := List.forall₂_cons_left_iff.1 cut
    exact ⟨part, others.flatten, rfl, first, others, rfl, later⟩
  · rintro ⟨part, rest, rfl, first, parts, rfl, later⟩
    exact ⟨part :: parts, rfl, .cons first later⟩

/-- A text matches a pattern behind another one if it is a match of the one behind a match of the
other. -/
theorem cuts_append {first second : List Char} : Cuts (first ++ second) text ↔
    ∃ front back, text = front ++ back ∧ Cuts first front ∧ Cuts second back := by
  induction first generalizing text with
  | nil => simp [cuts_nil]
  | cons c first ih =>
    simp only [List.cons_append, cuts_cons, ih]
    constructor
    · rintro ⟨part, rest, rfl, here, front, back, rfl, cut, cut'⟩
      exact ⟨part ++ front, back, by simp, ⟨part, front, rfl, here, cut⟩, cut'⟩
    · rintro ⟨_, back, rfl, ⟨part, front, rfl, here, cut⟩, cut'⟩
      exact ⟨part, front ++ back, by simp, here, front, back, rfl, cut, cut'⟩

theorem cuts_percent : Cuts ('%' :: pattern) text ↔ ∃ part rest, text = part ++ rest ∧
    Cuts pattern rest := by
  simp [cuts_cons, StandsFor]

/-- A character other than `%` stands for one character. -/
theorem cuts_single (hc : c ≠ '%') : Cuts (c :: pattern) text ↔ ∃ d rest, text = d :: rest ∧
    (c = '_' ∨ Text.foldChar d = Text.foldChar c) ∧ Cuts pattern rest := by
  have single : ∀ part, StandsFor c part ↔
      ∃ d, part = [d] ∧ (c = '_' ∨ Text.foldChar d = Text.foldChar c) := by
    intro part
    rw [StandsFor, if_neg hc]
    split
    · next underscore => simp [underscore, List.length_eq_one_iff]
    · next other => simp [other]
  simp only [cuts_cons, single]
  constructor
  · rintro ⟨_, rest, rfl, ⟨d, rfl, same⟩, cut⟩
    exact ⟨d, rest, rfl, same, cut⟩
  · rintro ⟨d, rest, rfl, same, cut⟩
    exact ⟨[d], rest, rfl, ⟨d, rfl, same⟩, cut⟩

/-- A pattern of letters alone is matched by the texts that have the same letters up to case. -/
theorem cuts_iff_map_foldChar (letters : ∀ c ∈ pattern, c ≠ '%' ∧ c ≠ '_') :
    Cuts pattern text ↔ text.map Text.foldChar = pattern.map Text.foldChar := by
  induction pattern generalizing text with
  | nil => rw [cuts_nil, List.map_nil, List.map_eq_nil_iff]
  | cons c pattern ih =>
    obtain ⟨⟨percent, underscore⟩, letters⟩ := List.forall_mem_cons.1 letters
    simp only [cuts_single percent, underscore, false_or, ih letters, List.map_cons,
      List.map_eq_cons_iff]

end

/-! ## Endings -/

/-- One mark for each ending of the text, the longest first, tells whether it has the property. -/
inductive Marks (P : List Char → Prop) : List Bool → List Char → Prop
  | last {mark : Bool} (tells : mark = true ↔ P []) : Marks P [mark] []
  | cons {mark : Bool} {marks : List Bool} {c : Char} {text : List Char}
      (tells : mark = true ↔ P (c :: text)) (later : Marks P marks text) :
      Marks P (mark :: marks) (c :: text)

namespace Marks

variable {P Q : List Char → Prop} {marks : List Bool} {text : List Char}

theorem congr (h : Marks P marks text) (same : ∀ s, P s ↔ Q s) : Marks Q marks text := by
  induction h with
  | last tells => exact .last (tells.trans (same _))
  | cons tells _ ih => exact .cons (tells.trans (same _)) ih

theorem exists_cons (h : Marks P marks text) :
    ∃ mark later, marks = mark :: later ∧ (mark = true ↔ P text) := by
  cases h with
  | last tells => exact ⟨_, _, rfl, tells⟩
  | cons tells later => exact ⟨_, _, rfl, tells⟩

theorem length_eq (h : Marks P marks text) : marks.length = text.length + 1 := by
  induction h with
  | last tells => rfl
  | cons tells _ ih => rw [List.length_cons, ih, List.length_cons]

theorem headD (h : Marks P marks text) : marks.headD false = true ↔ P text := by
  obtain ⟨mark, later, rfl, tells⟩ := h.exists_cons
  exact tells

/-- Only the empty ending is empty. -/
theorem empty (text : List Char) : Marks (· = []) (text.map (fun _ => false) ++ [true]) text := by
  induction text with
  | nil => exact .last (by simp)
  | cons c text ih => exact .cons (by simp) ih

/-- The endings that have an ending with the property. -/
theorem anyFrom (h : Marks P marks text) :
    Marks (fun s => ∃ part rest, s = part ++ rest ∧ P rest) (Pattern.anyFrom marks) text := by
  induction h with
  | last tells => exact .last (by simp [Pattern.anyFrom, tells])
  | cons tells _ ih =>
    refine .cons ?_ ih
    rw [Bool.or_eq_true, tells, ih.headD]
    constructor
    · rintro (here | ⟨part, rest, rfl, there⟩)
      · exact ⟨[], _, rfl, here⟩
      · exact ⟨_ :: part, rest, rfl, there⟩
    · rintro ⟨part, rest, same, there⟩
      cases part with
      | nil => exact .inl (same ▸ there)
      | cons d part =>
        obtain ⟨rfl, rfl⟩ := List.cons.inj same
        exact .inr ⟨part, rest, rfl, there⟩

/-- The endings that begin with a character that passes a test and go on with the property. -/
theorem behind (h : Marks P marks text) (f : Char → Char) (test : Char → Bool) :
    Marks (fun s => ∃ d rest, s = d :: rest ∧ test (f d) = true ∧ P rest)
      (List.zipWith (fun d mark => test d && mark) (text.map f) marks.tail ++ [false]) text := by
  induction h with
  | last tells => exact .last (by simp)
  | cons tells later ih =>
    obtain ⟨mark, later, rfl, tells⟩ := later.exists_cons
    refine .cons ?_ ih
    rw [Bool.and_eq_true, tells]
    simp

/-- The endings that go on with the property behind their first character. -/
theorem behindAny (h : Marks P marks text) :
    Marks (fun s => ∃ d rest, s = d :: rest ∧ P rest) (marks.tail ++ [false]) text := by
  have all : List.zipWith (fun _ mark => true && mark) (text.map id) marks.tail = marks.tail := by
    rw [← List.map_uncurry_zip_eq_zipWith]
    refine List.map_snd_zip ?_
    rw [List.length_tail, h.length_eq, List.length_map]
    exact Nat.le_refl _
  have marks := h.behind id fun _ => true
  rw [all] at marks
  exact marks.congr fun s => by simp

end Marks

/-- For each ending of a text it is told whether the pattern matches it. -/
theorem marks_endings (pattern text : List Char) : Marks (Cuts pattern)
    (Pattern.endings (pattern.map Piece.ofChar) (text.map Text.foldChar)) text := by
  induction pattern with
  | nil =>
    rw [List.map_nil, Pattern.endings, List.map_map]
    exact (Marks.empty text).congr fun s => cuts_nil.symm
  | cons c pattern ih =>
    rw [List.map_cons, Piece.ofChar]
    split
    · next percent =>
      subst percent
      exact ih.anyFrom.congr fun s => cuts_percent.symm
    next hc =>
    split
    · next underscore =>
      subst underscore
      exact ih.behindAny.congr fun s => by simp [cuts_single]
    · next other =>
      refine (ih.behind Text.foldChar fun d => d == Text.foldChar c).congr fun s => ?_
      simp [cuts_single hc, other]

/-! ## Patterns of strings -/

theorem ofString_eq_ok_iff [PatternLibrary] {pattern : String} {pieces : Pattern} :
    Pattern.ofString pattern = .ok pieces ↔
      PatternLibrary.programSize pattern ≤ patternSizeLimit ∧
        pattern.toList.map Piece.ofChar = pieces := by
  rw [Pattern.ofString]
  split
  · next large => exact iff_of_false nofun fun h => absurd h.1 (Nat.not_le.2 large)
  · next small => rw [Except.ok.injEq, and_iff_right (Nat.not_lt.1 small)]

theorem accepts_map_ofChar (pattern : List Char) (text : String) :
    Pattern.accepts (pattern.map Piece.ofChar) text = true ↔ Cuts pattern text.toList :=
  (marks_endings pattern text.toList).headD

/-- A text matches a pattern, if the library takes it, exactly if it can be cut as the pattern says.
So it matches two patterns one behind the other exactly if it is a match of the one followed by a
match of the other. The library has no part in it: the pieces of every pattern match just these
texts. -/
theorem accepts_iff_cuts [PatternLibrary] :
    (∀ (pattern : String) (pieces : Pattern), Pattern.ofString pattern = .ok pieces →
      ∀ text : String, pieces.accepts text = true ↔ Cuts pattern.toList text.toList) ∧
    (∀ (first second : String) (both : Pattern), Pattern.ofString (first ++ second) = .ok both →
      ∃ front back, Pattern.ofString first = .ok front ∧ Pattern.ofString second = .ok back ∧
        ∀ text : String, both.accepts text = true ↔
          ∃ s t, text = s ++ t ∧ front.accepts s = true ∧ back.accepts t = true) ∧
    ∀ (pattern : List Char) (text : String),
      Pattern.accepts (pattern.map Piece.ofChar) text = true ↔ Cuts pattern text.toList := by
  refine ⟨fun pattern pieces h text => ?_, fun first second both h => ?_, accepts_map_ofChar⟩
  · obtain ⟨-, rfl⟩ := ofString_eq_ok_iff.1 h
    exact accepts_map_ofChar _ text
  · obtain ⟨small, rfl⟩ := ofString_eq_ok_iff.1 h
    have front := Nat.le_trans (PatternLibrary.front_le first second) small
    have back := Nat.le_trans (PatternLibrary.back_le first second) small
    refine ⟨_, _, ofString_eq_ok_iff.2 ⟨front, rfl⟩, ofString_eq_ok_iff.2 ⟨back, rfl⟩,
      fun text => ?_⟩
    simp only [accepts_map_ofChar, String.toList_append, cuts_append]
    constructor
    · rintro ⟨s, t, same, cut, cut'⟩
      exact ⟨.ofList s, .ofList t, by rw [← String.ofList_append, ← same, String.ofList_toList],
        by rwa [String.toList_ofList], by rwa [String.toList_ofList]⟩
    · rintro ⟨s, t, rfl, cut, cut'⟩
      exact ⟨s.toList, t.toList, String.toList_append, cut, cut'⟩

/-- A line break for `_`, a letter in the other case and a point that is no other character. -/
theorem accepts_iff_cuts_line_break :
    Cuts "%a%_.K".toList "xA\ny\n.k".toList ∧ ¬Cuts "%a%_.K".toList "xA\nyk".toList ∧
      ∃ s t, "xA\ny\n.k" = s ++ t ∧ Cuts "%a%".toList s.toList ∧ Cuts "_.K".toList t.toList := by
  have both : Pattern.ofString ("%a%" ++ "_.K") =
      .ok [.anyRun, .letter 'a', .anyRun, .anyOne, .letter '.', .letter 'k'] := by
    decide +kernel
  have cuts := accepts_iff_cuts.1 "%a%_.K" _ both
  obtain ⟨front, back, hf, hb, parts⟩ := accepts_iff_cuts.2.1 "%a%" "_.K" _ both
  obtain ⟨s, t, same, first, second⟩ := (parts "xA\ny\n.k").1 (by decide +kernel)
  exact ⟨(cuts _).1 (by decide +kernel), mt (cuts _).2 (by decide +kernel), s, t, same,
    (accepts_iff_cuts.1 _ _ hf _).1 first, (accepts_iff_cuts.1 _ _ hb _).1 second⟩

end TableQuery.Query
