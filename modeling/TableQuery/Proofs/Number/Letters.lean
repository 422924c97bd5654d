import TableQuery.Number.Reading

/-!
# The letters of numbers

A text in decimal notation holds digits, signs, a point and the letter of an exponent, and nothing
else. Beside it there are three names. In particular no number is written with an underscore, in any
of the notations.

* `isDecimalLetter_of_ofChars?`: the letters of decimal notation;
* `map_toLower_mem_specialNames`: the names that are read, up to case;
* `readDouble?_eq_none`, `read?_eq_none`: a text with an underscore is no number.
-/

namespace TableQuery.Number

/-- May the letter stand in a number in decimal notation? -/
def isDecimalLetter (c : Char) : Bool :=
  isDigit c || c = '+' || c = '-' || c = '.' || c = 'e' || c = 'E'

theorem isDecimalLetter_of_isDigit {c : Char} (h : isDigit c = true) :
    isDecimalLetter c = true := by
  rw [isDecimalLetter, h]
  rfl

theorem mem_takeSign {text : List Char} {c : Char} (h : c ∈ text) :
    c = '+' ∨ c = '-' ∨ c ∈ (takeSign text).2 := by
  unfold takeSign
  split
  · rcases List.mem_cons.1 h with rfl | h
    · exact .inr (.inl rfl)
    · exact .inr (.inr h)
  · rcases List.mem_cons.1 h with rfl | h
    · exact .inl rfl
    · exact .inr (.inr h)
  · exact .inr (.inr h)

theorem takeSign_suffix (text : List Char) : (takeSign text).2 <:+ text := by
  unfold takeSign
  split
  · exact List.suffix_cons _ _
  · exact List.suffix_cons _ _
  · exact List.suffix_rfl

theorem mem_takeFraction {text : List Char} {c : Char} (h : c ∈ text) :
    c = '.' ∨ isDigit c = true ∨ c ∈ (takeFraction text).2 := by
  unfold takeFraction
  split
  · next rest =>
    rcases List.mem_cons.1 h with rfl | h
    · exact .inl rfl
    · rw [← List.takeWhile_append_dropWhile (p := isDigit) (l := rest)] at h
      rcases List.mem_append.1 h with h | h
      · exact .inr (.inl (List.all_eq_true.1 List.all_takeWhile c h))
      · exact .inr (.inr h)
  · exact .inr (.inr h)

theorem isDecimalLetter_of_readExponent? {text : List Char} {e : Int}
    (h : readExponent? text = some e) {c : Char} (hc : c ∈ text) : isDecimalLetter c = true := by
  rcases mem_takeSign hc with rfl | rfl | hc
  · rfl
  · rfl
  · rw [readExponent?] at h
    simp only [Option.ite_none_left_eq_some, Bool.or_eq_true, Bool.not_eq_true', not_or,
      Bool.not_eq_false, List.all_eq_true] at h
    exact isDecimalLetter_of_isDigit (h.1.2 c hc)

theorem isDecimalLetter_of_readScale? {text : List Char} {e : Int} (h : readScale? text = some e)
    {c : Char} (hc : c ∈ text) : isDecimalLetter c = true := by
  cases text with
  | nil => cases hc
  | cons a rest =>
    rw [readScale?, Option.ite_none_right_eq_some] at h
    rcases List.mem_cons.1 hc with rfl | hc
    · rcases h.1 with rfl | rfl <;> rfl
    · exact isDecimalLetter_of_readExponent? h.2 hc

theorem isDecimalLetter_of_ofChars? {text : List Char} {d : Decimal}
    (h : Decimal.ofChars? text = some d) {c : Char} (hc : c ∈ text) : isDecimalLetter c = true := by
  rcases mem_takeSign hc with rfl | rfl | hc
  · rfl
  · rfl
  · rw [Decimal.ofChars?] at h
    simp only [Option.ite_none_left_eq_some, Option.map_eq_some_iff] at h
    obtain ⟨-, e, he, -⟩ := h
    rw [← List.takeWhile_append_dropWhile (p := isDigit) (l := (takeSign text).2)] at hc
    rcases List.mem_append.1 hc with hc | hc
    · exact isDecimalLetter_of_isDigit (List.all_eq_true.1 List.all_takeWhile c hc)
    · rcases mem_takeFraction hc with rfl | hc | hc
      · rfl
      · exact isDecimalLetter_of_isDigit hc
      · exact isDecimalLetter_of_readScale? he hc

/-! ## Names -/

/-- The names of the values that are no finite number, in small letters. -/
def specialNames : List (List Char) :=
  ["inf".toList, "infinity".toList, "nan".toList]

theorem map_toLower_mem_specialNames {negative : Bool} {text : List Char} {d : Double}
    (h : specialValue? negative text = some d) : text.map Char.toLower ∈ specialNames := by
  simp only [specialNames, List.mem_cons, List.not_mem_nil, or_false]
  simp only [specialValue?] at h
  split at h
  · next infinite => exact infinite.elim .inl (.inr ∘ .inl)
  split at h
  · next nan => exact .inr (.inr nan)
  · cases h

/-! ## Underscores -/

section

variable {text : List Char} (h : '_' ∈ text)
include h

theorem readInt?_eq_none : readInt? text = none := by
  have out : ∀ digits : List Char, '_' ∈ digits → digits.all isDigit = false := fun digits hd =>
    List.all_eq_false.2 ⟨'_', hd, by decide⟩
  unfold readInt?
  split
  · next digits => rw [out digits (List.mem_of_ne_of_mem (by decide) h), if_neg (by simp)]
  · rw [out text h, if_neg (by simp)]

theorem ofChars?_eq_none : Decimal.ofChars? text = none := by
  refine Option.eq_none_iff_forall_not_mem.2 fun d hd => ?_
  have := isDecimalLetter_of_ofChars? hd h
  exact absurd this (by decide)

theorem mem_of_takeSign : '_' ∈ (takeSign text).2 :=
  (mem_takeSign h).resolve_left (by decide) |>.resolve_left (by decide)

theorem specialValue?_eq_none (negative : Bool) : specialValue? negative text = none := by
  have low : '_' ∈ text.map Char.toLower := List.mem_map.2 ⟨'_', h, by decide⟩
  have out : ∀ name ∈ specialNames, '_' ∉ name := by decide
  refine Option.eq_none_iff_forall_not_mem.2 fun d hd => ?_
  exact out _ (map_toLower_mem_specialNames hd) low

theorem readDouble?_eq_none : readDouble? text = none := by
  rw [readDouble?, ofChars?_eq_none h]
  exact specialValue?_eq_none (mem_of_takeSign h) _

omit h in
theorem radixDigit?_underscore (base : Nat) : radixDigit? base '_' = none := by
  have value : ¬('0' ≤ '_' ∧ '_' ≤ '9') ∧ ¬('a' ≤ '_' ∧ '_' ≤ 'f') ∧ ¬('A' ≤ '_' ∧ '_' ≤ 'F') := by
    decide
  rw [radixDigit?]
  simp only [if_neg value.1, if_neg value.2.1, if_neg value.2.2, Nat.lt_irrefl, if_false]

omit h in
/-- All characters have to be digits of the base. -/
theorem readRadixDigits?_eq_none_of_mem {base : Nat} {c : Char} (hc : c ∈ text)
    (hr : radixDigit? base c = none) : readRadixDigits? base text = none := by
  have fold : ∀ (digits : List Char) (n : Nat), c ∈ digits →
      digits.foldlM (fun n c => (n * base + ·) <$> radixDigit? base c) n = none := by
    intro digits
    induction digits with
    | nil => exact fun _ hd => absurd hd (by simp)
    | cons d rest ih =>
      intro n hd
      rw [List.foldlM_cons]
      rcases List.mem_cons.1 hd with rfl | hd
      · rw [hr]
        rfl
      · cases radixDigit? base d with
        | none => rfl
        | some v => exact ih _ hd
  cases text with
  | nil => rfl
  | cons d rest => exact fold (d :: rest) 0 hc

theorem readRadixDigits?_eq_none (base : Nat) : readRadixDigits? base text = none :=
  readRadixDigits?_eq_none_of_mem h (radixDigit?_underscore base)

theorem readRadix?_eq_none (base : Nat) : readRadix? base text = none := by
  have plus : '_' ∈ withoutPlus text := by
    unfold withoutPlus
    split
    · exact List.mem_of_ne_of_mem (by decide) h
    · exact h
  rw [readRadix?, readRadixDigits?_eq_none plus]
  rfl

theorem mem_of_announced? {base : Nat} {digits : List Char}
    (ha : announced? text = some (base, digits)) : '_' ∈ digits := by
  unfold announced? at ha
  split at ha
  · next mark rest =>
    rw [Option.ite_none_left_eq_some, Option.map_eq_some_iff] at ha
    obtain ⟨-, found, hb, e⟩ := ha
    obtain ⟨-, rfl⟩ := Prod.mk.inj e
    have hm : '_' ≠ mark := by
      rintro rfl
      exact absurd hb (by simp [announcedBase?])
    exact List.mem_of_ne_of_mem hm (List.mem_of_ne_of_mem (by decide) h)
  · cases ha

theorem readTrimmed?_eq_none : readTrimmed? text = none := by
  have out : ∀ name : List Char, '_' ∉ name → text ≠ name := fun name hn e => hn (e ▸ h)
  have nonempty : text.isEmpty = false := by
    cases text with
    | nil => cases h
    | cons => rfl
  have infinite : ¬(text = "Infinity".toList ∨ text = "+Infinity".toList) := by
    rintro (e | e)
    · exact out _ (by decide) e
    · exact out _ (by decide) e
  rw [readTrimmed?, nonempty, if_neg (by simp), if_neg infinite, if_neg (out _ (by decide))]
  cases ha : announced? text with
  | none => simp only [readDouble?_eq_none h, ite_self]
  | some found => simp only [readRadix?_eq_none (mem_of_announced? h ha), Option.map_none]

end

theorem read?_eq_none {s : String} (h : '_' ∈ Text.trim s.toList) : read? s = none :=
  readTrimmed?_eq_none h

end TableQuery.Number
