import TableQuery.Proofs.Cell
import TableQuery.Proofs.Number.Reading
import TableQuery.Proofs.Text.Lowercase

/-!
# How numbers are spelled

A number is spelled with characters of ASCII, with blanks around it at most. Except in the names of
the infinities the case of its letters does not matter, and there another case makes it no number.
So two texts that are the same up to case are never read as different numbers, and the number that
a cell counts as is the one that its text is read as.

* `readTrimmed?_map_toLower`: a number in small letters;
* `isAscii_of_readTrimmed?`: the letters of a number;
* `eq_of_lowercased_eq`: texts that are the same up to case are read as the same number;
* `number?_eq_read?_text`: the number of a cell and of its text;
* `number?_infer`: the number of the cell of a field, which is the number of the field;
* `infer_faithful`: what the cell of a field keeps of the field.
-/

namespace TableQuery.Number

open Text (isAscii)

/-! ## Small letters -/

theorem isDigit_toLower (c : Char) : isDigit c.toLower = isDigit c :=
  Text.forall_toLower (r := fun c d => isDigit d = isDigit c) (by decide) (fun _ _ => rfl) c

theorem isDigit_comp_toLower : isDigit ∘ Char.toLower = isDigit :=
  funext isDigit_toLower

/-- The digits of a base are the digits of base sixteen that are below it. -/
theorem radixDigit?_eq_filter (base : Nat) (c : Char) :
    radixDigit? base c = (radixDigit? 16 c).filter (· < base) := by
  have below {value : Nat} (h : value < 16) : (if value < base then some value else none) =
      (if value < 16 then some value else none).filter (· < base) := by
    rw [if_pos h, Option.filter_some]
    simp only [decide_eq_true_eq]
  have bounds : '0'.toNat = 48 ∧ 'a'.toNat = 97 ∧ 'A'.toNat = 65 := ⟨rfl, rfl, rfl⟩
  unfold radixDigit?
  split
  · next decimal =>
    have last : c.toNat ≤ 57 := decimal.2
    exact below (by omega)
  split
  · next small =>
    have last : c.toNat ≤ 102 := small.2
    exact below (by omega)
  split
  · next capital =>
    have last : c.toNat ≤ 70 := capital.2
    exact below (by omega)
  · simp

theorem radixDigit?_toLower (base : Nat) (c : Char) :
    radixDigit? base c.toLower = radixDigit? base c := by
  have hexadecimal : radixDigit? 16 c.toLower = radixDigit? 16 c :=
    Text.forall_toLower (r := fun c d => radixDigit? 16 d = radixDigit? 16 c) (by decide)
      (fun _ _ => rfl) c
  rw [radixDigit?_eq_filter, hexadecimal, ← radixDigit?_eq_filter]

theorem announcedBase?_toLower (c : Char) : announcedBase? c.toLower = announcedBase? c :=
  Text.forall_toLower (r := fun c d => announcedBase? d = announcedBase? c) (by decide)
    (fun _ _ => rfl) c

theorem map_toLower_of_digits {text : List Char} (h : ∀ c ∈ text, isDigit c = true) :
    text.map Char.toLower = text := by
  have all : digits.all (fun c => c.toLower == c) = true := by decide
  have same (c : Char) (hc : c ∈ text) : c.toLower = c :=
    eq_of_beq (List.all_eq_true.1 all c (mem_digits (h c hc)))
  exact (List.map_congr_left same).trans (List.map_id text)

theorem takeWhile_isDigit_map_toLower (text : List Char) :
    (text.map Char.toLower).takeWhile isDigit = text.takeWhile isDigit := by
  rw [List.takeWhile_map, isDigit_comp_toLower]
  exact map_toLower_of_digits (List.all_eq_true.1 List.all_takeWhile)

theorem dropWhile_isDigit_map_toLower (text : List Char) :
    (text.map Char.toLower).dropWhile isDigit = (text.dropWhile isDigit).map Char.toLower := by
  rw [List.dropWhile_map, isDigit_comp_toLower]

/-- A character is a sign, a point or a zero exactly if its small letter is. -/
theorem toLower_eq_iff {mark : Char} (h : mark.toNat < 65) (c : Char) :
    c.toLower = mark ↔ c = mark := by
  have behind {d : Char} (hd : 65 ≤ d.toNat) : d ≠ mark := fun same => by
    rw [same] at hd
    omega
  have all : ∀ n ∈ List.range 26, 65 ≤ (Char.ofNat (n + 65)).toNat ∧
      65 ≤ (Char.ofNat (n + 65)).toLower.toNat := by decide
  exact Text.forall_toLower (r := fun c d => d = mark ↔ c = mark)
    (fun n hn => iff_of_false (behind (all n hn).2) (behind (all n hn).1)) (fun _ _ => Iff.rfl) c

theorem takeSign_map_toLower (text : List Char) :
    takeSign (text.map Char.toLower) = ((takeSign text).1, (takeSign text).2.map Char.toLower) := by
  cases text with
  | nil => rfl
  | cons c rest =>
    by_cases minus : c = '-'
    · subst minus; rfl
    by_cases plus : c = '+'
    · subst plus; rfl
    have minus' := mt (toLower_eq_iff (by decide) c).1 minus
    have plus' := mt (toLower_eq_iff (by decide) c).1 plus
    simp [takeSign, minus, plus, minus', plus']

theorem takeFraction_map_toLower (text : List Char) : takeFraction (text.map Char.toLower) =
    ((takeFraction text).1, (takeFraction text).2.map Char.toLower) := by
  cases text with
  | nil => rfl
  | cons c rest =>
    by_cases point : c = '.'
    · subst point
      show (_, _) = (_, _)
      rw [takeWhile_isDigit_map_toLower, dropWhile_isDigit_map_toLower]
      rfl
    · have point' := mt (toLower_eq_iff (by decide) c).1 point
      simp [takeFraction, point, point']

theorem readExponent?_map_toLower (text : List Char) :
    readExponent? (text.map Char.toLower) = readExponent? text := by
  rw [readExponent?, readExponent?, takeSign_map_toLower]
  simp only [List.isEmpty_map, List.all_map, isDigit_comp_toLower]
  by_cases all : (takeSign text).2.all isDigit = true
  · rw [map_toLower_of_digits (List.all_eq_true.1 all)]
  · simp [all]

theorem readScale?_map_toLower (text : List Char) :
    readScale? (text.map Char.toLower) = readScale? text := by
  cases text with
  | nil => rfl
  | cons c rest =>
    have letter : c.toLower = 'e' ∨ c.toLower = 'E' ↔ c = 'e' ∨ c = 'E' :=
      Text.forall_toLower (r := fun c d => d = 'e' ∨ d = 'E' ↔ c = 'e' ∨ c = 'E')
        (by decide) (fun _ _ => Iff.rfl) c
    rw [List.map_cons, readScale?, readScale?, readExponent?_map_toLower, if_congr letter rfl rfl]

theorem ofChars?_map_toLower (text : List Char) :
    Decimal.ofChars? (text.map Char.toLower) = Decimal.ofChars? text := by
  simp only [Decimal.ofChars?, takeSign_map_toLower, takeWhile_isDigit_map_toLower,
    dropWhile_isDigit_map_toLower, takeFraction_map_toLower, readScale?_map_toLower]

theorem readRadix?_map_toLower (base : Nat) (text : List Char) :
    readRadix? base (text.map Char.toLower) = readRadix? base text := by
  have plus : withoutPlus (text.map Char.toLower) = (withoutPlus text).map Char.toLower := by
    cases text with
    | nil => rfl
    | cons c rest =>
      by_cases plus : c = '+'
      · subst plus; rfl
      · have plus' := mt (toLower_eq_iff (by decide) c).1 plus
        simp [withoutPlus, plus, plus']
  have digits (text : List Char) :
      readRadixDigits? base (text.map Char.toLower) = readRadixDigits? base text := by
    cases text with
    | nil => rfl
    | cons c rest =>
      rw [List.map_cons, readRadixDigits?, readRadixDigits?, ← List.map_cons, List.foldlM_map]
      · simp only [radixDigit?_toLower]
      · exact nofun
      · exact nofun
  rw [readRadix?, readRadix?, plus, digits]

theorem announced?_map_toLower (text : List Char) : announced? (text.map Char.toLower) =
    (announced? text).map fun found => (found.1, found.2.map Char.toLower) := by
  match text with
  | [] => rfl
  | [c] => simp [announced?]
  | c :: mark :: rest =>
    by_cases zero : c = '0'
    · subst zero
      show announced? ('0' :: mark.toLower :: rest.map Char.toLower) = _
      rw [announced?, announced?, announcedBase?_toLower, List.isEmpty_map]
      split
      · rfl
      · rw [Option.map_map]
        rfl
    · have zero' := mt (toLower_eq_iff (by decide) c).1 zero
      simp [announced?, zero, zero']

/-- No name of an infinity is spelled in small letters. -/
theorem map_toLower_not_mem_infinityNames (text : List Char) :
    text.map Char.toLower ∉ infinityNames := by
  have capital : ∀ name ∈ infinityNames, 'I' ∈ name := by decide
  intro hm
  obtain ⟨c, -, same⟩ := List.mem_map.1 (capital _ hm)
  have range : 'A' ≤ 'I' ∧ 'I' ≤ 'Z' := by decide
  exact Text.forall_toLower (r := fun _ d => d ≠ 'I') (by decide)
    (fun c others same => others (same ▸ range)) c same

/-- Except for the infinities a number may be spelled in small letters. -/
theorem readTrimmed?_map_toLower {text : List Char} (h : text ∉ infinityNames) :
    readTrimmed? (text.map Char.toLower) = readTrimmed? text := by
  have letter (c : Char) : isOtherLetter c.toLower = isOtherLetter c :=
    Text.forall_toLower (r := fun c d => isOtherLetter d = isOtherLetter c) (by decide)
      (fun _ _ => rfl) c
  rw [readTrimmed?_of_not_mem h, readTrimmed?_of_not_mem (map_toLower_not_mem_infinityNames text),
    announced?_map_toLower, List.isEmpty_map, List.any_map, ofChars?_map_toLower]
  cases announced? text with
  | none => simp only [Option.map_none, Function.comp_def, letter]
  | some found => simp only [Option.map_some, readRadix?_map_toLower]

/-! ## Letters -/

theorem isAscii_of_isDecimalLetter {c : Char} (h : isDecimalLetter c = true) :
    isAscii c = true :=
  forall_isDecimalLetter (by decide) h

theorem isAscii_of_announcedBase? {c : Char} {base : Nat} (h : announcedBase? c = some base) :
    isAscii c = true := by
  rw [← Text.isAscii_toLower]
  unfold announcedBase? at h
  split at h
  · next same => rw [same]; rfl
  · next same => rw [same]; rfl
  · next same => rw [same]; rfl
  · cases h

theorem radixDigit?_of_not_isAscii {c : Char} (h : isAscii c = false) (base : Nat) :
    radixDigit? base c = none := by
  have outside : ¬c.toNat < 128 := of_decide_eq_false h
  have behind {first last : Char} (ascii : last.toNat < 128) : ¬(first ≤ c ∧ c ≤ last) :=
    fun range => outside (Nat.lt_of_le_of_lt range.2 ascii)
  rw [radixDigit?, if_neg (behind (by decide)), if_neg (behind (by decide)),
    if_neg (behind (by decide)), if_neg (Nat.lt_irrefl base)]

theorem isAscii_of_readRadix? {base n : Nat} {text : List Char}
    (h : readRadix? base text = some n) : ∀ c ∈ text, isAscii c = true := by
  intro c hc
  have digits : readRadixDigits? base (withoutPlus text) ≠ none := fun none => by
    rw [readRadix?, none] at h
    cases h
  have mem : c = '+' ∨ c ∈ withoutPlus text := by
    unfold withoutPlus
    split
    · exact List.mem_cons.1 hc
    · exact .inr hc
  rcases mem with rfl | mem
  · rfl
  · by_contra outside
    exact digits (readRadixDigits?_eq_none_of_mem mem
      (radixDigit?_of_not_isAscii (Bool.eq_false_iff.2 outside) base))

/-- A number is spelled with characters of ASCII. -/
theorem isAscii_of_readTrimmed? {text : List Char} {d : Double} (h : readTrimmed? text = some d) :
    ∀ c ∈ text, isAscii c = true := by
  by_cases named : text ∈ infinityNames
  · have all : ∀ name ∈ infinityNames, name.all isAscii = true := by decide
    exact List.all_eq_true.1 (all text named)
  · rw [readTrimmed?_of_not_mem named] at h
    split at h
    · next empty =>
      rw [List.isEmpty_iff.1 empty]
      exact fun _ hc => absurd hc List.not_mem_nil
    split at h
    · next base digits announced =>
      obtain ⟨n, read, -⟩ := Option.map_eq_some_iff.1 h
      unfold announced? at announced
      split at announced
      · next mark rest =>
        rw [Option.ite_none_left_eq_some, Option.map_eq_some_iff] at announced
        obtain ⟨-, found, hm, e⟩ := announced
        cases e
        simp only [List.forall_mem_cons]
        exact ⟨rfl, isAscii_of_announcedBase? hm, isAscii_of_readRadix? read⟩
      · cases announced
    · rw [Option.ite_none_left_eq_some, Option.map_eq_some_iff] at h
      obtain ⟨-, decimal, read, -⟩ := h
      exact fun c hc => isAscii_of_isDecimalLetter (isDecimalLetter_of_ofChars? read hc)

/-! ## Texts that are the same up to case -/

/-- The lowercase of a number, whose characters are plain. -/
theorem lowercase_of_read? {s : String} {d : Double} (h : read? s = some d) :
    Text.lowercase s.toList = s.toList.map Char.toLower :=
  Text.lowercase_eq_map (Text.isPlain_of_trim (isAscii_of_readTrimmed? h))

/-- Texts that are the same up to case are not read as different numbers. -/
theorem eq_of_lowercased_eq {s t : String} {a b : Double}
    (same : Text.lowercased s = Text.lowercased t) (hs : read? s = some a)
    (ht : read? t = some b) : a = b := by
  have letters : (Text.trim s.toList).map Char.toLower = (Text.trim t.toList).map Char.toLower := by
    rw [Text.lowercased, Text.lowercased, String.ofList_inj, lowercase_of_read? hs,
      lowercase_of_read? ht] at same
    rw [← Text.trim_map_toLower, same, Text.trim_map_toLower]
  have unread : ∀ name ∈ infinityNames, readTrimmed? (name.map Char.toLower) = none := by
    decide
  rw [read?] at hs ht
  by_cases named : Text.trim s.toList ∈ infinityNames
  · by_cases named' : Text.trim t.toList ∈ infinityNames
    · have distinct : ∀ m ∈ infinityNames, ∀ n ∈ infinityNames,
          m.map Char.toLower = n.map Char.toLower → m = n := by
        decide
      rw [distinct _ named _ named' letters, ht] at hs
      exact (Option.some.inj hs).symm
    · rw [← readTrimmed?_map_toLower named', ← letters, unread _ named] at ht
      cases ht
  · rw [← readTrimmed?_map_toLower named, letters] at hs
    by_cases named' : Text.trim t.toList ∈ infinityNames
    · rw [unread _ named'] at hs
      cases hs
    · rw [readTrimmed?_map_toLower named', ht] at hs
      exact (Option.some.inj hs).symm

end TableQuery.Number

/-! ## Cells -/

namespace TableQuery.Cell

/-- A double is read from decimal notation unless it is infinite or no number. -/
theorem ofChars?_of_readFloat? {text : List Char} {d : Double} (h : readFloat? text = some d) :
    ∃ decimal, Number.Decimal.ofChars? text = some decimal ∧ decimal.toDouble = d := by
  rw [readFloat?, Option.filter_eq_some_iff, Bool.and_eq_true] at h
  obtain ⟨read, finite, -⟩ := h
  rw [Number.readDouble?] at read
  split at read
  · next decimal found => exact ⟨decimal, found, Option.some.inj read⟩
  · simp only [Number.specialValue?] at read
    split at read
    · cases read
      cases finite
    split at read
    · cases read
      cases finite
    · cases read

/-- A cell that its text gives back counts as the number that its text is read as. -/
theorem number?_eq_read?_text {cell : Cell} (h : cell.IsStable) :
    cell.number? = Number.read? cell.text := by
  cases cell with
  | int i => exact (Number.read?_intDigits i.toInt).symm
  | float d =>
    obtain ⟨decimal, found, rfl⟩ := ofChars?_of_readFloat? (readFloat?_of_infer h)
    rw [Number.read?, Number.readTrimmed?_of_ofChars? found]
    rfl
  | null => rfl
  | bool b => rfl
  | string s => rfl

/-! ## Fields -/

/-- A blank field is the number zero, as nothing is. -/
theorem read?_of_trim_eq_nil {field : String} (h : Text.trim field.toList = []) :
    Number.read? field = some (.zero false) :=
  congrArg Number.readTrimmed? h

/-- The name of a truth value is no number, in letters of either case. -/
theorem readTrimmed?_of_readBool? {text : List Char} {b : Bool} (h : readBool? text = some b) :
    Number.readTrimmed? text = none := by
  have word := readBool?_eq_some_iff.1 h
  have unread (b : Bool) : Number.readTrimmed? (bool b).text.toList = none := by
    cases b <;> decide +kernel
  have names : ∀ name ∈ Number.infinityNames, readBool? name = none := by decide
  have plain : text ∉ Number.infinityNames := fun named => by
    rw [names text named] at h
    cases h
  rw [← Number.readTrimmed?_map_toLower plain, word, unread]

/-- A truth value is no number. -/
theorem number?_bool (b : Bool) : (bool b).number? = none := by
  cases b <;> decide +kernel

/-- The number of a cell is the number of the field that it was read from. Only a blank field and a
truth value have a cell with another text, and there both sides are known. -/
theorem number?_infer (field : String) : (infer field).number? = Number.read? field := by
  by_cases blank : Text.trim field.toList = []
  · rw [infer_of_trim_eq_nil blank, read?_of_trim_eq_nil blank]
    rfl
  · cases h : readBool? (Text.trim field.toList) with
    | some b =>
      have unread : Number.read? field = none := readTrimmed?_of_readBool? h
      rw [infer_of_readBool?_eq_some h, unread, number?_bool]
    | none =>
      rw [number?_eq_read?_text (infer_text_infer field),
        text_infer_of_readBool?_eq_none blank h]

/-- What the cell of a field keeps of the field: the text, unless this is blank or spells a truth
value; the cell itself, when its text is read once more; and the number. -/
theorem infer_faithful (field : String) :
    (Text.allBlank field = true → (infer field).text = "") ∧
    (∀ word ∈ ["true", "false"], (Text.trim field.toList).map Char.toLower = word.toList →
      (infer field).text = word) ∧
    (Text.allBlank field = false →
      (∀ word ∈ ["true", "false"], (Text.trim field.toList).map Char.toLower ≠ word.toList) →
      (infer field).text = field) ∧
    infer (infer field).text = infer field ∧
    (infer field).number? = Number.read? field := by
  refine ⟨fun blank => ?_, fun word hm spelled => ?_, fun filled others => ?_,
    infer_text_infer field, number?_infer field⟩
  · rw [text_infer, normalForm, if_pos blank]
  · have found : ∃ b, (bool b).text = word := by
      rcases List.mem_pair.1 hm with rfl | rfl
      · exact ⟨true, rfl⟩
      · exact ⟨false, rfl⟩
    obtain ⟨b, rfl⟩ := found
    rw [infer_of_readBool?_eq_some (readBool?_eq_some_iff.2 spelled)]
  · have filled' : Text.trim field.toList ≠ [] := fun empty => by
      rw [Text.allBlank, (Text.trim_eq_nil_iff _).1 empty] at filled
      cases filled
    refine text_infer_of_readBool?_eq_none filled' (readBool?_eq_none_iff.2 ?_)
    exact not_or.2 ⟨others _ (by simp), others _ (by simp)⟩

/-- A blank field, a truth value with blanks around it, zero with a minus sign and the least whole
number that is no integer any more. -/
theorem infer_faithful_kinds :
    (infer " \t").text = "" ∧ (infer " TRUE ").text = "true" ∧ (infer "-0").text = "-0" ∧
    (infer "-0").number? = some (.zero true) ∧
    (infer "9223372036854775808").text = "9223372036854775808" :=
  ⟨(infer_faithful " \t").1 (by decide),
    (infer_faithful " TRUE ").2.1 "true" (by decide) (by decide),
    (infer_faithful "-0").2.2.1 (by decide) (by decide),
    (infer_faithful "-0").2.2.2.2.trans (by decide +kernel),
    (infer_faithful "9223372036854775808").2.2.1 (by decide) (by decide)⟩

end TableQuery.Cell
