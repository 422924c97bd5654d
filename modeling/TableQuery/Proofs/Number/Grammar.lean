import Mathlib.Data.List.Forall2
import Mathlib.Data.Nat.Digits.Defs
import TableQuery.Proofs.Number.Spelling

/-!
# The grammar of numbers

Which texts are numbers, and which numbers they are. The grammar says it without reading a text: a
numeral is put together from signs, digits and marks. Each rule that reads a part of a number takes
exactly the texts of that part, so what is read is a numeral. But there is one kind of texts more
that are read, a plus sign behind the mark of a base.

* `Numeral`: the numerals, and `AnnouncedNumeral` those in a base other than ten;
* `ofChars?_eq_some_iff`: decimal notation;
* `readRadix?_eq_some_iff`: digits in a base, and the sign that may stand before them;
* `read?_eq_some_iff`: the texts that are read as numbers.
-/

namespace TableQuery.Number

/-! ## Numerals -/

/-- A sign, or none: is the number negative? -/
inductive Sign : List Char → Bool → Prop
  | none : Sign [] false
  | plus : Sign ['+'] false
  | minus : Sign ['-'] true

/-- Digits with at most one point: those before it and those behind it. -/
inductive Mantissa : List Char → List Char → List Char → Prop
  | whole (digits : List Char) : Mantissa digits digits []
  | point (whole fraction : List Char) : Mantissa (whole ++ '.' :: fraction) whole fraction

/-- An exponent of ten, or none. -/
inductive Exponent : List Char → Int → Prop
  | none : Exponent [] 0
  | some {mark : Char} {sign digits : List Char} {negative : Bool}
      (letter : mark = 'e' ∨ mark = 'E')
      (signed : Sign sign negative) (all : ∀ c ∈ digits, isDigit c = true) (ne : digits ≠ []) :
      Exponent (mark :: (sign ++ digits))
        (if negative then -(ofDigits digits : Int) else ofDigits digits)

/-- A number in decimal notation. -/
inductive DecimalNumeral : List Char → Decimal → Prop
  | mk {sign mantissa whole fraction exponent : List Char} {negative : Bool} {scale : Int}
      (signed : Sign sign negative) (pointed : Mantissa mantissa whole fraction)
      (all : ∀ c ∈ whole ++ fraction, isDigit c = true) (ne : whole ++ fraction ≠ [])
      (scaled : Exponent exponent scale) :
      DecimalNumeral (sign ++ (mantissa ++ exponent))
        ⟨negative, ofDigits (whole ++ fraction), scale - fraction.length⟩

/-- The digits up to base sixteen, in order. -/
def smallDigits : List Char :=
  "0123456789abcdef".toList

def capitalDigits : List Char :=
  "0123456789ABCDEF".toList

/-- The digit of a base, in either case, and its value. -/
def IsDigitOf (base : Nat) (c : Char) (value : Nat) : Prop :=
  value < base ∧ (smallDigits[value]? = some c ∨ capitalDigits[value]? = some c)

/-- One digit of a base or more, the most significant first, and the number that they are. -/
def RadixNumeral (base : Nat) (digits : List Char) (n : Nat) : Prop :=
  digits ≠ [] ∧ ∃ values, List.Forall₂ (IsDigitOf base) digits values ∧
    Nat.ofDigits base values.reverse = n

/-- The letters that announce a base. -/
def radixMarks : List (Char × Nat) :=
  [('x', 16), ('X', 16), ('o', 8), ('O', 8), ('b', 2), ('B', 2)]

/-- Digits of the base that the mark announces, of a number below `2 ^ 64`: the double nearest to
the number. -/
def AnnouncedNumeral (mark : Char) (digits : List Char) (d : Double) : Prop :=
  ∃ base n, (mark, base) ∈ radixMarks ∧ RadixNumeral base digits n ∧ n < 2 ^ 64 ∧ d = .ofInt n

/-- The numerals, and the doubles that they stand for. -/
inductive Numeral : List Char → Double → Prop
  | empty : Numeral [] (.zero false)
  | infinity : Numeral "Infinity".toList (.infinity false)
  | plusInfinity : Numeral "+Infinity".toList (.infinity false)
  | minusInfinity : Numeral "-Infinity".toList (.infinity true)
  | announced {mark : Char} {digits : List Char} {d : Double} (h : AnnouncedNumeral mark digits d) :
      Numeral ('0' :: mark :: digits) d
  | decimal {text : List Char} {d : Decimal} (h : DecimalNumeral text d) : Numeral text d.toDouble

/-! ## Decimal notation -/

section

variable {text sign body : List Char} {negative : Bool}

theorem exists_takeSign (text : List Char) :
    ∃ sign, Sign sign (takeSign text).1 ∧ text = sign ++ (takeSign text).2 := by
  unfold takeSign
  split
  · exact ⟨_, .minus, rfl⟩
  · exact ⟨_, .plus, rfl⟩
  · exact ⟨_, .none, rfl⟩

theorem ne_sign_of_isDigit {c : Char} (h : isDigit c = true) : c ≠ '-' ∧ c ≠ '+' := by
  constructor
  · rintro rfl
    exact absurd h (by decide)
  · rintro rfl
    exact absurd h (by decide)

theorem takeSign_append (h : Sign sign negative)
    (plain : ∀ c ∈ body.head?, c ≠ '-' ∧ c ≠ '+') : takeSign (sign ++ body) = (negative, body) := by
  cases h with
  | plus => rfl
  | minus => rfl
  | none =>
    rw [List.nil_append]
    unfold takeSign
    split
    · exact absurd rfl (plain '-' rfl).1
    · exact absurd rfl (plain '+' rfl).2
    · rfl

theorem takeSign_append_digits (h : Sign sign negative) (all : ∀ c ∈ body, isDigit c = true) :
    takeSign (sign ++ body) = (negative, body) :=
  takeSign_append h fun c hc => ne_sign_of_isDigit (all c (List.mem_of_mem_head? hc))

theorem readExponent?_eq_some_iff {scale : Int} : readExponent? text = some scale ↔
    ∃ sign digits negative, text = sign ++ digits ∧ Sign sign negative ∧
      (∀ c ∈ digits, isDigit c = true) ∧ digits ≠ [] ∧
      scale = if negative then -(ofDigits digits : Int) else ofDigits digits := by
  constructor
  · intro h
    obtain ⟨sign, signed, whole⟩ := exists_takeSign text
    rw [readExponent?] at h
    simp only [Option.ite_none_left_eq_some, Bool.or_eq_true, List.isEmpty_iff, Bool.not_eq_true',
      not_or, Bool.not_eq_false, List.all_eq_true, Option.some.injEq] at h
    obtain ⟨⟨ne, all⟩, rfl⟩ := h
    exact ⟨sign, _, _, whole, signed, all, ne, rfl⟩
  · rintro ⟨sign, digits, negative, rfl, signed, all, ne, rfl⟩
    rw [readExponent?, takeSign_append_digits signed all]
    simpa [ne] using all

theorem readScale?_eq_some_iff {scale : Int} :
    readScale? text = some scale ↔ Exponent text scale := by
  cases text with
  | nil =>
    constructor
    · rintro ⟨⟩
      exact .none
    · rintro ⟨⟩
      rfl
  | cons c rest =>
    rw [readScale?, Option.ite_none_right_eq_some, readExponent?_eq_some_iff]
    constructor
    · rintro ⟨letter, sign, digits, negative, rfl, signed, all, ne, rfl⟩
      exact .some letter signed all ne
    · intro h
      cases h with
      | some letter signed all ne => exact ⟨letter, _, _, _, rfl, signed, all, ne, rfl⟩

theorem isDigit_of_mem_takeFraction {c : Char} (h : c ∈ (takeFraction text).1) :
    isDigit c = true := by
  unfold takeFraction at h
  split at h
  · exact List.all_eq_true.1 List.all_takeWhile c h
  · cases h

/-- The digits at the front of a text, with a point among or around them, and what follows. -/
theorem exists_mantissa (text : List Char) :
    ∃ mantissa, Mantissa mantissa (text.takeWhile isDigit)
        (takeFraction (text.dropWhile isDigit)).1 ∧
      text = mantissa ++ (takeFraction (text.dropWhile isDigit)).2 := by
  have whole := List.takeWhile_append_dropWhile (p := isDigit) (l := text)
  unfold takeFraction
  split
  · next rest behind =>
    refine ⟨_, .point _ (rest.takeWhile isDigit), ?_⟩
    rw [List.append_assoc, List.cons_append, List.takeWhile_append_dropWhile, ← behind, whole]
  · exact ⟨_, .whole _, whole.symm⟩

/-- Digits at the front of a text are taken as far as they go. -/
theorem takeWhile_isDigit_append {digits behind : List Char} (all : ∀ c ∈ digits, isDigit c = true)
    (ends : ∀ c ∈ behind.head?, isDigit c = false) :
    (digits ++ behind).takeWhile isDigit = digits ∧
      (digits ++ behind).dropWhile isDigit = behind := by
  rw [List.takeWhile_append_of_pos all, List.dropWhile_append_of_pos all]
  cases behind with
  | nil => simp
  | cons c behind =>
    have other : isDigit c = false := ends c rfl
    simp [other]

/-- A mantissa is read back if what is behind it is neither a digit nor a point. -/
theorem takeFraction_of_mantissa {mantissa whole fraction rest : List Char}
    (h : Mantissa mantissa whole fraction) (all : ∀ c ∈ whole ++ fraction, isDigit c = true)
    (ends : ∀ c ∈ rest.head?, isDigit c = false ∧ c ≠ '.') :
    (mantissa ++ rest).takeWhile isDigit = whole ∧
      takeFraction ((mantissa ++ rest).dropWhile isDigit) = (fraction, rest) := by
  cases h with
  | whole =>
    rw [List.append_nil] at all
    obtain ⟨front, back⟩ := takeWhile_isDigit_append all fun c hc => (ends c hc).1
    refine ⟨front, ?_⟩
    rw [back]
    unfold takeFraction
    split
    · exact absurd rfl (ends '.' rfl).2
    · rfl
  | point =>
    rw [List.forall_mem_append] at all
    rw [List.append_assoc, List.cons_append]
    have point : ∀ c ∈ ('.' :: (fraction ++ rest)).head?, isDigit c = false := by
      rintro c ⟨⟩
      decide
    obtain ⟨front, back⟩ := takeWhile_isDigit_append all.1 point
    obtain ⟨front', back'⟩ := takeWhile_isDigit_append all.2 fun c hc => (ends c hc).1
    refine ⟨front, ?_⟩
    rw [back, takeFraction, front', back']

theorem Exponent.head {scale : Int} (h : Exponent text scale) :
    ∀ c ∈ text.head?, isDigit c = false ∧ c ≠ '.' := by
  cases h with
  | none => simp
  | some letter =>
    rintro c ⟨⟩
    rcases letter with rfl | rfl <;> decide

/-- A mantissa with a digit does not begin with a sign. -/
theorem Mantissa.head {whole fraction : List Char} (h : Mantissa text whole fraction)
    (all : ∀ c ∈ whole ++ fraction, isDigit c = true) (ne : whole ++ fraction ≠ [])
    (behind : List Char) : ∀ c ∈ (text ++ behind).head?, c ≠ '-' ∧ c ≠ '+' := by
  intro c hc
  cases h with
  | whole =>
    rw [List.append_nil] at all ne
    rw [List.head?_append_of_ne_nil _ ne] at hc
    exact ne_sign_of_isDigit (all c (List.mem_of_mem_head? hc))
  | point =>
    cases whole with
    | nil =>
      cases hc
      decide
    | cons a whole =>
      cases hc
      exact ne_sign_of_isDigit (all c (by simp))

/-- Decimal notation is read, and nothing else is. -/
theorem ofChars?_eq_some_iff {d : Decimal} :
    Decimal.ofChars? text = some d ↔ DecimalNumeral text d := by
  constructor
  · intro h
    obtain ⟨sign, signed, whole⟩ := exists_takeSign text
    obtain ⟨mantissa, pointed, body⟩ := exists_mantissa (takeSign text).2
    rw [Decimal.ofChars?] at h
    simp only [Option.ite_none_left_eq_some, Bool.and_eq_true, List.isEmpty_iff,
      Option.map_eq_some_iff] at h
    obtain ⟨ne, scale, scaled, rfl⟩ := h
    have numeral := DecimalNumeral.mk signed pointed
      (List.forall_mem_append.2 ⟨List.all_eq_true.1 List.all_takeWhile,
        fun c => isDigit_of_mem_takeFraction⟩)
      (mt List.append_eq_nil_iff.1 ne) (readScale?_eq_some_iff.1 scaled)
    rwa [← body, ← whole] at numeral
  · rintro ⟨signed, pointed, all, ne, scaled⟩
    obtain ⟨front, back⟩ := takeFraction_of_mantissa pointed all scaled.head
    rw [Decimal.ofChars?, takeSign_append signed (pointed.head all ne _)]
    simp only [front, back, readScale?_eq_some_iff.2 scaled]
    rw [if_neg]
    · rfl
    · rw [Bool.and_eq_true, List.isEmpty_iff, List.isEmpty_iff, ← List.append_eq_nil_iff]
      exact ne

end

/-! ## Digits in a base -/

section

variable {base value n : Nat} {c : Char} {digits text : List Char}

theorem radixDigit?_eq_some_iff (hb : base ≤ 16) :
    radixDigit? base c = some value ↔ IsDigitOf base c value := by
  have spelled : ∀ v < 16, (smallDigits[v]?.all fun c => radixDigit? 16 c = some v) = true ∧
      (capitalDigits[v]?.all fun c => radixDigit? 16 c = some v) = true := by decide
  have valued (hc : Text.isAscii c = true) : ((radixDigit? 16 c).all fun v =>
      smallDigits[v]? = some c ∨ capitalDigits[v]? = some c) = true :=
    Text.forall_ascii (p := fun c => ((radixDigit? 16 c).all fun v =>
      smallDigits[v]? = some c ∨ capitalDigits[v]? = some c) = true) (by decide +kernel) hc
  rw [radixDigit?_eq_filter, Option.filter_eq_some_iff, decide_eq_true_eq, IsDigitOf, and_comm]
  refine and_congr_right fun small => ⟨fun h => ?_, fun h => ?_⟩
  · have ascii : Text.isAscii c = true := by
      by_contra outside
      rw [radixDigit?_of_not_isAscii (Bool.eq_false_iff.2 outside)] at h
      cases h
    simpa [h] using valued ascii
  · obtain ⟨lower, upper⟩ := spelled value (Nat.lt_of_lt_of_le small hb)
    rcases h with h | h
    · simpa [h] using lower
    · simpa [h] using upper

/-- The digits that are read, each behind the number of those before it. -/
theorem foldlM_radixDigit?_eq_some_iff (hb : base ≤ 16) (start : Nat) :
    digits.foldlM (fun n c => (n * base + ·) <$> radixDigit? base c) start = some n ↔
      ∃ values, List.Forall₂ (IsDigitOf base) digits values ∧
        values.foldl (fun n value => n * base + value) start = n := by
  induction digits generalizing start with
  | nil => simp [List.forall₂_nil_left_iff]
  | cons c rest ih =>
    have first (m : Nat) : ((start * base + ·) <$> radixDigit? base c) = some m ↔
        ∃ value, IsDigitOf base c value ∧ start * base + value = m := by
      simp [← radixDigit?_eq_some_iff hb]
    rw [List.foldlM_cons, Option.bind_eq_bind, Option.bind_eq_some_iff]
    simp only [first, ih, List.forall₂_cons_left_iff]
    constructor
    · rintro ⟨_, ⟨value, digit, rfl⟩, values, all, e⟩
      exact ⟨value :: values, ⟨value, values, digit, all, rfl⟩, e⟩
    · rintro ⟨_, ⟨value, values, digit, all, rfl⟩, e⟩
      exact ⟨_, ⟨value, digit, rfl⟩, values, all, e⟩

theorem readRadixDigits?_eq_some_iff (hb : base ≤ 16) :
    readRadixDigits? base digits = some n ↔ RadixNumeral base digits n := by
  have value (values : List Nat) : values.foldl (fun n value => n * base + value) 0 =
      Nat.ofDigits base values.reverse := by
    rw [Nat.ofDigits_eq_foldr, List.foldr_reverse]
    congr
    funext n value
    simp
    ring
  cases digits with
  | nil => simp [readRadixDigits?, RadixNumeral]
  | cons c rest =>
    rw [readRadixDigits?, foldlM_radixDigit?_eq_some_iff hb, RadixNumeral]
    · simp only [value, ne_eq, List.cons_ne_nil, not_false_eq_true, true_and]
    · exact List.cons_ne_nil c rest

/-- A plus sign is no digit. -/
theorem RadixNumeral.withoutPlus_eq (h : RadixNumeral base digits n) (hb : base ≤ 16) :
    withoutPlus digits = digits := by
  unfold withoutPlus
  split
  · next rest =>
    obtain ⟨-, values, all, -⟩ := h
    obtain ⟨value, _, plus, -, -⟩ := List.forall₂_cons_left_iff.1 all
    rw [← radixDigit?_eq_some_iff hb, radixDigit?_eq_filter,
      show radixDigit? 16 '+' = none by decide] at plus
    cases plus
  · rfl

theorem readRadix?_eq_some_iff (hb : base ≤ 16) : readRadix? base text = some n ↔
    RadixNumeral base (withoutPlus text) n ∧ n < 2 ^ 64 := by
  rw [readRadix?, Option.filter_eq_some_iff, readRadixDigits?_eq_some_iff hb, decide_eq_true_eq]
  rfl

theorem announcedBase?_eq_some_iff : announcedBase? c = some base ↔ (c, base) ∈ radixMarks := by
  constructor
  · intro h
    have listed : ((announcedBase? c).all fun b => (c, b) ∈ radixMarks) = true :=
      Text.forall_ascii (p := fun c => ((announcedBase? c).all fun b => (c, b) ∈ radixMarks) = true)
        (by decide +kernel) (isAscii_of_announcedBase? h)
    simpa [h] using listed
  · have announced : ∀ found ∈ radixMarks, announcedBase? found.1 = some found.2 := by decide
    exact announced (c, base)

theorem base_le_of_mem_radixMarks (h : (c, base) ∈ radixMarks) : base ≤ 16 := by
  have all : ∀ found ∈ radixMarks, found.2 ≤ 16 := by decide
  exact all (c, base) h

theorem announced?_eq_some_iff : announced? text = some (base, digits) ↔
    ∃ mark, text = '0' :: mark :: digits ∧ digits ≠ [] ∧ (mark, base) ∈ radixMarks := by
  unfold announced?
  split
  · next mark rest =>
    rw [Option.ite_none_left_eq_some, Option.map_eq_some_iff]
    constructor
    · rintro ⟨some, _, found, ⟨⟩⟩
      exact ⟨mark, rfl, mt List.isEmpty_iff.2 some, announcedBase?_eq_some_iff.1 found⟩
    · rintro ⟨_, ⟨⟩, ne, found⟩
      exact ⟨mt List.isEmpty_iff.1 ne, base, announcedBase?_eq_some_iff.2 found, rfl⟩
  · next other =>
    refine iff_of_false (by simp) ?_
    rintro ⟨mark, rfl, -⟩
    exact other _ _ rfl

end

/-! ## Numbers -/

section

variable {text : List Char} {d : Double}

theorem nearest_eq_ofInt (n : Nat) : Double.nearest false n 1 = .ofInt n := by
  rw [Double.ofInt, Int.natAbs_natCast, decide_eq_false (by omega)]

/-- What is read behind a zero and the mark of a base: digits, behind a plus sign or not. -/
theorem readTrimmed?_of_mark {mark : Char} {base : Nat} {digits : List Char} (ne : digits ≠ [])
    (hm : (mark, base) ∈ radixMarks) : readTrimmed? ('0' :: mark :: digits) = some d ↔
      AnnouncedNumeral mark (withoutPlus digits) d := by
  have unnamed : '0' :: mark :: digits ∉ infinityNames := by simp [infinityNames]
  have small := base_le_of_mem_radixMarks hm
  rw [readTrimmed?_of_not_mem unnamed, announced?_eq_some_iff.2 ⟨mark, rfl, ne, hm⟩]
  show (readRadix? base digits).map (.nearest false · 1) = some d ↔ _
  simp only [Option.map_eq_some_iff, readRadix?_eq_some_iff small, nearest_eq_ofInt]
  constructor
  · rintro ⟨n, ⟨number, below⟩, rfl⟩
    exact ⟨base, n, hm, number, below, rfl⟩
  · rintro ⟨other, n, found, number, below, rfl⟩
    rw [← announcedBase?_eq_some_iff] at hm found
    cases hm.symm.trans found
    exact ⟨n, ⟨number, below⟩, rfl⟩

/-- A text that is read is a numeral, or would be one without a plus sign behind the mark of a
base. -/
theorem readTrimmed?_eq_some_iff : readTrimmed? text = some d ↔ Numeral text d ∨
    ∃ mark digits, text = '0' :: mark :: '+' :: digits ∧ AnnouncedNumeral mark digits d := by
  constructor
  · intro h
    by_cases named : text ∈ infinityNames
    · simp only [infinityNames, List.mem_cons, List.not_mem_nil, or_false] at named
      rcases named with rfl | rfl | rfl
      · cases h
        exact .inl .infinity
      · cases h
        exact .inl .plusInfinity
      · cases h
        exact .inl .minusInfinity
    have read := h
    rw [readTrimmed?_of_not_mem named] at h
    split at h
    · next empty =>
      cases List.isEmpty_iff.1 empty
      cases h
      exact .inl .empty
    split at h
    · next base digits announced =>
      obtain ⟨mark, rfl, ne, hm⟩ := announced?_eq_some_iff.1 announced
      have numeral := (readTrimmed?_of_mark ne hm).1 read
      unfold withoutPlus at numeral
      split at numeral
      · exact .inr ⟨mark, _, rfl, numeral⟩
      · exact .inl (.announced numeral)
    · rw [Option.ite_none_left_eq_some, Option.map_eq_some_iff] at h
      obtain ⟨-, decimal, spelled, rfl⟩ := h
      exact .inl (.decimal (ofChars?_eq_some_iff.1 spelled))
  · rintro (numeral | ⟨mark, digits, rfl, numeral⟩)
    · cases numeral with
      | empty => rfl
      | infinity => rfl
      | plusInfinity => rfl
      | minusInfinity => rfl
      | announced numeral =>
        obtain ⟨base, n, hm, number, -⟩ := id numeral
        rw [readTrimmed?_of_mark number.1 hm,
          number.withoutPlus_eq (base_le_of_mem_radixMarks hm)]
        exact numeral
      | decimal numeral => exact readTrimmed?_of_ofChars? (ofChars?_eq_some_iff.2 numeral)
    · obtain ⟨base, n, hm, -⟩ := id numeral
      exact (readTrimmed?_of_mark (List.cons_ne_nil _ _) hm).2 numeral

/-- The texts that are read as numbers. Without blanks around it such a text is a numeral, or the
mark of a base with a plus sign behind it and digits of the base. -/
theorem read?_eq_some_iff (s : String) (d : Double) : read? s = some d ↔
    Numeral (Text.trim s.toList) d ∨
      ∃ mark digits, Text.trim s.toList = '0' :: mark :: '+' :: digits ∧
        AnnouncedNumeral mark digits d :=
  readTrimmed?_eq_some_iff

/-- No numeral has a plus sign behind the mark of a base, but such a text is read. -/
theorem not_only_numerals :
    ¬∀ s, (∃ d, read? s = some d) ↔ ∃ d, Numeral (Text.trim s.toList) d := by
  intro all
  have trimmed : Text.trim "0x+1F".toList = ['0', 'x', '+', '1', 'F'] := by decide +kernel
  have read : read? "0x+1F" = some (.ofInt 31) := by decide +kernel
  obtain ⟨d, numeral⟩ := (all "0x+1F").1 ⟨_, read⟩
  rw [trimmed] at numeral
  generalize e : ['0', 'x', '+', '1', 'F'] = text at numeral
  cases numeral with
  | empty => cases e
  | infinity => exact absurd e (by decide)
  | plusInfinity => exact absurd e (by decide)
  | minusInfinity => exact absurd e (by decide)
  | announced numeral =>
    cases e
    obtain ⟨base, n, hm, number, -⟩ := numeral
    exact absurd (number.withoutPlus_eq (base_le_of_mem_radixMarks hm)) (by decide)
  | decimal numeral =>
    have unread : Decimal.ofChars? ['0', 'x', '+', '1', 'F'] = none := by decide
    rw [← ofChars?_eq_some_iff, ← e, unread] at numeral
    cases numeral

end

end TableQuery.Number
