import TableQuery.Proofs.Text.Blank
import TableQuery.Query.Lexer

/-!
# Cutting a text at a separator

A token ends at the latest before a blank, a comma, a closing parenthesis or a semicolon, unless
this stands between quotes. So a text can be cut into items on both sides of such a separator apart,
provided that no quote before it is left open.

* `Separates`: the characters that no token goes on with;
* `scan_append`: what follows a separator behind the first item does not change the item;
* `items_append_cons`, `items_append`: the items before a separator and the items behind it.
-/

namespace TableQuery.Query

open Text (isBlank)

/-! ## Blanks are in no class of characters -/

section

variable {b : Char}

theorem isNameChar_of_isBlank (h : isBlank b = true) : isNameChar b = false := by
  rw [isNameChar, Text.isAlphanumeric_of_isBlank h, Bool.false_or, decide_eq_false_iff_not]
  exact Text.ne_of_isBlank h (by decide)

theorem isDigit_of_isBlank (h : isBlank b = true) : Number.isDigit b = false := by
  cases digit : Number.isDigit b with
  | false => rfl
  | true =>
    rw [Text.isBlank_of_isDigit digit] at h
    cases h

theorem isOperatorChar_of_isBlank (h : isBlank b = true) : isOperatorChar b = false := by
  simp only [isOperatorChar, Bool.or_eq_false_iff, decide_eq_false_iff_not]
  exact ⟨⟨⟨Text.ne_of_isBlank h (by decide), Text.ne_of_isBlank h (by decide)⟩,
    Text.ne_of_isBlank h (by decide)⟩, Text.ne_of_isBlank h (by decide)⟩

end

/-- No token goes on with the character, unless it is between quotes. -/
structure Separates (b : Char) : Prop where
  name : isNameChar b = false
  digit : Number.isDigit b = false
  point : b ≠ '.'
  sign : ¬(b = '+' ∨ b = '-')
  letter : ¬(b = 'e' ∨ b = 'E')
  operator : isOperatorChar b = false
  string : b ≠ '\''
  quote : ¬(b = '"' ∨ b = '\x60')

theorem separates_of_isBlank {b : Char} (h : isBlank b = true) : Separates b where
  name := isNameChar_of_isBlank h
  digit := isDigit_of_isBlank h
  point := Text.ne_of_isBlank h (by decide)
  sign e := e.elim (Text.ne_of_isBlank h (by decide)) (Text.ne_of_isBlank h (by decide))
  letter e := e.elim (Text.ne_of_isBlank h (by decide)) (Text.ne_of_isBlank h (by decide))
  operator := isOperatorChar_of_isBlank h
  string := Text.ne_of_isBlank h (by decide)
  quote e := e.elim (Text.ne_of_isBlank h (by decide)) (Text.ne_of_isBlank h (by decide))

/-- The signs that stand close behind a token. -/
theorem separates_of_mem {b : Char} (h : b ∈ [',', ')', ';']) : Separates b := by
  simp only [List.mem_cons, List.not_mem_nil, or_false] at h
  rcases h with rfl | rfl | rfl <;> constructor <;> decide

/-! ## The parts of a token before a separator -/

/-- A part that was read, with more text behind what is left. -/
def follow (tail : List Char) {α : Type} (part : α × List Char) : α × List Char :=
  (part.1, part.2 ++ tail)

section

variable {b : Char} (text more : List Char)

theorem takeWhile_append_cons {p : Char → Bool} (hb : p b = false) :
    (text ++ b :: more).takeWhile p = text.takeWhile p := by
  induction text with
  | nil => rw [List.nil_append, List.takeWhile_cons, hb]; rfl
  | cons c rest ih =>
    rw [List.cons_append, List.takeWhile_cons, List.takeWhile_cons, ih]

theorem dropWhile_append_cons {p : Char → Bool} (hb : p b = false) :
    (text ++ b :: more).dropWhile p = text.dropWhile p ++ b :: more := by
  induction text with
  | nil => rw [List.nil_append, List.dropWhile_cons, hb]; rfl
  | cons c rest ih =>
    rw [List.cons_append, List.dropWhile_cons, List.dropWhile_cons, ih]
    split <;> rfl

theorem takePoint_cons_of_ne {c : Char} (h : c ≠ '.') (rest : List Char) :
    takePoint (c :: rest) = ([], c :: rest) := by
  unfold takePoint
  split
  · next e => exact absurd (List.cons.inj e).1 h
  · rfl

theorem takePoint_append (hb : Separates b) :
    takePoint (text ++ b :: more) = follow (b :: more) (takePoint text) := by
  cases text with
  | nil => exact takePoint_cons_of_ne hb.point more
  | cons c rest =>
    rw [List.cons_append]
    by_cases point : c = '.'
    · rw [point, takePoint, takePoint, takeWhile_append_cons _ _ hb.digit,
        dropWhile_append_cons _ _ hb.digit]
      rfl
    · rw [takePoint_cons_of_ne point, takePoint_cons_of_ne point]
      rfl

theorem takeSign_append (hb : Separates b) :
    takeSign (text ++ b :: more) = follow (b :: more) (takeSign text) := by
  cases text with
  | nil =>
    rw [List.nil_append, takeSign, if_neg hb.sign]
    rfl
  | cons c tail =>
    rw [List.cons_append, takeSign, takeSign]
    split <;> rfl

theorem takeExponent_append (hb : Separates b) :
    takeExponent (text ++ b :: more) = follow (b :: more) (takeExponent text) := by
  cases text with
  | nil => exact if_neg fun h => hb.letter h.1
  | cons c tail =>
    rw [List.cons_append, takeExponent, takeExponent, takeSign_append tail more hb]
    simp only [follow, takeWhile_append_cons _ _ hb.digit, dropWhile_append_cons _ _ hb.digit]
    split <;> rfl

theorem takeNumber_append (hb : Separates b) :
    takeNumber (text ++ b :: more) = follow (b :: more) (takeNumber text) := by
  simp only [takeNumber, takeWhile_append_cons _ _ hb.digit, dropWhile_append_cons _ _ hb.digit,
    takePoint_append _ more hb, follow, takeExponent_append _ more hb]

theorem takeQuoted_cons_of_ne {quote c : Char} (hc : c ≠ quote) (rest : List Char) :
    takeQuoted quote (c :: rest) =
      (takeQuoted quote rest).map fun (inner, after) => (c :: inner, after) := by
  rw [takeQuoted.eq_def]
  exact if_neg hc

theorem takeQuoted_quote_quote (quote : Char) (rest : List Char) :
    takeQuoted quote (quote :: quote :: rest) =
      (takeQuoted quote rest).map fun (inner, after) => (quote :: inner, after) := by
  rw [takeQuoted.eq_def]
  simp only [if_true]

theorem takeQuoted_quote_cons_of_ne {quote d : Char} (hd : d ≠ quote) (rest : List Char) :
    takeQuoted quote (quote :: d :: rest) = some ([], d :: rest) := by
  rw [takeQuoted.eq_def]
  simp only [if_true, if_neg hd]

variable {text}

/-- A text between quotes may hold separators, so the quote must be closed before. -/
theorem takeQuoted_append {quote : Char} (hq : b ≠ quote) {inner after : List Char}
    (h : takeQuoted quote text = some (inner, after)) :
    takeQuoted quote (text ++ b :: more) = some (inner, after ++ b :: more) := by
  fun_induction takeQuoted quote text generalizing inner after with
  | case1 => cases h
  | case2 =>
    obtain ⟨rfl, rfl⟩ := Prod.mk.inj (Option.some.inj h)
    exact takeQuoted_quote_cons_of_ne hq more
  | case3 rest ih =>
    obtain ⟨⟨inner', after'⟩, h', e⟩ := Option.map_eq_some_iff.1 h
    cases e
    rw [List.cons_append, List.cons_append, takeQuoted_quote_quote, ih h']
    rfl
  | case4 d rest hd =>
    obtain ⟨rfl, rfl⟩ := Prod.mk.inj (Option.some.inj h)
    exact takeQuoted_quote_cons_of_ne hd _
  | case5 c rest hc ih =>
    obtain ⟨⟨inner', after'⟩, h', e⟩ := Option.map_eq_some_iff.1 h
    cases e
    rw [List.cons_append, takeQuoted_cons_of_ne hc, ih h']
    rfl

theorem quotedItem_append {quote : Char} (hq : b ≠ quote) (token : String → Token)
    (h : (quotedItem quote token text).1 ≠ .error .unclosedQuote) :
    quotedItem quote token (text ++ b :: more) =
      follow (b :: more) (quotedItem quote token text) := by
  rw [quotedItem] at h
  split at h
  · exact absurd rfl h
  · next inner after e => rw [quotedItem, quotedItem, e, takeQuoted_append more hq e]; rfl

/-- What stands behind a separator does not change the item before it. -/
theorem scan_append (hb : Separates b) {c : Char}
    (h : (scan c text).1 ≠ .error .unclosedQuote) :
    scan c (text ++ b :: more) = follow (b :: more) (scan c text) := by
  rw [scan] at h
  rw [scan, scan]
  by_cases string : c = '\''
  · rw [if_pos string] at h
    rw [if_pos string, if_pos string]
    exact quotedItem_append more (fun e => hb.string (e.trans string)) _ h
  rw [if_neg string] at h
  rw [if_neg string, if_neg string]
  by_cases name : c = '"' ∨ c = '\x60'
  · rw [if_pos name] at h
    rw [if_pos name, if_pos name]
    exact quotedItem_append more (fun e => hb.quote (by rwa [e])) _ h
  rw [if_neg name, if_neg name, takeNumber_append text more hb,
    takeWhile_append_cons _ _ hb.name, dropWhile_append_cons _ _ hb.name,
    takeWhile_append_cons _ _ hb.operator, dropWhile_append_cons _ _ hb.operator]
  split
  · rfl
  split
  · rfl
  split
  · rfl
  split <;> rfl

end

/-! ## The items on both sides of a separator -/

theorem items_blank_append {gap : List Char} (h : ∀ b ∈ gap, isBlank b = true)
    (text : List Char) : items (gap ++ text) = items text := by
  induction gap with
  | nil => rfl
  | cons b rest ih =>
    rw [List.cons_append, items, if_pos (h b List.mem_cons_self)]
    exact ih fun c hc => h c (List.mem_cons_of_mem _ hc)

/-- The items before a separator, none of which is an open quote, and the items from it on. -/
theorem items_append_cons {b : Char} (hb : Separates b) {text : List Char}
    (h : .error .unclosedQuote ∉ items text) (more : List Char) :
    items (text ++ b :: more) = items text ++ items (b :: more) := by
  fun_induction items text with
  | case1 => rfl
  | case2 c rest blank ih => rw [List.cons_append, items, if_pos blank, ih h]
  | case3 c rest blank _ ih =>
    rw [List.mem_cons, not_or] at h
    rw [List.cons_append, items, if_neg blank, scan_append more hb (Ne.symm h.1)]
    simp only [follow, ih h.2, List.cons_append]

/-- The items before a blank, none of which is an open quote, and the items behind it. -/
theorem items_append {b : Char} (hb : isBlank b = true) {text : List Char}
    (h : .error .unclosedQuote ∉ items text) (more : List Char) :
    items (text ++ b :: more) = items text ++ items more := by
  rw [items_append_cons (separates_of_isBlank hb) h, items, if_pos hb]

end TableQuery.Query
