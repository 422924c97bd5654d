import Mathlib.Data.List.TakeWhile
import TableQuery.Proofs.Query.Lexer

/-!
# Tokens that are written and read

A token may be written in more than one way, for the letters of a keyword may be of either case. Any
of them is cut out of a text as that token again, and so are tokens in a row with blanks between
them.

* `Token.Spells`: the words that a token is written as;
* `items_of_spells`: such a word is cut into the token alone;
* `Spaced`: texts of tokens with blanks between them;
* `items_of_spaced`: such a text is cut into the tokens.
-/

namespace TableQuery.Query

open Text (isBlank)

namespace Token

/-- Does the word write the token? The letters of a keyword may be of either case. -/
def Spells (word : List Char) : Token → Prop
  | keyword k => word.map Char.toUpper = k.word.toList
  | token => word = token.chars

/-- A token that a text can hold: what its text is made of fits its kind. -/
def IsLexeme : Token → Prop
  | number text => ∃ c rest, text.toList = c :: rest ∧ Number.isDigit c = true ∧
      takeNumber rest = (rest, [])
  | operator text => text ≠ "" ∧ text ≠ "=" ∧ ∀ c ∈ text.toList, isOperatorChar c = true
  | _ => True

end Token

/-! ## Items by their first character -/

section

variable {c : Char} {rest : List Char}

theorem items_cons (h : isBlank c = false) :
    items (c :: rest) = (scan c rest).1 :: items (scan c rest).2 := by
  rw [items, if_neg (Bool.eq_false_iff.1 h)]

theorem items_nil : items [] = [] := by
  rw [items]

theorem isNameStart_of_isDigit (h : Number.isDigit c = true) : isNameStart c = false := by
  have letters : ∀ n ∈ List.range 58, 48 ≤ n → Text.holds Text.alphabeticRanges n = false := by
    decide
  have underscore : c ≠ '_' := by rintro rfl; revert h; decide
  simp only [Number.isDigit, Bool.and_eq_true, decide_eq_true_eq, Char.le_def,
    UInt32.le_iff_toNat_le] at h
  rw [isNameStart, Text.isAlphabetic, Text.inRanges,
    letters c.toNat (List.mem_range.2 (Nat.lt_succ_of_le h.2)) h.1, Bool.false_or]
  exact decide_eq_false underscore

/-- A letter that begins a name is none of the characters that begin another token. -/
theorem scan_of_isNameStart (h : isNameStart c = true) :
    scan c rest =
      (.ok (wordToken (c :: rest.takeWhile isNameChar)), rest.dropWhile isNameChar) := by
  have string : c ≠ '\'' := by rintro rfl; revert h; decide
  have name : ¬(c = '"' ∨ c = '\x60') := by rintro (rfl | rfl) <;> revert h <;> decide
  have digit : ¬Number.isDigit c = true := fun d => by
    rw [isNameStart_of_isDigit d] at h
    cases h
  rw [scan, if_neg string, if_neg name, if_neg digit, if_pos h]

end

/-! ## Words without quotes -/

/-- A letter whose capital is one of `A` to `Z` is one of these or the small letter to it. -/
theorem mem_of_toUpper {c : Char} (h : c.toUpper.toNat ∈ List.range' 65 26) :
    c.toNat ∈ List.range' 65 26 ++ List.range' 97 26 := by
  by_cases small : 'a'.val ≤ c.val ∧ c.val ≤ 'z'.val
  · rw [UInt32.le_iff_toNat_le, UInt32.le_iff_toNat_le] at small
    exact List.mem_append_right _ (List.mem_range'_1.2 ⟨small.1, Nat.lt_succ_of_le small.2⟩)
  · have same : c.toUpper = c := dif_neg small
    exact List.mem_append_left _ (same ▸ h)

theorem isNameStart_of_toUpper {c : Char} (h : c.toUpper.toNat ∈ List.range' 65 26) :
    isNameStart c = true := by
  have letters : ∀ n ∈ List.range' 65 26 ++ List.range' 97 26,
      Text.holds Text.alphabeticRanges n = true := by
    decide
  rw [isNameStart, Text.isAlphabetic, Text.inRanges, letters _ (mem_of_toUpper h), Bool.true_or]

theorem isNameChar_of_isNameStart {c : Char} (h : isNameStart c = true) : isNameChar c = true := by
  rw [isNameChar, Text.isAlphanumeric, Bool.or_right_comm]
  rw [isNameStart] at h
  rw [h, Bool.true_or]

theorem capital_of_toUpper {c : Char} (h : c.toUpper.toNat ∈ List.range' 65 26) :
    Keyword.capital c = c.toUpper := by
  have long : c ≠ 'ſ' := by rintro rfl; revert h; decide
  have dotless : c ≠ 'ı' := by rintro rfl; revert h; decide
  rw [Keyword.capital, if_neg long, if_neg dotless]

theorem mem_word_of_keyword (k : Keyword) :
    ∀ c ∈ k.word.toList, c.toNat ∈ List.range' 65 26 := by
  have letters : k.word.toList.all (decide <| ·.toNat ∈ List.range' 65 26) = true := by
    cases k <;> decide
  exact fun c hc => of_decide_eq_true (List.all_eq_true.1 letters c hc)

theorem word_injective (k : Keyword) :
    Keyword.all.find? (fun j => j.word.toList = k.word.toList) = some k := by
  cases k <;> decide

section

variable {word : List Char} {k : Keyword}

theorem toUpper_of_spells (h : Token.Spells word (.keyword k)) :
    ∀ c ∈ word, c.toUpper.toNat ∈ List.range' 65 26 := fun c hc =>
  mem_word_of_keyword k c.toUpper
    ((show word.map Char.toUpper = k.word.toList from h) ▸ List.mem_map_of_mem hc)

theorem ofWord?_of_spells (h : Token.Spells word (.keyword k)) : Keyword.ofWord? word = some k := by
  have capitals : word.map Keyword.capital = k.word.toList := by
    rw [← show word.map Char.toUpper = k.word.toList from h]
    exact List.map_congr_left fun c hc => capital_of_toUpper (toUpper_of_spells h c hc)
  rw [Keyword.ofWord?, capitals]
  exact word_injective k

/-- A word of letters is cut into its token alone. -/
theorem items_word {c : Char} {rest : List Char} (hc : isNameStart c = true)
    (hr : ∀ d ∈ rest, isNameChar d = true) :
    items (c :: rest) = [.ok (wordToken (c :: rest))] := by
  have blank : isBlank c = false := by
    cases b : isBlank c with
    | false => rfl
    | true =>
      have := isNameChar_of_isBlank b
      rw [isNameChar_of_isNameStart hc] at this
      cases this
  rw [items_cons blank, scan_of_isNameStart hc, List.takeWhile_eq_self_iff.2 hr,
    List.dropWhile_eq_nil_iff.2 hr, items_nil]

theorem items_keyword (h : Token.Spells word (.keyword k)) : items word = [.ok (.keyword k)] := by
  have letters := fun c hc => isNameStart_of_toUpper (toUpper_of_spells h c hc)
  have keyword := ofWord?_of_spells h
  cases word with
  | nil => cases k <;> cases keyword
  | cons c rest =>
    rw [items_word (letters c List.mem_cons_self) fun d hd =>
      isNameChar_of_isNameStart (letters d (List.mem_cons_of_mem _ hd)), wordToken, keyword]

theorem items_plainName {name : String} (h : isPlainName name.toList = true) :
    items name.toList = [.ok (.ident name)] := by
  cases e : name.toList with
  | nil => rw [e] at h; cases h
  | cons c rest =>
    rw [e, isPlainName, Bool.and_eq_true, Bool.and_eq_true] at h
    obtain ⟨⟨first, others⟩, keyword⟩ := h
    rw [items_word first (List.all_eq_true.1 others), wordToken,
      Option.isNone_iff_eq_none.1 keyword, ← e, String.ofList_toList]

end

/-! ## Texts between quotes -/

/-- A text whose quotes are doubled, with a quote behind it. -/
theorem takeQuoted_flatMap (quote : Char) (text : List Char) :
    takeQuoted quote (text.flatMap (fun c => if c = quote then [c, c] else [c]) ++ [quote]) =
      some (text, []) := by
  induction text with
  | nil =>
    rw [takeQuoted.eq_def]
    exact if_pos rfl
  | cons c rest ih =>
    rw [List.flatMap_cons, List.append_assoc]
    by_cases hc : c = quote
    · rw [if_pos hc, hc, List.cons_append, List.singleton_append, takeQuoted_quote_quote, ih]
      rfl
    · rw [if_neg hc, List.singleton_append, takeQuoted_cons_of_ne hc, ih]
      rfl

theorem quotedItem_quoted (quote : Char) (token : String → Token) (text : String) :
    quotedItem quote token (text.toList.flatMap (fun c => if c = quote then [c, c] else [c]) ++
      [quote]) = (.ok (token text), []) := by
  rw [quotedItem, takeQuoted_flatMap]
  exact congrArg (fun inner => (Except.ok (token inner), [])) String.ofList_toList

theorem items_string (text : String) :
    items (quoted '\'' text.toList) = [.ok (.string text)] := by
  rw [quoted, List.cons_append, items_cons (by decide), scan, if_pos rfl, quotedItem_quoted,
    items_nil]

theorem items_quotedName (name : String) :
    items (quoted '"' name.toList) = [.ok (.ident name)] := by
  rw [quoted, List.cons_append, items_cons (by decide), scan, if_neg (by decide),
    if_pos (.inl rfl), quotedItem_quoted, items_nil]

/-! ## Operators, numbers and symbols -/

theorem isOperatorChar_iff {c : Char} : isOperatorChar c = true ↔ c ∈ ['=', '<', '>', '!'] := by
  simp [isOperatorChar, or_assoc]

theorem isLexeme_operator {text : String} (ne_empty : text ≠ "") (ne_equal : text ≠ "=")
    (letters : text.toList.all isOperatorChar = true) : (Token.operator text).IsLexeme :=
  ⟨ne_empty, ne_equal, List.all_eq_true.1 letters⟩

theorem items_operator {text : String} (h : (Token.operator text).IsLexeme) :
    items text.toList = [.ok (.operator text)] := by
  obtain ⟨ne_empty, ne_equal, letters⟩ := h
  cases e : text.toList with
  | nil => exact absurd (String.toList_eq_nil_iff.1 e) ne_empty
  | cons c rest =>
    rw [e] at letters
    have first := letters c List.mem_cons_self
    have others := fun d hd => letters d (List.mem_cons_of_mem c hd)
    obtain ⟨blank, string, name, digit, letter⟩ : isBlank c = false ∧ c ≠ '\'' ∧
        ¬(c = '"' ∨ c = '\x60') ∧ ¬Number.isDigit c = true ∧ ¬isNameStart c = true := by
      have sign := isOperatorChar_iff.1 first
      simp only [List.mem_cons, List.not_mem_nil, or_false] at sign
      rcases sign with rfl | rfl | rfl | rfl <;> decide
    have ne : c :: rest ≠ ['='] := fun eq => ne_equal (String.toList_inj.1 (e.trans eq))
    rw [items_cons blank, scan, if_neg string, if_neg name, if_neg digit, if_neg letter,
      if_pos first, List.takeWhile_eq_self_iff.2 others, List.dropWhile_eq_nil_iff.2 others,
      items_nil, operatorToken, if_neg ne, ← e, String.ofList_toList]

theorem items_number {text : String} (h : (Token.number text).IsLexeme) :
    items text.toList = [.ok (.number text)] := by
  obtain ⟨c, rest, e, digit, whole⟩ := h
  have string : c ≠ '\'' := by rintro rfl; revert digit; decide
  have name : ¬(c = '"' ∨ c = '\x60') := by rintro (rfl | rfl) <;> revert digit <;> decide
  rw [e, items_cons (Text.isBlank_of_isDigit digit), scan, if_neg string, if_neg name,
    if_pos digit, whole, items_nil]
  show [Except.ok (Token.number (String.ofList (c :: rest)))] = _
  rw [← e, String.ofList_toList]

theorem items_symbol {c : Char} {token : Token} (hb : isBlank c = false)
    (h : scan c [] = (.ok token, [])) : items [c] = [.ok token] := by
  rw [items_cons hb, h, items_nil]

/-! ## Tokens in a row -/

/-- A word that writes a token is cut into the token alone. -/
theorem items_of_spells {word : List Char} {token : Token} (ht : token.IsLexeme)
    (h : token.Spells word) : items word = [.ok token] := by
  cases token with
  | keyword k => exact items_keyword h
  | ident name =>
    obtain rfl : word = (Token.ident name).chars := h
    rw [Token.chars]
    split
    · next plain => exact items_plainName plain
    · exact items_quotedName name
  | string text =>
    obtain rfl : word = quoted '\'' text.toList := h
    exact items_string text
  | number text =>
    obtain rfl : word = text.toList := h
    exact items_number ht
  | operator text =>
    obtain rfl : word = text.toList := h
    exact items_operator ht
  | openParen | closeParen | comma | semicolon | asterisk | minus | equal =>
    rw [show word = _ from h]
    exact items_symbol (by decide) rfl

/-- The text writes the tokens in order, with one or more blanks between any two. -/
inductive Spaced : List Token → List Char → Prop
  | last {token : Token} {word : List Char} (spells : token.Spells word) : Spaced [token] word
  | cons {token : Token} {word gap : List Char} {tokens : List Token} {text : List Char}
      (spells : token.Spells word) (ne_nil : gap ≠ []) (blank : ∀ b ∈ gap, isBlank b = true)
      (rest : Spaced tokens text) : Spaced (token :: tokens) (word ++ gap ++ text)

/-- Tokens with blanks between them are cut apart at the blanks. -/
theorem items_of_spaced {tokens : List Token} {text : List Char} (h : Spaced tokens text)
    (ht : ∀ token ∈ tokens, token.IsLexeme) : items text = tokens.map .ok := by
  induction h with
  | last spells => exact items_of_spells (ht _ List.mem_cons_self) spells
  | @cons token word gap tokens text spells ne_nil blank rest ih =>
    obtain ⟨b, gap, rfl⟩ := List.exists_cons_of_ne_nil ne_nil
    have item := items_of_spells (ht token List.mem_cons_self) spells
    have closed : .error .unclosedQuote ∉ items word := by rw [item]; simp
    rw [List.append_assoc, List.cons_append, items_append (blank b List.mem_cons_self) closed, item,
      items_blank_append (fun c hc => blank c (List.mem_cons_of_mem _ hc)),
      ih fun token hm => ht token (List.mem_cons_of_mem _ hm)]
    rfl

end TableQuery.Query
