import TableQuery.Query.Token
import TableQuery.Text.Blank

/-!
# Cutting a query into tokens

`items` cuts a text into tokens. Blanks between tokens are dropped. A character that begins no token
gives a fault in its place and the cutting goes on behind it; a quote that is never closed gives a
fault and takes the rest of the text.

* `length_scan_le`: a token takes at least one character.
-/

namespace TableQuery.Query

/-- Why a part of a text is no token. -/
inductive LexicalFault
  | unexpectedCharacter (c : Char)
  | unclosedQuote
deriving DecidableEq, Repr

/-- What is wrong with the text. -/
def LexicalFault.reason : LexicalFault → String
  | unexpectedCharacter c => "[Lexer] Unexpected character " ++ c.toString
  | unclosedQuote => "[Lexer] Unexpected end of string"

def LexicalFault.message (fault : LexicalFault) : String :=
  "parse error " ++ fault.reason

/-- A piece of a query: a token, or what stands in place of one. -/
abbrev Item := Except LexicalFault Token

/-! ## The parts of a token -/

/-- Splits a text at the first quote that is not doubled: the text before it, with each doubled
quote read as one, and the text behind it. -/
def takeQuoted (quote : Char) : List Char → Option (List Char × List Char)
  | [] => none
  | c :: rest =>
    if c = quote then
      match rest with
      | [] => some ([], [])
      | d :: rest' =>
        if d = quote then (takeQuoted quote rest').map fun (text, after) => (quote :: text, after)
        else some ([], rest)
    else (takeQuoted quote rest).map fun (text, after) => (c :: text, after)

/-- A point and digits at the front of a text; what follows them. -/
def takePoint : List Char → List Char × List Char
  | '.' :: rest => ('.' :: rest.takeWhile Number.isDigit, rest.dropWhile Number.isDigit)
  | text => ([], text)

/-- A sign at the front of a text; what follows it. -/
def takeSign : List Char → List Char × List Char
  | c :: rest => if c = '+' ∨ c = '-' then ([c], rest) else ([], c :: rest)
  | [] => ([], [])

/-- An exponent with at least one digit at the front of a text; what follows it. -/
def takeExponent : List Char → List Char × List Char
  | [] => ([], [])
  | e :: rest =>
    let (sign, body) := takeSign rest
    let digits := body.takeWhile Number.isDigit
    if (e = 'e' ∨ e = 'E') ∧ digits ≠ [] then
      (e :: sign ++ digits, body.dropWhile Number.isDigit)
    else ([], e :: rest)

/-- The rest of a number behind its first digit; what follows the number. -/
def takeNumber (text : List Char) : List Char × List Char :=
  let digits := text.takeWhile Number.isDigit
  let (point, rest) := takePoint (text.dropWhile Number.isDigit)
  let (exponent, rest) := takeExponent rest
  (digits ++ point ++ exponent, rest)

/-- The characters that operators are made of. -/
def isOperatorChar (c : Char) : Bool :=
  c = '=' || c = '<' || c = '>' || c = '!'

/-- The token of a run of operator characters. -/
def operatorToken (text : List Char) : Token :=
  if text = ['='] then .equal else .operator (String.ofList text)

/-- The token of a word without quotes. -/
def wordToken (word : List Char) : Token :=
  match Keyword.ofWord? word with
  | some k => .keyword k
  | none => .ident (String.ofList word)

/-- The tokens of one character. -/
def symbol? (c : Char) : Option Token :=
  match c with
  | '*' => some .asterisk
  | '(' => some .openParen
  | ')' => some .closeParen
  | ',' => some .comma
  | ';' => some .semicolon
  | '-' => some .minus
  | _ => none

/-- The token of a quoted text behind its opening quote. -/
def quotedItem (quote : Char) (token : String → Token) (text : List Char) : Item × List Char :=
  match takeQuoted quote text with
  | none => (.error .unclosedQuote, [])
  | some (inner, after) => (.ok (token (String.ofList inner)), after)

/-- The item that begins with the character, which is no blank, and what follows the item. -/
def scan (c : Char) (rest : List Char) : Item × List Char :=
  if c = '\'' then quotedItem c .string rest
  else if c = '"' ∨ c = '\x60' then quotedItem c .ident rest
  else if Number.isDigit c then
    let (tail, after) := takeNumber rest
    (.ok (.number (String.ofList (c :: tail))), after)
  else if isNameStart c then
    (.ok (wordToken (c :: rest.takeWhile isNameChar)), rest.dropWhile isNameChar)
  else if isOperatorChar c then
    (.ok (operatorToken (c :: rest.takeWhile isOperatorChar)), rest.dropWhile isOperatorChar)
  else match symbol? c with
    | some token => (.ok token, rest)
    | none => (.error (.unexpectedCharacter c), rest)

/-! ## Every item takes a character -/

theorem length_dropWhile_le (p : Char → Bool) (text : List Char) :
    (text.dropWhile p).length ≤ text.length :=
  (List.dropWhile_sublist p).length_le

theorem length_takeQuoted_le {quote : Char} {text inner after : List Char}
    (h : takeQuoted quote text = some (inner, after)) : after.length ≤ text.length := by
  fun_induction takeQuoted quote text generalizing inner after with
  | case1 => simp at h
  | case2 => simp at h; simp [← h.2]
  | case3 rest ih =>
    obtain ⟨⟨inner', after'⟩, h', e⟩ := Option.map_eq_some_iff.1 h
    have := ih h'
    cases e
    simp only [List.length_cons]
    omega
  | case4 => simp at h; simp [← h.2]
  | case5 c rest _ ih =>
    obtain ⟨⟨inner', after'⟩, h', e⟩ := Option.map_eq_some_iff.1 h
    have := ih h'
    cases e
    simp only [List.length_cons]
    omega

theorem length_takePoint_le (text : List Char) : (takePoint text).2.length ≤ text.length := by
  unfold takePoint
  split
  · exact Nat.le_succ_of_le (length_dropWhile_le _ _)
  · exact Nat.le_refl _

theorem length_takeSign_le (text : List Char) : (takeSign text).2.length ≤ text.length := by
  cases text with
  | nil => exact Nat.le_refl _
  | cons c rest => rw [takeSign]; split <;> simp

theorem length_takeExponent_le (text : List Char) :
    (takeExponent text).2.length ≤ text.length := by
  cases text with
  | nil => exact Nat.le_refl _
  | cons e rest =>
    rw [takeExponent]
    simp only
    split
    · exact Nat.le_trans (length_dropWhile_le _ _) (Nat.le_succ_of_le (length_takeSign_le rest))
    · exact Nat.le_refl _

theorem length_takeNumber_le (text : List Char) : (takeNumber text).2.length ≤ text.length :=
  Nat.le_trans (length_takeExponent_le _)
    (Nat.le_trans (length_takePoint_le _) (length_dropWhile_le _ _))

theorem length_quotedItem_le (quote : Char) (token : String → Token) (text : List Char) :
    (quotedItem quote token text).2.length ≤ text.length := by
  unfold quotedItem
  split
  · exact Nat.zero_le _
  · next h => exact length_takeQuoted_le h

theorem length_scan_le (c : Char) (rest : List Char) : (scan c rest).2.length ≤ rest.length := by
  unfold scan
  split
  · exact length_quotedItem_le ..
  split
  · exact length_quotedItem_le ..
  split
  · exact length_takeNumber_le rest
  split
  · exact length_dropWhile_le ..
  split
  · exact length_dropWhile_le ..
  split <;> exact Nat.le_refl _

/-- The items of a text, in order. -/
def items : List Char → List Item
  | [] => []
  | c :: rest =>
    if Text.isBlank c then items rest
    else
      have := length_scan_le c rest
      (scan c rest).1 :: items (scan c rest).2
termination_by text => text.length

/-- The items of a query. -/
def lex (query : String) : List Item :=
  items query.toList

end TableQuery.Query
