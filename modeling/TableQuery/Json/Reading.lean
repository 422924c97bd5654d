import TableQuery.Number.Digits

/-!
# Reading documents

The parts of a JSON text, each taken off its front. A string may hold escapes for halves of
characters beyond the basic ones; only if they fit together does it spell a text.

* `takeText`: a string that spells a text;
* `takeInteger`: a number, and whether it is written as an integer;
* `skipValue`: any value.
-/

namespace TableQuery.Json

def isSpace (c : Char) : Bool :=
  c = ' ' || c = '\t' || c = '\n' || c = '\r'

def skipSpace (text : List Char) : List Char :=
  text.dropWhile isSpace

/-- Takes a given character, with spaces before it, off the front. -/
def takeMark (mark : Char) (text : List Char) : Option (List Char) :=
  match skipSpace text with
  | c :: rest => if c = mark then some rest else none
  | [] => none

/-- Takes a given word off the front. -/
def takeLiteral (word : List Char) (text : List Char) : Option (List Char) :=
  if text.take word.length = word then some (text.drop word.length) else none

/-! ## Strings -/

/-- A part of a string: a character, or a number of sixteen bits that an escape gives. -/
inductive StringPart
  | char (c : Char)
  | unit (n : Nat)
deriving DecidableEq, Repr

def hexValue? (c : Char) : Option Nat :=
  if '0' ≤ c ∧ c ≤ '9' then some (c.toNat - '0'.toNat)
  else if 'a' ≤ c ∧ c ≤ 'f' then some (c.toNat - 'a'.toNat + 10)
  else if 'A' ≤ c ∧ c ≤ 'F' then some (c.toNat - 'A'.toNat + 10)
  else none

/-- The number that four hexadecimal digits give. -/
def unitOf? (a b c d : Char) : Option Nat := do
  let a ← hexValue? a
  let b ← hexValue? b
  let c ← hexValue? c
  let d ← hexValue? d
  return ((a * 16 + b) * 16 + c) * 16 + d

/-- The character that a backslash and a letter stand for. -/
def escape? (c : Char) : Option Char :=
  match c with
  | '"' => some '"'
  | '\\' => some '\\'
  | '/' => some '/'
  | 'b' => some '\x08'
  | 'f' => some '\x0c'
  | 'n' => some '\n'
  | 'r' => some '\r'
  | 't' => some '\t'
  | _ => none

/-- The parts of a string behind its opening quote. Control characters may not stand in it. -/
def takeParts : List Char → Option (List StringPart × List Char)
  | [] => none
  | '"' :: rest => some ([], rest)
  | '\\' :: 'u' :: a :: b :: c :: d :: rest => do
    let n ← unitOf? a b c d
    let (parts, rest) ← takeParts rest
    return (.unit n :: parts, rest)
  | '\\' :: c :: rest => do
    let c ← escape? c
    let (parts, rest) ← takeParts rest
    return (.char c :: parts, rest)
  | c :: rest => do
    if c = '\\' ∨ c.toNat < 0x20 then none
    let (parts, rest) ← takeParts rest
    return (.char c :: parts, rest)

/-- Is the number the first half of a character? -/
def isHighHalf (n : Nat) : Bool :=
  0xD800 ≤ n && n < 0xDC00

/-- Is the number the second half of a character? -/
def isLowHalf (n : Nat) : Bool :=
  0xDC00 ≤ n && n < 0xE000

/-- The text that the parts of a string spell. -/
def spelled? : List StringPart → Option (List Char)
  | [] => some []
  | .char c :: rest => (c :: ·) <$> spelled? rest
  | .unit n :: .unit m :: rest =>
    if isHighHalf n then
      if isLowHalf m then
        (Char.ofNat (0x10000 + (n - 0xD800) * 0x400 + (m - 0xDC00)) :: ·) <$> spelled? rest
      else none
    else if isLowHalf n then none
    else (Char.ofNat n :: ·) <$> spelled? (.unit m :: rest)
  | .unit n :: rest =>
    if isHighHalf n || isLowHalf n then none else (Char.ofNat n :: ·) <$> spelled? rest

/-- Takes a string that spells a text, with spaces before it. -/
def takeText (text : List Char) : Option (String × List Char) := do
  let rest ← takeMark '"' text
  let (parts, rest) ← takeParts rest
  let chars ← spelled? parts
  return (String.ofList chars, rest)

/-! ## Numbers -/

/-- The digits of a whole number, which do not begin with a zero unless it is alone. -/
def takeWhole (text : List Char) : Option (List Char × List Char) :=
  match text with
  | '0' :: rest => if rest.head?.any Number.isDigit then none else some (['0'], rest)
  | text =>
    let digits := text.takeWhile Number.isDigit
    if digits.isEmpty then none else some (digits, text.dropWhile Number.isDigit)

/-- At least one digit. -/
def takeSomeDigits (text : List Char) : Option (List Char) :=
  if text.head?.any Number.isDigit then some (text.dropWhile Number.isDigit) else none

/-- What may follow the whole part of a number, and whether anything did. -/
def takeTail (text : List Char) : Option (Bool × List Char) := do
  let (pointed, text) ← match text with
    | '.' :: rest => (takeSomeDigits rest).map (true, ·)
    | text => some (false, text)
  match text with
  | e :: rest =>
    if e = 'e' ∨ e = 'E' then
      let rest := match rest with
        | c :: rest' => if c = '+' ∨ c = '-' then rest' else rest
        | [] => []
      (takeSomeDigits rest).map (true, ·)
    else some (pointed, text)
  | [] => some (pointed, text)

/-- Takes a number off the front: the natural number that it is written as, if it is written as one,
and what follows it. -/
def takeNumber (text : List Char) : Option (Option Nat × List Char) := do
  let (negative, text) := match text with
    | '-' :: rest => (true, rest)
    | text => (false, text)
  let (digits, text) ← takeWhole text
  let (tailed, text) ← takeTail text
  return (if negative || tailed then none else some (Number.ofDigits digits), text)

/-! ## Any value -/

mutual

/-- Skips a value, which holds at most `fuel` values and ends. -/
def skipValueWithin : Nat → List Char → Option (List Char)
  | 0, _ => none
  | fuel + 1, text =>
    match skipSpace text with
    | '{' :: rest =>
      match takeMark '}' rest with
      | some rest => some rest
      | none => skipMembersWithin fuel rest
    | '[' :: rest =>
      match takeMark ']' rest with
      | some rest => some rest
      | none => skipItemsWithin fuel rest
    | '"' :: rest => (takeParts rest).map Prod.snd
    | 't' :: rest => takeLiteral "rue".toList rest
    | 'f' :: rest => takeLiteral "alse".toList rest
    | 'n' :: rest => takeLiteral "ull".toList rest
    | text => (takeNumber text).map Prod.snd

/-- Skips the items of a list and its closing bracket. -/
def skipItemsWithin : Nat → List Char → Option (List Char)
  | 0, _ => none
  | fuel + 1, text => do
    let text ← skipValueWithin fuel text
    match takeMark ',' text with
    | some rest => skipItemsWithin fuel rest
    | none => takeMark ']' text

/-- Skips the members of an object and its closing brace. -/
def skipMembersWithin : Nat → List Char → Option (List Char)
  | 0, _ => none
  | fuel + 1, text => do
    let text ← takeMark '"' text
    let (_, text) ← takeParts text
    let text ← takeMark ':' text
    let text ← skipValueWithin fuel text
    match takeMark ',' text with
    | some rest => skipMembersWithin fuel rest
    | none => takeMark '}' text

end

/-- Skips a value. Each step takes at least one character, so twice as many steps as there are
characters are enough. -/
def skipValue (text : List Char) : Option (List Char) :=
  skipValueWithin (2 * text.length + 2) text

end TableQuery.Json
