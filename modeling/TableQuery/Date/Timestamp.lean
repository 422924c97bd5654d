import TableQuery.Date.Format

/-!
# Timestamps

Two notations for a point of time with its distance from the time at Greenwich: the one of the
internet's protocols, `2021-03-04T05:06:07Z`, and the one of its mails,
`Thu, 4 Mar 2021 05:06:07 +0000`.
-/

namespace TableQuery.Date

/-- Takes blanks, at least one, off the front of a text. -/
def takeBlanks : List Char → Option (List Char)
  | c :: rest => if Text.isBlank c then some (Text.trimStart rest) else none
  | [] => none

/-- Two digits of hours, a separator and two digits of minutes below sixty, as minutes. -/
def takeOffsetDigits (separator text : List Char) : Option (Nat × List Char) := do
  let (hours, text) ← takeDigits 2 2 text
  let text ← takeWord separator text
  let (minutes, text) ← takeDigits 2 2 text
  if minutes ≤ 59 then some (hours * 60 + minutes, text) else none

/-- A distance from Greenwich in minutes with its sign. The minus sign of mathematics may stand for
the hyphen in the notation with a colon. -/
def takeOffset (separator : List Char) : List Char → Option (Int × List Char)
  | c :: text =>
    if c = '+' then (takeOffsetDigits separator text).map fun (n, rest) => ((n : Int), rest)
    else if c = '-' ∨ (c = '\u2212' ∧ separator ≠ []) then
      (takeOffsetDigits separator text).map fun (n, rest) => (-(n : Int), rest)
    else none
  | [] => none

/-! ## The notation of protocols -/

/-- A point and digits may follow the seconds. -/
def takeFraction : List Char → Option (List Char)
  | '.' :: text =>
    if text.head?.any Number.isDigit then some (text.dropWhile Number.isDigit) else none
  | text => some text

def takeZulu : List Char → Option (Int × List Char)
  | c :: text => if c = 'Z' ∨ c = 'z' then some (0, text) else takeOffset [':'] (c :: text)
  | [] => none

/-- The mark between the date and the time. -/
def takeTimeMark : List Char → Option (List Char)
  | c :: text => if c = 'T' ∨ c = 't' ∨ c = ' ' then some text else none
  | [] => none

def readProtocol? (text : List Char) : Option Stamp := do
  let (year, text) ← takeDigits 4 4 text
  let text ← takeChar '-' text
  let (month, text) ← takeDigits 2 2 text
  let text ← takeChar '-' text
  let (day, text) ← takeDigits 2 2 text
  let text ← takeTimeMark text
  let (hour, text) ← takeDigits 2 2 text
  let text ← takeChar ':' text
  let (minute, text) ← takeDigits 2 2 text
  let text ← takeChar ':' text
  let (second, text) ← takeDigits 2 2 text
  let text ← takeFraction text
  let (offset, text) ← takeZulu text
  if text.isEmpty then some { year, month, day, hour, minute, second, offset } else none

/-! ## The notation of mails -/

/-- The names of zones, in lower case, with their distance from Greenwich in hours. -/
def zones : List (List Char × Int) :=
  [("gmt", 0), ("ut", 0), ("z", 0), ("edt", -4), ("est", -5), ("cdt", -5), ("cst", -6),
    ("mdt", -6), ("mst", -7), ("pdt", -7), ("pst", -8)].map fun (name, h) => (name.toList, h)

/-- The letters that are the name of a zone by themselves. They are all taken for Greenwich. -/
def isZoneLetter (c : Char) : Bool :=
  c.isAlpha && c.toLower != 'j' && c.toLower != 'z'

/-- The distance from Greenwich of a named zone. -/
def zoneOffset? (name : List Char) : Option Int :=
  match zones.lookup (name.map Char.toLower), name with
  | some hours, _ => some (hours * 60)
  | none, [c] => if isZoneLetter c then some 0 else none
  | none, _ => none

def takeZone (text : List Char) : Option (Int × List Char) :=
  let name := text.takeWhile Char.isAlpha
  if name.isEmpty then takeOffset [] text
  else (zoneOffset? name).map (·, text.dropWhile Char.isAlpha)

/-- What follows a comment whose parentheses are open to this depth. A backslash takes the meaning
from the character behind it. -/
def commentRest (depth : Nat) : List Char → Option (List Char)
  | [] => none
  | '\\' :: _ :: rest => commentRest depth rest
  | '\\' :: [] => none
  | '(' :: rest => commentRest (depth + 1) rest
  | ')' :: rest => if depth = 1 then some rest else commentRest (depth - 1) rest
  | _ :: rest => commentRest depth rest

theorem length_commentRest_lt {depth : Nat} {text rest : List Char}
    (h : commentRest depth text = some rest) : rest.length < text.length := by
  fun_induction commentRest depth text <;> grind

/-- What follows a comment with blanks before it. -/
def afterComment? (text : List Char) : Option (List Char) :=
  (takeChar '(' (Text.trimStart text)).bind (commentRest 1)

theorem length_afterComment?_lt {text rest : List Char} (h : afterComment? text = some rest) :
    rest.length < text.length := by
  obtain ⟨body, opened, closed⟩ := Option.bind_eq_some_iff.1 h
  have shorter := length_commentRest_lt closed
  have trimmed : (Text.trimStart text).length ≤ text.length :=
    (List.dropWhile_sublist Text.isBlank).length_le
  cases start : Text.trimStart text with
  | nil => simp [start, takeChar] at opened
  | cons c body' =>
    rw [start, takeChar] at opened
    split at opened
    · cases opened
      rw [start, List.length_cons] at trimmed
      omega
    · cases opened

/-- Is the text a row of comments? -/
def isComments (text : List Char) : Bool :=
  if text.isEmpty then true
  else
    match h : afterComment? text with
    | some rest =>
      have := length_afterComment?_lt h
      isComments rest
    | none => false
termination_by text.length

/-- The year of two or three digits that is meant by them; more digits mean what they say. -/
def fullYear (digits year : Nat) : Nat :=
  if digits = 2 then (if year ≤ 49 then year + 2000 else year + 1900)
  else if digits = 3 then year + 1900
  else year

/-- The day of the week with a comma behind it, which may be left out. -/
def takeWeekday (text : List Char) : Option (Option Nat × List Char) :=
  match takeShortDay text with
  | none => some (none, text)
  | some (day, rest) => (takeChar ',' rest).map (some day, ·)

/-- The seconds behind a colon, which may be left out. -/
def takeSeconds (text : List Char) : Option (Nat × List Char) :=
  match takeChar ':' (Text.trimStart text) with
  | none => some (0, text)
  | some rest => takeDigits 2 2 rest

def readMail? (text : List Char) : Option Stamp := do
  let (weekday, text) ← takeWeekday (Text.trimStart text)
  let (day, text) ← takeDigits 1 2 (Text.trimStart text)
  let text ← takeBlanks text
  let (month, _, text) ← takeShortMonth text
  let text ← takeBlanks text
  let (year, rest) ← takeDigits 2 text.length text
  let year := fullYear (text.length - rest.length) year
  let text ← takeBlanks rest
  let (hour, text) ← takeDigits 2 2 text
  let text ← takeChar ':' (Text.trimStart text)
  let (minute, text) ← takeDigits 2 2 (Text.trimStart text)
  let (second, text) ← takeSeconds text
  let text ← takeBlanks text
  let (offset, text) ← takeZone text
  if isComments text then some { year, month, day, hour, minute, second, weekday, offset } else none

/-- Does a text give a point of time or a date in one of the known notations? -/
def isDate (text : List Char) : Bool :=
  Format.all.any (fun format => (format.read? text).any Stamp.isValid) ||
    (readProtocol? text).any Stamp.isValid || (readMail? text).any Stamp.isValid

end TableQuery.Date
