import TableQuery.Date.Calendar
import TableQuery.Number.Digits
import TableQuery.Text.Blank

/-!
# Formats of dates

A format is a list of items, each of which takes a part off the front of a text and sets a part of a
date. Blanks may stand before every number, and any number of them, also none, where a format has a
gap.

* `Format.read?`: the date that a text gives in a format.
-/

namespace TableQuery.Date

/-- Takes at least `least` and at most `most` digits off the front of a text. -/
def takeDigits (least most : Nat) (text : List Char) : Option (Nat × List Char) :=
  let digits := (text.take most).takeWhile Number.isDigit
  if digits.length < least then none
  else some (Number.ofDigits digits, text.drop digits.length)

/-- Takes a given character off the front of a text. -/
def takeChar (c : Char) : List Char → Option (List Char)
  | d :: rest => if d = c then some rest else none
  | [] => none

/-- Takes a word, in letters of either case, off the front of a text. The word is in lower case. -/
def takeWord (word : List Char) (text : List Char) : Option (List Char) :=
  if (text.take word.length).map Char.toLower = word then some (text.drop word.length) else none

/-- The months, each as its first three letters and the rest of its name. -/
def monthNames : List (List Char × List Char) :=
  [("jan", "uary"), ("feb", "ruary"), ("mar", "ch"), ("apr", "il"), ("may", ""), ("jun", "e"),
    ("jul", "y"), ("aug", "ust"), ("sep", "tember"), ("oct", "ober"), ("nov", "ember"),
    ("dec", "ember")].map fun (s, t) => (s.toList, t.toList)

/-- The days of the week from Monday on, as their first three letters. -/
def dayNames : List (List Char) :=
  ["mon", "tue", "wed", "thu", "fri", "sat", "sun"].map String.toList

/-- Takes the first three letters of a month off the front of a text: the number of the month, the
rest of its name and the rest of the text. -/
def takeShortMonth (text : List Char) : Option (Nat × List Char × List Char) :=
  (monthNames.zipIdx 1).findSome? fun ((short, long), month) =>
    (takeWord short text).map fun rest => (month, long, rest)

/-- Takes the first three letters of a day of the week off the front of a text. -/
def takeShortDay (text : List Char) : Option (Nat × List Char) :=
  dayNames.zipIdx.findSome? fun (name, day) => (takeWord name text).map fun rest => (day, rest)

/-- Takes a year: four digits at most, or any number of digits behind a sign. -/
def takeYear (text : List Char) : Option (Int × List Char) :=
  match text with
  | '-' :: rest => (takeDigits 1 rest.length rest).map fun (n, rest) => (-(n : Int), rest)
  | '+' :: rest => (takeDigits 1 rest.length rest).map fun (n, rest) => ((n : Int), rest)
  | text => (takeDigits 1 4 text).map fun (n, rest) => ((n : Int), rest)

inductive FormatItem
  | year
  | month
  | day
  | hour
  | minute
  | second
  /-- the first three letters of the name of a month, or also the whole name -/
  | monthName (orLong : Bool)
  | mark (c : Char)
  | gap
deriving DecidableEq, Repr

/-- A part of a date that is one or two digits, with blanks before them. -/
def takeTwoDigits (set : Nat → Stamp) (text : List Char) : Option (Stamp × List Char) :=
  (takeDigits 1 2 (Text.trimStart text)).map fun (n, rest) => (set n, rest)

/-- Reads one item of a format at the front of a text. -/
def FormatItem.take (s : Stamp) (text : List Char) : FormatItem → Option (Stamp × List Char)
  | year => (takeYear (Text.trimStart text)).map fun (n, rest) => ({ s with year := n }, rest)
  | month => takeTwoDigits (fun n => { s with month := n }) text
  | day => takeTwoDigits (fun n => { s with day := n }) text
  | hour => takeTwoDigits (fun n => { s with hour := n }) text
  | minute => takeTwoDigits (fun n => { s with minute := n }) text
  | second => takeTwoDigits (fun n => { s with second := n }) text
  | monthName orLong => (takeShortMonth text).map fun (n, long, rest) =>
    ({ s with month := n }, if orLong then (takeWord long rest).getD rest else rest)
  | mark c => (takeChar c text).map (s, ·)
  | gap => some (s, Text.trimStart text)

abbrev Format := List FormatItem

/-- Reads the items of a format, to the end of the text. -/
def Format.readFrom? (s : Stamp) (text : List Char) : Format → Option Stamp
  | [] => if text.isEmpty then some s else none
  | item :: rest => (item.take s text).bind fun (s, text) => readFrom? s text rest

/-- What a text gives in a format. -/
def Format.read? (format : Format) (text : List Char) : Option Stamp :=
  Format.readFrom? {} text format

namespace Format

def isoDate : Format := [.year, .mark '-', .month, .mark '-', .day]

/-- Hours and minutes, or also seconds. -/
def clock (seconds : Bool) : Format :=
  [.hour, .mark ':', .minute] ++ if seconds then [.mark ':', .second] else []

/-- The formats of a date, with or without a time of day. -/
def all : List Format :=
  [isoDate,
    [.year, .mark '/', .month, .mark '/', .day],
    [.month, .mark '/', .day, .mark '/', .year],
    [.day, .mark '.', .month, .mark '.', .year],
    [.monthName true, .gap, .day, .mark ',', .gap, .year],
    [.monthName false, .gap, .day, .mark ',', .gap, .year],
    [.day, .gap, .monthName true, .gap, .year],
    isoDate ++ [.gap] ++ clock true,
    isoDate ++ [.mark 'T'] ++ clock true,
    isoDate ++ [.gap] ++ clock false]

end Format

end TableQuery.Date
