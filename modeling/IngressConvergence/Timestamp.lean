import IngressConvergence.Text.Blank
import IngressConvergence.Text.Digits

/-!
# Points in time

A point in time is a date and a time of day in universal time, with nanoseconds.  It is written as
`2024-01-02T03:04:05Z`, with a fraction of three, six or nine digits where there is one; a year that
does not have four digits carries a sign.  Reading also takes other offsets, a blank or a small `t`
between date and time, fewer digits, and blanks around the separators and at both ends.
-/

namespace IngressConvergence

/-! ## The calendar -/

namespace Calendar

/-- Whether a year of the Gregorian calendar has a leap day. -/
def isLeap (year : Int) : Bool :=
  year % 4 = 0 && (year % 100 ≠ 0 || year % 400 = 0)

/-- The number of days of a month. -/
def daysIn (year : Int) (month : Nat) : Nat :=
  if month = 2 then (if isLeap year then 29 else 28)
  else if month = 4 || month = 6 || month = 9 || month = 11 then 30
  else 31

/-- The day after a day, which may lie in the next month or year. -/
def dayAfter (year : Int) (month day : Nat) : Int × Nat × Nat :=
  if day < daysIn year month then (year, month, day + 1)
  else if month < 12 then (year, month + 1, 1)
  else (year + 1, 1, 1)

/-- The day before a day, which may lie in the month or year before. -/
def dayBefore (year : Int) (month day : Nat) : Int × Nat × Nat :=
  if 1 < day then (year, month, day - 1)
  else if 1 < month then (year, month - 1, daysIn year (month - 1))
  else (year - 1, 12, 31)

/-- Whether a year lies in the range of the calendar. -/
def covers (year : Int) : Bool :=
  -262143 ≤ year && year ≤ 262142

end Calendar

/-- A point in time in universal time.  Second sixty is a leap second. -/
structure Timestamp where
  year : Int
  month : Nat
  day : Nat
  hour : Nat
  minute : Nat
  second : Nat
  nanosecond : Nat
deriving DecidableEq, Repr

namespace Timestamp

/-- Whether the parts name a day of the calendar and a time of that day. -/
def isValid (time : Timestamp) : Bool :=
  Calendar.covers time.year && 1 ≤ time.month && time.month ≤ 12 && 1 ≤ time.day &&
    time.day ≤ Calendar.daysIn time.year time.month && time.hour ≤ 23 && time.minute ≤ 59 &&
    time.second ≤ 60 && time.nanosecond < 1000000000

/-! ## Writing -/

/-- A year in four digits, or with a sign and at least four. -/
def yearText (year : Int) : String :=
  if 0 ≤ year ∧ year ≤ 9999 then Text.padded 4 year.toNat
  else if 0 ≤ year then "+" ++ Text.padded 4 year.toNat
  else "-" ++ Text.padded 4 (-year).toNat

/-- The fraction of a second in as few of three, six or nine digits as hold it. -/
def fractionText (nanosecond : Nat) : String :=
  if nanosecond = 0 then ""
  else if nanosecond % 1000000 = 0 then "." ++ Text.padded 3 (nanosecond / 1000000)
  else if nanosecond % 1000 = 0 then "." ++ Text.padded 6 (nanosecond / 1000)
  else "." ++ Text.padded 9 nanosecond

/-- A point in time as it is written. -/
def text (time : Timestamp) : String :=
  yearText time.year ++ "-" ++ Text.padded 2 time.month ++ "-" ++ Text.padded 2 time.day ++ "T" ++
    Text.padded 2 time.hour ++ ":" ++ Text.padded 2 time.minute ++ ":" ++
    Text.padded 2 time.second ++ fractionText time.nanosecond ++ "Z"

/-! ## Offsets -/

/-- The same point in time, given in a zone that is `minutes` ahead of universal time, where
`minutes` is less than a day. -/
def fromZone (time : Timestamp) (minutes : Int) : Timestamp :=
  let total := (time.hour * 60 + time.minute : Nat) - minutes
  let (year, month, day) :=
    if total < 0 then Calendar.dayBefore time.year time.month time.day
    else if 1440 ≤ total then Calendar.dayAfter time.year time.month time.day
    else (time.year, time.month, time.day)
  let ofDay := (total % 1440).toNat
  { time with year, month, day, hour := ofDay / 60, minute := ofDay % 60 }

/-! ## Reading -/

/-- What follows the blanks at the start. -/
def afterBlanks (characters : List Char) : List Char :=
  characters.dropWhile Text.isBlank

/-- What follows an expected character, if it stands at the start. -/
def expect? (expected : Char) : List Char → Option (List Char)
  | [] => none
  | character :: rest => if character = expected then some rest else none

/-- A number of one or two digits after blanks. -/
def readPart? (characters : List Char) : Option (Nat × List Char) :=
  Text.readNumber? 2 (afterBlanks characters)

/-- A separator between two parts, with blanks before it. -/
def readSeparator? (separator : Char) (characters : List Char) : Option (List Char) :=
  expect? separator (afterBlanks characters)

/-- A year: up to four digits, or a sign and any number of digits. -/
def readYear? (characters : List Char) : Option (Int × List Char) :=
  match afterBlanks characters with
  | '-' :: rest => (Text.readNumber? rest.length rest).map fun (year, rest) => (-(year : Int), rest)
  | '+' :: rest => (Text.readNumber? rest.length rest).map fun (year, rest) => ((year : Int), rest)
  | other => (Text.readNumber? 4 other).map fun (year, rest) => ((year : Int), rest)

/-- The nanoseconds of a fraction, where one follows; digits after the ninth are dropped. -/
def readFraction? : List Char → Option (Nat × List Char)
  | '.' :: rest =>
    match Text.digitRun 9 rest with
    | ([], _) => none
    | (digits, rest) =>
      let nine := digits ++ List.replicate (9 - digits.length) '0'
      some (Text.numberOf nine, rest.dropWhile Char.isDigit)
  | other => some (0, other)

/-- A number of exactly two digits, up to a limit. -/
def readOffsetPart? (highest : Nat) : List Char → Option (Nat × List Char)
  | tens :: units :: rest =>
    if tens.isDigit && units.isDigit then
      let number := Text.numberOf [tens, units]
      if number ≤ highest then some (number, rest) else none
    else none
  | _ => none

/-- The minutes by which a zone is ahead of universal time. -/
def readOffset? (characters : List Char) : Option (Int × List Char) :=
  match characters with
  | [] => none
  | sign :: rest =>
    if sign = 'Z' || sign = 'z' then some (0, rest)
    else if sign = '+' || sign = '-' || sign.toNat = 0x2212 then do
      let (hours, rest) ← readOffsetPart? 99 rest
      let (minutes, rest) ← readOffsetPart? 59
        (rest.dropWhile fun character => character = ':' || Text.isBlank character)
      guard (hours ≤ 23)
      let ahead : Int := (hours * 60 + minutes : Nat)
      return (if sign = '+' then ahead else -ahead, rest)
    else none

/-- A zone: the letters `UTC`, a `Z` or an offset. -/
def readZone? (characters : List Char) : Option (Int × List Char) :=
  if (characters.take 3).map Char.toUpper = ['U', 'T', 'C'] then some (0, characters.drop 3)
  else readOffset? characters

/-- The character between a date and a time. -/
def readDivider? : List Char → Option (List Char)
  | character :: rest =>
    if character = 'T' || character = 't' || character = ' ' then some rest else none
  | [] => none

/-- Read a point in time and give it in universal time. -/
def ofText? (text : String) : Option Timestamp := do
  let (year, rest) ← readYear? text.toList
  let (month, rest) ← readPart? (← readSeparator? '-' rest)
  let (day, rest) ← readPart? (← readSeparator? '-' rest)
  let (hour, rest) ← readPart? (← readDivider? rest)
  let (minute, rest) ← readPart? (← readSeparator? ':' rest)
  let (second, rest) ← readPart? (← readSeparator? ':' rest)
  let (nanosecond, rest) ← readFraction? rest
  let (ahead, rest) ← readZone? (afterBlanks rest)
  let inZone : Timestamp := { year, month, day, hour, minute, second, nanosecond }
  let time := inZone.fromZone ahead
  guard ((afterBlanks rest).isEmpty && inZone.isValid && time.isValid)
  return time

end Timestamp

end IngressConvergence
