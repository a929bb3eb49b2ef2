import TableSearch.Number.Numeral
import TableSearch.Yaml.Letter

/-!
# Timestamps

A date, or a date with a time of day and perhaps an offset from universal time.  The
form of a timestamp is one thing, and whether the calendar and the clock have it is
another.
-/

namespace TableSearch.Yaml

/-- A time of day, and the offset from universal time in minutes without its sign. -/
structure ClockTime where
  hour : Nat
  minute : Nat
  second : Nat
  offset : Option Nat
deriving DecidableEq, Repr

/-- The fields of a timestamp as they are written.  `full` says that month and day
have two digits each. -/
structure Timestamp where
  year : Nat
  month : Nat
  day : Nat
  full : Bool
  time : Option ClockTime
deriving DecidableEq, Repr

namespace Timestamp

/-- A number of at least and at most so many digits in front of a text, and what
follows it. -/
def readField? (least most : Nat) (cs : List Char) : Option (Nat × List Char) :=
  let digits := (cs.take most).takeWhile Char.isDigit
  if digits.length < least then none
  else some (ofDigits (digits.filterMap asciiDigitValue?), cs.drop digits.length)

def readFieldAfter? (mark : Char) (least most : Nat) : List Char → Option (Nat × List Char)
  | [] => none
  | c :: rest => if c = mark then readField? least most rest else none

def readOffset? (cs : List Char) : Option (Option Nat) :=
  match cs.dropWhile isGap with
  | [] => if cs.isEmpty then some none else none
  | ['Z'] => some (some 0)
  | sign :: rest =>
    if sign = '+' ∨ sign = '-' then do
      let (hours, rest) ← readField? 1 2 rest
      if rest.isEmpty then return some (60 * hours)
      let (minutes, rest) ← readFieldAfter? ':' 2 2 rest
      if rest.isEmpty then return some (60 * hours + minutes) else none
    else none

/-- The time of day at the end of a timestamp, behind a letter or blanks. -/
def readTime? (cs : List Char) : Option ClockTime := do
  let rest ← match cs with
    | 'T' :: rest => some rest
    | 't' :: rest => some rest
    | rest => if rest.head?.any isGap then some (rest.dropWhile isGap) else none
  let (hour, rest) ← readField? 1 2 rest
  let (minute, rest) ← readFieldAfter? ':' 2 2 rest
  let (second, rest) ← readFieldAfter? ':' 2 2 rest
  let rest := match rest with
    | '.' :: rest => rest.dropWhile Char.isDigit
    | rest => rest
  return { hour, minute, second, offset := ← readOffset? rest }

def read? (cs : List Char) : Option Timestamp := do
  let (year, rest) ← readField? 4 4 cs
  let (month, behindMonth) ← readFieldAfter? '-' 1 2 rest
  let (day, behindDay) ← readFieldAfter? '-' 1 2 behindMonth
  let full := rest.length == behindMonth.length + 3 && behindMonth.length == behindDay.length + 3
  let time ← if behindDay.isEmpty then some none else (readTime? behindDay).map some
  return { year, month, day, full, time }

def isLeapYear (year : Nat) : Bool := year % 4 == 0 && (year % 100 != 0 || year % 400 == 0)

def daysIn (year month : Nat) : Nat :=
  if month = 2 then if isLeapYear year then 29 else 28
  else if [4, 6, 9, 11].contains month then 30
  else 31

/-- Whether the calendar has the date, the clock has the time, and the offset is less
than a day. -/
def isReal (t : Timestamp) : Bool :=
  1 ≤ t.year && 1 ≤ t.month && t.month ≤ 12 && 1 ≤ t.day && t.day ≤ daysIn t.year t.month &&
    t.time.all fun time =>
      time.hour < 24 && time.minute < 60 && time.second < 60 && time.offset.all (· < 1440)

end Timestamp

end TableSearch.Yaml
