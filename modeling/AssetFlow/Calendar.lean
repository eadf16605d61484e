import AssetFlow.Text.Blank

/-!
# Dates and times

Moments of the proleptic calendar to the nanosecond, without a time zone, and the texts that they
are read from and shown as.

## Main definitions

- `Moment`: a date with a time of day.
- `Moment.readStamp?`, `Moment.readDay?`: reading.
- `Moment.stamp`, `Moment.day`, `Moment.isoStamp`, `Moment.fileStamp`: showing.
- `Moment.dayBefore?`, `Moment.endOfDay`: the previous day, the last microsecond of a day.

## Design notes

A leap second is the second 59 with a fraction of a second or more, so that moments compare in the
order of their fields.
-/

namespace AssetFlow

/-- A date with a time of day. -/
structure Moment where
  year : Int
  month : Nat
  day : Nat
  hour : Nat := 0
  minute : Nat := 0
  second : Nat := 0
  /-- Nanoseconds; a whole second or more in a leap second. -/
  nano : Nat := 0
  deriving DecidableEq, Repr, Inhabited

namespace Moment

/-- Whether a year has a 29th of February. -/
def isLeap (year : Int) : Bool :=
  year % 4 == 0 && (year % 100 != 0 || year % 400 == 0)

/-- The number of days of a month. -/
def daysIn (year : Int) (month : Nat) : Nat :=
  match month with
  | 2 => if isLeap year then 29 else 28
  | 4 | 6 | 9 | 11 => 30
  | _ => 31

/-- The first year that dates can have. -/
def firstYear : Int := -262143

/-- The last year that dates can have. -/
def lastYear : Int := 262142

/-- Whether there is such a date. -/
def isDate (year : Int) (month day : Nat) : Bool :=
  firstYear ≤ year && year ≤ lastYear && 1 ≤ month && month ≤ 12 && 1 ≤ day &&
    day ≤ daysIn year month

/-- The fields from the most significant to the least. -/
def fields (m : Moment) : List Int :=
  [m.year, m.month, m.day, m.hour, m.minute, m.second, m.nano]

/-- Whether the first row of numbers comes before the second. -/
def rowBefore : List Int → List Int → Bool
  | a :: as, b :: bs => decide (a < b) || (a == b && rowBefore as bs)
  | [], _ :: _ => true
  | _, [] => false

/-- Whether a moment comes before another. -/
def before (a b : Moment) : Bool :=
  rowBefore a.fields b.fields

/-! ### Reading -/

/-- Reads at most `most` digits and at least one, if the number has 64 bits. -/
def readNumber (most : Nat) (cs : List Char) : Option (Int × List Char) :=
  let digits := (cs.take most).takeWhile Char.isDigit
  let n := digits.foldl (fun n c => 10 * n + (c.toNat - '0'.toNat)) 0
  if digits.isEmpty || n ≥ Nat.pow 2 63 then none else some (n, cs.drop digits.length)

/-- Skips blanks. -/
def skipBlanks (cs : List Char) : List Char :=
  cs.dropWhile Text.isBlank

/-- Reads a year: four digits, or a sign and any number of digits. -/
def readYear (cs : List Char) : Option (Int × List Char) :=
  match skipBlanks cs with
  | '-' :: rest => (readNumber rest.length rest).map fun (n, rest) => (-n, rest)
  | '+' :: rest => readNumber rest.length rest
  | rest => readNumber 4 rest

/-- Reads a number of at most two digits within bounds. -/
def readPart (low high : Nat) (cs : List Char) : Option (Nat × List Char) := do
  let (n, rest) ← readNumber 2 (skipBlanks cs)
  if low ≤ n && n ≤ high then some (n.toNat, rest) else none

/-- Reads one character. -/
def readMark (c : Char) : List Char → Option (List Char)
  | d :: rest => if c == d then some rest else none
  | [] => none

/-- Reads a date. -/
def readDate (cs : List Char) : Option (Moment × List Char) := do
  let (year, cs) ← readYear cs
  let (month, cs) ← readPart 1 12 (← readMark '-' cs)
  let (day, cs) ← readPart 1 31 (← readMark '-' cs)
  let inRange := -Int.pow 2 31 ≤ year && year < Int.pow 2 31
  if inRange then some (⟨year, month, day, 0, 0, 0, 0⟩, cs) else none

/-- Reads a fraction of six digits in nanoseconds, if there is one. -/
def readFraction : List Char → Option (Nat × List Char)
  | '.' :: rest =>
    let digits := rest.take 6
    if digits.length == 6 && digits.all Char.isDigit then
      some (1000 * digits.foldl (fun n c => 10 * n + (c.toNat - '0'.toNat)) 0, rest.drop 6)
    else none
  | rest => some (0, rest)

/-- Reads a date and a time of day, with or without a fraction. -/
def readStamp? (s : String) : Option Moment := do
  let (date, cs) ← readDate s.toList
  let (hour, cs) ← readPart 0 23 (skipBlanks cs)
  let (minute, cs) ← readPart 0 59 (← readMark ':' cs)
  let (second, cs) ← readPart 0 60 (← readMark ':' cs)
  let (nano, cs) ← readFraction cs
  let leap := second == 60
  if cs.isEmpty && isDate date.year date.month date.day then
    some { date with
      hour, minute
      second := if leap then 59 else second
      nano := if leap then nano + 1000000000 else nano }
  else none

/-- Reads a date: its first moment. -/
def readDay? (s : String) : Option Moment := do
  let (date, cs) ← readDate s.toList
  if cs.isEmpty && isDate date.year date.month date.day then some date else none

/-! ### Days -/

/-- The first moment of a day. -/
def startOfDay (m : Moment) : Moment :=
  ⟨m.year, m.month, m.day, 0, 0, 0, 0⟩

/-- The last microsecond of a day. -/
def endOfDay (m : Moment) : Moment :=
  ⟨m.year, m.month, m.day, 23, 59, 59, 999999000⟩

/-- Whether the day is the last one that dates can have. -/
def isLastDay (m : Moment) : Bool :=
  m.year == lastYear && m.month == 12 && m.day == 31

/-- The day before, if it is a date. -/
def dayBefore? (m : Moment) : Option Moment :=
  let m := m.startOfDay
  if m.day > 1 then some { m with day := m.day - 1 }
  else if m.month > 1 then
    some { m with month := m.month - 1, day := daysIn m.year (m.month - 1) }
  else if m.year == firstYear then none
  else some { m with year := m.year - 1, month := 12, day := 31 }

/-! ### Showing -/

/-- A number with zeros before it, up to a number of digits. -/
def padded (width n : Nat) : String :=
  let digits := toString n
  String.ofList (List.replicate (width - digits.length) '0') ++ digits

/-- A year: four digits, and with a sign if it needs more or comes before the year 0. -/
def showYear (year : Int) : String :=
  if 0 ≤ year && year ≤ 9999 then padded 4 year.toNat
  else (if year < 0 then "-" else "+") ++ padded 4 year.natAbs

/-- The second, which is 60 in a leap second. -/
def shownSecond (m : Moment) : Nat :=
  m.second + m.nano / 1000000000

/-- The date. -/
def showDay (m : Moment) : String :=
  showYear m.year ++ "-" ++ padded 2 m.month ++ "-" ++ padded 2 m.day

/-- The time of day in seconds. -/
def showTime (m : Moment) : String :=
  padded 2 m.hour ++ ":" ++ padded 2 m.minute ++ ":" ++ padded 2 m.shownSecond

/-- The date and the time of day in microseconds. -/
def stamp (m : Moment) : String :=
  m.showDay ++ " " ++ m.showTime ++ "." ++ padded 6 (m.nano % 1000000000 / 1000)

/-- The date and the time of day with the letter between them that data formats use. -/
def isoStamp (m : Moment) : String :=
  m.showDay ++ "T" ++ m.showTime

/-- The date and the time of day as file names have them. -/
def fileStamp (m : Moment) : String :=
  "_".intercalate [showYear m.year, padded 2 m.month, padded 2 m.day, padded 2 m.hour,
    padded 2 m.minute, padded 2 m.shownSecond]

end Moment

end AssetFlow
