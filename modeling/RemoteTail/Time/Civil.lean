import RemoteTail.Text.Decimal

/-!
# Civil time

Dates of the proleptic Gregorian calendar and times of day, in UTC, by the
number of seconds since 1970-01-01 00:00:00.

Years are counted from the first of March, so that a leap day comes last.  A
cycle of 400 years has 146097 days; within it a century has 36524, a group of
four years 1461 and a year 365, the last of each kind excepted.
-/

namespace RemoteTail.Time

/-- A day of the calendar. -/
structure Date where
  /-- The year, counted from the first of January. -/
  year : Nat
  /-- The month, from 1 to 12. -/
  month : Nat
  /-- The day of the month, from 1. -/
  day : Nat
deriving DecidableEq, Repr

/-- A year by its first of March, and a day in it, counted from zero. -/
structure MarchDay where
  /-- The year in which the first of March falls. -/
  year : Nat
  /-- Days since that first of March. -/
  dayOfYear : Nat
deriving DecidableEq, Repr

/-- The day a number of days after the first of March of the year zero. -/
def MarchDay.ofDays (days : Nat) : MarchDay :=
  let cycle := days / 146097
  let inCycle := days % 146097
  let century := min (inCycle / 36524) 3
  let inCentury := inCycle - century * 36524
  let group := inCentury / 1461
  let inGroup := inCentury % 1461
  let year := min (inGroup / 365) 3
  { year := 400 * cycle + 100 * century + 4 * group + year
    dayOfYear := inGroup - year * 365 }

/-- The months from March to January with their lengths.  February takes what is left. -/
def marchMonths : List (Nat × Nat) :=
  [(3, 31), (4, 30), (5, 31), (6, 30), (7, 31), (8, 31), (9, 30), (10, 31), (11, 30), (12, 31),
    (1, 31)]

/-- The month and the day, counted from zero, that lie `day` days into the listed months. -/
def monthAndDay : List (Nat × Nat) → Nat → Nat × Nat
  | [], day => (2, day)
  | (month, length) :: months, day =>
    if day < length then (month, day) else monthAndDay months (day - length)

/-- The calendar day of a day counted from the first of March. -/
def MarchDay.date (d : MarchDay) : Date :=
  let found := monthAndDay marchMonths d.dayOfYear
  { year := if found.1 ≤ 2 then d.year + 1 else d.year
    month := found.1
    day := found.2 + 1 }

/-- Days from the first of March of the year zero to the first of January 1970. -/
def epochDay : Nat :=
  719468

/-- The date a number of days after 1970-01-01. -/
def Date.ofDays (days : Nat) : Date :=
  (MarchDay.ofDays (days + epochDay)).date

/-- The day of the week a number of days after 1970-01-01, a Thursday; Sunday is zero. -/
def weekday (days : Nat) : Nat :=
  (days + 4) % 7

/-- The names of the days of the week, from Sunday. -/
def weekdayNames : List String :=
  ["Sun", "Mon", "Tue", "Wed", "Thu", "Fri", "Sat"]

/-- The names of the months, from January. -/
def monthNames : List String :=
  ["Jan", "Feb", "Mar", "Apr", "May", "Jun", "Jul", "Aug", "Sep", "Oct", "Nov", "Dec"]

/-- A year in four digits, or in more behind a plus sign. -/
def yearText (year : Nat) : String :=
  if year ≤ 9999 then String.ofList (Decimal.padded '0' 4 year) else "+" ++ Decimal.text year

/-- The last second that has a civil form, 262142-12-31 23:59:59. -/
def lastSecond : Nat :=
  8210266876799

/-- The date and time of day a number of seconds after the epoch, as in
`Thu Jan  1 00:00:00 1970`. -/
def civilText (seconds : Nat) : String :=
  let days := seconds / 86400
  let date := Date.ofDays days
  let clock := seconds % 86400
  let two := fun value => String.ofList (Decimal.padded '0' 2 value)
  String.intercalate " "
    [weekdayNames.getD (weekday days) "", monthNames.getD (date.month - 1) "",
      String.ofList (Decimal.padded ' ' 2 date.day),
      String.intercalate ":" [two (clock / 3600), two (clock / 60 % 60), two (clock % 60)],
      yearText date.year]

/-- The text of an instant given in microseconds since the epoch: its civil form, or the bare
number beyond `lastSecond`. -/
def instantText (micros : Nat) : String :=
  let seconds := micros / 1000000
  if seconds ≤ lastSecond then civilText seconds else Decimal.text micros

end RemoteTail.Time
