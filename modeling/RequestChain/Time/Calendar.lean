/-! # Calendar

Instants of universal time, and the date and time of day that they have in the Gregorian calendar.
Days are counted from 1970-01-01.
-/

namespace RequestChain.Time

/-- Seconds since 1970-01-01T00:00:00Z without leap seconds, and nanoseconds of the second. -/
structure Instant where
  seconds : Nat
  nanoseconds : Nat := 0
  deriving DecidableEq, Repr, Inhabited

/-- A date; months and days count from 1. -/
structure Date where
  year : Nat
  month : Nat
  day : Nat
  deriving DecidableEq, Repr

/-- A date and a time of day. -/
structure DateTime where
  date : Date
  hour : Nat
  minute : Nat
  second : Nat
  nanosecond : Nat
  deriving DecidableEq, Repr

/-- Whether a year has a 29 February. -/
def isLeapYear (year : Nat) : Bool :=
  (year % 4 == 0 && year % 100 != 0) || year % 400 == 0

/-- The date of a day. Years are counted from March in cycles of 400, so the leap day is the last
of its year. -/
def Date.ofDays (days : Nat) : Date :=
  let shifted := days + 719468
  let cycle := shifted / 146097
  let dayOfCycle := shifted % 146097
  let yearOfCycle :=
    (dayOfCycle - dayOfCycle / 1460 + dayOfCycle / 36524 - dayOfCycle / 146096) / 365
  let dayOfYear := dayOfCycle - (365 * yearOfCycle + yearOfCycle / 4 - yearOfCycle / 100)
  let monthFromMarch := (5 * dayOfYear + 2) / 153
  let day := dayOfYear - (153 * monthFromMarch + 2) / 5 + 1
  let month := if monthFromMarch < 10 then monthFromMarch + 3 else monthFromMarch - 9
  let year := yearOfCycle + cycle * 400
  ⟨if month ≤ 2 then year + 1 else year, month, day⟩

/-- The days of a year before each month. -/
def daysBeforeMonth : List Nat := [0, 31, 59, 90, 120, 151, 181, 212, 243, 273, 304, 334]

/-- The day of the year, counted from 1. -/
def Date.ordinal (date : Date) : Nat :=
  daysBeforeMonth.getD (date.month - 1) 0 + date.day +
    (if 2 < date.month ∧ isLeapYear date.year then 1 else 0)

/-- The day of the week of a day, counted from Sunday as 0. -/
def weekdayFromSunday (days : Nat) : Nat :=
  (days + 4) % 7

/-- The date and the time of day of an instant. -/
def Instant.dateTime (instant : Instant) : DateTime :=
  let ofDay := instant.seconds % 86400
  { date := Date.ofDays (instant.seconds / 86400)
    hour := ofDay / 3600
    minute := ofDay / 60 % 60
    second := ofDay % 60
    nanosecond := instant.nanoseconds }

/-- The ordinal number of the day since 1970-01-01. -/
def Instant.days (instant : Instant) : Nat :=
  instant.seconds / 86400

/-- The days of a year. -/
def daysInYear (year : Nat) : Nat :=
  if isLeapYear year then 366 else 365

/-- The week of a year that begins with its first Sunday (`monday` false) or its first Monday; days
before that are in week 0. -/
def weekOfYear (instant : Instant) (monday : Bool) : Nat :=
  let weekday := weekdayFromSunday instant.days
  let since := if monday then (weekday + 6) % 7 else weekday
  (instant.dateTime.date.ordinal + 6 - since) / 7

/-- The year and the week in which every week begins on Monday and belongs to the year that holds
its Thursday. -/
def isoWeek (instant : Instant) : Nat × Nat :=
  let date := instant.dateTime.date
  let sinceMonday := (weekdayFromSunday instant.days + 6) % 7
  let thursday := date.ordinal + 3 - sinceMonday
  if date.ordinal + 3 ≤ sinceMonday then
    let year := date.year - 1
    (year, (daysInYear year + date.ordinal + 3 - sinceMonday - 1) / 7 + 1)
  else if daysInYear date.year < thursday then (date.year + 1, 1)
  else (date.year, (thursday - 1) / 7 + 1)

end RequestChain.Time
