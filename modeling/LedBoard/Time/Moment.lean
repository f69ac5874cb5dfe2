/-!
# Moments

A moment is counted in seconds of universal time, and a clock that shows it is ahead of that by
an offset. What the clock shows is a day of the Gregorian calendar and a time of that day. Days
are counted from the first of January of the year 1, which was a Monday: four hundred years take
146097 days, in which every fourth year is a day longer, except that of the years that end a
century only the last is.

* `Date.ofDays`: the day after a number of days, and `Date.days`, which counts back;
* `Date.monthAndDay`, `Date.weekday`, `Date.thursday`: the day in its month and in its week;
* `Moment.date`, `Moment.hour` and the others: what the clock shows.
-/

namespace LedBoard.Time

/-- A day of the calendar. -/
structure Date where
  year : Nat
  /-- The place of the day in its year; the first one has the place 1. -/
  ordinal : Nat
  deriving DecidableEq, Repr

/-- The year is a day longer than others. -/
def isLeap (year : Nat) : Bool := year % 4 = 0 && (year % 100 ≠ 0 || year % 400 = 0)

/-- The lengths of the months of a year. -/
def monthLengths (year : Nat) : List Nat :=
  [31, if isLeap year then 29 else 28, 31, 30, 31, 30, 31, 31, 30, 31, 30, 31]

/-- Counts `n` days through months of the given lengths: the month, and the day in it. -/
def countMonths : (lengths : List Nat) → (n : Nat) → Nat × Nat
  | [], n => (1, n)
  | length :: rest, n =>
    if n ≤ length then (1, n)
    else
      let (month, day) := countMonths rest (n - length)
      (month + 1, day)

namespace Date

/-- The day that follows so many others from the first of January of the year 1 on. -/
def ofDays (days : Nat) : Date :=
  let inCycle := days % 146097
  -- the last of four centuries, and the last of four years, may be a day longer
  let century := min (inCycle / 36524) 3
  let inCentury := inCycle - 36524 * century
  let inFour := inCentury % 1461
  let year := min (inFour / 365) 3
  ⟨400 * (days / 146097) + 100 * century + 4 * (inCentury / 1461) + year + 1,
    inFour - 365 * year + 1⟩

/-- The number of days from the first of January of the year 1 to the day. -/
def days (d : Date) : Nat :=
  let before := d.year - 1
  365 * before + before / 4 - before / 100 + before / 400 + d.ordinal - 1

/-- The month, the first one being 1, and the day in it. -/
def monthAndDay (d : Date) : Nat × Nat := countMonths (monthLengths d.year) d.ordinal

/-- The month, the first one being 1. -/
def month (d : Date) : Nat := d.monthAndDay.1

/-- The day of the month. -/
def day (d : Date) : Nat := d.monthAndDay.2

/-- The number of days from a Monday to the day. -/
def weekday (d : Date) : Nat := d.days % 7

/-- The Thursday of the week, which runs from Monday to Sunday. The week belongs to the year of
    its Thursday. -/
def thursday (d : Date) : Date := ofDays (d.days - d.weekday + 3)

end Date

/-- A moment, and the clock that shows it. -/
structure Moment where
  /-- The seconds since the year 1970 began in universal time. -/
  seconds : Nat
  nanosecond : Nat := 0
  /-- The seconds that the clock is ahead. -/
  offset : Int := 0
  deriving DecidableEq, Repr

namespace Moment

/-- The number of days before the year 1970. -/
def daysBefore : Nat := 719162

/-- The seconds that passed on the clock since it showed the start of 1970. -/
def onClock (m : Moment) : Nat := (m.seconds + m.offset).toNat

/-- The day that the clock shows. -/
def date (m : Moment) : Date := .ofDays (daysBefore + m.onClock / 86400)

/-- The hour of the day. -/
def hour (m : Moment) : Nat := m.onClock / 3600 % 24

/-- The minute of the hour. -/
def minute (m : Moment) : Nat := m.onClock / 60 % 60

/-- The second of the minute. -/
def second (m : Moment) : Nat := m.onClock % 60

end Moment

end LedBoard.Time
