/-!
# Days and moments

Dates are proleptic Gregorian.  A day is numbered from 1 January 1970, and a moment is a
day, a second of that day and the nanoseconds after it, all in universal time.

## Leap seconds

A leap second has no number of its own: it is the second before it with a full second
more of nanoseconds.  So `nano` runs up to two thousand million, and the clock face of
such a moment shows `:60`.

* `dayNumber`, `ofDayNumber`: between a date and the number of its day.
* `Moment.ofLocal?`: the moment of a local clock face at a given offset.
* `Moment.nanosSince`: the time from one moment to another.
-/

namespace ScriptedChat
namespace Calendar

/-- A calendar date.  The month is 1 to 12 and the day 1 to 31. -/
structure Date where
  year : Int
  month : Nat
  day : Nat
  deriving DecidableEq, Repr

/-- Whether February has 29 days. -/
def isLeapYear (y : Int) : Bool := y % 4 == 0 && (y % 100 != 0 || y % 400 == 0)

/-- The number of days of a month. -/
def monthLength (y : Int) (m : Nat) : Nat :=
  if m = 2 then (if isLeapYear y then 29 else 28)
  else if m = 4 ∨ m = 6 ∨ m = 9 ∨ m = 11 then 30
  else 31

/-- The first and the last year that a date can have. -/
def firstYear : Int := -262143
@[inherit_doc firstYear] def lastYear : Int := 262142

/-- Whether a date is a day of the calendar. -/
def Date.isValid (d : Date) : Bool :=
  decide (firstYear ≤ d.year) && decide (d.year ≤ lastYear)
    && decide (1 ≤ d.month) && decide (d.month ≤ 12)
    && decide (1 ≤ d.day) && decide (d.day ≤ monthLength d.year d.month)

/-- The number of a day, counted from 1 January 1970.  Years are counted from March, so
that the leap day is the last one, and in eras of 400 years, which all have 146097 days. -/
def Date.dayNumber (d : Date) : Int :=
  let y := if d.month ≤ 2 then d.year - 1 else d.year
  let era := y / 400
  let yearOfEra := y % 400
  let m : Int := if d.month ≤ 2 then d.month + 9 else d.month - 3
  let dayOfYear := (153 * m + 2) / 5 + d.day - 1
  let dayOfEra := yearOfEra * 365 + yearOfEra / 4 - yearOfEra / 100 + dayOfYear
  era * 146097 + dayOfEra - 719468

/-- The date of a day number. -/
def Date.ofDayNumber (n : Int) : Date :=
  let z := n + 719468
  let era := z / 146097
  let dayOfEra := z % 146097
  let yearOfEra := (dayOfEra - dayOfEra / 1460 + dayOfEra / 36524 - dayOfEra / 146096) / 365
  let dayOfYear := dayOfEra - (365 * yearOfEra + yearOfEra / 4 - yearOfEra / 100)
  let m := (5 * dayOfYear + 2) / 153
  let month := if m < 10 then m + 3 else m - 9
  { year := yearOfEra + era * 400 + (if month ≤ 2 then 1 else 0)
    month := month.toNat
    day := (dayOfYear - (153 * m + 2) / 5 + 1).toNat }

/-- The first and the last day that a date can have. -/
def firstDay : Int := Date.dayNumber ⟨firstYear, 1, 1⟩
@[inherit_doc firstDay] def lastDay : Int := Date.dayNumber ⟨lastYear, 12, 31⟩

/-- Seconds of a day. -/
def daySeconds : Int := 86400

/-- A moment in universal time.  `second` is below 86400; `nano` is below a thousand
million, or below two thousand million in a leap second. -/
structure Moment where
  day : Int
  second : Nat
  nano : Nat
  deriving DecidableEq, Repr

/-- What a clock on the wall shows: a date, the time of the day in seconds, and the
nanoseconds after it. -/
structure ClockFace where
  date : Date
  second : Nat
  nano : Nat
  deriving DecidableEq, Repr

/-- The seconds of a clock face since the start of 1970 on the same clock. -/
def ClockFace.seconds (f : ClockFace) : Int := f.date.dayNumber * daySeconds + f.second

/-- The moment at which a clock that is `offset` seconds ahead of universal time shows
`f`, if that day has a date. -/
def Moment.ofLocal? (f : ClockFace) (offset : Int) : Option Moment :=
  let total := f.seconds - offset
  let day := total / daySeconds
  if firstDay ≤ day ∧ day ≤ lastDay then
    some { day, second := (total % daySeconds).toNat, nano := f.nano }
  else none

/-- The moment of a millisecond of the epoch. -/
def Moment.ofMillis (ms : Int) : Moment :=
  let total := ms / 1000
  { day := total / daySeconds
    second := (total % daySeconds).toNat
    nano := (ms % 1000).toNat * 1000000 }

/-- A thousand million: the nanoseconds of a second. -/
def nanosPerSecond : Int := 1000000000

/-- The nanoseconds from one moment to another.  The second that a leap second adds is
part of the span only if the span ends later in the day than it starts, days left aside:
in a span that ends earlier in the day, a leap second at its end adds nothing, and in one
that ends later, a leap second at its start is passed in full. -/
def Moment.nanosSince (m start : Moment) : Int :=
  let leap : Int :=
    if start.second < m.second ∧ 1000000000 ≤ start.nano then 1
    else if m.second < start.second ∧ 1000000000 ≤ m.nano then -1
    else 0
  ((m.day - start.day) * daySeconds + ((m.second : Int) - start.second) + leap) * nanosPerSecond
    + ((m.nano : Int) - start.nano)

end Calendar
end ScriptedChat
