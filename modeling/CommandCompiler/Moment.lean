import CommandCompiler.Decimal.Digits
/-!
# CommandCompiler.Moment

Calendar dates and points in time.

* `Date`, `Clock`, `Moment` : a date, perhaps with a time of day;
* `Date.ordinal`, `Moment.instant?` : days and microseconds on one scale;
* `Moment.same` : whether two moments are one;
* `Moment.display` : a moment as a literal.

A time of day may say how far it is ahead of the common time. Two such times are
one if they name the same instant; a time that does not say so is never one with
them.
-/

namespace CommandCompiler

/-- A day of the calendar. -/
structure Date where
  year : Nat
  month : Nat
  day : Nat
  deriving Repr, DecidableEq

/-- A time of day. -/
structure Clock where
  hour : Nat
  minute : Nat
  second : Nat
  microsecond : Nat
  /-- How many minutes the time is ahead of the common one, if that is known. -/
  ahead : Option Int
  deriving Repr, DecidableEq

/-- A date, perhaps with a time of day. -/
structure Moment where
  date : Date
  clock : Option Clock
  deriving Repr, DecidableEq

namespace Date

/-- Whether a year has a day more. -/
def isLeapYear (year : Nat) : Bool := year % 4 = 0 && (year % 100 != 0 || year % 400 = 0)

/-- How many days a month has. -/
def daysIn (year month : Nat) : Nat :=
  if month = 2 then if isLeapYear year then 29 else 28
  else if [4, 6, 9, 11].contains month then 30
  else 31

/-- How many days lie before a month in its year. -/
def daysBefore (year month : Nat) : Nat :=
  (List.range (month - 1)).foldl (fun days m => days + daysIn year (m + 1)) 0

/-- The number of a day, counted from the first day of the first year. -/
def ordinal (d : Date) : Nat :=
  let years := d.year - 1
  365 * years + years / 4 - years / 100 + years / 400 + daysBefore d.year d.month + d.day

/-- A date as a literal. -/
def display (d : Date) : String := s!"datetime.date({d.year}, {d.month}, {d.day})"

end Date

namespace Clock

/-- The seconds since midnight. -/
def seconds (c : Clock) : Nat := 3600 * c.hour + 60 * c.minute + c.second

/-- A span of minutes in days and seconds. -/
def spanText (minutes : Int) : String :=
  let days := Int.fdiv minutes 1440
  let seconds := Int.fmod minutes 1440 * 60
  if days = 0 then s!"datetime.timedelta(seconds={seconds})"
  else if seconds = 0 then s!"datetime.timedelta(days={days})"
  else s!"datetime.timedelta(days={days}, seconds={seconds})"

/-- The time zone of a time that is so many minutes ahead. -/
def zoneText (ahead : Int) : String :=
  if ahead = 0 then "datetime.timezone.utc"
  else s!"datetime.timezone({spanText ahead})"

/-- The parts of a time in a literal. Seconds and microseconds at the end are left out if they are
zero. -/
def parts (c : Clock) : List String :=
  let numbers :=
    if c.microsecond ≠ 0 then [c.hour, c.minute, c.second, c.microsecond]
    else if c.second ≠ 0 then [c.hour, c.minute, c.second]
    else [c.hour, c.minute]
  numbers.map toString ++ (c.ahead.map fun ahead => "tzinfo=" ++ zoneText ahead).toList

end Clock

namespace Moment

/-- The microseconds that have gone by at a moment that says how far it is ahead. -/
def instant? (m : Moment) : Option Int := do
  let clock ← m.clock
  let ahead ← clock.ahead
  let seconds : Int := 86400 * m.date.ordinal + clock.seconds - 60 * ahead
  some (1000000 * seconds + clock.microsecond)

/-- Whether two moments are one. -/
def same (a b : Moment) : Bool :=
  match a.instant?, b.instant? with
  | some i, some j => i == j
  | none, none => a == b
  | _, _ => false

/-- A moment as a literal. -/
def display (m : Moment) : String :=
  match m.clock with
  | none => m.date.display
  | some clock =>
    let numbers := [m.date.year, m.date.month, m.date.day].map toString ++ clock.parts
    "datetime.datetime(" ++ ", ".intercalate numbers ++ ")"

end Moment

end CommandCompiler
