import CommandCompiler.Decimal.Digits
import CommandCompiler.Moment
import CommandCompiler.Yaml.Fault
/-!
# CommandCompiler.Yaml.Timestamp

Dates and points in time.

* `Timestamp.parse?` : the fields of a written date or time;
* `Timestamp.check` : whether such a date and such a time exist;
* `Timestamp.moment` : the moment that is meant.

A written time may be loose: one digit for the month, the day or the hour, a
letter or blanks before the time, any number of digits after the second, of
which six count.
-/

namespace CommandCompiler.Yaml

open Decimal (isDigit)

/-! ## Fields -/

/-- How far a time is from the common one. -/
structure Offset where
  minutes : Int
  deriving Repr, DecidableEq

/-- A time of day. -/
structure TimeOfDay where
  hour : Nat
  minute : Nat
  second : Nat
  /-- The digits after the point. -/
  fraction : List Char
  offset : Option Offset
  deriving Repr, DecidableEq

/-- A date, perhaps with a time. -/
structure Timestamp where
  year : Nat
  month : Nat
  day : Nat
  /-- Whether the month and the day are written with two digits each. -/
  padded : Bool
  time : Option TimeOfDay
  deriving Repr, DecidableEq

/-! ## Reading -/

namespace Timestamp

/-- The space and the tab. -/
def isGap (c : Char) : Bool := c == ' ' || c == '\t'

/-- Takes a character from the front. -/
def expect (c : Char) : List Char → Option (List Char)
  | c' :: cs => if c' = c then some cs else none
  | [] => none

/-- Takes a number with a least and a greatest count of digits from the front, with what is left. -/
def number (least most : Nat) (cs : List Char) : Option (Nat × List Char) :=
  let digits := (cs.take most).takeWhile isDigit
  if least ≤ digits.length then some (Decimal.toNat digits, cs.drop digits.length) else none

/-- What a time zone says, if this is nothing or a time zone after blanks. -/
def zone? (cs : List Char) : Option (Option Offset) :=
  match cs.dropWhile isGap with
  | [] => if cs = [] then some none else none
  | ['Z'] => some (some ⟨0⟩)
  | sign :: rest =>
    if sign = '+' ∨ sign = '-' then do
      let (hours, rest) ← number 1 2 rest
      let minutes ←
        if rest = [] then some 0
        else
          match expect ':' rest >>= number 2 2 with
          | some (minutes, []) => some minutes
          | _ => none
      let ahead : Int := 60 * hours + minutes
      some (some ⟨if sign = '-' then -ahead else ahead⟩)
    else none

/-- What is left after the separator of date and time: a letter, or blanks. -/
def dropSeparator : List Char → Option (List Char)
  | [] => none
  | c :: cs =>
    if c = 'T' ∨ c = 't' then some cs
    else if isGap c then some (cs.dropWhile isGap)
    else none

/-- The fields of a time of day, after its date. -/
def time? (cs : List Char) : Option TimeOfDay := do
  let (hour, cs) ← dropSeparator cs >>= number 1 2
  let (minute, cs) ← expect ':' cs >>= number 2 2
  let (second, cs) ← expect ':' cs >>= number 2 2
  let (fraction, cs) :=
    match cs with
    | '.' :: cs => (cs.takeWhile isDigit, cs.dropWhile isDigit)
    | cs => ([], cs)
  let offset ← zone? cs
  some { hour, minute, second, fraction, offset }

/-- The fields of a written date, perhaps with a time. -/
def parse? (cs : List Char) : Option Timestamp := do
  let (year, cs) ← number 4 4 cs
  let afterMonth ← expect '-' cs
  let (month, cs) ← number 1 2 afterMonth
  let afterDay ← expect '-' cs
  let (day, cs') ← number 1 2 afterDay
  let padded := (number 2 2 afterMonth).isSome && (number 2 2 afterDay).isSome
  if cs' = [] then some { year, month, day, padded, time := none }
  else
    let time ← time? cs'
    some { year, month, day, padded, time := some time }

/-! ## Existence -/

/-- An offset is less than a day, either way. -/
def Offset.check (o : Offset) : Except ScalarFault Unit :=
  if o.minutes.natAbs < 24 * 60 then .ok () else .error (.offsetOutOfRange o.minutes)

/-- Whether there is such a date. -/
def checkDate (t : Timestamp) : Except ScalarFault Unit :=
  if t.year = 0 then .error (.yearOutOfRange t.year)
  else if t.month < 1 ∨ 12 < t.month then .error .monthOutOfRange
  else if t.day < 1 ∨ Date.daysIn t.year t.month < t.day then .error .dayOutOfRange
  else .ok ()

/-- Whether there is such a time of day. -/
def checkTime (t : TimeOfDay) : Except ScalarFault Unit :=
  if 23 < t.hour then .error .hourOutOfRange
  else if 59 < t.minute then .error .minuteOutOfRange
  else if 59 < t.second then .error .secondOutOfRange
  else .ok ()

/-- Whether there is such a date and such a time. The time zone is looked at first. -/
def check (t : Timestamp) : Except ScalarFault Unit :=
  match t.time with
  | none => t.checkDate
  | some time => do
    match time.offset with
    | some offset => Offset.check offset
    | none => .ok ()
    t.checkDate
    checkTime time

/-! ## Meaning -/

/-- The microseconds of the digits after the point. -/
def microseconds (fraction : List Char) : Nat :=
  let digits := fraction.take 6
  Decimal.toNat (digits ++ List.replicate (6 - digits.length) '0')

/-- A time of day as it is meant. -/
def clock (t : TimeOfDay) : Clock :=
  { hour := t.hour, minute := t.minute, second := t.second
    microsecond := microseconds t.fraction, ahead := t.offset.map (·.minutes) }

/-- The moment that is meant. -/
def moment (t : Timestamp) : Moment :=
  { date := ⟨t.year, t.month, t.day⟩, clock := t.time.map clock }

end Timestamp

end CommandCompiler.Yaml
