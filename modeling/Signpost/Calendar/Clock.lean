/-!
# Calendar clocks

A clock reading is a number of microseconds since the start of year 1 of the Gregorian calendar,
carried back before its introduction. `Date.ofDay` and `Date.day` go between a day's number and its
year, month and day. Only years 1 to 9999 can be read off a clock, so moving a clock may fail.
-/

namespace Signpost

/-- Microseconds since the start of year 1. -/
structure Clock where
  micros : Nat
deriving DecidableEq, Repr, Inhabited

/-- A day of the Gregorian calendar. -/
structure Date where
  year : Nat
  month : Nat
  dayOfMonth : Nat
deriving DecidableEq, Repr

namespace Date

/-- A year with a 29th of February. -/
def isLeap (year : Nat) : Bool :=
  year % 4 == 0 && (year % 100 != 0 || year % 400 == 0)

/-- The days of the month in a year. -/
def daysInMonth (year month : Nat) : Nat :=
  match month with
  | 2 => if isLeap year then 29 else 28
  | 4 | 6 | 9 | 11 => 30
  | _ => 31

/-- The days before a year, counted from the start of year 1. -/
def daysBeforeYear (year : Nat) : Nat :=
  let y := year - 1
  365 * y + y / 4 - y / 100 + y / 400

/-- The days of a year before a month. -/
def daysBeforeMonth (year : Nat) : Nat → Nat
  | 0 | 1 => 0
  | month + 1 => daysBeforeMonth year month + daysInMonth year month

/-- The number of a day; the first day of year 1 is day 0. -/
def day (d : Date) : Nat :=
  daysBeforeYear d.year + daysBeforeMonth d.year d.month + (d.dayOfMonth - 1)

/-- Whether a month has such a day. -/
def isValid (d : Date) : Bool :=
  1 ≤ d.year && d.year ≤ 9999 && 1 ≤ d.month && d.month ≤ 12 && 1 ≤ d.dayOfMonth &&
    d.dayOfMonth ≤ daysInMonth d.year d.month

/-- The month of a year, and the day of the month, in which a day of the year falls. -/
def monthOf (year dayOfYear : Nat) : Nat → Nat × Nat
  | 0 | 1 => (1, dayOfYear + 1)
  | month + 1 =>
    if daysBeforeMonth year (month + 1) ≤ dayOfYear then
      (month + 1, dayOfYear - daysBeforeMonth year (month + 1) + 1)
    else monthOf year dayOfYear month

/-- The day with a number. -/
def ofDay (n : Nat) : Date :=
  let guess := n * 400 / 146097 + 1
  let year := if n < daysBeforeYear guess then guess - 1
    else if daysBeforeYear (guess + 1) ≤ n then guess + 1 else guess
  let (month, dayOfMonth) := monthOf year (n - daysBeforeYear year) 12
  ⟨year, month, dayOfMonth⟩

end Date

/-- Why a clock cannot be moved by a span. -/
inductive Immovable
  /-- The span has more days than a span can have. -/
  | longSpan (days : Int)
  /-- The reading would fall outside years 1 to 9999. -/
  | beyondCalendar
deriving DecidableEq, Repr

namespace Clock

/-- Microseconds in a minute. -/
def minuteMicros : Nat := 60 * 1000000

/-- Microseconds in a day. -/
def dayMicros : Nat := 24 * 60 * minuteMicros

/-- The first reading beyond year 9999. -/
def limit : Nat := 3652059 * dayMicros

/-- The reading at a time of a day, in microseconds since midnight. -/
def ofDate (d : Date) (micros : Nat) : Clock :=
  ⟨d.day * dayMicros + micros⟩

/-- The number of the day of a reading. -/
def day (c : Clock) : Nat :=
  c.micros / dayMicros

/-- The minute of the day of a reading. -/
def minuteOfDay (c : Clock) : Nat :=
  c.micros % dayMicros / minuteMicros

/-- The day of the week of a reading, with Sunday as 0; the first day of year 1 was a Monday. -/
def weekday (c : Clock) : Nat :=
  (c.day + 1) % 7

/-- The reading some minutes later, if it falls in years 1 to 9999. -/
def shift (minutes : Int) (c : Clock) : Option Clock :=
  let moved : Int := c.micros + minutes * minuteMicros
  if 0 ≤ moved ∧ moved < limit then some ⟨moved.toNat⟩ else none

/-- The most days that a span can have. -/
def maxDays : Int := 999999999

/-- The reading a span of microseconds later. -/
def later (span : Int) (c : Clock) : Except Immovable Clock :=
  let days := span.fdiv dayMicros
  let moved : Int := c.micros + span
  if days < -maxDays ∨ maxDays < days then .error (.longSpan days)
  else if moved < 0 ∨ limit ≤ moved then .error .beyondCalendar
  else .ok ⟨moved.toNat⟩

/-- A number padded with zeros to a width. -/
def padded (width n : Nat) : List Char :=
  let digits := Nat.toDigits 10 n
  List.replicate (width - digits.length) '0' ++ digits

/-- A reading written with its date, its time of day and its microseconds when there are any. -/
def isoText (c : Clock) : List Char :=
  let d := Date.ofDay c.day
  let rest := c.micros % dayMicros
  let seconds := rest / 1000000
  let fraction := rest % 1000000
  padded 4 d.year ++ '-' :: padded 2 d.month ++ '-' :: padded 2 d.dayOfMonth ++
    'T' :: padded 2 (seconds / 3600) ++ ':' :: padded 2 (seconds / 60 % 60) ++
    ':' :: padded 2 (seconds % 60) ++ (if fraction = 0 then [] else '.' :: padded 6 fraction)

/-- The digits of a reading's year, month, day, hour and minute, as one number. -/
def stamp (c : Clock) : Nat :=
  let d := Date.ofDay c.day
  let minute := c.minuteOfDay
  (((d.year * 100 + d.month) * 100 + d.dayOfMonth) * 100 + minute / 60) * 100 + minute % 60

end Clock

end Signpost
