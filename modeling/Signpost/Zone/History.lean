import Signpost.Zone.Basic

/-!
# Histories of time zones

How far the clock of a zone is from universal time has a history: an offset at the start, and the
changes since. Most changes come back year after year on the same weekday at the same time, so that
an era of them is told by its first and its last year.

The records of the tables reach from 2007 to 2037. What is in force at their end stays in force, and
the offset that they start with is taken for all time before. Of the zones of New York, London,
Calcutta, Taipei and Tokyo they keep an older entry beside; that is still not their whole past.

An instant is written as the digits of its year, month, day, hour and minute in universal time, so
that instants compare as numbers.
-/

namespace Signpost

namespace Zone

/-- The instant from which an offset is in force, and the offset in minutes. -/
abbrev Change := Nat × Int

/-- A change that comes back every year, on the first of some weekday from a day of the year on. -/
structure YearlyChange where
  month : Nat
  dayOfMonth : Nat
  /-- The day of the week, with Sunday as 0. -/
  weekday : Nat
  /-- The digits of the hour and the minute. -/
  time : Nat
  offset : Int
deriving DecidableEq, Repr

/-- The change in one of its years. -/
def YearlyChange.inYear (c : YearlyChange) (year : Nat) : Change :=
  let earliest := Clock.ofDate ⟨year, c.month, c.dayOfMonth⟩ 0
  let d := Date.ofDay (earliest.day + (c.weekday + 7 - earliest.weekday) % 7)
  (((d.year * 100 + d.month) * 100 + d.dayOfMonth) * 10000 + c.time, c.offset)

/-- A single change, or the changes of some years, in the order in which they come in each. -/
inductive Era
  | once (instant : Nat) (offset : Int)
  | yearly (first last : Nat) (changes : List YearlyChange)
deriving DecidableEq, Repr

/-- The changes of an era, oldest first. -/
def Era.changes : Era → List Change
  | once instant offset => [(instant, offset)]
  | yearly first last changes =>
    (List.range' first (last + 1 - first)).flatMap fun year => changes.map (·.inYear year)

/-- What is recorded of the zones that go by some names: their first offset in minutes, and their
eras, oldest first. -/
structure History where
  names : List String
  start : Int
  eras : List Era
deriving DecidableEq, Repr

namespace History

/-- The changes of the offset, oldest first. -/
def changes (h : History) : List Change :=
  h.eras.flatMap Era.changes

/-- The offset in force at an instant of universal time, in minutes. -/
def offsetAt (h : History) (c : Clock) : Int :=
  let now := c.stamp
  (h.changes.takeWhile (·.1 ≤ now)).getLast?.elim h.start (·.2)

end History

end Zone

end Signpost
