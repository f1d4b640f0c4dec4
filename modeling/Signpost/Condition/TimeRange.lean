import Signpost.Check.Scalar
import Signpost.Zone.Names

/-!
# Time ranges

The operand of a condition on the time of day: a start, perhaps an end, and perhaps the zone whose
clock is meant. A clock is one or two digits for the hour, a colon and two digits for the minute;
one line break behind them is let pass.
-/

namespace Signpost

/-- A stretch of the day, perhaps open, perhaps by the clock of a zone. -/
structure TimeRange where
  start : String
  finish : Option String
  zone : Option String
deriving DecidableEq, Repr

namespace TimeRange

/-- Whether digits write an hour. -/
def isHour : List Char → Bool
  | [a] => Json.isAsciiDigit a
  | [a, b] =>
    ((a == '0' || a == '1') && Json.isAsciiDigit b) || (a == '2' && '0' ≤ b && b ≤ '3')
  | _ => false

/-- Whether digits write a minute. -/
def isMinute : List Char → Bool
  | [a, b] => '0' ≤ a && a ≤ '5' && Json.isAsciiDigit b
  | _ => false

/-- Whether a text writes a clock, one line break at its end let pass. -/
def isClock (s : String) : Bool :=
  let cs := s.toList
  let body := if cs.getLast? = some '\n' then cs.dropLast else cs
  isHour (body.takeWhile (· != ':')) && isMinute ((body.dropWhile (· != ':')).drop 1)

/-- A clock, with the side of the range that it stands on. -/
def clockRule (side : String) : Check.Rule String :=
  Check.refining Check.text fun s =>
    if isClock s then .ok s
    else .error (side ++ " time must be in HH:mm format (00:00-23:59)")

/-- The name of a zone. -/
def zoneRule : Check.Rule String :=
  Check.refining Check.text fun s =>
    if Zone.isName s then .ok s
    else .error
      "Timezone must be a valid IANA timezone (e.g., Asia/Taipei, America/New_York, UTC)"

/-- A time range; no other fields are admitted. -/
def check : Check.Rule TimeRange := fun path j =>
  (Check.Source.document.openRecord "TimeRange" path j).andThen fun r =>
    (fun start finish zone _ => ⟨start, finish, zone⟩)
      <$> r.required "start" (clockRule "Start")
      <*> r.optional "end" none (Check.orNull (clockRule "End"))
      <*> r.optional "timezone" none (Check.orNull zoneRule)
      <*> r.forbidOthers ["start", "end", "timezone"]

/-- A range with null for what it leaves open. -/
def toJson (t : TimeRange) : Json :=
  .obj [("start", .str t.start), ("end", .ofText? t.finish), ("timezone", .ofText? t.zone)]

/-- A range without what it leaves open. -/
def toStorage (t : TimeRange) : Json :=
  .obj ([("start", .str t.start)] ++ (t.finish.map fun s => ("end", Json.str s)).toList ++
    (t.zone.map fun s => ("timezone", Json.str s)).toList)

end TimeRange

end Signpost
