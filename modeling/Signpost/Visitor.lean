import Signpost.Check.Scalar
import Signpost.Condition.Kind
import Signpost.Zone.Basic

/-!
# Visitors

A visitor is what is known at one visit: a text or nothing for each attribute, the moment, the zone
whose clock the visitor goes by, and what the clocks of zones show. A visitor that was not checked
may hold something unreadable in the place of a text, the moment or the zone; conditions on it then
cannot be evaluated.
-/

namespace Signpost

/-- What is known of an attribute. -/
inductive Signal
  | absent
  | text (s : String)
  | unreadable
deriving DecidableEq, Repr, Inhabited

namespace Signal

/-- A text or nothing. -/
def ofText? : Option String → Signal
  | some s => text s
  | none => absent

/-- The signal that a document gives without being checked. -/
def ofJson : Json → Signal
  | .null => absent
  | .str s => text s
  | _ => unreadable

/-- The document of a signal. -/
def toJson : Signal → Json
  | text s => .str s
  | _ => .null

end Signal

/-- What is known at one visit. `time` is none when what was given is no moment. `clocks` is no part
of what a visitor is told as: it is the time-zone data at hand at the visit. -/
structure Visitor where
  signal : Attribute → Signal
  time : Option Moment
  zone : Signal
  clocks : Zone.Clocks

namespace Visitor

/-- The zone that visitors go by when nothing else is known. -/
def defaultZone : String := "UTC"

/-- Signals by attribute; an attribute without one is absent. -/
def signalsOf (known : List (Attribute × Signal)) (a : Attribute) : Signal :=
  ((known.find? (·.1 == a)).map (·.2)).getD .absent

/-- The signals of attributes, each a text or null. -/
def signalsRule (r : Check.Record) (attributes : List Attribute) :
    Check.Checked (List (Attribute × Signal)) :=
  .all (attributes.map fun a =>
    (r.optional a.name none (Check.orNull Check.text)).map fun s => (a, Signal.ofText? s))

/-- A visitor; the moment is `now` unless given, the zone universal time unless given. -/
def check (clocks : Zone.Clocks) (now : Clock) : Check.Rule Visitor := fun path j =>
  (Check.Source.document.openRecord "VisitorContext" path j).andThen fun r =>
    (fun visit time zone campaign =>
      ⟨signalsOf (visit ++ campaign), some time, .ofText? zone, clocks⟩)
      <$> signalsRule r Attribute.ofVisit
      <*> r.optional "current_time" (.universal now) Check.moment
      <*> r.optional "timezone" (some defaultZone) (Check.orNull Check.text)
      <*> signalsRule r Attribute.ofCampaign

/-- A visitor taken as described, without checks. -/
def unchecked (clocks : Zone.Clocks) (now : Clock) (members : List (String × Json)) :
    Visitor where
  signal a := Signal.ofJson ((Json.lookup members a.name).getD .null)
  time :=
    let given := (Json.lookup members "current_time").getD .null
    if given.isTruthy then (given.text?.bind fun s => (Moment.read s).toOption)
    else some (.universal now)
  zone := match Json.lookup members "timezone" with
    | none => .text defaultZone
    | some j => if j.isTruthy then Signal.ofJson j else .absent
  clocks := clocks

/-- The visitor of some signals by name, at the moment `now`; other names are passed over. -/
def ofSignals (clocks : Zone.Clocks) (now : Clock) (signals : List (String × Json)) :
    Check.Checked Visitor :=
  let given (name : String) : Json := (Json.lookup signals name).getD .null
  let zone := if (given "timezone").isTruthy then given "timezone" else .str defaultZone
  check clocks now [] (.obj (
    (Attribute.ofVisit ++ Attribute.ofCampaign).map (fun a => (a.name, given a.name)) ++
      [("timezone", zone)]))

/-- A visitor's document. -/
def toJson (v : Visitor) : Json :=
  let signals (attributes : List Attribute) :=
    attributes.map fun a => (a.name, (v.signal a).toJson)
  .obj (signals Attribute.ofVisit ++
    [("current_time", .ofText? (v.time.map Moment.isoText)), ("timezone", v.zone.toJson)] ++
    signals Attribute.ofCampaign)

/-- The name of the zone whose clock counts: one that a condition names, else the visitor's, else
universal time. Names that say nothing are passed over. -/
def zoneName (override : Json) (visitor : Option Visitor) : Json :=
  if override.isTruthy then override
  else match visitor.elim Signal.absent (·.zone) with
    | .text s => if s = "" then .str defaultZone else .str s
    | .unreadable => .null
    | .absent => .str defaultZone

end Visitor

end Signpost
