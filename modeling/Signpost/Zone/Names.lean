import Signpost.Text.Case
import Signpost.Text.Cut
import Signpost.Zone.Table.East
import Signpost.Zone.Table.Middle
import Signpost.Zone.Table.West

/-!
# Names of time zones

Every name of the time-zone database, aliases included. A visitor or a condition may name a zone
only exactly as it is written here.

`Zone.resolve?` finds the zone a name stands for when clocks are read: universal time in any case,
and any other name up to case and up to the spelled-out forms of its signs. That is wider than
`Zone.isName`, which is what inputs are checked with.
-/

namespace Signpost.Zone

/-- The records of the time zones. -/
def all : List History :=
  west ++ middle ++ east

/-- Whether a text is the name of a time zone. -/
def isName (name : String) : Bool :=
  all.any (·.names.contains name)

/-- A name with the spelled-out forms of its signs replaced. -/
def plainName (name : List Char) : List Char :=
  Text.replaceAll "_minus_".toList ['-'] (Text.replaceAll "_plus_".toList ['+'] name)

/-- The zone that a name stands for. -/
def resolve? (name : String) : Option Zone :=
  if Text.upper name.toList = "UTC".toList then some universal
  else if name.toList.any (0x80 ≤ ·.toNat) then none
  else
    let wanted := Text.lower (plainName name.toList)
    ((all.flatMap (·.names)).find? fun n => Text.lower n.toList == wanted).map Zone.mk

/-- The clocks that the records tell. -/
def Clocks.recorded : Clocks where
  offset z c :=
    if z = universal then 0
    else (all.find? (·.names.contains z.name)).elim 0 (·.offsetAt c)
  offset_universal _ := if_pos rfl

end Signpost.Zone
