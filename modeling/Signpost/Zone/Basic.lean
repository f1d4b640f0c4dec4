import Signpost.Calendar.Moment

/-!
# Time zones

A time zone is known by its name. How far its clock is from universal time is up to legislators, and
whoever asks has to be told: it is data from outside, of which only this much is fixed, that offsets
are whole minutes and that universal time has none.
-/

namespace Signpost

/-- A time zone. -/
structure Zone where
  name : String
deriving DecidableEq, Repr

namespace Zone

/-- Universal time. -/
def universal : Zone :=
  ⟨"UTC"⟩

/-- What is known of the clocks of zones: the offset of each from universal time, in minutes, at a
reading of universal time. -/
structure Clocks where
  offset : Zone → Clock → Int
  offset_universal : ∀ c, offset universal c = 0

/-- The local clock of a moment, unless it or universal time falls outside years 1 to 9999. -/
def Clocks.reading? (k : Clocks) (z : Zone) (m : Moment) : Option Clock := do
  let c ← m.utc
  c.shift (k.offset z c)

end Zone

end Signpost
