import Signpost.Cache
import Signpost.RuleEvent
import Signpost.Schedule
import Signpost.Store.Plan
import Signpost.Tally

/-!
# The service

What the service holds: the clock it goes by, its store and its cache, the tally of matches not yet
written, the events it announced, and its scheduler. A task on the store runs as one transaction or,
when it only reads, on its own; matches that were counted while the store was busy are in the tally
afterwards, whatever became of the task.
-/

namespace Signpost

/-- How a cache answers when it is asked for a sign of life. -/
inductive Heartbeat
  | present
  | absent
  | refused
  | crashed
  | unreachable
deriving DecidableEq, Repr

/-- What the service holds. -/
structure Service where
  now : Clock
  store : Store
  cache : Cache
  tally : Tally
  events : List RuleEvent
  schedule : Schedule
  /-- Seconds between two writings of the tally. -/
  flushInterval : Int
  /-- The shared cache's sign of life, if there is a shared cache. -/
  heartbeat : Option Heartbeat
  /-- How tall conditions may be that are written out. -/
  ceiling : Ceiling

/-- How a task ended, and the service after it. -/
abbrev Outcome (α : Type) := Except Failure α × Service

namespace Service

/-- A service that was just set up. -/
def fresh (now : Clock) (cacheEnabled : Bool) (patience flushInterval : Int) : Service where
  now := now
  store := .empty
  cache := .empty cacheEnabled false
  tally := .empty patience
  events := []
  schedule := .idle
  flushInterval := flushInterval
  heartbeat := none
  ceiling := .usual

/-- The service after a span of microseconds has passed, unless the calendar ends before. -/
def advance (s : Service) (span : Int) : Except Immovable Service :=
  (s.now.later span).map fun now => { s with now := now }

/-- The service with another store, the matches that were counted meanwhile in the tally. -/
def withStore (s : Service) (store : Store) : Service :=
  { s with
    store := { store with arrivals := [] }
    tally := s.tally.countAll store.arrivals }

/-- Runs a plan that only reads. -/
def consult {α : Type} (s : Service) (p : Plan α) : Outcome α :=
  let (result, store) := p.run s.now s.store
  (result, s.withStore store)

/-- Runs a plan as one transaction. -/
def transact {α : Type} (s : Service) (p : Plan α) : Outcome α :=
  let (result, store) := p.transact s.now s.store
  (result, s.withStore store)

end Service

/-- An outcome with its result changed. -/
def Outcome.map {α β : Type} (f : α → β) (o : Outcome α) : Outcome β :=
  (Except.map f o.1, o.2)

end Signpost
