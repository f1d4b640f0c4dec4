import Signpost.Store.Database
import Signpost.Store.Outage

/-!
# The store

A database that may fail: tables can be missing and outages can be arranged. Asking it passes the
points of the query, looks whether its tables are there and what it hands over has a place, and only
then goes to the rows. A failed query leaves the rows as they were.
-/

namespace Signpost

/-- A database that may fail, and the matches that were counted while it was being asked. -/
structure Store where
  database : Database
  missing : List Table
  outages : List Outage
  arrivals : List Arrival

namespace Store

/-- A store without rows, with all of its tables. -/
def empty : Store :=
  ⟨.empty, [], [], []⟩

/-- Passes a point. -/
def pass (s : Store) (point : StorePoint) : Passage × Store :=
  let (passage, arrivals, outages) := Outage.pass point s.outages
  (passage, { s with outages := outages, arrivals := s.arrivals ++ arrivals })

/-- Passes points until one fails or is answered, and tells which. -/
def passAll (s : Store) : List StorePoint → Option (StorePoint × Passage) × Store
  | [] => (none, s)
  | point :: rest =>
    match s.pass point with
    | (.proceeds, s) => s.passAll rest
    | (stopped, s) => (some (point, stopped), s)

/-- What is wrong with the filters of a query: that there are none, or a value that cannot be one of
its column. -/
def misfit? : Query → Option StoreFailure
  | .hasLink [] => some .noFilter
  | .hasLink filters => (filters.findSome? (·.misfit?)).map (.misfitFilter filters)
  | _ => none

/-- What keeps a query from the rows: filters that do not do, a missing table, a number without a
place or a text without octets, the first of these that there is. -/
def obstacle? (s : Store) (q : Query) : Option StoreFailure :=
  misfit? q
    <|> (q.tables.find? s.missing.contains).map (.missingTable q)
    <|> (if q.numbers.all hasPlace then none else some .numberTooLarge)
    <|> (q.texts.find? fun t => !Text.isWellFormed t.toList).map .illFormedText

/-- Asks the rows. -/
def askRows (s : Store) (now : Clock) (q : Query) : Except StoreFailure q.Answer × Store :=
  match s.obstacle? q with
  | some f => (.error f, s)
  | none =>
    match s.database.run now q with
    | .error f => (.error f, s)
    | .ok (answer, database) => (.ok answer, { s with database := database })

/-- Asks the store. -/
def ask (s : Store) (now : Clock) (q : Query) : Except StoreFailure q.Answer × Store :=
  match s.passAll q.points with
  | (some (_, .fails kind), s) => (.error (.arranged kind), s)
  | (some (point, .isAnswered reply), s) =>
    match q.answerOf? reply with
    | some answer => (.ok answer, s)
    | none => (.error (.unusable point reply), s)
  | (_, s) => s.askRows now q

/-- Drops a table with its rows. -/
def drop (s : Store) (table : Table) : Store :=
  { s with
    database := s.database.clear table
    missing := if s.missing.contains table then s.missing else table :: s.missing }

/-- The store with the tables that were missing, which have no rows. -/
def restore (s : Store) : Store :=
  { s with missing := [] }

/-- Arranges an outage, which is met before the ones arranged so far. -/
def arrange (s : Store) (o : Outage) : Store :=
  { s with outages := o :: s.outages }

end Store

end Signpost
