import Signpost.Service.Basic

/-!
# Upkeep

What the service does on its own: it writes the tally to the store from time to time, starts with
the scheduler that does so, and writes the tally a last time when it stops.
-/

namespace Signpost.Service

/-- Writes the tally to the store as one transaction, and tells how many rules it wrote. The batch
is taken out before the store is asked, and merged back if it could not be written. -/
def flush (s : Service) : Nat × Service :=
  let batch := s.tally.counts
  if batch.isEmpty then (0, s)
  else
    match { s with tally := s.tally.emptied }.transact (Plan.query (.addMatches batch)) with
    | (.ok _, s) => (batch.length, { s with tally := s.tally.settle batch })
    | (.error _, s) => (0, { s with tally := s.tally.requeue batch })

/-- Stops counting: no more periodic writing, a last attempt to write, and what is left is lost. -/
def stopCounting (s : Service) : Service :=
  let s := { s with schedule := s.schedule.removeFlush }
  let s := s.flush.2
  { s with tally := s.tally.emptied }

/-- Starts the service: makes the tables that are missing and starts the scheduler with the periodic
writing of the tally. A scheduler that cannot be started is done without, and so is a job that it
cannot take. -/
def startUp (s : Service) : Service :=
  match s.store.restore.pass .startScheduler with
  | (.proceeds, store) =>
    let s := s.withStore store
    let started := s.schedule.start
    match started.addFlush s.now s.flushInterval with
    | .ok schedule => { s with schedule := schedule }
    | .error _ => { s with schedule := started }
  | (_, store) => s.withStore store

/-- Stops counting and shuts the scheduler down. -/
def shutDown (s : Service) : Service :=
  let s := s.stopCounting
  { s with schedule := s.schedule.shutdown }

end Signpost.Service
