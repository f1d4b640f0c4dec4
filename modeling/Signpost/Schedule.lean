import Signpost.Calendar.Moment
import Signpost.Json.Basic

/-!
# Periodic jobs

A scheduler is set up, started and shut down; shutting it down forgets its jobs. Jobs may be added
before it starts, once it is set up, and are listed only while it runs. A job with the id of another
replaces it, and its next run is one interval away from when it was added. The interval has to be
one that the calendar can bear.
-/

namespace Signpost

/-- A job and when it runs next, in universal time. -/
structure Job where
  id : String
  name : String
  nextRun : Clock
deriving DecidableEq, Repr

/-- A scheduler: whether it is set up, whether it runs, its jobs, and whether the counter that was
last to ask for one has it. -/
structure Schedule where
  isSetUp : Bool
  isRunning : Bool
  jobs : List Job
  hasCounter : Bool
deriving DecidableEq, Repr

/-- Why a job cannot be added. -/
inductive JobRefusal
  | notSetUp
  /-- There is no time for the next run. -/
  | noNextRun (cause : Immovable)
deriving DecidableEq, Repr

namespace Schedule

/-- A scheduler that is not set up. -/
def idle : Schedule :=
  ⟨false, false, [], false⟩

/-- The scheduler, set up. -/
def setUp (s : Schedule) : Schedule :=
  { s with isSetUp := true }

/-- The scheduler, set up and running. -/
def start (s : Schedule) : Schedule :=
  { s with isSetUp := true, isRunning := true }

/-- The scheduler, shut down if it was running. -/
def shutdown (s : Schedule) : Schedule :=
  if s.isSetUp && s.isRunning then { idle with hasCounter := s.hasCounter } else s

/-- The scheduler with a job in the place of one with its id. -/
def add (s : Schedule) (job : Job) : Schedule :=
  { s with jobs := s.jobs.filter (·.id != job.id) ++ [job] }

/-- The scheduler without a job. -/
def remove (s : Schedule) (id : String) : Schedule :=
  { s with jobs := s.jobs.filter (·.id != id) }

/-- The jobs that are listed. -/
def listed (s : Schedule) : List Job :=
  if s.isSetUp && s.isRunning then s.jobs else []

/-- The scheduler's state as it is reported. -/
def status (s : Schedule) : Json :=
  .obj [("running", .bool s.isRunning),
    ("jobs", .arr (s.listed.map fun job => .obj [("job_id", .str job.id), ("name", .str job.name),
      ("next_run_time", .str (Moment.universal job.nextRun).isoText)]))]

/-! ## The periodic writing of match counts -/

/-- The id of the job that writes the buffered match counts. -/
def flushId : String := "flush_routing_match_counts"

/-- The job that writes the buffered match counts, every so many seconds and at least every one. -/
def flushJob (now : Clock) (interval : Int) : Except JobRefusal Job :=
  let seconds := if interval = 0 then 1 else interval
  match now.later (seconds * 1000000) with
  | .ok next => .ok ⟨flushId, "Flush routing rule match counts", next⟩
  | .error cause => .error (.noNextRun cause)

/-- Has a counter ask for the job that writes its counts. -/
def addFlush (s : Schedule) (now : Clock) (interval : Int) : Except JobRefusal Schedule :=
  if !s.isSetUp then .error .notSetUp
  else (flushJob now interval).map fun job => { s.add job with hasCounter := true }

/-- The scheduler for a counter that has not asked for a job. -/
def withNewCounter (s : Schedule) : Schedule :=
  { s with hasCounter := false }

/-- Takes the job of the counter back, if the counter has it. -/
def removeFlush (s : Schedule) : Schedule :=
  if s.hasCounter then { s.remove flushId with hasCounter := false } else s

end Schedule

end Signpost
