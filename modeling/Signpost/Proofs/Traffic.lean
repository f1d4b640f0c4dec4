import Mathlib
import Signpost.Proofs.ManagementRuns
import Signpost.Proofs.RedirectStages

/-!
# Redirections beside tasks

Redirections and tasks at one link run side by side: one stage of a redirection
or one half of a task at a time, in any order. The halves of a task are its
commit and the clearing of both entries of the link. In between the tally may
be written, time may pass, and an entry's time may run out.

Two things are written down beside what the service does, and no step hangs on
them. Commits are numbered, and a redirection notes how many there were when it
read the store. So it can be told of an entry whether it was put late, which is
to say when the store had been read before a commit whose entries were cleared
already.
-/

namespace Signpost

open Manage (Task Caller)

/-! ## Stages and halves -/

namespace Stage

def isReading : Stage → Bool
  | missedLink | missedRules _ => true
  | _ => false

def putsLink : Stage → Bool
  | gotLink _ => true
  | _ => false

/-- The rules that are put into the cache next. -/
def rules? : Stage → Option (List RuleEntry)
  | gotRules _ rules => some rules
  | _ => none

/-- Rules are put into the cache next; no rules are not. -/
def putsRules (x : Stage) : Bool :=
  x.rules?.any fun rules => !rules.isEmpty

def isEnded : Stage → Bool
  | ended _ => true
  | _ => false

end Stage

structure Trip where
  visitor : Visitor
  stage : Stage
  /-- The commits that there had been when the store was read last. -/
  seen : Nat

/-- A task that is under way. -/
inductive Errand
  | waiting (c : Caller) (t : Task)
  /-- The task is committed, and the entries of its link are still there. -/
  | committed (told : Link × Option RuleEvent) (number : Nat)
  | ended

def Errand.isEnded : Errand → Bool
  | ended => true
  | _ => false

/-- What goes on at a link. What is counted and noted here is of no account to
the service. -/
structure Traffic where
  service : Service
  trips : List Trip
  errands : List Errand
  /-- How many tasks were committed. -/
  commits : Nat
  /-- The last of the commits that were followed by clearing the entries. -/
  cleared : Nat
  /-- The link was put into the cache late, when it was put there last: the
  store had been read before a commit that was cleared by then. -/
  lateLink : Bool
  /-- The rules were put into the cache late, when they were put there last. -/
  lateRules : Bool

namespace Traffic

/-- What goes on: one stage of a redirection, one half of a task, or what comes
with time. -/
inductive Move
  | trip (i : Nat)
  | errand (i : Nat)
  | flush
  | wait (span : Int)
  | expire (key : String)
deriving DecidableEq

/-- Visitors and callers come to a service. -/
def begin (s : Service) (visitors : List Visitor) (tasks : List (Caller × Task)) :
    Traffic where
  service := s
  trips := visitors.map fun v => ⟨v, .begun, 0⟩
  errands := tasks.map fun (c, t) => .waiting c t
  commits := 0
  cleared := 0
  lateLink := false
  lateRules := false

/-- One stage of a redirection. -/
def advanceTrip (slug : String) (c : Traffic) (i : Nat) (t : Trip) : Traffic :=
  let (stage, service) := Stage.advance slug t.visitor (t.stage, c.service)
  { c with
    service := service
    trips := c.trips.set i
      { t with
        stage := stage
        seen := if t.stage.isReading then c.commits else t.seen }
    lateLink :=
      if t.stage.putsLink then decide (t.seen < c.cleared) else c.lateLink
    lateRules :=
      if t.stage.putsRules then decide (t.seen < c.cleared) else c.lateRules }

/-- One half of a task. -/
def advanceErrand (most : Int) (c : Traffic) (i : Nat) : Errand → Traffic
  | .waiting caller task =>
    match c.service.commitTask most caller task with
    | (some told, s) =>
      { c with
        service := s
        errands := c.errands.set i (.committed told (c.commits + 1))
        commits := c.commits + 1 }
    | (none, s) => { c with service := s, errands := c.errands.set i .ended }
  | .committed told number =>
    { c with
      service := c.service.publish told
      errands := c.errands.set i .ended
      cleared := max c.cleared number }
  | .ended => c

def step (most : Int) (slug : String) (c : Traffic) : Move → Traffic
  | .trip i => match c.trips[i]? with
    | some t => c.advanceTrip slug i t
    | none => c
  | .errand i => match c.errands[i]? with
    | some j => c.advanceErrand most i j
    | none => c
  | .flush => { c with service := c.service.flush.2 }
  | .wait span => match c.service.advance span with
    | .ok s => { c with service := s }
    | .error _ => c
  | .expire key =>
    { c with
      service := { c.service with cache := c.service.cache.expire key } }

def run (most : Int) (slug : String) (c : Traffic) (moves : List Move) :
    Traffic :=
  moves.foldl (step most slug) c

def allEnded (c : Traffic) : Bool :=
  c.trips.all (·.stage.isEnded) && c.errands.all (·.isEnded)

end Traffic

/-! ## What the cache holds -/

namespace Service

/-- An entry is what the rows say of the link with a slug. -/
def HasLink (s : Service) (slug : String) (e : LinkEntry) : Prop :=
  ∃ l ∈ s.store.database.links, l.slug = slug ∧ e = l.entry

/-- Rules are what the rows say of the active rules of a link, in evaluation
order and their counts aside. -/
def HasRules (s : Service) (link : Int) (es : List RuleEntry) : Prop :=
  es.map RuleEntry.uncounted =
    (s.store.database.activeEntries link).map RuleEntry.uncounted

/-- What the cache holds of a slug is absent or what the rows say. -/
def LinkIsCurrent (s : Service) (slug : String) : Prop :=
  ∃ found, s.cache.link? slug = .ok found ∧ ∀ e ∈ found, s.HasLink slug e

/-- What the cache holds of the rules of a link is absent or what the rows
say. -/
def RulesAreCurrent (s : Service) (link : Int) : Prop :=
  ∃ found, s.cache.rules? link = .ok found ∧ ∀ es ∈ found, s.HasRules link es

end Service

end Signpost
