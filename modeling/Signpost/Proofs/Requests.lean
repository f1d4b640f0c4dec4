import Mathlib
import Signpost.Proofs.FailedTasks

/-!
# Requests as data

Everything that may be asked of the service about the rules and the settings
of links: the five tasks that change something, and the two that only read.
What a caller is told is one of four things, and `Service.serve` gives it
together with the service afterwards, so that runs of requests and what comes
of them can be compared.
-/

namespace Signpost

namespace Manage

/-- What a caller may ask about links and rules. -/
inductive Request
  | task (t : Task)
  | listRules (link : Int)
  | findRule (link rule : Int)

/-- What a request that ended well is answered with. -/
inductive Answer
  | rule (r : Rule)
  | link (l : Link)
  | listing (l : RuleListing)
  | nothing

namespace Request

/-- The link that a request names. -/
def link : Request → Int
  | task t => t.link
  | listRules link | findRule link _ => link

/-- The rule that a request names. -/
def rule? : Request → Option Int
  | task (.updateRule _ rule _) | task (.deleteRule _ rule) => some rule
  | findRule _ rule => some rule
  | _ => none

/-- What the request is given passed its check. -/
def IsChecked : Request → Prop
  | task t => t.IsChecked
  | listRules _ | findRule .. => True

end Request

end Manage

namespace Service

open Manage (Task Caller Request Answer)

/-- A task with what its caller is told. -/
def perform (s : Service) (most : Int) (c : Caller) : Task → Outcome Answer
  | .createRule link d => (s.createRule most link c d).map .rule
  | .createFromTemplate link use =>
    (s.createFromTemplate most link c use).map .rule
  | .updateRule link rule changes => (s.updateRule link rule c changes).map .rule
  | .deleteRule link rule => (s.deleteRule link rule c).map fun _ => .nothing
  | .updateSettings link settings =>
    (s.updateSettings link c settings).map .link

/-- A request with what its caller is told. -/
def serve (s : Service) (most : Int) (c : Caller) : Request → Outcome Answer
  | .task t => s.perform most c t
  | .listRules link => (s.listRules link c.requester).map .listing
  | .findRule link rule => (s.findRule link rule c.requester).map .rule

theorem perform_snd (s : Service) (most : Int) (c : Caller) (t : Task) :
    (s.perform most c t).2 = s.after most c t := by
  cases t <;> rfl

end Service

end Signpost
