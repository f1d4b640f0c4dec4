import Signpost.Event
import Signpost.Store.Row

/-!
# Events about rules

What is announced when a rule was created, changed or deleted: the rule as it is then, or as it was
last, and who did it.
-/

namespace Signpost

/-- What happened to a rule. -/
inductive RuleEvent.Kind
  | created
  | updated
  | deleted
deriving DecidableEq, Repr

/-- The name of the event that announces it. -/
def RuleEvent.Kind.name : RuleEvent.Kind → String
  | created => Event.ruleCreated
  | updated => Event.ruleUpdated
  | deleted => Event.ruleDeleted

/-- The announcement of what happened to a rule. -/
structure RuleEvent where
  kind : RuleEvent.Kind
  ruleId : Int
  linkId : Int
  name : String
  targetUrl : String
  priority : Int
  userId : Int
deriving DecidableEq, Repr

namespace RuleEvent

/-- The announcement of what a user did to a rule of a link. -/
def about (kind : Kind) (r : Rule) (linkId userId : Int) : RuleEvent :=
  ⟨kind, r.id, linkId, r.name, r.targetUrl, r.priority, userId⟩

/-- What the event carries. -/
def payload (e : RuleEvent) : Json :=
  .obj [("rule_id", .int e.ruleId), ("url_id", .int e.linkId), ("name", .str e.name),
    ("target_url", .str e.targetUrl), ("priority", .int e.priority), ("user_id", .int e.userId)]

end RuleEvent

end Signpost
