import Signpost.Condition.Basic
import Signpost.Net.Destination
import Signpost.Payload.Given

/-!
# Requests on links and rules

What a client may send to manage the rules of a link: a new rule, changes to a rule, a rule made
from a template, and the settings of the link itself. Destinations are trimmed and have to be public
URLs; names and priorities are bounded.
-/

namespace Signpost

/-- The name of a rule. -/
def ruleNameRule : Check.Rule String :=
  Check.textOfLength 1 100

/-- The priority of a rule. -/
def priorityRule : Check.Rule Int :=
  Check.integerBetween 0 10000

/-- A destination. -/
def targetRule : Check.Rule String :=
  Check.refining Check.text fun s =>
    match Net.validateTarget s with
    | .ok t => .ok t
    | .error bad => .error bad.message

/-- A rule to be created. -/
structure RuleDraft where
  name : String
  targetUrl : String
  priority : Int
  isActive : Bool
  conditions : Conditions
deriving DecidableEq, Repr

namespace RuleDraft

/-- A rule to be created. -/
def check (source : Check.Source) : Check.Rule RuleDraft := fun path j =>
  (source.openRecord "RoutingRuleCreate" path j).andThen fun r =>
    RuleDraft.mk <$> r.required "name" ruleNameRule
      <*> r.required "target_url" targetRule
      <*> r.optional "priority" 0 priorityRule
      <*> r.optional "is_active" true Check.boolean
      <*> r.required "conditions" (Conditions.check source)

/-- A draft's document. -/
def toJson (d : RuleDraft) : Json :=
  .obj [("name", .str d.name), ("target_url", .str d.targetUrl), ("priority", .int d.priority),
    ("is_active", .bool d.isActive), ("conditions", d.conditions.toJson)]

end RuleDraft

/-- Changes to a rule. -/
structure RuleChanges where
  name : Given String
  targetUrl : Given String
  priority : Given Int
  isActive : Given Bool
  conditions : Given Conditions
deriving DecidableEq, Repr

namespace RuleChanges

/-- Changes to a rule. -/
def check (source : Check.Source) : Check.Rule RuleChanges := fun path j =>
  (source.openRecord "RoutingRuleUpdate" path j).andThen fun r =>
    RuleChanges.mk <$> r.given "name" ruleNameRule
      <*> r.given "target_url" targetRule
      <*> r.given "priority" priorityRule
      <*> r.given "is_active" Check.boolean
      <*> r.given "conditions" (Conditions.check source)

/-- The document of changes, null standing for what was left out. -/
def toJson (c : RuleChanges) : Json :=
  .obj [("name", c.name.toJson .str), ("target_url", c.targetUrl.toJson .str),
    ("priority", c.priority.toJson .int), ("is_active", c.isActive.toJson .bool),
    ("conditions", c.conditions.toJson Conditions.toJson)]

/-- The fields that were given a value, as they are stored. -/
def toStorage (c : RuleChanges) : List (String × Json) :=
  c.name.named "name" .str ++ c.targetUrl.named "target_url" .str ++
    c.priority.named "priority" .int ++ c.isActive.named "is_active" .bool ++
    c.conditions.named "conditions" Conditions.toStorage

end RuleChanges

/-- A rule to be made from a template. -/
structure TemplateUse where
  key : String
  targetUrl : String
  name : Option String
  priority : Option Int
deriving DecidableEq, Repr

namespace TemplateUse

/-- A rule to be made from a template. -/
def check (source : Check.Source) : Check.Rule TemplateUse := fun path j =>
  (source.openRecord "CreateFromTemplate" path j).andThen fun r =>
    TemplateUse.mk <$> r.required "template_key" (Check.textAtLeast 1)
      <*> r.required "target_url" targetRule
      <*> r.optional "name" none (Check.orNull ruleNameRule)
      <*> r.optional "priority" none (Check.orNull priorityRule)

/-- The document of a template's use. -/
def toJson (t : TemplateUse) : Json :=
  .obj [("template_key", .str t.key), ("target_url", .str t.targetUrl), ("name", .ofText? t.name),
    ("priority", .ofInt? t.priority)]

end TemplateUse

/-- Settings of a link. -/
structure LinkSettings where
  isSmartRouting : Given Bool
  defaultUrl : Given String
deriving DecidableEq, Repr

namespace LinkSettings

/-- Settings of a link. -/
def check (source : Check.Source) : Check.Rule LinkSettings := fun path j =>
  (source.openRecord "SmartRoutingSettingsUpdate" path j).andThen fun r =>
    LinkSettings.mk <$> r.given "is_smart_routing" Check.boolean
      <*> r.given "default_url" targetRule

/-- The document of settings, null standing for what was left out. -/
def toJson (s : LinkSettings) : Json :=
  .obj [("is_smart_routing", s.isSmartRouting.toJson .bool),
    ("default_url", s.defaultUrl.toJson .str)]

/-- The fields that are to change: the flag only when it was given a value, the fallback also when
it was given as null. -/
def changes (s : LinkSettings) : List (String × Json) :=
  s.isSmartRouting.named "is_smart_routing" .bool ++ s.defaultUrl.namedOrNull "default_url" .str

end LinkSettings

end Signpost
