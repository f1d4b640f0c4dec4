import Signpost.Store.Plan

/-!
# Managing links and rules

Each thing that a requester may ask to be done to the rules or the settings of a link, as a plan on
the store. Every plan begins by looking for the link among those that the requester may manage; a
link of somebody else is not found. What is changed is recorded in the audit trail with the values
before and after.
-/

namespace Signpost.Manage

/-- Who asks, and where the request came from. -/
structure Caller where
  requester : Requester
  origin : Audit.Origin

/-- A link that the requester may manage. -/
def ownedLink (link : Int) (who : Requester) : Plan Link :=
  .ask (.ownedLink link who) fun
    | some l => .done l
    | none => .refuse (.linkNotFound link)

/-- A rule of a link. -/
def ruleOf (link rule : Int) : Plan Rule :=
  .ask (.ruleOfLink rule link) fun
    | some r => .done r
    | none => .refuse (.ruleNotFound rule)

/-- Records in the audit trail what a caller did. -/
def record (c : Caller) (action : Audit.Action) (entityId : Int)
    (before after : List (String × Json)) : Plan Unit :=
  .query (.recordAudit ⟨c.requester.userId, action, entityId, before, after, c.origin⟩)

/-- The fields of a rule that the audit trail tells of one that came or went. -/
def outline (link : Int) (r : Rule) : List (String × Json) :=
  [("url_id", .int link), ("name", .str r.name), ("target_url", .str r.targetUrl),
    ("priority", .int r.priority)]

/-- The fields of a rule that the audit trail tells of one that is to change. -/
def state (r : Rule) : List (String × Json) :=
  [("name", .str r.name), ("target_url", .str r.targetUrl), ("priority", .int r.priority),
    ("is_active", .bool r.isActive)]

/-- Adds a rule to a link that has fewer than `most`. The first rule switches smart routing on. -/
def createRule (most : Int) (now : Clock) (link : Int) (c : Caller) (d : RuleDraft) :
    Plan (Link × Rule) := do
  let l ← ownedLink link c.requester
  let hasRoom ← Plan.query (.hasRoom l.id most)
  if !hasRoom then .refuse (.ruleLimit most)
  else
    if l.isSmartRouting then pure () else Plan.query (.setFlag l.id true)
    let r ← Plan.query (.addRule (.ofDraft l.id now d))
    record c .ruleCreated r.id [] (outline l.id r ++ [("conditions", d.conditions.toStorage)])
    pure (l, r)

/-- Changes the fields of a rule that are given a value. -/
def updateRule (link rule : Int) (c : Caller) (changes : RuleChanges) : Plan (Link × Rule) := do
  let l ← ownedLink link c.requester
  let old ← ruleOf l.id rule
  let r ← Plan.query (.updateRule old.id changes)
  record c .ruleUpdated r.id (state old) changes.toStorage
  pure (l, r)

/-- Deletes a rule. Without its last rule a link has smart routing switched off. -/
def deleteRule (link rule : Int) (c : Caller) : Plan (Link × Rule) := do
  let l ← ownedLink link c.requester
  let r ← ruleOf l.id rule
  Plan.query (.deleteRule r.id)
  let hasRules ← Plan.query (.hasRules l.id)
  if hasRules then pure () else Plan.query (.setFlag l.id false)
  record c .ruleDeleted rule (outline l.id r) []
  pure (l, r)

/-- Changes the settings of a link. -/
def updateSettings (link : Int) (c : Caller) (s : LinkSettings) : Plan Link := do
  let old ← ownedLink link c.requester
  let l ← Plan.query (.updateLink old.id s)
  record c .linkUpdated l.id old.settings s.changes
  pure l

/-- The rules of a link in evaluation order. -/
def rules (link : Int) (who : Requester) : Plan (List Rule) := do
  let l ← ownedLink link who
  Plan.query (.rulesOf l.id)

/-- One rule of a link. -/
def rule (link id : Int) (who : Requester) : Plan Rule := do
  let l ← ownedLink link who
  ruleOf l.id id

/-- Adds a link whose slug is not taken. -/
def addLink (l : NewLink) : Plan Link := do
  let taken ← if l.slug = "" then pure false else Plan.query (.hasLink [.slugIs l.slug])
  if taken then .stop (.store (.duplicateSlug l.slug)) else Plan.query (.addLink l)

/-- Fails to add a link that lacks something that every link has. -/
def addBareLink (slug : Option String) : Plan Link := do
  let taken ← match slug with
    | none | some "" => pure false
    | some s => Plan.query (.hasLink [.slugIs s])
  if taken then .stop (.store (.duplicateSlug (slug.getD ""))) else Plan.query (.addBareLink slug)

end Signpost.Manage
