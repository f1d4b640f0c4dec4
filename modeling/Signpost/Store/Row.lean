import Signpost.Audit
import Signpost.Payload.Entries
import Signpost.Payload.Requests

/-!
# Rows

What the store keeps: links, the rules of links, and the audit trail. Rows carry readings of
universal time; conditions are kept as the document they were given as, whatever that is, but
written out and read again. Rules have an evaluation order: the higher priority first, then the
older, then the smaller number.
-/

namespace Signpost

/-- The greatest number that has a place in a row, and one more than the least one's opposite. -/
def numberLimit : Int := 0x8000000000000000

/-- Whether a number has a place in a row. -/
def hasPlace (n : Int) : Bool :=
  decide (-numberLimit ≤ n) && decide (n < numberLimit)

/-- A count of a row; one that has no place as a number is kept in double precision. -/
def rowCount (n : Int) : Json :=
  if hasPlace n then .int n else .float (Binary64.ofInt n)

/-- The integer that double precision keeps of one. -/
def roundedCount (n : Int) : Int :=
  (Binary64.ofInt n).toInt?.getD n

/-- The sum of two counts of a row, in double precision when a summand or the sum has no place. -/
def sumCounts (a b : Int) : Int :=
  if hasPlace a && hasPlace (a + b) then a + b else roundedCount (roundedCount a + roundedCount b)

/-- A moment of a row, in universal time. -/
def rowMoment (c : Clock) : Json :=
  .str (Moment.naive c).isoText

/-! ## Links -/

/-- A link to be added. -/
structure NewLink where
  slug : String
  originalUrl : String
  userId : Int
  expiresAt : Option Clock
  isSmartRouting : Bool
  defaultUrl : Option String
deriving DecidableEq, Repr

/-- A link. -/
structure Link where
  id : Int
  slug : String
  originalUrl : String
  userId : Int
  expiresAt : Option Clock
  isSmartRouting : Bool
  defaultUrl : Option String
  createdAt : Clock
  clickCount : Int
deriving DecidableEq, Repr

/-- A link to be added. -/
def NewLink.check : Check.Rule NewLink := fun path j =>
  (Check.Source.document.openRecord "ShortURLCreate" path j).andThen fun r =>
    (fun url slug user expires flag fallback => ⟨slug, url, user, expires, flag, fallback⟩)
      <$> r.required "original_url" Check.text
      <*> r.required "slug" (Check.textOfLength 0 64)
      <*> r.required "user_id" Check.integer
      <*> r.optional "expires_at" none
        (Check.orNull fun path j => (Check.moment path j).map (·.clock))
      <*> r.optional "is_smart_routing" false Check.boolean
      <*> r.optional "default_url" none (Check.orNull Check.text)

namespace Link

/-- The row of a new link. -/
def ofNew (id : Int) (now : Clock) (l : NewLink) : Link where
  id := id
  slug := l.slug
  originalUrl := l.originalUrl
  userId := l.userId
  expiresAt := l.expiresAt
  isSmartRouting := l.isSmartRouting
  defaultUrl := l.defaultUrl
  createdAt := now
  clickCount := 0

/-- The link as redirects need it. -/
def entry (l : Link) : LinkEntry :=
  ⟨l.id, l.slug, l.originalUrl, l.userId, l.expiresAt.map Moment.naive, l.isSmartRouting,
    l.defaultUrl⟩

/-- The link with settings changed: the flag when it was given a value, the fallback whenever it was
given. -/
def withSettings (l : Link) (s : LinkSettings) : Link :=
  { l with
    isSmartRouting := s.isSmartRouting.toOption.getD l.isSmartRouting
    defaultUrl := if s.defaultUrl.isSet then s.defaultUrl.toOption else l.defaultUrl }

/-- The settings of a link. -/
def settings (l : Link) : List (String × Json) :=
  [("is_smart_routing", .bool l.isSmartRouting), ("default_url", .ofText? l.defaultUrl)]

/-- The document of a link's settings. -/
def settingsJson (l : Link) : Json :=
  .obj (("url_id", .int l.id) :: l.settings)

/-- A row's document. -/
def toJson (l : Link) : Json :=
  .obj [("id", .int l.id), ("slug", .str l.slug), ("original_url", .str l.originalUrl),
    ("user_id", .int l.userId), ("expires_at", (l.expiresAt.map rowMoment).getD .null),
    ("is_smart_routing", .bool l.isSmartRouting), ("default_url", .ofText? l.defaultUrl),
    ("created_at", rowMoment l.createdAt), ("click_count", .int l.clickCount)]

end Link

/-! ## Rules -/

/-- A rule to be added. -/
structure NewRule where
  linkId : Int
  name : String
  targetUrl : String
  priority : Int
  isActive : Bool
  conditions : Json
  matchCount : Int
  createdAt : Clock

/-- A rule of a link. -/
structure Rule where
  id : Int
  linkId : Int
  name : String
  targetUrl : String
  priority : Int
  isActive : Bool
  conditions : Json
  matchCount : Int
  createdAt : Clock
  updatedAt : Clock

namespace NewRule

/-- The rule that a draft asks for. -/
def ofDraft (linkId : Int) (now : Clock) (d : RuleDraft) : NewRule where
  linkId := linkId
  name := d.name
  targetUrl := d.targetUrl
  priority := d.priority
  isActive := d.isActive
  conditions := d.conditions.toStorage
  matchCount := 0
  createdAt := now

end NewRule

namespace Rule

/-- The row of a new rule. -/
def ofNew (id : Int) (now : Clock) (r : NewRule) : Rule where
  id := id
  linkId := r.linkId
  name := r.name
  targetUrl := r.targetUrl
  priority := r.priority
  isActive := r.isActive
  conditions := r.conditions.settled
  matchCount := r.matchCount
  createdAt := r.createdAt
  updatedAt := now

/-- Whether a rule comes before another, or is level with it, in the evaluation order. -/
def precedes (a b : Rule) : Bool :=
  decide (b.priority < a.priority) || (a.priority == b.priority &&
    (decide (a.createdAt.micros < b.createdAt.micros) || (a.createdAt == b.createdAt &&
      decide (a.id ≤ b.id))))

/-- The rule with the fields changed that were given a value. -/
def withChanges (r : Rule) (c : RuleChanges) (now : Clock) : Rule :=
  { r with
    name := c.name.toOption.getD r.name
    targetUrl := c.targetUrl.toOption.getD r.targetUrl
    priority := c.priority.toOption.getD r.priority
    isActive := c.isActive.toOption.getD r.isActive
    conditions := (c.conditions.toOption.map (·.toStorage.settled)).getD r.conditions
    updatedAt := now }

/-- The rule with more matches counted. -/
def addMatches (r : Rule) (amount : Int) : Rule :=
  { r with matchCount := sumCounts r.matchCount amount }

/-- The rule, if its count is still a number. -/
def checked (r : Rule) : Check.Checked Rule :=
  (Check.integer [.field "match_count"] (rowCount r.matchCount)).map fun _ => r

/-- The rule as redirects need it. -/
def entry (r : Rule) : RuleEntry :=
  ⟨r.id, r.linkId, r.name, r.targetUrl, r.priority, r.isActive, r.conditions, r.matchCount,
    some (.naive r.createdAt)⟩

/-- Whether the rule's conditions are too tall to be written out. -/
def isTooTall (r : Rule) (ceiling : Ceiling) : Bool :=
  ceiling.height < r.conditions.height

/-- A row's document. -/
def toJson (r : Rule) : Json :=
  .obj [("id", .int r.id), ("url_id", .int r.linkId), ("name", .str r.name),
    ("target_url", .str r.targetUrl), ("priority", .int r.priority),
    ("is_active", .bool r.isActive), ("conditions", r.conditions),
    ("match_count", rowCount r.matchCount), ("created_at", rowMoment r.createdAt),
    ("updated_at", rowMoment r.updatedAt)]

end Rule

/-! ## The audit trail -/

/-- Something to be recorded in the audit trail. -/
structure AuditNote where
  userId : Int
  action : Audit.Action
  entityId : Int
  before : List (String × Json)
  after : List (String × Json)
  origin : Audit.Origin

/-- An entry of the audit trail. -/
structure AuditEntry where
  id : Int
  userId : Int
  action : Audit.Action
  entityId : Int
  oldValue : Json
  newValue : Json
  address : Option String
  agent : Option String
  createdAt : Clock

namespace AuditEntry

/-- The entry that records a note. -/
def ofNote (id : Int) (now : Clock) (n : AuditNote) : AuditEntry where
  id := id
  userId := n.userId
  action := n.action
  entityId := n.entityId
  oldValue := (Audit.sanitize n.before).settled
  newValue := (Audit.sanitize n.after).settled
  address := n.origin.address
  agent := n.origin.recordedAgent
  createdAt := now

/-- Whether an entry comes before another, or is level with it: the older first. -/
def precedes (a b : AuditEntry) : Bool :=
  decide (a.createdAt.micros < b.createdAt.micros) ||
    (a.createdAt == b.createdAt && decide (a.id ≤ b.id))

/-- A row's document. -/
def toJson (e : AuditEntry) : Json :=
  .obj [("id", .int e.id), ("user_id", .int e.userId), ("action", .str e.action.name),
    ("entity_type", .str e.action.entityType), ("entity_id", .int e.entityId),
    ("old_value", e.oldValue), ("new_value", e.newValue), ("ip_address", .ofText? e.address),
    ("user_agent", .ofText? e.agent), ("created_at", rowMoment e.createdAt)]

end AuditEntry

end Signpost
