import Signpost.Calendar.Moment
import Signpost.Check.Scalar

/-!
# Entries of the cache

Redirects keep two kinds of entry in the cache: a link as it is found by its slug, and the active
rules of a link. What comes back from the cache is checked, field by field, and nothing is assumed
of it; conditions may be any document and are understood only when a visitor comes.
-/

namespace Signpost

/-- A link as redirects need it. -/
structure LinkEntry where
  id : Int
  slug : String
  originalUrl : String
  userId : Int
  expiresAt : Option Moment
  isSmartRouting : Bool
  defaultUrl : Option String
deriving DecidableEq, Repr

namespace LinkEntry

/-- A link as redirects need it. -/
def check : Check.Rule LinkEntry := fun path j =>
  (Check.Source.attributes.openRecord "CachedShortURL" path j).andThen fun r =>
    LinkEntry.mk <$> r.required "id" Check.integer
      <*> r.required "slug" Check.text
      <*> r.required "original_url" Check.text
      <*> r.required "user_id" Check.integer
      <*> r.optional "expires_at" none (Check.orNull Check.moment)
      <*> r.optional "is_smart_routing" false Check.boolean
      <*> r.optional "default_url" none (Check.orNull Check.text)

/-- An entry's document, with moments written in a given way. -/
def toJsonWith (moment : Moment → String) (e : LinkEntry) : Json :=
  .obj [("id", .int e.id), ("slug", .str e.slug), ("original_url", .str e.originalUrl),
    ("user_id", .int e.userId), ("expires_at", .ofText? (e.expiresAt.map moment)),
    ("is_smart_routing", .bool e.isSmartRouting), ("default_url", .ofText? e.defaultUrl)]

/-- An entry's document. -/
def toJson (e : LinkEntry) : Json :=
  e.toJsonWith Moment.isoText

/-- An entry's document in the cache. -/
def toCache (e : LinkEntry) : Json :=
  e.toJsonWith Moment.wireText

/-- Whether the link had expired at a moment; nothing when the two moments have no order. -/
def isExpired? (e : LinkEntry) (now : Moment) : Option Bool :=
  match e.expiresAt with
  | none => some false
  | some t => t.before? now

end LinkEntry

/-- How tall conditions may be at most to be written out part by part. It is for whoever writes them
to say; conditions that passed their check are never too tall, and what is written can be read. -/
structure Ceiling where
  height : Nat
  checked : 5 ≤ height
  readable : height + 2 ≤ Json.maxLevels

/-- The ceiling where depth is counted in one octet. -/
def Ceiling.usual : Ceiling :=
  ⟨255, by decide, by decide⟩

/-- An active rule as redirects need it. -/
structure RuleEntry where
  id : Int
  urlId : Int
  name : String
  targetUrl : String
  priority : Int
  isActive : Bool
  conditions : Json
  matchCount : Int
  createdAt : Option Moment

namespace RuleEntry

/-- An active rule as redirects need it. -/
def check : Check.Rule RuleEntry := fun path j =>
  (Check.Source.attributes.openRecord "RoutingRuleSnapshot" path j).andThen fun r =>
    RuleEntry.mk <$> r.required "id" Check.integer
      <*> r.required "url_id" Check.integer
      <*> r.required "name" Check.text
      <*> r.required "target_url" Check.text
      <*> r.optional "priority" 0 Check.integer
      <*> r.optional "is_active" true Check.boolean
      <*> r.optional "conditions" .null Check.anything
      <*> r.optional "match_count" 0 Check.integer
      <*> r.optional "created_at" none (Check.orNull Check.moment)

/-- Whether the entry's conditions are too tall to be written out. -/
def isTooTall (e : RuleEntry) (ceiling : Ceiling) : Bool :=
  ceiling.height < e.conditions.height

/-- An entry's document, with its conditions and its moments written in a given way. -/
def toJsonWith (conditions : Json → Json) (moment : Moment → String) (e : RuleEntry) : Json :=
  .obj [("id", .int e.id), ("url_id", .int e.urlId), ("name", .str e.name),
    ("target_url", .str e.targetUrl), ("priority", .int e.priority),
    ("is_active", .bool e.isActive), ("conditions", conditions e.conditions),
    ("match_count", .int e.matchCount), ("created_at", .ofText? (e.createdAt.map moment))]

/-- An entry's document. -/
def toJson (e : RuleEntry) : Json :=
  e.toJsonWith (fun conditions => conditions) Moment.isoText

/-- An entry's document in the cache, where numbers that are not finite have no place. -/
def toCache (e : RuleEntry) : Json :=
  e.toJsonWith Json.finitized Moment.wireText

end RuleEntry

end Signpost
