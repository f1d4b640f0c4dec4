import Signpost.Condition.Evaluation
import Signpost.Service.Basic

/-!
# Redirections

Where a visitor is sent who follows a slug. The link comes from the cache or else from the store; a
link with smart routing asks its active rules, in evaluation order, and the first one that matches
the visitor and has a public destination decides. Nothing that goes wrong while rules are asked
keeps the visitor from the fallback. What the cache holds is checked like anything from outside, and
what it does not hold, or not in the right form, is loaded and put there. Only an entry that is
nested too deep to be read is neither used nor replaced.
-/

namespace Signpost

/-- Why a visitor is sent where no rule sends them. -/
inductive FallbackReason
  | routingDisabled
  | noRuleMatched
  | evaluationFailed
deriving DecidableEq, Repr

/-- The name of a reason. -/
def FallbackReason.name : FallbackReason → String
  | routingDisabled => "SMART_ROUTING_DISABLED"
  | noRuleMatched => "NO_RULES_MATCHED"
  | evaluationFailed => "EVALUATION_ERROR"

/-- Where a visitor is sent, and why: by a rule, or for a reason. -/
structure Redirection where
  targetUrl : String
  linkId : Int
  cause : FallbackReason ⊕ Int
deriving DecidableEq

namespace Redirection

/-- The rule that sends the visitor. -/
def rule? (r : Redirection) : Option Int :=
  match r.cause with
  | .inr rule => some rule
  | .inl _ => none

/-- A redirection's document. -/
def toJson (r : Redirection) : Json :=
  .obj [("target_url", .str r.targetUrl), ("url_id", .int r.linkId),
    ("rule_id", .ofInt? r.rule?), ("matched", .bool r.rule?.isSome),
    ("fallback_reason", match r.cause with
      | .inl reason => .str reason.name
      | .inr _ => .null)]

end Redirection

/-! ## Entries of the cache -/

/-- Seconds for which entries are kept. -/
def Cache.lifetime : Int := 3600

/-- What the cache holds of the link with a slug. -/
def Cache.link? (c : Cache) (slug : String) : Except Cache.Unreadable (Option LinkEntry) :=
  (c.get (slugKey slug)).map fun found => found.bind fun j => (LinkEntry.check [] j).toOption

/-- The cache with a link. -/
def Cache.keepLink (c : Cache) (slug : String) (e : LinkEntry) : Cache :=
  c.set (slugKey slug) e.toCache (some lifetime)

/-- What the cache holds of the active rules of a link. -/
def Cache.rules? (c : Cache) (link : Int) : Except Cache.Unreadable (Option (List RuleEntry)) :=
  (c.get (rulesKey (toString link))).map fun
    | some (.arr items) => (Check.Checked.all (items.map (RuleEntry.check []))).toOption
    | _ => none

/-- The cache with the active rules of a link; no rules are not kept. -/
def Cache.keepRules (c : Cache) (link : Int) (rules : List RuleEntry) : Cache :=
  if rules.isEmpty then c
  else c.set (rulesKey (toString link)) (.arr (rules.map RuleEntry.toCache)) (some lifetime)

/-! ## Rules -/

/-- The first rule that is active, matches a visitor and has a public destination. -/
def RuleEntry.firstMatch (v : Visitor) : List RuleEntry → Except Unloadable (Option RuleEntry)
  | [] => .ok none
  | r :: rest =>
    if r.isActive then
      match StoredConditions.load r.conditions with
      | .error e => .error e
      | .ok conditions =>
        if conditions.holds v && Net.isSafeUrl r.targetUrl then .ok (some r) else firstMatch v rest
    else firstMatch v rest

namespace Service

/-- The active rules of a link, from the cache or else from the store. -/
def activeRules (s : Service) (link : Int) : Outcome (List RuleEntry) :=
  match s.cache.rules? link with
  | .error u => (.error (.unreadable u), s)
  | .ok (some rules) => (.ok rules, s)
  | .ok none =>
    match s.consult (Plan.query (.activeRulesOf link)) with
    | (.error f, s) => (.error f, s)
    | (.ok (.failed faults), s) => (.error (.invalid faults), s)
    | (.ok (.passed rules), s) =>
      if rules.any (·.isTooTall s.ceiling) then (.error .tooTall, s)
      else (.ok rules, { s with cache := s.cache.keepRules link rules })

/-- The rule that decides for a visitor. -/
def pickRule (s : Service) (link : Int) (v : Visitor) : Outcome (Option RuleEntry) :=
  match s.activeRules link with
  | (.error f, s) => (.error f, s)
  | (.ok rules, s) => ((RuleEntry.firstMatch v rules).mapError Failure.unloadable, s)

/-- A link that has not expired by now. -/
def unexpired (s : Service) (slug : String) (e : LinkEntry) : Except Failure LinkEntry :=
  match e.isExpired? (.naive s.now) with
  | some false => .ok e
  | some true => .error (.refused (.slugExpired slug))
  | none => .error .noOrder

/-- The link with a slug, from the cache or else from the store. -/
def findLink (s : Service) (slug : String) : Outcome LinkEntry :=
  match s.cache.link? slug with
  | .error u => (.error (.unreadable u), s)
  | .ok (some e) => (s.unexpired slug e, s)
  | .ok none =>
    match s.consult (Plan.query (.linkBySlug slug)) with
    | (.error f, s) => (.error f, s)
    | (.ok none, s) => (.error (.refused (.slugNotFound slug)), s)
    | (.ok (some l), s) =>
      (s.unexpired slug l.entry, { s with cache := s.cache.keepLink slug l.entry })

/-- Where the visitors of a link go that no rule sends elsewhere. -/
def fallbackUrl (e : LinkEntry) : String :=
  match e.defaultUrl with
  | none | some "" => e.originalUrl
  | some url => url

/-- Where a visitor is sent who follows a slug. A match is counted for the rule that decides. -/
def resolve (s : Service) (slug : String) (v : Visitor) : Outcome Redirection :=
  match s.findLink slug with
  | (.error f, s) => (.error f, s)
  | (.ok e, s) =>
    if e.isSmartRouting then
      match s.pickRule e.id v with
      | (.error _, s) => (.ok ⟨fallbackUrl e, e.id, .inl .evaluationFailed⟩, s)
      | (.ok none, s) => (.ok ⟨fallbackUrl e, e.id, .inl .noRuleMatched⟩, s)
      | (.ok (some r), s) =>
        (.ok ⟨r.targetUrl, e.id, .inr r.id⟩, { s with tally := s.tally.count r.id 1 })
    else (.ok ⟨e.originalUrl, e.id, .inl .routingDisabled⟩, s)

end Service

end Signpost
