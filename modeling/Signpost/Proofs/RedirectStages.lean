import Mathlib
import Signpost.Proofs.CacheTransparency

/-!
# A redirection in stages

A redirection does not happen at once. It asks the cache for the link, on a
miss the store, and puts what it read into the cache; a link with smart routing
then goes through the same three stages with its rules. Between two stages
anything may happen to the service.

`Stage.advance` is one stage, and `Stage.reaches_ended` says that a
redirection that is left alone does, stage by stage, what `Service.resolve` does
in one piece.
-/

namespace Signpost

/-- How far a redirection has come. -/
inductive Stage
  | begun
  /-- The cache has no link with the slug. -/
  | missedLink
  /-- The store has this link, which is to be put into the cache. -/
  | gotLink (l : Link)
  /-- The rules of this link are to decide. -/
  | foundLink (e : LinkEntry)
  /-- The cache has no rules of this link. -/
  | missedRules (e : LinkEntry)
  /-- The store has these rules, which are to be put into the cache. -/
  | gotRules (e : LinkEntry) (rules : List RuleEntry)
  | ended (result : Except Failure Redirection)

namespace Stage

/-- With the link at hand, the visitor is sent away or the rules are asked. -/
def opened : Except Failure LinkEntry → Stage
  | .error f => ended (.error f)
  | .ok e =>
    if e.isSmartRouting then foundLink e
    else ended (.ok ⟨e.originalUrl, e.id, .inl .routingDisabled⟩)

/-- What became of asking the rules decides. A match is counted. -/
def decided (e : LinkEntry) : Outcome (Option RuleEntry) → Stage × Service
  | (.ok (some r), s) => (ended (.ok (Service.decision e (.ok (some r)))),
    { s with tally := s.tally.count r.id 1 })
  | (found, s) => (ended (.ok (Service.decision e found)), s)

/-- With the rules at hand, the first that matches is picked. -/
def picked (e : LinkEntry) (v : Visitor) (rules : List RuleEntry)
    (s : Service) : Stage × Service :=
  decided e ((RuleEntry.firstMatch v rules).mapError Failure.unloadable, s)

def advance (slug : String) (v : Visitor) : Stage × Service → Stage × Service
  | (begun, s) =>
    match s.cache.link? slug with
    | .error u => (ended (.error (.unreadable u)), s)
    | .ok (some e) => (opened (s.unexpired slug e), s)
    | .ok none => (missedLink, s)
  | (missedLink, s) =>
    match s.consult (Plan.query (.linkBySlug slug)) with
    | (.error f, s) => (ended (.error f), s)
    | (.ok none, s) => (ended (.error (.refused (.slugNotFound slug))), s)
    | (.ok (some l), s) => (gotLink l, s)
  | (gotLink l, s) =>
    (opened (s.unexpired slug l.entry),
      { s with cache := s.cache.keepLink slug l.entry })
  | (foundLink e, s) =>
    match s.cache.rules? e.id with
    | .error u => decided e (.error (.unreadable u), s)
    | .ok (some rules) => picked e v rules s
    | .ok none => (missedRules e, s)
  | (missedRules e, s) =>
    match s.consult (Plan.query (.activeRulesOf e.id)) with
    | (.error f, s) => decided e (.error f, s)
    | (.ok (.failed faults), s) => decided e (.error (.invalid faults), s)
    | (.ok (.passed rules), s) =>
      if rules.any (·.isTooTall s.ceiling) then decided e (.error .tooTall, s)
      else (gotRules e rules, s)
  | (gotRules e rules, s) =>
    picked e v rules { s with cache := s.cache.keepRules e.id rules }
  | (ended result, s) => (ended result, s)

variable {slug : String} {v : Visitor} {x y : Stage × Service}

/-- From one point of a redirection another is reached. -/
def Reaches (slug : String) (v : Visitor) (x y : Stage × Service) : Prop :=
  ∃ n, (advance slug v)^[n] x = y

theorem Reaches.refl (x : Stage × Service) : Reaches slug v x x :=
  ⟨0, rfl⟩

theorem Reaches.step (h : Reaches slug v (advance slug v x) y) :
    Reaches slug v x y := by
  obtain ⟨n, hn⟩ := h
  exact ⟨n + 1, hn⟩

theorem Reaches.trans {z : Stage × Service} (h : Reaches slug v x y)
    (h' : Reaches slug v y z) : Reaches slug v x z := by
  obtain ⟨n, rfl⟩ := h
  obtain ⟨m, rfl⟩ := h'
  exact ⟨m + n, Function.iterate_add_apply _ m n x⟩

/-- The link is found as it is in one piece. -/
theorem reaches_opened (s : Service) : Reaches slug v (begun, s)
    (opened (s.findLink slug).1, (s.findLink slug).2) := by
  refine .step ?_
  rw [advance, Service.findLink]
  cases s.cache.link? slug with
  | error nest => exact .refl _
  | ok held =>
      cases held with
      | some e => exact .refl _
      | none =>
          refine .step ?_
          dsimp only
          rw [advance]
          cases s.consult (Plan.query (.linkBySlug slug)) with
          | mk answer s' =>
              cases answer with
              | error f => exact .refl _
              | ok found =>
                  cases found with
                  | none => exact .refl _
                  | some l => exact .step (.refl _)

/-- The rules decide as they do in one piece. -/
theorem reaches_decided (s : Service) (e : LinkEntry) :
    Reaches slug v (foundLink e, s) (decided e (s.pickRule e.id v)) := by
  refine .step ?_
  rw [advance, Service.pickRule, Service.activeRules]
  cases s.cache.rules? e.id with
  | error nest => exact .refl _
  | ok held =>
      cases held with
      | some rules => exact .refl _
      | none =>
          refine .step ?_
          dsimp only
          rw [advance]
          cases s.consult (Plan.query (.activeRulesOf e.id)) with
          | mk answer s' =>
              cases answer with
              | error f => exact .refl _
              | ok rules =>
                  cases rules with
                  | failed faults => exact .refl _
                  | passed rules =>
                      dsimp only
                      split
                      · exact .refl _
                      · exact .step (.refl _)

/-- A redirection that is left alone is a redirection in one piece. -/
theorem reaches_ended (slug : String) (v : Visitor) (s : Service) :
    Reaches slug v (begun, s)
      (ended (s.resolve slug v).1, (s.resolve slug v).2) := by
  refine (reaches_opened s).trans ?_
  rw [Service.resolve]
  cases s.findLink slug with
  | mk found s' =>
      cases found with
      | error f => exact .refl _
      | ok e =>
          dsimp only
          rw [opened]
          split
          · refine (reaches_decided s' e).trans ?_
            cases s'.pickRule e.id v with
            | mk found s'' =>
                cases found with
                | error f => exact .refl _
                | ok found => cases found <;> exact .refl _
          · exact .refl _

/-- The last stage ends the redirection and counts one match at the most. -/
theorem decided_cases (e : LinkEntry) (found : Except Failure (Option RuleEntry))
    (s : Service) : ∃ result tally,
    decided e (found, s) = (ended result, { s with tally := tally }) := by
  cases found with
  | error f => exact ⟨_, s.tally, rfl⟩
  | ok found =>
      cases found with
      | none => exact ⟨_, s.tally, rfl⟩
      | some r => exact ⟨_, _, rfl⟩

end Stage

end Signpost
