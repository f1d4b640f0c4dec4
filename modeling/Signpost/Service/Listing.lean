import Signpost.Share
import Signpost.Store.Row

/-!
# Listings

The rules of a link with the share of the link's matches that each of them took.
-/

namespace Signpost

/-- A rule and its share of the matches, in percent. -/
structure RuleShare where
  rule : Rule
  percentage : Binary64

/-- The rules of a link with their shares. -/
structure RuleListing where
  total : Int
  entries : List RuleShare

namespace RuleListing

/-- The matches of some rules together. -/
def totalMatches (rules : List Rule) : Int :=
  rules.foldl (fun sum r => sum + r.matchCount) 0

/-- The listing of some rules; without matches every share is zero. -/
def ofRules (rules : List Rule) : Except Share.Overflow RuleListing := do
  let total := totalMatches rules
  let entries ← rules.mapM fun r => do
    let share ← Share.percentage r.matchCount total
    pure (RuleShare.mk r (share.getD (.zero false)))
  pure ⟨total, entries⟩

/-- The document of one rule's share. -/
def shareJson (e : RuleShare) : Json :=
  .obj [("rule_id", .int e.rule.id), ("name", .str e.rule.name),
    ("match_count", .int e.rule.matchCount), ("match_percentage", .float e.percentage)]

/-- A listing's document. -/
def toJson (l : RuleListing) : Json :=
  .obj [("rules", .arr (l.entries.map fun e => e.rule.toJson)), ("total_matches", .int l.total),
    ("stats", .arr (l.entries.map shareJson))]

end RuleListing

end Signpost
