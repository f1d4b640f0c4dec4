import Signpost.Manage
import Signpost.Proofs.StoreAnswers

/-!
# What the tasks do to the rows

Each task is a plan of a few queries. On a candid store a plan that ends well
got every answer from the rows, so its effect can be written down: which link
and which rule it was about, what was asked of them, and what the tables of
links and rules are afterwards. The audit trail is left out: an entry may or
may not have been taken.

One lemma for each task says all of that. A task that does not end well is
rolled back, and needs no lemma.
-/

namespace Signpost

namespace Database

variable {d : Database}

theorem link?_id {id : Int} {l : Link} (h : d.link? id = some l) :
    l.id = id := by
  simpa using List.find?_some h

theorem rule?_id {id : Int} {r : Rule} (h : d.rule? id = some r) :
    r.id = id := by
  simpa using List.find?_some h

end Database

namespace Manage

variable {now : Clock} {s s' : Store} {link rule : Int} {c : Caller}

/-- The link that a requester may manage. -/
theorem ownedLink_ok {who : Requester} {l : Link} (hs : s.IsCandid)
    (h : (ownedLink link who).run now s = (.ok l, s')) :
    s'.IsCandid ∧ s'.database = s.database ∧
      s.database.link? link = some l ∧ who.mayManage l.userId = true := by
  obtain ⟨answer, s₁, hc, hrun, -, hnext⟩ := Plan.run_ask_ok (fun _ => rfl) hs h
  obtain ⟨rfl, hd⟩ := Prod.mk.inj (Except.ok.inj hrun)
  split at hnext
  · next found hfilter =>
      cases hnext
      obtain ⟨hlink, hmay⟩ := Option.filter_eq_some_iff.mp hfilter
      exact ⟨hc, hd.symm, hlink, hmay⟩
  · cases hnext

/-- A rule of a link. -/
theorem ruleOf_ok {r : Rule} (hs : s.IsCandid)
    (h : (ruleOf link rule).run now s = (.ok r, s')) :
    s'.IsCandid ∧ s'.database = s.database ∧
      s.database.rule? rule = some r ∧ r.linkId = link := by
  obtain ⟨answer, s₁, hc, hrun, -, hnext⟩ := Plan.run_ask_ok (fun _ => rfl) hs h
  obtain ⟨rfl, hd⟩ := Prod.mk.inj (Except.ok.inj hrun)
  split at hnext
  · next found hfilter =>
      cases hnext
      obtain ⟨hrule, hof⟩ := Option.filter_eq_some_iff.mp hfilter
      exact ⟨hc, hd.symm, hrule, by simpa using hof⟩
  · cases hnext

/-- A flag is set on the way, unless that can be passed over. -/
theorem setFlag_unless_ok {α : Type} {skip on : Bool} {id : Int}
    {next : Unit → Plan α} {a : α} (hs : s.IsCandid)
    (h : (if skip = true then next ()
      else Plan.query (.setFlag id on) >>= next).run now s = (.ok a, s')) :
    ∃ s₁ : Store, s₁.IsCandid ∧
      s₁.database = (if skip then s.database
        else s.database.modifyLink id fun l => { l with isSmartRouting := on }) ∧
      (s.IsSound → s₁.IsSound) ∧ (next ()).run now s₁ = (.ok a, s') := by
  cases skip with
  | true => exact ⟨s, hs, rfl, fun hsound => hsound, h⟩
  | false =>
      obtain ⟨_, s₁, hflag, hnext⟩ := Plan.run_bind_ok h
      obtain ⟨hc, hrun, -⟩ := Plan.run_query_ok (fun _ => rfl) hs hflag
      exact ⟨s₁, hc, (Prod.mk.inj (Except.ok.inj hrun)).2.symm,
        fun hsound => Plan.run_ok_isSound hsound hflag, hnext⟩

/-- What is recorded last leaves links and rules as they are. -/
theorem record_then_ok {α : Type} {action : Audit.Action} {entityId : Int}
    {before after : List (String × Json)} {a a' : α} (hs : s.IsCandid)
    (h : (do record c action entityId before after; pure a : Plan α).run now s =
      (.ok a', s')) :
    a' = a ∧ s'.IsCandid ∧ s'.database.links = s.database.links ∧
      s'.database.rules = s.database.rules := by
  obtain ⟨_, s₁, hrecord, hdone⟩ := Plan.run_bind_ok h
  cases hdone
  exact ⟨rfl, Plan.run_recordAudit_ok hs hrecord⟩

/-- A rule is added to a link that has room for it. -/
theorem createRule_ok {most : Int} {d : RuleDraft} {l : Link} {r : Rule}
    (hs : s.IsCandid)
    (h : (createRule most now link c d).run now s = (.ok (l, r), s')) :
    s.database.link? link = some l ∧
      c.requester.mayManage l.userId = true ∧
      (s.database.rulesOf l.id).length < most ∧
      r = .ofNew (Database.nextId (s.database.rules.map (·.id))) now
        (.ofDraft l.id now d) ∧
      s'.database.rules = s.database.rules ++ [r] ∧
      s'.database.links = (if l.isSmartRouting then s.database
        else s.database.modifyLink l.id fun l =>
          { l with isSmartRouting := true }).links ∧
      (Query.addRule (.ofDraft l.id now d)).Fits := by
  obtain ⟨l₀, s₁, hl, h⟩ := Plan.run_bind_ok h
  obtain ⟨hc₁, hd₁, hlink, hmay⟩ := ownedLink_ok hs hl
  obtain ⟨hasRoom, s₂, hroom, h⟩ := Plan.run_bind_ok h
  obtain ⟨hc₂, hrun₂, -⟩ := Plan.run_query_ok (fun _ => rfl) hc₁ hroom
  obtain ⟨rfl, hd₂⟩ := Prod.mk.inj (Except.ok.inj hrun₂)
  split at h
  · cases h
  · next hlt =>
      obtain ⟨s₃, hc₃, hd₃, -, h⟩ := setFlag_unless_ok hc₂ h
      obtain ⟨r₀, s₄, hadd, h⟩ := Plan.run_bind_ok h
      obtain ⟨hc₄, hrun₄, hfits⟩ := Plan.run_query_ok (fun _ => rfl) hc₃ hadd
      obtain ⟨heq, -, hlinks, hrules⟩ := record_then_ok hc₄ h
      cases heq
      rw [Database.run] at hrun₄
      split at hrun₄
      · cases hrun₄
      · obtain ⟨hr, hd₄⟩ := Prod.mk.inj (Except.ok.inj hrun₄)
        rw [← hd₂, hd₁] at hd₃
        have hrules₃ : s₃.database.rules = s.database.rules := by
          rw [hd₃]
          split <;> rfl
        rw [hrules₃] at hr hd₄
        rw [hd₁] at hlt
        refine ⟨hlink, hmay, by simpa using hlt, hr.symm, ?_, ?_, hfits⟩
        · rw [hrules, ← hd₄, hr]
        · rw [hlinks, ← hd₄, hd₃]

/-- Where nothing fails, the rule that was added has a number with a place. -/
theorem hasPlace_of_createRule {most : Int} {d : RuleDraft} {l : Link}
    {r : Rule} (hs : s.IsSound)
    (h : (createRule most now link c d).run now s = (.ok (l, r), s')) :
    hasPlace r.id = true := by
  obtain ⟨l₀, s₁, hl, h⟩ := Plan.run_bind_ok h
  have hs₁ := Plan.run_ok_isSound hs hl
  obtain ⟨hasRoom, s₂, hroom, h⟩ := Plan.run_bind_ok h
  have hs₂ := Plan.run_ok_isSound hs₁ hroom
  split at h
  · cases h
  · obtain ⟨s₃, -, -, hsound₃, h⟩ := setFlag_unless_ok hs₂.isCandid h
    obtain ⟨r₀, s₄, hadd, h⟩ := Plan.run_bind_ok h
    have hs₄ := Plan.run_ok_isSound (hsound₃ hs₂) hadd
    obtain ⟨_, s₅, hrecord, hdone⟩ := Plan.run_bind_ok h
    cases hdone
    exact (Plan.fits_of_run_recordAudit hs₄ hrecord).numbers r.id (by
      simp [Query.numbers])

/-- A rule of the link is changed. -/
theorem updateRule_ok {changes : RuleChanges} {l : Link} {r : Rule}
    (hs : s.IsCandid)
    (h : (updateRule link rule c changes).run now s = (.ok (l, r), s')) :
    ∃ old, s.database.link? link = some l ∧
      c.requester.mayManage l.userId = true ∧
      s.database.rule? rule = some old ∧ old.linkId = l.id ∧
      r = old.withChanges changes now ∧
      s'.database.rules = (s.database.modifyRule old.id fun r =>
        r.withChanges changes now).rules ∧
      s'.database.links = s.database.links ∧
      (Query.updateRule old.id changes).Fits := by
  obtain ⟨l₀, s₁, hl, h⟩ := Plan.run_bind_ok h
  obtain ⟨hc₁, hd₁, hlink, hmay⟩ := ownedLink_ok hs hl
  obtain ⟨old, s₂, hold, h⟩ := Plan.run_bind_ok h
  obtain ⟨hc₂, hd₂, hrule, hof⟩ := ruleOf_ok hc₁ hold
  obtain ⟨r₀, s₃, hupdate, h⟩ := Plan.run_bind_ok h
  obtain ⟨hc₃, hrun₃, hfits⟩ := Plan.run_query_ok (fun _ => rfl) hc₂ hupdate
  obtain ⟨heq, -, hlinks, hrules⟩ := record_then_ok hc₃ h
  cases heq
  rw [hd₁] at hrule hd₂
  rw [hd₂, Database.run] at hrun₃
  split at hrun₃
  · cases hrun₃
  · next found hfound =>
      rw [Database.rule?_id hrule, hrule] at hfound
      cases hfound
      obtain ⟨hr, hd₃⟩ := Prod.mk.inj (Except.ok.inj hrun₃)
      refine ⟨old, hlink, hmay, hrule, hof, hr.symm, ?_, ?_, hfits⟩
      · rw [hrules, ← hd₃]
      · rw [hlinks, ← hd₃]
        rfl

/-- A rule of the link goes, and with the last one the flag. -/
theorem deleteRule_ok {l : Link} {r : Rule} (hs : s.IsCandid)
    (h : (deleteRule link rule c).run now s = (.ok (l, r), s')) :
    s.database.link? link = some l ∧
      c.requester.mayManage l.userId = true ∧
      s.database.rule? rule = some r ∧ r.linkId = l.id ∧
      s'.database.rules = s.database.rules.filter (·.id != r.id) ∧
      s'.database.links =
        (if (s'.database.rulesOf l.id).isEmpty then
          s.database.modifyLink l.id fun l => { l with isSmartRouting := false }
        else s.database).links := by
  obtain ⟨l₀, s₁, hl, h⟩ := Plan.run_bind_ok h
  obtain ⟨hc₁, hd₁, hlink, hmay⟩ := ownedLink_ok hs hl
  obtain ⟨r₀, s₂, hr, h⟩ := Plan.run_bind_ok h
  obtain ⟨hc₂, hd₂, hrule, hof⟩ := ruleOf_ok hc₁ hr
  obtain ⟨_, s₃, hdelete, h⟩ := Plan.run_bind_ok h
  obtain ⟨hc₃, hrun₃, -⟩ := Plan.run_query_ok (fun _ => rfl) hc₂ hdelete
  obtain ⟨hasRules, s₄, hhas, h⟩ := Plan.run_bind_ok h
  obtain ⟨hc₄, hrun₄, -⟩ := Plan.run_query_ok (fun _ => rfl) hc₃ hhas
  obtain ⟨s₅, hc₅, hd₅, -, h⟩ := setFlag_unless_ok hc₄ h
  obtain ⟨heq, -, hlinks, hrules⟩ := record_then_ok hc₅ h
  cases heq
  rw [hd₁] at hrule hd₂
  have hd₃ := (Prod.mk.inj (Except.ok.inj hrun₃)).2
  rw [hd₂] at hd₃
  obtain ⟨rfl, hd₄⟩ := Prod.mk.inj (Except.ok.inj hrun₄)
  rw [← hd₄, ← hd₃] at hd₅
  have hrules' : s'.database.rules =
      s.database.rules.filter (·.id != r.id) := by
    rw [hrules, hd₅]
    split <;> rfl
  refine ⟨hlink, hmay, hrule, hof, hrules', ?_⟩
  rw [hlinks, hd₅]
  have hof' : s'.database.rulesOf l.id =
      (s.database.rules.filter (·.id != r.id)).filter (·.linkId == l.id) := by
    rw [Database.rulesOf, hrules']
  rw [hof', Database.rulesOf]
  cases ((s.database.rules.filter (·.id != r.id)).filter
    (·.linkId == l.id)).isEmpty <;> rfl

/-- The settings of a link are changed. -/
theorem updateSettings_ok {settings : LinkSettings} {l : Link}
    (hs : s.IsCandid)
    (h : (updateSettings link c settings).run now s = (.ok l, s')) :
    ∃ old, s.database.link? link = some old ∧
      c.requester.mayManage old.userId = true ∧
      l = old.withSettings settings ∧
      s'.database.rules = s.database.rules ∧
      s'.database.links = (s.database.modifyLink old.id fun l =>
        l.withSettings settings).links ∧
      (Query.updateLink old.id settings).Fits := by
  obtain ⟨old, s₁, hl, h⟩ := Plan.run_bind_ok h
  obtain ⟨hc₁, hd₁, hlink, hmay⟩ := ownedLink_ok hs hl
  obtain ⟨l₀, s₂, hupdate, h⟩ := Plan.run_bind_ok h
  obtain ⟨hc₂, hrun₂, hfits⟩ := Plan.run_query_ok (fun _ => rfl) hc₁ hupdate
  obtain ⟨heq, -, hlinks, hrules⟩ := record_then_ok hc₂ h
  cases heq
  rw [hd₁, Database.run] at hrun₂
  split at hrun₂
  · cases hrun₂
  · next found hfound =>
      rw [Database.link?_id hlink, hlink] at hfound
      cases hfound
      obtain ⟨hr, hd₂⟩ := Prod.mk.inj (Except.ok.inj hrun₂)
      refine ⟨old, hlink, hmay, hr.symm, ?_, ?_, hfits⟩
      · rw [hrules, ← hd₂]
        rfl
      · rw [hlinks, ← hd₂]

end Manage

end Signpost
