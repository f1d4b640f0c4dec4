import Mathlib
import Signpost.Proofs.CheckedConditions
import Signpost.Proofs.KeptRows

/-!
# What a task leaves behind

A task of managing links and rules that does not end well leaves the service
as it was. One that does is about a single link. What it writes into a row was
handed over to the store, which takes no number without a place and no text
without octets, and the conditions of a payload passed their check, so the
rows stay fit for the cache. No other link and none of its rules is touched,
no count is changed, and a new rule has none. Once the rows are committed both
entries of the link are gone from the cache.

`Leaves` says this once for all five tasks.
-/

namespace Signpost

/-- Tables that differ from others in one link and its rules at the most, with
no count changed, and are fit for the cache too. -/
structure Database.Changes (d d' : Database) (l : Link) : Prop where
  kept : d'.IsKept
  links : ∀ x ∈ d.links, x.slug ≠ l.slug → x ∈ d'.links
  rules : ∀ link, link ≠ l.id → d'.rulesOf link = d.rulesOf link
  counts : ∀ r ∈ d'.rules, r.matchCount = 0 ∨
    ∃ x ∈ d.rules, x.id = r.id ∧ x.matchCount = r.matchCount

namespace Database

theorem Changes.activeEntries {d d' : Database} {l : Link}
    (h : d.Changes d' l) {link : Int} (hne : link ≠ l.id) :
    d'.activeEntries link = d.activeEntries link := by
  rw [Database.activeEntries, activeRules, h.rules link hne]
  rfl

end Database

/-! ## What is written into a row -/

theorem Conditions.isKept_toStorage {c : Conditions}
    (h : c.toStorage.IsExact) : c.toStorage.settled.IsKept where
  exact := h.settled
  settled := Json.settled_settled _
  height := by
    have hlow := (Json.height_settled c.toStorage).trans c.height_toStorage
    exact hlow.trans (by decide)

theorem forall_getD {α : Type} {P : α → Prop} {a : α} {x : Option α}
    (ha : P a) (hx : ∀ b ∈ x, P b) : P (x.getD a) := by
  cases x with
  | none => exact ha
  | some b => exact hx b rfl

/-- The row of a draft that the store took. -/
theorem Rule.isKept_ofNew {id link : Int} {now : Clock} {d : RuleDraft}
    (hid : hasPlace id = true) (hnow : now.micros < Clock.limit)
    (hd : d.conditions.toStorage.IsExact)
    (hfits : (Query.addRule (.ofDraft link now d)).Fits) :
    (Rule.ofNew id now (.ofDraft link now d)).entry.uncounted.IsKept where
  id := hid
  urlId := hfits.numbers link (by simp [Query.numbers, NewRule.ofDraft])
  priority := hfits.numbers d.priority (by
    simp [Query.numbers, NewRule.ofDraft])
  matchCount := rfl
  name := hfits.texts d.name (by simp [Query.texts, NewRule.ofDraft])
  targetUrl := hfits.texts d.targetUrl (by
    simp [Query.texts, NewRule.ofDraft])
  conditions := Conditions.isKept_toStorage hd
  createdAt := by
    rintro _ ⟨⟩
    exact ⟨now, hnow, rfl⟩

/-- The row of a rule after changes that the store took. -/
theorem Rule.isKept_withChanges {r : Rule} {id : Int} {now : Clock}
    {changes : RuleChanges} (hr : r.entry.uncounted.IsKept)
    (hc : ∀ c ∈ changes.conditions.toOption, c.toStorage.IsExact)
    (hfits : (Query.updateRule id changes).Fits) :
    (r.withChanges changes now).entry.uncounted.IsKept where
  id := hr.id
  urlId := hr.urlId
  priority := forall_getD (P := fun n => hasPlace n = true) hr.priority
    fun n hn => hfits.numbers n (by simp_all [Query.numbers])
  matchCount := hr.matchCount
  name := forall_getD (P := fun t => Text.isWellFormed t.toList = true)
    hr.name fun t ht => hfits.texts t (by simp_all [Query.texts])
  targetUrl := forall_getD (P := fun t => Text.isWellFormed t.toList = true)
    hr.targetUrl fun t ht => hfits.texts t (by simp_all [Query.texts])
  conditions := by
    refine forall_getD (P := Json.IsKept) hr.conditions fun j hj => ?_
    obtain ⟨c, hmem, rfl⟩ := Option.map_eq_some_iff.mp hj
    exact Conditions.isKept_toStorage (hc c hmem)
  createdAt := hr.createdAt

/-- The row of a link after settings that the store took. -/
theorem Link.isKept_withSettings {l : Link} {id : Int}
    {settings : LinkSettings} (hl : l.entry.IsKept)
    (hfits : (Query.updateLink id settings).Fits) :
    (l.withSettings settings).entry.IsKept where
  id := hl.id
  userId := hl.userId
  slug := hl.slug
  originalUrl := hl.originalUrl
  defaultUrl := by
    intro t ht
    rw [entry, withSettings] at ht
    dsimp only at ht
    split at ht
    · exact hfits.texts t (by simp_all [Query.texts])
    · exact hl.defaultUrl t ht
  expiresAt := hl.expiresAt

/-! ## What the tasks change -/

namespace Manage

variable {now : Clock} {s s' : Store} {link rule : Int} {c : Caller}

/-- Tables whose links differ in one alone, if in any, and whose rules are fit
and differ in that link's alone. -/
theorem changes_of {d d' : Database} {l : Link} {f : Link → Link}
    (h : d.IsKept) (hl : l ∈ d.links) (hid : ∀ x, (f x).id = x.id)
    (hslug : ∀ x, (f x).slug = x.slug)
    (hf : ∀ x ∈ d.links, (f x).entry.IsKept)
    (hlinks : d'.links = d.links ∨ d'.links = (d.modifyLink l.id f).links)
    (hrules : RulesKept d'.rules)
    (hother : ∀ link, link ≠ l.id → d'.rulesOf link = d.rulesOf link)
    (hcounts : ∀ r ∈ d'.rules, r.matchCount = 0 ∨
      ∃ x ∈ d.rules, x.id = r.id ∧ x.matchCount = r.matchCount) :
    d.Changes d' l := by
  rcases hlinks with heq | heq
  · exact ⟨⟨heq ▸ h.links, hrules⟩, fun x hx _ => heq ▸ hx, hother, hcounts⟩
  · refine ⟨⟨?_, hrules⟩, fun x hx hne => ?_, hother, hcounts⟩
    · rw [heq]
      exact h.links.modify hid hslug hf
    · rw [heq]
      exact h.links.mem_modify hl hx hne

theorem createRule_changes {most : Int} {d : RuleDraft} {l : Link} {r : Rule}
    (hs : s.IsSound) (h : s.database.IsKept)
    (hnow : now.micros < Clock.limit) (hd : d.conditions.toStorage.IsExact)
    (hrun : (createRule most now link c d).run now s = (.ok (l, r), s')) :
    s.database.Changes s'.database l := by
  obtain ⟨hlink, -, -, hr, hrules, hlinks, hfits⟩ :=
    createRule_ok hs.isCandid hrun
  have hid := hasPlace_of_createRule hs hrun
  have hl := Database.mem_of_link? hlink
  have hkept : r.entry.uncounted.IsKept := by
    rw [hr] at hid ⊢
    exact Rule.isKept_ofNew hid hnow hd hfits
  have hlinkId : r.linkId = l.id := by rw [hr]; rfl
  refine changes_of h hl (f := fun l => { l with isSmartRouting := true })
    (fun _ => rfl) (fun _ => rfl) (fun x hx => ?_) ?_ ?_ (fun link hne => ?_)
    fun x hx => ?_
  · exact { h.links.entries x hx with }
  · rw [hlinks]
    split
    · exact .inl rfl
    · exact .inr rfl
  · rw [hrules]
    exact h.rules.append hkept (by rw [hr]; rfl)
  · rw [Database.rulesOf, hrules, List.filter_append]
    simp [hlinkId, Ne.symm hne, Database.rulesOf]
  · rw [hrules] at hx
    rcases List.mem_append.mp hx with hx | hx
    · exact .inr ⟨x, hx, rfl, rfl⟩
    · rw [List.mem_singleton.mp hx, hr]
      exact .inl rfl

theorem updateRule_changes {changes : RuleChanges} {l : Link} {r : Rule}
    (hs : s.IsSound) (h : s.database.IsKept)
    (hc : ∀ c ∈ changes.conditions.toOption, c.toStorage.IsExact)
    (hrun : (updateRule link rule c changes).run now s = (.ok (l, r), s')) :
    s.database.Changes s'.database l := by
  obtain ⟨old, hlink, -, hold, hof, -, hrules, hlinks, hfits⟩ :=
    updateRule_ok hs.isCandid hrun
  have hmem := Database.mem_of_rule? hold
  refine changes_of h (Database.mem_of_link? hlink) (f := id) (fun _ => rfl)
    (fun _ => rfl) h.links.entries (.inl hlinks) ?_ (fun link hne => ?_)
    fun x hx => ?_
  · rw [hrules]
    exact h.rules.modify (fun _ => rfl) fun x hx =>
      Rule.isKept_withChanges (h.rules.entries x hx) hc hfits
  · rw [Database.rulesOf, hrules]
    exact Rule.filter_modify_of_nodup h.rules.ids hmem (hof ▸ hne.symm)
      fun _ => rfl
  · rw [hrules] at hx
    obtain ⟨y, hy, rfl⟩ := List.mem_map.mp hx
    refine .inr ⟨y, hy, ?_⟩
    split <;> exact ⟨rfl, rfl⟩

theorem deleteRule_changes {l : Link} {r : Rule} (hs : s.IsSound)
    (h : s.database.IsKept)
    (hrun : (deleteRule link rule c).run now s = (.ok (l, r), s')) :
    s.database.Changes s'.database l := by
  obtain ⟨hlink, -, hr, hof, hrules, hlinks⟩ := deleteRule_ok hs.isCandid hrun
  refine changes_of h (Database.mem_of_link? hlink)
    (f := fun l => { l with isSmartRouting := false }) (fun _ => rfl)
    (fun _ => rfl) (fun x hx => ?_) ?_ ?_ (fun link hne => ?_) fun x hx => ?_
  · exact { h.links.entries x hx with }
  · rw [hlinks]
    split
    · exact .inr rfl
    · exact .inl rfl
  · rw [hrules]
    exact h.rules.filter _
  · rw [Database.rulesOf, hrules]
    exact Rule.filter_of_nodup h.rules.ids (Database.mem_of_rule? hr)
      (hof ▸ hne.symm)
  · rw [hrules] at hx
    exact .inr ⟨x, (List.mem_filter.mp hx).1, rfl, rfl⟩

theorem updateSettings_changes {settings : LinkSettings} {l : Link}
    (hs : s.IsSound) (h : s.database.IsKept)
    (hrun : (updateSettings link c settings).run now s = (.ok l, s')) :
    s.database.Changes s'.database l := by
  obtain ⟨old, hlink, -, hl, hrules, hlinks, hfits⟩ :=
    updateSettings_ok hs.isCandid hrun
  have hold : s.database.Changes s'.database old := by
    refine changes_of h (Database.mem_of_link? hlink)
      (f := fun l => l.withSettings settings) (fun _ => rfl) (fun _ => rfl)
      (fun x hx => ?_) (.inr hlinks) (hrules ▸ h.rules) (fun link _ => ?_)
      fun x hx => ?_
    · exact Link.isKept_withSettings (h.links.entries x hx) hfits
    · rw [Database.rulesOf, hrules, Database.rulesOf]
    · exact .inr ⟨x, hrules ▸ hx, rfl, rfl⟩
  subst hl
  exact ⟨hold.kept, hold.links, hold.rules, hold.counts⟩

end Manage

/-! ## What the tasks leave behind -/

namespace Service

/-- What a task leaves behind: the service as it was, or rows that differ in
one link, whose entries are gone from the cache. -/
def Leaves (s s' : Service) : Prop :=
  s' = s ∨ ∃ l store events, store.IsSound ∧
    s.store.database.Changes store.database l ∧
    s' = { forgetLink { s with store := store } l with
      events := events }

variable {s : Service} {link rule : Int} {c : Manage.Caller}

theorem guarded_leaves {α : Type} {target : Option String}
    {task : Service → Outcome α} (htask : s.Leaves (task s).2) :
    s.Leaves (s.guarded target task).2 := by
  unfold guarded
  split
  · split
    · exact htask
    · exact .inl rfl
  · exact htask

theorem onRule_leaves {task : StoreTask} {kind : RuleEvent.Kind}
    {who : Requester} {p : Plan (Link × Rule)} (hs : s.store.IsSound)
    (hp : ∀ l r store, p.run s.now s.store = (.ok (l, r), store) →
      s.store.database.Changes store.database l) :
    s.Leaves (s.onRule task kind who p).2 := by
  rw [onRule]
  rcases transact_cases p hs with ⟨⟨l, r⟩, store, hsound, hrun, ht⟩ | ⟨f, ht⟩
  · rw [ht]
    exact .inr ⟨l, store, _, hsound, hp l r store hrun, rfl⟩
  · rw [ht]
    exact .inl rfl

theorem createRule_leaves {most : Int} {d : RuleDraft} (hs : s.store.IsSound)
    (h : s.store.database.IsKept) (hnow : s.now.micros < Clock.limit)
    (hd : d.conditions.toStorage.IsExact) :
    s.Leaves (s.createRule most link c d).2 := by
  refine guarded_leaves (onRule_leaves hs fun l r store hrun => ?_)
  exact Manage.createRule_changes hs h hnow hd hrun

theorem createFromTemplate_leaves {most : Int} {use : TemplateUse}
    (hs : s.store.IsSound) (h : s.store.database.IsKept)
    (hnow : s.now.micros < Clock.limit) :
    s.Leaves (s.createFromTemplate most link c use).2 := by
  rw [createFromTemplate]
  split
  · exact .inl rfl
  · next t ht =>
      split
      · exact .inl rfl
      · next d hd =>
          refine createRule_leaves hs h hnow ?_
          rw [Template.conditions_of_draft hd]
          exact Template.isExact_of_find? ht

theorem updateRule_leaves {changes : RuleChanges} (hs : s.store.IsSound)
    (h : s.store.database.IsKept)
    (hc : ∀ c ∈ changes.conditions.toOption, c.toStorage.IsExact) :
    s.Leaves (s.updateRule link rule c changes).2 := by
  refine guarded_leaves (onRule_leaves hs fun l r store hrun => ?_)
  exact Manage.updateRule_changes hs h hc hrun

theorem deleteRule_leaves (hs : s.store.IsSound)
    (h : s.store.database.IsKept) :
    s.Leaves (s.deleteRule link rule c).2 := by
  rw [deleteRule]
  rcases transact_cases (Manage.deleteRule link rule c) hs with
    ⟨⟨l, r⟩, store, hsound, hrun, ht⟩ | ⟨f, ht⟩
  · rw [ht]
    exact .inr ⟨l, store, _, hsound, Manage.deleteRule_changes hs h hrun, rfl⟩
  · rw [ht]
    exact .inl rfl

theorem updateSettings_leaves {settings : LinkSettings}
    (hs : s.store.IsSound) (h : s.store.database.IsKept) :
    s.Leaves (s.updateSettings link c settings).2 := by
  refine guarded_leaves ?_
  rcases transact_cases (Manage.updateSettings link c settings) hs with
    ⟨l, store, hsound, hrun, ht⟩ | ⟨f, ht⟩
  · rw [ht]
    exact .inr ⟨l, store, s.events, hsound,
      Manage.updateSettings_changes hs h hrun, rfl⟩
  · rw [ht]
    exact .inl rfl

/-- What a task can lead to, when it ends well and when it is refused. What it
is given passed its check. -/
inductive Manages (s : Service) : Service → Prop
  | createRule (most link : Int) (c : Manage.Caller) {source : Check.Source}
      {path : List Check.Step} {j : Json} {d : RuleDraft}
      (hd : RuleDraft.check source path j = .passed d) :
      Manages s (s.createRule most link c d).2
  | createFromTemplate (most link : Int) (c : Manage.Caller)
      (use : TemplateUse) :
      Manages s (s.createFromTemplate most link c use).2
  | updateRule (link rule : Int) (c : Manage.Caller) {source : Check.Source}
      {path : List Check.Step} {j : Json} {changes : RuleChanges}
      (hc : RuleChanges.check source path j = .passed changes) :
      Manages s (s.updateRule link rule c changes).2
  | deleteRule (link rule : Int) (c : Manage.Caller) :
      Manages s (s.deleteRule link rule c).2
  | updateSettings (link : Int) (c : Manage.Caller) (settings : LinkSettings) :
      Manages s (s.updateSettings link c settings).2

theorem Manages.leaves {s' : Service} (h : s.Manages s')
    (hs : s.store.IsSound) (hkept : s.store.database.IsKept)
    (hnow : s.now.micros < Clock.limit) : s.Leaves s' := by
  cases h with
  | createRule _ _ _ hd =>
      exact createRule_leaves hs hkept hnow (RuleDraft.isExact_of_check hd)
  | createFromTemplate => exact createFromTemplate_leaves hs hkept hnow
  | updateRule _ _ _ hc =>
      exact updateRule_leaves hs hkept (RuleChanges.isExact_of_check hc)
  | deleteRule => exact deleteRule_leaves hs hkept
  | updateSettings => exact updateSettings_leaves hs hkept

end Service

end Signpost
