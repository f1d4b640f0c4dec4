import Mathlib
import Signpost.Proofs.CacheTransparency
import Signpost.Proofs.ConditionsReread
import Signpost.Proofs.ManagementRuns

/-!
# Rows that the service writes

A rule that came to the store through a task has a name and a priority within
their bounds, conditions that pass their check as they are stored, and a
destination that is public and would be taken again as it is. That is so
because every way into a row leads through a check: a draft and changes passed
the checks of their fields, what a template gives is checked like a draft, and
a fallback passed the check of a destination. What passed the check of a
destination is trimmed, and trimming it again changes nothing.

No other task takes this from a row, and no task takes a link away. So a
search through rules of which all came that way is only about their
conditions: none is skipped for where it leads, and none stops the search.
-/

namespace Signpost

/-! ## Destinations -/

namespace Net

/-- A destination as it is stored: public, and taken again as it is. -/
structure IsDestination (url : String) : Prop where
  fixed : validateTarget url = .ok url
  safe : isSafeUrl url = true

theorem isDestination_of_validateTarget {given url : String}
    (h : validateTarget given = .ok url) : IsDestination url := by
  unfold validateTarget at h
  dsimp only at h
  split at h
  · cases h
  · next hform =>
      split at h
      · next hsafe =>
          cases h
          refine ⟨?_, hsafe⟩
          unfold validateTarget
          dsimp only
          rw [String.toList_ofList, Text.trim, Text.trim,
            Text.trimWhere_trimWhere]
          rw [Text.trim] at hform hsafe
          rw [if_neg hform, if_pos hsafe]
      · cases h

end Net

/-! ## Fields -/

def IsRuleName (s : String) : Prop :=
  1 ≤ s.length ∧ s.length ≤ 100

def IsPriority (n : Int) : Prop :=
  0 ≤ n ∧ n ≤ 10000

def Json.IsConditions (j : Json) : Prop :=
  ∃ c, Conditions.check .document [] j = .passed c

namespace Check

variable {path : List Step} {j : Json}

theorem Checked.toOption_eq_some {α : Type} {x : Checked α} {a : α} :
    x.toOption = some a ↔ x = .passed a := by
  cases x <;> simp [toOption]

theorem Record.of_given_mem {α : Type} {r : Record} {name : String}
    {rule : Rule α} {given : Given α} {a : α} (h : r.given name rule = .passed given)
    (ha : a ∈ given.toOption) : ∃ path j, rule path j = .passed a := by
  cases given with
  | value b => cases ha; exact of_given h
  | null => cases ha
  | unset => cases ha

theorem isRuleName_of_passed {s : String} (h : ruleNameRule path j = .passed s) :
    IsRuleName s := by
  obtain ⟨t, ht, h⟩ := Checked.andThen_eq_passed.mp h
  obtain ⟨u, -, ht⟩ := Checked.andThen_eq_passed.mp ht
  split at h
  · cases h
  · next hmost =>
      cases h
      split at ht
      · cases ht
      · next hleast =>
          cases ht
          exact ⟨by omega, by omega⟩

theorem isPriority_of_passed {n : Int} (h : priorityRule path j = .passed n) :
    IsPriority n := by
  obtain ⟨m, hm, h⟩ := Checked.andThen_eq_passed.mp h
  obtain ⟨k, -, hm⟩ := Checked.andThen_eq_passed.mp hm
  split at h
  · cases h
  · next hmost =>
      cases h
      split at hm
      · cases hm
      · next hleast =>
          cases hm
          exact ⟨by omega, by omega⟩

theorem isDestination_of_passed {s : String} (h : targetRule path j = .passed s) :
    Net.IsDestination s := by
  obtain ⟨given, -, h⟩ := refining_passed.mp h
  cases hurl : Net.validateTarget given with
  | error bad => rw [hurl] at h; cases h
  | ok url =>
      rw [hurl] at h
      cases h
      exact Net.isDestination_of_validateTarget hurl

theorem isConditions_of_passed {source : Source} {c : Conditions}
    (h : Conditions.check source path j = .passed c) :
    c.toStorage.settled.IsConditions :=
  ⟨c.settled, Conditions.check_settled h []⟩

end Check

/-! ## Payloads -/

structure RuleDraft.IsProper (d : RuleDraft) : Prop where
  name : IsRuleName d.name
  target : Net.IsDestination d.targetUrl
  priority : IsPriority d.priority
  conditions : d.conditions.toStorage.settled.IsConditions

/-- Changes of which each that was given passed its check. -/
structure RuleChanges.IsProper (c : RuleChanges) : Prop where
  name : ∀ s ∈ c.name.toOption, IsRuleName s
  target : ∀ s ∈ c.targetUrl.toOption, Net.IsDestination s
  priority : ∀ n ∈ c.priority.toOption, IsPriority n
  conditions : ∀ x ∈ c.conditions.toOption, x.toStorage.settled.IsConditions

theorem RuleDraft.isProper_of_check {source : Check.Source}
    {path : List Check.Step} {j : Json} {d : RuleDraft}
    (h : check source path j = .passed d) : d.IsProper := by
  obtain ⟨r, -, h⟩ := Check.Checked.andThen_eq_passed.mp h
  simp only [Check.Checked.seq_eq_passed, Check.Checked.map_eq_passed] at h
  obtain ⟨_, c, ⟨_, active, ⟨_, priority, ⟨_, target, ⟨name, hname, rfl⟩, htarget,
    rfl⟩, hpriority, rfl⟩, -, rfl⟩, hc, rfl⟩ := h
  obtain ⟨_, _, hname⟩ := Check.Record.of_required hname
  obtain ⟨_, _, htarget⟩ := Check.Record.of_required htarget
  obtain ⟨_, _, hc⟩ := Check.Record.of_required hc
  refine ⟨Check.isRuleName_of_passed hname,
    Check.isDestination_of_passed htarget, ?_, Check.isConditions_of_passed hc⟩
  rw [Check.Record.optional] at hpriority
  split at hpriority
  · exact Check.isPriority_of_passed hpriority
  · cases hpriority
    have hzero : IsPriority 0 := ⟨by decide, by decide⟩
    exact hzero

theorem RuleChanges.isProper_of_check {source : Check.Source}
    {path : List Check.Step} {j : Json} {c : RuleChanges}
    (h : check source path j = .passed c) : c.IsProper := by
  obtain ⟨r, -, h⟩ := Check.Checked.andThen_eq_passed.mp h
  simp only [Check.Checked.seq_eq_passed, Check.Checked.map_eq_passed] at h
  obtain ⟨_, conditions, ⟨_, active, ⟨_, priority, ⟨_, target, ⟨name, hname, rfl⟩,
    htarget, rfl⟩, hpriority, rfl⟩, -, rfl⟩, hconditions, rfl⟩ := h
  constructor
  · intro s hs
    obtain ⟨_, _, hs⟩ := Check.Record.of_given_mem hname hs
    exact Check.isRuleName_of_passed hs
  · intro s hs
    obtain ⟨_, _, hs⟩ := Check.Record.of_given_mem htarget hs
    exact Check.isDestination_of_passed hs
  · intro n hn
    obtain ⟨_, _, hn⟩ := Check.Record.of_given_mem hpriority hn
    exact Check.isPriority_of_passed hn
  · intro x hx
    obtain ⟨_, _, hx⟩ := Check.Record.of_given_mem hconditions hx
    exact Check.isConditions_of_passed hx

theorem LinkSettings.isDestination_of_check {source : Check.Source}
    {path : List Check.Step} {j : Json} {s : LinkSettings}
    (h : check source path j = .passed s) :
    ∀ url ∈ s.defaultUrl.toOption, Net.IsDestination url := by
  obtain ⟨r, -, h⟩ := Check.Checked.andThen_eq_passed.mp h
  simp only [Check.Checked.seq_eq_passed, Check.Checked.map_eq_passed] at h
  obtain ⟨_, target, ⟨flag, -, rfl⟩, htarget, rfl⟩ := h
  intro url hurl
  obtain ⟨_, _, hurl⟩ := Check.Record.of_given_mem htarget hurl
  exact Check.isDestination_of_passed hurl

/-- What a template gives is checked like a draft. -/
theorem Template.isProper_of_draft {t : Template} {use : TemplateUse}
    {d : RuleDraft} (ht : t ∈ catalogue) (h : t.draft use = .passed d) :
    d.IsProper := by
  have hcatalogue : ∀ t ∈ catalogue, (Conditions.check .document []
      t.conditions.toStorage).toOption = some t.conditions := by
    decide +kernel
  have hpassed := Check.Checked.toOption_eq_some.mp (hcatalogue t ht)
  simp only [draft, Check.Checked.seq_eq_passed, Check.Checked.map_eq_passed] at h
  obtain ⟨_, c, ⟨_, active, ⟨_, priority, ⟨_, target, ⟨name, hname, rfl⟩, htarget,
    rfl⟩, hpriority, rfl⟩, -, rfl⟩, hc, rfl⟩ := h
  cases hc
  exact ⟨Check.isRuleName_of_passed hname, Check.isDestination_of_passed htarget,
    Check.isPriority_of_passed hpriority,
    Check.isConditions_of_passed hpassed⟩

/-! ## Rows -/

/-- A rule as a task writes it. -/
structure Rule.IsWellFormed (r : Rule) : Prop where
  name : IsRuleName r.name
  priority : IsPriority r.priority
  conditions : r.conditions.IsConditions
  target : Net.IsDestination r.targetUrl

theorem Rule.isWellFormed_ofNew {id link : Int} {now : Clock} {d : RuleDraft}
    (h : d.IsProper) : (Rule.ofNew id now (.ofDraft link now d)).IsWellFormed :=
  ⟨h.name, h.priority, h.conditions, h.target⟩

theorem Rule.IsWellFormed.withChanges {r : Rule} {c : RuleChanges} {now : Clock}
    (h : r.IsWellFormed) (hc : c.IsProper) : (r.withChanges c now).IsWellFormed where
  name := forall_getD h.name hc.name
  priority := forall_getD h.priority hc.priority
  conditions := by
    refine forall_getD h.conditions fun j hj => ?_
    obtain ⟨x, hx, rfl⟩ := Option.map_eq_some_iff.mp hj
    exact hc.conditions x hx
  target := forall_getD h.target hc.target

/-- Tables as tasks write them: every rule is well formed and has its link, and
a fallback is a destination. -/
structure Database.IsWellFormed (d : Database) : Prop where
  rules : ∀ r ∈ d.rules, r.IsWellFormed
  owned : ∀ r ∈ d.rules, ∃ l ∈ d.links, l.id = r.linkId
  fallbacks : ∀ l ∈ d.links, ∀ url ∈ l.defaultUrl, Net.IsDestination url

namespace Database

variable {d d' : Database}

theorem mem_of_map {f : Link → Link} (hf : ∀ x, (f x).id = x.id)
    (hlinks : d'.links = d.links.map f) {id : Int}
    (h : ∃ l ∈ d.links, l.id = id) : ∃ l ∈ d'.links, l.id = id := by
  obtain ⟨l, hl, rfl⟩ := h
  exact ⟨f l, hlinks ▸ List.mem_map_of_mem hl, hf l⟩

/-- Rules that were there before have their links, and those that came have
theirs. -/
theorem isWellFormed_of_step {f : Link → Link}
    (hf : ∀ x, (f x).id = x.id) (hlinks : d'.links = d.links.map f)
    (hfallbacks : ∀ l ∈ d'.links, ∀ url ∈ l.defaultUrl, Net.IsDestination url)
    (hrules : ∀ r ∈ d'.rules, r.IsWellFormed ∧
      ∃ l ∈ d.links, l.id = r.linkId) : d'.IsWellFormed where
  rules := fun r hr => (hrules r hr).1
  owned := fun r hr => mem_of_map hf hlinks (hrules r hr).2
  fallbacks := hfallbacks

/-- Links that are changed in one place, if at all. -/
theorem forall_modifyLink {P : Link → Prop} {id : Int} {f : Link → Link}
    (h : ∀ l ∈ d.links, P l) (hf : ∀ l, P l → P (f l)) :
    ∀ l ∈ (d.modifyLink id f).links, P l := by
  intro l hl
  obtain ⟨x, hx, rfl⟩ := List.mem_map.mp hl
  split
  · exact hf x (h x hx)
  · exact h x hx

end Database

namespace Manage.Task

variable {most : Int} {now : Clock} {c : Caller} {t : Task} {d d' : Database}
  {l : Link}

/-- A flag that is set, or not, changes no fallback. -/
theorem fallbacks_of_flag {on : Bool}
    (h : ∀ l ∈ d.links, ∀ url ∈ l.defaultUrl, Net.IsDestination url)
    (hlinks : d'.links = d.links ∨ d'.links =
      (d.modifyLink l.id fun l => { l with isSmartRouting := on }).links) :
    ∀ l ∈ d'.links, ∀ url ∈ l.defaultUrl, Net.IsDestination url := by
  rcases hlinks with heq | heq
  · rw [heq]
    exact h
  · rw [heq]
    exact Database.forall_modifyLink h fun _ hl => hl

theorem Alters.isWellFormed_of_created {draft : RuleDraft} {link : Int}
    (h : (createRule link draft).Alters most now d d' l)
    (hdraft : draft.IsProper) (hl : l ∈ d.links) (hd : d.IsWellFormed) :
    d'.IsWellFormed := by
  obtain ⟨f, hf, hlinks⟩ := h.links
  cases h with
  | created hroom hrules hflag =>
      have hset : d'.links = d.links ∨ d'.links = (d.modifyLink l.id fun l =>
          { l with isSmartRouting := true }).links := by
        rw [hflag]
        split
        · exact .inl rfl
        · exact .inr rfl
      refine Database.isWellFormed_of_step (fun x => (hf x).1) hlinks
        (fallbacks_of_flag hd.fallbacks hset) fun r hr => ?_
      rw [hrules] at hr
      rcases List.mem_append.mp hr with hr | hr
      · exact ⟨hd.rules r hr, hd.owned r hr⟩
      · rw [List.mem_singleton.mp hr]
        exact ⟨Rule.isWellFormed_ofNew hdraft, l, hl, rfl⟩

/-- What a task that was committed did to well-formed tables leaves them so. -/
theorem Alters.isWellFormed (h : t.Alters most now d d' l) (ht : t.IsChecked)
    (hl : l ∈ d.links) (hd : d.IsWellFormed) : d'.IsWellFormed := by
  obtain ⟨f, hf, hlinks⟩ := h.links
  have hold : ∀ r ∈ d.rules, r.IsWellFormed ∧ ∃ l ∈ d.links, l.id = r.linkId :=
    fun r hr => ⟨hd.rules r hr, hd.owned r hr⟩
  cases h with
  | @created link draft hroom hrules hflag =>
      obtain ⟨_, _, _, hcheck⟩ := ht
      have h : (createRule link draft).Alters most now d d' l :=
        .created hroom hrules hflag
      exact h.isWellFormed_of_created (RuleDraft.isProper_of_check hcheck) hl hd
  | drafted hfind hdraft h =>
      have hmem := List.mem_of_find?_eq_some hfind
      exact h.isWellFormed_of_created (Template.isProper_of_draft hmem hdraft)
        hl hd
  | updated hfound hof hrules hsame =>
      obtain ⟨_, _, _, hcheck⟩ := ht
      have hproper := RuleChanges.isProper_of_check hcheck
      refine Database.isWellFormed_of_step (fun x => (hf x).1) hlinks (hsame ▸ hd.fallbacks)
        fun r hr => ?_
      rw [hrules] at hr
      obtain ⟨x, hx, rfl⟩ := List.mem_map.mp hr
      split
      · exact ⟨(hd.rules x hx).withChanges hproper, hd.owned x hx⟩
      · exact hold x hx
  | deleted hfound hof hrules hflag =>
      have hset : d'.links = d.links ∨ d'.links = (d.modifyLink l.id fun l =>
          { l with isSmartRouting := false }).links := by
        rw [hflag]
        split
        · exact .inr rfl
        · exact .inl rfl
      refine Database.isWellFormed_of_step (fun x => (hf x).1) hlinks
        (fallbacks_of_flag hd.fallbacks hset) fun r hr => ?_
      rw [hrules] at hr
      exact hold r (List.mem_filter.mp hr).1
  | settled hrules hsettled =>
      obtain ⟨_, _, _, hcheck⟩ := ht
      have hproper := LinkSettings.isDestination_of_check hcheck
      refine Database.isWellFormed_of_step (fun x => (hf x).1) hlinks ?_ fun r hr => ?_
      · rw [hsettled]
        refine Database.forall_modifyLink hd.fallbacks fun x hx url hurl => ?_
        rw [Link.withSettings] at hurl
        dsimp only at hurl
        split at hurl
        · exact hproper url hurl
        · exact hx url hurl
      · exact hold r (hrules ▸ hr)

end Manage.Task

/-! ## Searches through well-formed rules -/

/-- The conditions of a rule hold of a visitor. -/
def RuleEntry.admits (v : Visitor) (e : RuleEntry) : Bool :=
  match StoredConditions.load e.conditions with
  | .ok conditions => conditions.holds v
  | .error _ => false

namespace Database.IsWellFormed

variable {d : Database} {link : Int}

theorem load (h : d.IsWellFormed) : ∀ r ∈ d.rules,
    ∃ c, StoredConditions.load r.conditions = .ok (.ofChecked c) := by
  intro r hr
  obtain ⟨c, hc⟩ := (h.rules r hr).conditions
  exact ⟨c, Conditions.load_of_check hc⟩

theorem mem_activeEntries {e : RuleEntry} (he : e ∈ d.activeEntries link) :
    ∃ r ∈ d.rules, e = r.entry ∧ r.isActive = true := by
  obtain ⟨r, hr, rfl⟩ := List.mem_map.mp he
  obtain ⟨hof, hactive⟩ := mem_activeRules.mp hr
  exact ⟨r, (List.mem_filter.mp hof).1, rfl, hactive⟩

/-- Nothing but its conditions keeps an active rule from deciding. -/
theorem decides_eq (h : d.IsWellFormed) (v : Visitor) :
    ∀ e ∈ d.activeEntries link, e.decides v = e.admits v := by
  intro e he
  obtain ⟨r, hr, rfl, hactive⟩ := mem_activeEntries he
  have hsafe : Net.isSafeUrl r.entry.targetUrl = true := (h.rules r hr).target.safe
  have hactive : r.entry.isActive = true := hactive
  rw [RuleEntry.decides, hactive, hsafe, Bool.true_and, Bool.and_true]
  rfl

/-- A search through the rules of a link passes over no rule whose conditions
hold. -/
theorem firstMatch_eq (h : d.IsWellFormed) (v : Visitor) :
    RuleEntry.firstMatch v (d.activeEntries link) =
      .ok ((d.activeEntries link).find? (RuleEntry.admits v)) := by
  have hfree : ¬ RuleEntry.Blocked v (d.activeEntries link) := by
    rintro ⟨before, e, after, heq, ⟨-, hunloads⟩, -⟩
    have he : e ∈ d.activeEntries link := by
      rw [heq]
      simp
    obtain ⟨r, hr, rfl, -⟩ := mem_activeEntries he
    obtain ⟨c, hc⟩ := h.load r hr
    obtain ⟨u, hu⟩ := StoredConditions.load_fails_iff.mpr hunloads
    have hload : StoredConditions.load r.entry.conditions = .ok (.ofChecked c) := hc
    rw [hload] at hu
    cases hu
  rw [RuleEntry.firstMatch_eq_find? hfree]
  exact congrArg Except.ok (List.find?_congr (h.decides_eq v))

end Database.IsWellFormed

/-! ## Runs -/

namespace Service

open Manage (Task)

/-- After every run of tasks from a store without rules and without fallbacks,
each step of which may fail, all rows are well formed, conditions are loaded as
checked ones, and a search is about conditions alone. -/
theorem rows_of_managed {most : Int} {first s : Service}
    (h : Managed most Task.IsChecked first s) (hcandid : first.store.IsCandid)
    (hrules : first.store.database.rules = [])
    (hfallbacks : ∀ l ∈ first.store.database.links, l.defaultUrl = none) :
    s.store.database.IsWellFormed ∧
      (∀ r ∈ s.store.database.rules,
        ∃ c, StoredConditions.load r.conditions = .ok (.ofChecked c)) ∧
      ∀ link v, RuleEntry.firstMatch v (s.store.database.activeEntries link) =
        .ok ((s.store.database.activeEntries link).find?
          (RuleEntry.admits v)) := by
  have hfirst : first.store.database.IsWellFormed := by
    constructor
    · rw [hrules]
      exact fun r hr => nomatch hr
    · rw [hrules]
      exact fun r hr => nomatch hr
    · intro l hl url hurl
      rw [hfallbacks l hl] at hurl
      cases hurl
  have hd : s.store.database.IsWellFormed := by
    refine h.database_of hcandid hfirst ?_ ?_
    · intro d d' hlinks hrules hd
      exact ⟨hrules ▸ hd.rules, by rw [hlinks, hrules]; exact hd.owned,
        hlinks ▸ hd.fallbacks⟩
    · intro now c t d d' l ht hcommits hd
      exact hcommits.rows.isWellFormed ht (Database.mem_of_link? hcommits.found) hd
  exact ⟨hd, hd.load, fun link v => hd.firstMatch_eq v⟩

/-- The link of a new service gets a rule. -/
theorem rows_of_withLink :
    Managed 50 Task.IsChecked withLink
      (withLink.after 50 owner (.createRule 1 elsewhereDraft)) ∧
    withLink.store.IsCandid ∧ withLink.store.database.rules = [] ∧
    (∀ l ∈ withLink.store.database.links, l.defaultUrl = none) ∧
    (withLink.after 50 owner
      (.createRule 1 elsewhereDraft)).store.database.IsWellFormed ∧
    (withLink.after 50 owner
      (.createRule 1 elsewhereDraft)).store.database.rules.length = 1 := by
  have hchecked : (Task.createRule 1 elsewhereDraft).IsChecked :=
    ⟨.document, [], elsewhereDraft.toJson, rfl⟩
  have hrun : Managed 50 Task.IsChecked withLink
      (withLink.after 50 owner (.createRule 1 elsewhereDraft)) :=
    .task .start hchecked owner
  have hcandid : withLink.store.IsCandid := isInitial_withLink.sound.isCandid
  have hfallbacks : ∀ l ∈ withLink.store.database.links, l.defaultUrl = none := by
    intro l hl
    rw [List.mem_singleton.mp hl]
  exact ⟨hrun, hcandid, rfl, hfallbacks,
    (rows_of_managed hrun hcandid rfl hfallbacks).1, by decide +kernel⟩

end Service

end Signpost
