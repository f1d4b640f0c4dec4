import Mathlib
import Signpost.Proofs.Credits
import Signpost.Proofs.FailedTasks
import Signpost.Proofs.RuleLimit

/-!
# The announced events mirror the rules

Whoever reads the events from the start and keeps a table of his own, one line
for each rule, has the table of rules: a rule that was created or changed is
written down with its link, its name, its destination and its priority, and
one that was deleted is crossed out. The events say what the rules were at
their commits, the last of a deleted rule before it went, and numbers that are
used again only write over lines that were crossed out.

There is one event for each task that ended well and was about a rule, and
none for any other: a task that fails announces nothing, and one that was
committed does not fail as long as the counts of its rule can be shown.
-/

namespace Signpost

/-! ## Reading events -/

/-- What events tell of a rule. -/
structure RuleOutline where
  linkId : Int
  name : String
  targetUrl : String
  priority : Int
deriving DecidableEq, Repr

def Rule.outline (r : Rule) : RuleOutline :=
  ⟨r.linkId, r.name, r.targetUrl, r.priority⟩

namespace RuleEvent

/-- The line that an event leaves of its rule. -/
def outline? (e : RuleEvent) : Option RuleOutline :=
  match e.kind with
  | .created | .updated => some ⟨e.linkId, e.name, e.targetUrl, e.priority⟩
  | .deleted => none

/-- A table of rules after one more event was read. -/
def note (table : Int → Option RuleOutline) (e : RuleEvent) :
    Int → Option RuleOutline :=
  fun id => if id = e.ruleId then e.outline? else table id

/-- The table of somebody who read some events and nothing before them. -/
def replay (events : List RuleEvent) : Int → Option RuleOutline :=
  events.foldl note fun _ => none

theorem replay_append (events more : List RuleEvent) :
    replay (events ++ more) = more.foldl note (replay events) :=
  List.foldl_append

end RuleEvent

namespace Database

variable {d d' : Database} {r : Rule}

/-- The table of rules as events tell it. -/
def outlines (d : Database) (id : Int) : Option RuleOutline :=
  (d.rule? id).map Rule.outline

theorem outlines_append (hrules : d'.rules = d.rules ++ [r])
    (hid : r.id = nextId (d.rules.map (·.id))) (id : Int) :
    d'.outlines id = if id = r.id then some r.outline else d.outlines id := by
  -- The next number is above all others, so nothing is written over.
  have hfresh : ∀ x ∈ d.rules, x.id ≠ r.id := by
    intro x hx heq
    have hless := le_nextId x.id (List.mem_map_of_mem hx)
    exact hless.ne (heq.trans hid)
  rw [outlines, rule?, hrules, List.find?_append, outlines, rule?]
  split
  · next heq =>
      subst heq
      have hnone : d.rules.find? (·.id == r.id) = none :=
        List.find?_eq_none.mpr fun x hx => by simpa using hfresh x hx
      rw [hnone]
      simp
  · next hne =>
      have hother : [r].find? (·.id == id) = none := by
        simpa using fun heq => hne heq.symm
      rw [hother, Option.or_none]

theorem outlines_modify {f : Rule → Rule} (hf : ∀ x, (f x).id = x.id)
    (hr : d.rule? r.id = some r)
    (hrules : d'.rules = (d.modifyRule r.id f).rules) (id : Int) :
    d'.outlines id = if id = r.id then some (f r).outline
      else d.outlines id := by
  have hkey : ∀ x : Rule, ((if x.id == r.id then f x else x).id == id) =
      (x.id == id) := by
    intro x
    split
    · rw [hf]
    · rfl
  rw [outlines, rule?, hrules, modifyRule, List.find?_map]
  simp only [Function.comp_def, hkey]
  split
  · next heq =>
      subst heq
      rw [rule?] at hr
      rw [hr]
      simp
  · next hne =>
      rw [outlines, rule?]
      cases hx : d.rules.find? (·.id == id) with
      | none => rfl
      | some x =>
          have hid : x.id = id := by simpa using List.find?_some hx
          simp [hid, hne]

theorem outlines_filter (hrules : d'.rules = d.rules.filter (·.id != r.id))
    (id : Int) :
    d'.outlines id = if id = r.id then none else d.outlines id := by
  rw [outlines, rule?, hrules, outlines, rule?, List.find?_filter]
  split
  · next heq =>
      subst heq
      rw [List.find?_eq_none.mpr fun x _ => by simp]
      rfl
  · next hne =>
      refine congrArg _ (List.find?_congr fun x _ => ?_)
      by_cases hx : x.id = id
      · simp [hx, hne]
      · simp [hx]

/-- Where numbers are not used twice, the outlines are those of the rows. -/
theorem outlines_eq_some (hids : (d.rules.map (·.id)).Nodup) {id : Int}
    {x : RuleOutline} :
    d.outlines id = some x ↔ ∃ r ∈ d.rules, r.id = id ∧ r.outline = x := by
  rw [outlines, Option.map_eq_some_iff]
  constructor
  · rintro ⟨r, hr, hx⟩
    exact ⟨r, mem_of_rule? hr, rule?_id hr, hx⟩
  · rintro ⟨r, hr, rfl, hx⟩
    refine ⟨r, ?_, hx⟩
    cases hfound : d.rule? r.id with
    | none => simpa using List.find?_eq_none.mp hfound r hr
    | some y =>
        rw [List.inj_on_of_nodup_map hids (mem_of_rule? hfound) hr
          (rule?_id hfound)]

end Database

/-! ## What a task announces -/

/-- A task that is about a rule, and not about the settings of a link. -/
def Manage.Task.isOnRule : Manage.Task → Bool
  | updateSettings .. => false
  | _ => true

namespace Service

open Manage (Task Caller)

variable {s s' : Service} {most : Int} {c : Caller} {t : Task}

/-- Whether a task changed the rules: it is about one, and ended well. -/
def changesRules (s : Service) (most : Int) (c : Caller) (t : Task) : Bool :=
  t.isOnRule && (s.ending most c t).isOk

/-- So many events were announced, and reading them brings a table of rules
up to date. -/
def Announces (s : Service) (count : Nat) (s' : Service) : Prop :=
  ∃ told, s'.events = s.events ++ told ∧ told.length = count ∧
    s'.store.database.outlines =
      told.foldl RuleEvent.note s.store.database.outlines

theorem announces_none (hevents : s'.events = s.events)
    (hrules : s'.store.database.rules = s.store.database.rules) :
    s.Announces 0 s' := by
  refine ⟨[], by rw [hevents, List.append_nil], rfl, ?_⟩
  funext id
  rw [Database.outlines, Database.rule?, hrules]
  rfl

theorem announces_guarded {α : Type} {target : Option String}
    {task : Service → Outcome α}
    (h : s.Announces (task s).1.isOk.toNat (task s).2) :
    s.Announces (s.guarded target task).1.isOk.toNat
      (s.guarded target task).2 := by
  cases target with
  | none => exact h
  | some url =>
      rw [guarded]
      split
      · exact h
      · exact announces_none rfl rfl

/-- A task on a rule is announced when it is committed, and when it is
committed it ends well: the rule can be shown. -/
theorem announces_onRule (hs : s.store.IsCandid) {task : StoreTask}
    {kind : RuleEvent.Kind} {who : Requester} {p : Plan (Link × Rule)}
    (hp : ∀ x s₁, p.run s.now s.store = (.ok x, s₁) →
      hasPlace x.2.matchCount = true ∧ s₁.database.outlines =
        (RuleEvent.about kind x.2 x.1.id who.userId).note
          s.store.database.outlines) :
    s.Announces (s.onRule task kind who p).1.isOk.toNat
      (s.onRule task kind who p).2 := by
  rw [onRule, transact]
  cases ht : p.transact s.now s.store with
  | mk result store =>
      obtain ⟨-, ⟨x, s₁, rfl, hrun, hd⟩ | ⟨f, rfl, hd⟩⟩ :=
        Plan.transact_of_candid hs ht
      · obtain ⟨hcount, hread⟩ := hp x s₁ hrun
        have hshown : shown x.2 = .ok x.2 := by
          rw [shown, Rule.checked_of_hasPlace hcount]
          rfl
        refine ⟨[.about kind x.2 x.1.id who.userId], rfl, ?_, ?_⟩
        · show _ = (shown x.2).isOk.toNat
          rw [hshown]
          rfl
        · show store.database.outlines = _
          rw [hd, hread]
          rfl
      · exact announces_none rfl (congrArg Database.rules hd)

theorem announces_createRule (hs : s.store.IsCandid) (link : Int)
    (d : RuleDraft) :
    s.Announces (s.createRule most link c d).1.isOk.toNat
      (s.createRule most link c d).2 := by
  refine announces_guarded (announces_onRule hs ?_)
  rintro ⟨l, r⟩ s₁ hrun
  obtain ⟨-, -, -, hr, hrules, -, -⟩ := Manage.createRule_ok hs hrun
  have hof : r.linkId = l.id := by rw [hr]; rfl
  refine ⟨by rw [hr]; rfl, ?_⟩
  funext id
  rw [Database.outlines_append hrules (by rw [hr]; rfl), Rule.outline, hof]
  rfl

theorem announces_updateRule (hs : s.store.IsCandid)
    (hcounts : s.store.database.HoldsCounts) (link rule : Int)
    (changes : RuleChanges) :
    s.Announces (s.updateRule link rule c changes).1.isOk.toNat
      (s.updateRule link rule c changes).2 := by
  refine announces_guarded (announces_onRule hs ?_)
  rintro ⟨l, r⟩ s₁ hrun
  obtain ⟨old, -, -, hold, hof, rfl, hrules, -, -⟩ :=
    Manage.updateRule_ok hs hrun
  refine ⟨hcounts old (Database.mem_of_rule? hold), ?_⟩
  have hkept : (old.withChanges changes s.now).linkId = l.id := hof
  have hold' : s.store.database.rule? old.id = some old := by
    rw [Database.rule?_id hold]
    exact hold
  funext id
  rw [Database.outlines_modify (f := fun r => r.withChanges changes s.now)
    (fun _ => rfl) hold' hrules, Rule.outline, hkept]
  rfl

theorem announces_deleteRule (hs : s.store.IsCandid) (link rule : Int) :
    s.Announces (s.deleteRule link rule c).1.isOk.toNat
      (s.deleteRule link rule c).2 := by
  rw [deleteRule, transact]
  cases ht : (Manage.deleteRule link rule c).transact s.now s.store with
  | mk result store =>
      obtain ⟨-, ⟨⟨l, r⟩, s₁, rfl, hrun, hd⟩ | ⟨f, rfl, hd⟩⟩ :=
        Plan.transact_of_candid hs ht
      · obtain ⟨-, -, -, -, hrules, -⟩ := Manage.deleteRule_ok hs hrun
        rw [← hd] at hrules
        refine ⟨[.about .deleted r l.id c.requester.userId], rfl, rfl, ?_⟩
        funext id
        exact Database.outlines_filter hrules id
      · exact announces_none rfl (congrArg Database.rules hd)

theorem announces_updateSettings (hs : s.store.IsCandid) (link : Int)
    (settings : LinkSettings) :
    s.Announces 0 (s.updateSettings link c settings).2 := by
  rw [updateSettings, guarded_eq]
  split
  · rw [transact]
    cases ht : (Manage.updateSettings link c settings).transact s.now
        s.store with
    | mk result store =>
        obtain ⟨-, ⟨l, s₁, rfl, hrun, hd⟩ | ⟨f, rfl, hd⟩⟩ :=
          Plan.transact_of_candid hs ht
        · obtain ⟨-, -, -, -, hrules, -, -⟩ :=
            Manage.updateSettings_ok hs hrun
          exact announces_none rfl ((congrArg Database.rules hd).trans hrules)
        · exact announces_none rfl (congrArg Database.rules hd)
  · exact announces_none rfl rfl

theorem isOk_map {α β : Type} (f : α → β) (result : Except Failure α) :
    (result.map f).isOk = result.isOk := by
  cases result <;> rfl

/-- A task announces one event if it changed the rules, and none otherwise,
and whoever reads it is up to date. -/
theorem announces_after (hs : s.store.IsCandid)
    (hcounts : s.store.database.HoldsCounts) (most : Int) (c : Caller)
    (t : Task) :
    s.Announces (s.changesRules most c t).toNat (s.after most c t) := by
  cases t with
  | createRule link d =>
      rw [changesRules, ending, isOk_map]
      exact announces_createRule hs link d
  | createFromTemplate link use =>
      rw [changesRules, ending, isOk_map]
      show s.Announces (s.createFromTemplate most link c use).1.isOk.toNat
        (s.createFromTemplate most link c use).2
      rw [createFromTemplate]
      split
      · exact announces_none rfl rfl
      · split
        · exact announces_none rfl rfl
        · exact announces_createRule hs link _
  | updateRule link rule changes =>
      rw [changesRules, ending, isOk_map]
      exact announces_updateRule hs hcounts link rule changes
  | deleteRule link rule => exact announces_deleteRule hs link rule
  | updateSettings link settings =>
      exact announces_updateSettings hs link settings

/-! ## Runs -/

/-- Runs of tasks by any callers, and how many of them changed the rules. In
between anything may happen that announces nothing, leaves the rules as they
are but for counts that have their places, and leaves the store candid. -/
inductive Recorded (most : Int) (first : Service) : Nat → Service → Prop
  | start : Recorded most first 0 first
  | task {n : Nat} {s : Service} (h : Recorded most first n s) (c : Caller)
      (t : Task) :
      Recorded most first (n + (s.changesRules most c t).toNat)
        (s.after most c t)
  | meanwhile {n : Nat} {s s' : Service} (h : Recorded most first n s)
      (hcandid : s'.store.IsCandid) (hevents : s'.events = s.events)
      (hrules : s'.store.database.rules.map Rule.uncounted =
        s.store.database.rules.map Rule.uncounted)
      (hcounts : s'.store.database.HoldsCounts) :
      Recorded most first n s'

theorem outlines_of_uncounted {d d' : Database}
    (h : d'.rules.map Rule.uncounted = d.rules.map Rule.uncounted) :
    d'.outlines = d.outlines := by
  have huncounted : ∀ (d : Database) (id : Int), d.outlines id =
      ((d.rules.map Rule.uncounted).find? (·.id == id)).map Rule.outline := by
    intro d id
    rw [List.find?_map, Option.map_map]
    rfl
  funext id
  rw [huncounted, h, ← huncounted]

theorem holdsCounts_after (hs : s.store.IsCandid)
    (hcounts : s.store.database.HoldsCounts) (most : Int) (c : Caller)
    (t : Task) : (s.after most c t).store.database.HoldsCounts := by
  intro r hr
  rcases after_adds hs most c t with ⟨added, -, hadds⟩ | ⟨-, hkeeps⟩
  · rw [hadds.rules] at hr
    rcases List.mem_append.mp hr with hr | hr
    · exact hcounts r hr
    · rw [List.mem_singleton.mp hr, hadds.matchCount]
      rfl
  · obtain ⟨x, hx, -, hcount⟩ := hkeeps r hr
    rw [← hcount]
    exact hcounts x hx

/-- What holds after every run that began without rules, some events having
been announced since. -/
structure Mirrors (s : Service) (told : List RuleEvent) : Prop where
  candid : s.store.IsCandid
  counts : s.store.database.HoldsCounts
  ids : (s.store.database.rules.map (·.id)).Nodup
  read : s.store.database.outlines = RuleEvent.replay told

theorem Mirrors.after {told : List RuleEvent} (h : s.Mirrors told) (most : Int)
    (c : Caller) (t : Task) :
    ∃ more, (s.after most c t).events = s.events ++ more ∧
      more.length = (s.changesRules most c t).toNat ∧
      (s.after most c t).Mirrors (told ++ more) := by
  obtain ⟨more, hevents, hcount, hread⟩ :=
    announces_after h.candid h.counts most c t
  refine ⟨more, hevents, hcount, (after_cases h.candid).1,
    holdsCounts_after h.candid h.counts most c t, ?_, ?_⟩
  · obtain ⟨-, ⟨l, hcommits⟩ | hd⟩ := @after_cases s most c t h.candid
    · exact hcommits.rows.nodup h.ids
    · rw [hd]
      exact h.ids
  · rw [hread, h.read, RuleEvent.replay_append]

theorem Recorded.mirrors {n : Nat} {first : Service}
    (h : Recorded most first n s) (hcandid : first.store.IsCandid)
    (hrules : first.store.database.rules = []) :
    ∃ told, s.events = first.events ++ told ∧ told.length = n ∧
      s.Mirrors told := by
  -- The run may go on only from a store that commits what it says, so this is
  -- carried along with what was read.
  induction h with
  | start =>
      refine ⟨[], (List.append_nil _).symm, rfl, hcandid, ?_, ?_, ?_⟩
      · intro r hr
        rw [hrules] at hr
        cases hr
      · rw [hrules]
        exact List.nodup_nil
      · funext id
        rw [Database.outlines, Database.rule?, hrules]
        rfl
  | task _ c t ih =>
      obtain ⟨told, hevents, hcount, hmirrors⟩ := ih
      obtain ⟨more, hmore, hadded, hafter⟩ := hmirrors.after most c t
      refine ⟨told ++ more, ?_, ?_, hafter⟩
      · rw [hmore, hevents, List.append_assoc]
      · rw [List.length_append, hcount, hadded]
  | meanwhile _ hcandid hevents hsame hcounts ih =>
      obtain ⟨told, htold, hcount, hmirrors⟩ := ih
      refine ⟨told, hevents.trans htold, hcount, hcandid, hcounts, ?_, ?_⟩
      · rw [Rule.ids_of_uncounted hsame]
        exact hmirrors.ids
      · rw [outlines_of_uncounted hsame]
        exact hmirrors.read

/-- The events of a run that began without rules: reading them gives the table
of rules, and there are as many as tasks that changed the rules. -/
theorem replay_of_recorded {n : Nat} {first : Service}
    (h : Recorded most first n s) (hcandid : first.store.IsCandid)
    (hrules : first.store.database.rules = []) :
    ∃ told, s.events = first.events ++ told ∧ told.length = n ∧
      ∀ id x, RuleEvent.replay told id = some x ↔
        ∃ r ∈ s.store.database.rules, r.id = id ∧ r.outline = x := by
  obtain ⟨told, hevents, hcount, hmirrors⟩ := h.mirrors hcandid hrules
  refine ⟨told, hevents, hcount, fun id x => ?_⟩
  rw [← hmirrors.read]
  exact Database.outlines_eq_some hmirrors.ids

/-- The service with one link, after a rule was added, deleted, and added
again. -/
def restarted : Service :=
  ((withLink.after 50 owner (.createRule 1 elsewhereDraft)).after 50 owner
    (.deleteRule 1 1)).after 50 owner (.createRule 1 elsewhereDraft)

/-- The number of the deleted rule is used again, and a rule that is not there
is not deleted. -/
theorem replay_restarted :
    Recorded 50 withLink 3 (restarted.after 50 owner (.deleteRule 1 7)) ∧
    withLink.store.IsCandid ∧ withLink.store.database.rules = [] ∧
    ∃ told, (restarted.after 50 owner (.deleteRule 1 7)).events = told ∧
      told.length = 3 ∧ RuleEvent.replay told 1 =
        some ⟨1, "sample", "https://t.example.com", 0⟩ := by
  have hstart : Recorded 50 withLink 0 withLink := .start
  have hrun := (((hstart.task owner (.createRule 1 elsewhereDraft)).task owner
    (.deleteRule 1 1)).task owner (.createRule 1 elsewhereDraft)).task owner
      (.deleteRule 1 7)
  have hcount : 0 + (withLink.changesRules 50 owner
        (.createRule 1 elsewhereDraft)).toNat +
      ((withLink.after 50 owner (.createRule 1 elsewhereDraft)).changesRules
        50 owner (.deleteRule 1 1)).toNat +
      (((withLink.after 50 owner (.createRule 1 elsewhereDraft)).after 50 owner
        (.deleteRule 1 1)).changesRules 50 owner
          (.createRule 1 elsewhereDraft)).toNat +
      (restarted.changesRules 50 owner (.deleteRule 1 7)).toNat = 3 := by
    decide +kernel
  rw [← restarted, hcount] at hrun
  have hcandid : withLink.store.IsCandid := isInitial_withLink.sound.isCandid
  obtain ⟨told, hevents, hlength, hread⟩ := replay_of_recorded hrun hcandid rfl
  refine ⟨hrun, hcandid, rfl, told, hevents, hlength, (hread _ _).mpr ?_⟩
  decide +kernel

end Service

end Signpost
