import Mathlib
import Signpost.Proofs.ManagementSteps

/-!
# Runs of tasks

The five tasks are one thing done five times: a task is refused before the
store is asked, or it is a plan that runs as one transaction and tells which
link it was about, and only once that is committed are the link's entries
cleared and the event announced. `Manage.Task` names the tasks as data,
`Task.plan?` gives the plan of each, and `after_eq` says that the tasks of the
service are no more than that.

What a committed plan did to the tables can then be said once. On a candid
store, whose outages fail queries but never answer in its place, a task either
leaves links and rules alone, whatever it failed at, or it was committed and
`Task.Commits` holds of the tables before and after. A run is a sequence of
such tasks by any callers, with anything in between that leaves links and
rules alone; outages may be arranged there, so every step of every task of a
run may be one that fails.
-/

namespace Signpost

/-! ## Candid stores stay candid -/

namespace Plan

variable {α β : Type} {now : Clock} {s s' : Store}

theorem run_candid (p : Plan α) : ∀ {s : Store}, s.IsCandid →
    (p.run now s).2.IsCandid := by
  induction p with
  | done a => intro s h; exact h
  | stop f => intro s h; exact h
  | ask q next ih =>
      intro s h
      rw [run]
      split
      · next answer s₁ hask => exact ih answer (h.ask_ok hask).1
      · next f s₁ hask =>
          obtain ⟨hc, -⟩ := h.ask_error hask
          split
          · next answer _ => exact ih answer hc
          · exact hc

/-- A transaction on a candid store does all of its plan or changes no row. -/
theorem transact_of_candid {p : Plan α} {result : Except Failure α}
    (h : s.IsCandid) (ht : p.transact now s = (result, s')) :
    s'.IsCandid ∧
      ((∃ a s₁, result = .ok a ∧ p.run now s = (.ok a, s₁) ∧
          s'.database = s₁.database) ∨
        ∃ f, result = .error f ∧ s'.database = s.database) := by
  have hrun : (p.run now s).2.IsCandid := run_candid p h
  rw [transact] at ht
  split at ht
  · next a after hp =>
      rw [hp] at hrun
      have hpass := (hrun.pass .commit).2
      rw [commit] at ht
      split at ht
      · next kind s₁ hcommit =>
          rw [hcommit] at hpass
          cases ht
          exact ⟨hpass, .inr ⟨_, rfl, rfl⟩⟩
      · next passage s₁ _ hcommit =>
          rw [hcommit] at hpass
          cases ht
          refine ⟨hpass, .inl ⟨a, after, rfl, hp, ?_⟩⟩
          rw [← Store.pass_database after .commit, hcommit]
  · next f after hp =>
      rw [hp] at hrun
      cases ht
      exact ⟨hrun, .inr ⟨f, rfl, rfl⟩⟩

theorem transact_map (f : α → β) (p : Plan α) (s : Store) :
    (f <$> p).transact now s =
      ((p.transact now s).1.map f, (p.transact now s).2) := by
  have hrun : (f <$> p).run now s =
      ((p.run now s).1.map f, (p.run now s).2) := by
    show (p >>= fun a => done (f a)).run now s = _
    rw [run_bind]
    cases p.run now s with
    | mk result s₁ => cases result <;> rfl
  rw [transact, transact, hrun]
  cases p.run now s with
  | mk result after =>
      cases result with
      | error e => rfl
      | ok a =>
          show commit s.database (f a) after = _
          dsimp only
          rw [commit, commit]
          split <;> rfl

end Plan

namespace Service

theorem transact_map {α β : Type} (s : Service) (f : α → β) (p : Plan α) :
    s.transact (f <$> p) = ((s.transact p).1.map f, (s.transact p).2) := by
  rw [transact, transact, Plan.transact_map]

end Service

/-! ## Tasks as data -/

namespace Manage

/-- What a caller may ask to be done. -/
inductive Task
  | createRule (link : Int) (d : RuleDraft)
  | createFromTemplate (link : Int) (use : TemplateUse)
  | updateRule (link rule : Int) (changes : RuleChanges)
  | deleteRule (link rule : Int)
  | updateSettings (link : Int) (settings : LinkSettings)

namespace Task

def link : Task → Int
  | createRule link _ | createFromTemplate link _ | updateRule link ..
  | deleteRule link _ | updateSettings link _ => link

/-- What the task is given passed its check. -/
def IsChecked : Task → Prop
  | createRule _ d => ∃ source path j, RuleDraft.check source path j = .passed d
  | createFromTemplate _ use =>
      ∃ source path j, TemplateUse.check source path j = .passed use
  | updateRule _ _ changes =>
      ∃ source path j, RuleChanges.check source path j = .passed changes
  | deleteRule .. => True
  | updateSettings _ settings =>
      ∃ source path j, LinkSettings.check source path j = .passed settings

/-- The link that a task on a rule was about, and the event to announce. -/
def told (kind : RuleEvent.Kind) (c : Caller) (x : Link × Rule) :
    Link × Option RuleEvent :=
  (x.1, some (.about kind x.2 x.1.id c.requester.userId))

/-- A plan whose destination, if it has one, has to be public. -/
def guarded? {α : Type} (target : Option String) (p : Plan α) :
    Option (Plan α) :=
  if target.all Net.isSafeUrl then some p else none

/-- The plan of a task, which tells the link that it was about and the event to
announce. There is none for a task that is refused beforehand. -/
def plan? (most : Int) (now : Clock) (c : Caller) :
    Task → Option (Plan (Link × Option RuleEvent))
  | createRule link d => guarded? (some d.targetUrl)
      (told .created c <$> Manage.createRule most now link c d)
  | createFromTemplate link use =>
      (Template.find? use.key).bind fun t => (t.draft use).toOption.bind fun d =>
        guarded? (some d.targetUrl)
          (told .created c <$> Manage.createRule most now link c d)
  | updateRule link rule changes => guarded? changes.targetUrl.toOption
      (told .updated c <$> Manage.updateRule link rule c changes)
  | deleteRule link rule =>
      some (told .deleted c <$> Manage.deleteRule link rule c)
  | updateSettings link settings => guarded? settings.defaultUrl.toOption
      ((fun l => (l, none)) <$> Manage.updateSettings link c settings)

end Task

end Manage

/-! ## Tasks are transactions, and then the cache is cleared -/

namespace Service

open Manage (Task Caller)

variable {s : Service} {most : Int} {c : Caller}

/-- The service after a task, however it ended. -/
def after (s : Service) (most : Int) (c : Caller) : Task → Service
  | .createRule link d => (s.createRule most link c d).2
  | .createFromTemplate link use => (s.createFromTemplate most link c use).2
  | .updateRule link rule changes => (s.updateRule link rule c changes).2
  | .deleteRule link rule => (s.deleteRule link rule c).2
  | .updateSettings link settings => (s.updateSettings link c settings).2

/-- Runs a plan, if there is one, as one transaction. -/
def carryOut {α : Type} (s : Service) : Option (Plan α) → Option α × Service
  | none => (none, s)
  | some p => ((s.transact p).1.toOption, (s.transact p).2)

/-- A task up to its commit. -/
def commitTask (s : Service) (most : Int) (c : Caller) (t : Task) :
    Option (Link × Option RuleEvent) × Service :=
  s.carryOut (t.plan? most s.now c)

/-- A task after its commit: the entries of the link are cleared and the event
is announced. -/
def publish (s : Service) (told : Link × Option RuleEvent) : Service :=
  { s.forgetLink told.1 with events := s.events ++ told.2.toList }

/-- A task from its commit on. -/
def finish : Option (Link × Option RuleEvent) × Service → Service
  | (some told, s) => s.publish told
  | (none, s) => s

theorem guarded_eq {α : Type} (target : Option String)
    (task : Service → Outcome α) :
    (s.guarded target task).2 =
      if target.all Net.isSafeUrl then (task s).2 else s := by
  cases target with
  | none => rfl
  | some t =>
      rw [guarded]
      show (if Net.isSafeUrl t = true then task s else _).2 =
        if Net.isSafeUrl t = true then (task s).2 else s
      split <;> rfl

theorem finish_guarded? {target : Option String}
    {p : Plan (Link × Option RuleEvent)} :
    finish (s.carryOut (Task.guarded? target p)) =
      if target.all Net.isSafeUrl then finish (s.carryOut (some p)) else s := by
  rw [Task.guarded?]
  split <;> rfl

theorem onRule_eq (task : StoreTask) (kind : RuleEvent.Kind)
    (p : Plan (Link × Rule)) :
    (s.onRule task kind c.requester p).2 =
      finish (s.carryOut (some (Task.told kind c <$> p))) := by
  rw [carryOut, transact_map, onRule]
  cases s.transact p with
  | mk result s' => cases result <;> rfl

theorem createRule_eq (link : Int) (d : RuleDraft) :
    (s.createRule most link c d).2 =
      finish (s.commitTask most c (.createRule link d)) := by
  rw [createRule, guarded_eq, onRule_eq, commitTask, Task.plan?,
    finish_guarded?]

/-- A task of the service is a transaction of its plan, and the rest. -/
theorem after_eq (s : Service) (most : Int) (c : Caller) (t : Task) :
    s.after most c t = finish (s.commitTask most c t) := by
  cases t with
  | createRule link d => exact createRule_eq link d
  | createFromTemplate link use =>
      rw [after, createFromTemplate, commitTask, Task.plan?]
      cases Template.find? use.key with
      | none => rfl
      | some t =>
          dsimp only [Option.bind_some]
          cases t.draft use with
          | failed faults => rfl
          | passed d => exact createRule_eq link d
  | updateRule link rule changes =>
      rw [after, updateRule, guarded_eq, onRule_eq, commitTask, Task.plan?,
        finish_guarded?]
  | deleteRule link rule =>
      rw [after, commitTask, Task.plan?, carryOut, transact_map, deleteRule]
      cases s.transact (Manage.deleteRule link rule c) with
      | mk result s' => cases result <;> rfl
  | updateSettings link settings =>
      rw [after, updateSettings, guarded_eq, commitTask, Task.plan?,
        finish_guarded?, carryOut, transact_map]
      cases s.transact (Manage.updateSettings link c settings) with
      | mk result s' =>
          cases result with
          | error f => rfl
          | ok l =>
              show (if _ then s'.forgetLink l else s) =
                if _ then { s'.forgetLink l with events := s'.events ++ [] }
                else s
              rw [List.append_nil]
              rfl

/-- A task whose payload passed its check leaves behind what such a task
does. -/
theorem manages_after {t : Task} (h : t.IsChecked) (s : Service) (most : Int)
    (c : Caller) : s.Manages (s.after most c t) := by
  cases t with
  | createRule link d =>
      obtain ⟨_, _, _, hd⟩ := h
      exact .createRule most link c hd
  | createFromTemplate link use => exact .createFromTemplate most link c use
  | updateRule link rule changes =>
      obtain ⟨_, _, _, hc⟩ := h
      exact .updateRule link rule c hc
  | deleteRule link rule => exact .deleteRule link rule c
  | updateSettings link settings => exact .updateSettings link c settings

end Service

/-! ## What a committed task did -/

namespace Manage

/-- What a task that was committed did to the links and the rules, the link
that it is about being there. -/
inductive Task.Alters (most : Int) (now : Clock) (d d' : Database) (l : Link) :
    Task → Prop
  | created {link : Int} {draft : RuleDraft}
      (hroom : (d.rulesOf l.id).length < most)
      (hrules : d'.rules = d.rules ++ [.ofNew
        (Database.nextId (d.rules.map (·.id))) now (.ofDraft l.id now draft)])
      (hlinks : d'.links = (if l.isSmartRouting then d
        else d.modifyLink l.id fun l =>
          { l with isSmartRouting := true }).links) :
      Alters most now d d' l (.createRule link draft)
  | drafted {link : Int} {use : TemplateUse} {t : Template} {draft : RuleDraft}
      (ht : Template.find? use.key = some t)
      (hdraft : t.draft use = .passed draft)
      (h : Alters most now d d' l (.createRule link draft)) :
      Alters most now d d' l (.createFromTemplate link use)
  | updated {link rule : Int} {changes : RuleChanges} {old : Rule}
      (hold : d.rule? rule = some old) (hof : old.linkId = l.id)
      (hrules : d'.rules = (d.modifyRule old.id fun r =>
        r.withChanges changes now).rules)
      (hlinks : d'.links = d.links) :
      Alters most now d d' l (.updateRule link rule changes)
  | deleted {link rule : Int} {r : Rule} (hr : d.rule? rule = some r)
      (hof : r.linkId = l.id)
      (hrules : d'.rules = d.rules.filter (·.id != r.id))
      (hlinks : d'.links = (if (d'.rulesOf l.id).isEmpty then
          d.modifyLink l.id fun l => { l with isSmartRouting := false }
        else d).links) :
      Alters most now d d' l (.deleteRule link rule)
  | settled {link : Int} {settings : LinkSettings}
      (hrules : d'.rules = d.rules)
      (hlinks : d'.links = (d.modifyLink l.id fun l =>
        l.withSettings settings).links) :
      Alters most now d d' l (.updateSettings link settings)

/-- What a task that was committed was about, and what it did. -/
structure Task.Commits (most : Int) (now : Clock) (c : Caller)
    (d d' : Database) (t : Task) (l : Link) : Prop where
  found : d.link? t.link = some l
  owner : c.requester.mayManage l.userId = true
  rows : t.Alters most now d d' l

namespace Task

variable {most : Int} {now : Clock} {c : Caller} {s s' : Store} {t : Task}
  {d d' : Database} {l : Link}

theorem run_map_ok {α β : Type} {f : α → β} {p : Plan α} {b : β}
    (h : (f <$> p).run now s = (.ok b, s')) :
    ∃ a, p.run now s = (.ok a, s') ∧ b = f a := by
  have h : (p >>= fun a => Plan.done (f a)).run now s = (.ok b, s') := h
  obtain ⟨a, s₁, hp, hdone⟩ := Plan.run_bind_ok h
  cases hdone
  exact ⟨a, hp, rfl⟩

theorem guarded?_some {α : Type} {target : Option String} {p q : Plan α}
    (h : guarded? target p = some q) : q = p := by
  rw [guarded?] at h
  split at h
  · exact (Option.some.inj h).symm
  · cases h

theorem commits_of_create {link : Int} {draft : RuleDraft}
    {told : Link × Option RuleEvent} (hs : s.IsCandid)
    (hrun : (Task.told .created c <$> Manage.createRule most now link c draft).run
      now s = (.ok told, s')) :
    ∃ l, (createRule link draft).Commits most now c s.database s'.database l ∧
      told.1 = l := by
  obtain ⟨⟨l, r⟩, hplan, rfl⟩ := run_map_ok hrun
  obtain ⟨hlink, hmay, hroom, hr, hrules, hlinks, -⟩ := createRule_ok hs hplan
  exact ⟨l, ⟨hlink, hmay, .created hroom (hr ▸ hrules) hlinks⟩, rfl⟩

/-- A plan of a task that ends well did what its task says, and tells the
link. -/
theorem commits_of_plan? {p : Plan (Link × Option RuleEvent)}
    {told : Link × Option RuleEvent} (hs : s.IsCandid)
    (hp : t.plan? most now c = some p) (hrun : p.run now s = (.ok told, s')) :
    ∃ l, t.Commits most now c s.database s'.database l ∧
      told.1.id = l.id ∧ told.1.slug = l.slug := by
  cases t with
  | createRule link draft =>
      obtain rfl := guarded?_some hp
      obtain ⟨l, h, rfl⟩ := commits_of_create hs hrun
      exact ⟨_, h, rfl, rfl⟩
  | createFromTemplate link use =>
      obtain ⟨t, ht, hp⟩ := Option.bind_eq_some_iff.mp hp
      obtain ⟨draft, hdraft, hp⟩ := Option.bind_eq_some_iff.mp hp
      obtain rfl := guarded?_some hp
      obtain ⟨l, h, rfl⟩ := commits_of_create hs hrun
      cases hpassed : t.draft use with
      | failed faults => rw [hpassed] at hdraft; cases hdraft
      | passed found =>
          rw [hpassed] at hdraft
          cases hdraft
          exact ⟨_, ⟨h.found, h.owner, .drafted ht hpassed h.rows⟩, rfl, rfl⟩
  | updateRule link rule changes =>
      obtain rfl := guarded?_some hp
      obtain ⟨⟨l, r⟩, hplan, rfl⟩ := run_map_ok hrun
      obtain ⟨old, hlink, hmay, hold, hof, -, hrules, hlinks, -⟩ :=
        updateRule_ok hs hplan
      exact ⟨l, ⟨hlink, hmay, .updated hold hof hrules hlinks⟩, rfl, rfl⟩
  | deleteRule link rule =>
      cases hp
      obtain ⟨⟨l, r⟩, hplan, rfl⟩ := run_map_ok hrun
      obtain ⟨hlink, hmay, hr, hof, hrules, hlinks⟩ := deleteRule_ok hs hplan
      exact ⟨l, ⟨hlink, hmay, .deleted hr hof hrules hlinks⟩, rfl, rfl⟩
  | updateSettings link settings =>
      obtain rfl := guarded?_some hp
      obtain ⟨l, hplan, rfl⟩ := run_map_ok hrun
      obtain ⟨old, hlink, hmay, hl, hrules, hlinks, -⟩ :=
        updateSettings_ok hs hplan
      exact ⟨old, ⟨hlink, hmay, .settled hrules hlinks⟩, by rw [hl]; rfl,
        by rw [hl]; rfl⟩

/-- Links are changed in place and keep their numbers and slugs. -/
theorem Alters.links (h : t.Alters most now d d' l) :
    ∃ f : Link → Link, (∀ x, (f x).id = x.id ∧ (f x).slug = x.slug) ∧
      d'.links = d.links.map f := by
  have hmodify : ∀ g : Link → Link,
      (∀ x, (g x).id = x.id ∧ (g x).slug = x.slug) →
      ∃ f : Link → Link, (∀ x, (f x).id = x.id ∧ (f x).slug = x.slug) ∧
        (d.modifyLink l.id g).links = d.links.map f := by
    intro g hg
    refine ⟨fun x => if x.id == l.id then g x else x, fun x => ?_, rfl⟩
    dsimp only
    split
    · exact hg x
    · exact ⟨rfl, rfl⟩
  have hsame : ∃ f : Link → Link, (∀ x, (f x).id = x.id ∧ (f x).slug = x.slug) ∧
      d.links = d.links.map f :=
    ⟨fun x => x, fun _ => ⟨rfl, rfl⟩, (List.map_id' _).symm⟩
  induction h with
  | created _ _ hlinks =>
      rw [hlinks]
      split
      · exact hsame
      · exact hmodify _ fun _ => ⟨rfl, rfl⟩
  | drafted _ _ _ ih => exact ih
  | updated _ _ _ hlinks => rw [hlinks]; exact hsame
  | deleted _ _ _ hlinks =>
      rw [hlinks]
      split
      · exact hmodify _ fun _ => ⟨rfl, rfl⟩
      · exact hsame
  | settled _ hlinks => rw [hlinks]; exact hmodify _ fun _ => ⟨rfl, rfl⟩

end Task

end Manage

namespace Service

open Manage (Task Caller)

variable {s s' : Service} {most : Int} {c : Caller} {t : Task}

theorem carryOut_cases {α : Type} (p? : Option (Plan α))
    (hs : s.store.IsCandid) :
    (s.carryOut p?).2.store.IsCandid ∧
      ((∃ p a store, p? = some p ∧ (s.carryOut p?).1 = some a ∧
          p.run s.now s.store = (.ok a, store) ∧
          (s.carryOut p?).2.store.database = store.database) ∨
        (s.carryOut p?).1 = none ∧
          (s.carryOut p?).2.store.database = s.store.database) := by
  cases p? with
  | none => exact ⟨hs, .inr ⟨rfl, rfl⟩⟩
  | some p =>
      rw [carryOut, transact]
      cases ht : p.transact s.now s.store with
      | mk result store =>
          obtain ⟨hc, hcases⟩ := Plan.transact_of_candid hs ht
          refine ⟨hc, ?_⟩
          rcases hcases with ⟨a, s₁, rfl, hrun, hd⟩ | ⟨f, rfl, hd⟩
          · exact .inl ⟨p, a, s₁, rfl, rfl, hrun, hd⟩
          · exact .inr ⟨rfl, hd⟩

/-- A task is committed, and tells its link, or leaves the rows alone. -/
theorem commitTask_cases (hs : s.store.IsCandid) :
    (s.commitTask most c t).2.store.IsCandid ∧
      ((∃ told l, (s.commitTask most c t).1 = some told ∧
          t.Commits most s.now c s.store.database
            (s.commitTask most c t).2.store.database l ∧
          told.1.id = l.id ∧ told.1.slug = l.slug) ∨
        (s.commitTask most c t).1 = none ∧
          (s.commitTask most c t).2.store.database = s.store.database) := by
  obtain ⟨hc, hcases⟩ := carryOut_cases (t.plan? most s.now c) hs
  refine ⟨hc, ?_⟩
  rcases hcases with ⟨p, told, store, hp, htold, hrun, hd⟩ | hnone
  · obtain ⟨l, hcommits, hid, hslug⟩ := Task.commits_of_plan? hs hp hrun
    refine .inl ⟨told, l, htold, ?_, hid, hslug⟩
    rw [commitTask, hd]
    exact hcommits
  · exact .inr hnone

theorem finish_store (x : Option (Link × Option RuleEvent) × Service) :
    (finish x).store = x.2.store := by
  obtain ⟨told, s⟩ := x
  cases told <;> rfl

theorem after_cases (hs : s.store.IsCandid) :
    (s.after most c t).store.IsCandid ∧
      ((∃ l, t.Commits most s.now c s.store.database
          (s.after most c t).store.database l) ∨
        (s.after most c t).store.database = s.store.database) := by
  rw [after_eq, finish_store]
  obtain ⟨hc, ⟨_, l, -, hcommits, -⟩ | ⟨-, hd⟩⟩ := commitTask_cases hs
  · exact ⟨hc, .inl ⟨l, hcommits⟩⟩
  · exact ⟨hc, .inr hd⟩

/-! ## Runs -/

/-- Runs of tasks of a kind by any callers. In between anything may happen that
leaves links and rules alone and the store candid. -/
inductive Managed (most : Int) (allowed : Task → Prop) (first : Service) :
    Service → Prop
  | start : Managed most allowed first first
  | task {s : Service} (h : Managed most allowed first s) {t : Task}
      (ht : allowed t) (c : Caller) :
      Managed most allowed first (s.after most c t)
  | meanwhile {s s' : Service} (h : Managed most allowed first s)
      (hcandid : s'.store.IsCandid)
      (hlinks : s'.store.database.links = s.store.database.links)
      (hrules : s'.store.database.rules = s.store.database.rules) :
      Managed most allowed first s'

theorem Managed.isCandid {allowed : Task → Prop} {first : Service}
    (h : Managed most allowed first s) (hfirst : first.store.IsCandid) :
    s.store.IsCandid := by
  induction h with
  | start => exact hfirst
  | task _ _ _ ih => exact (after_cases ih).1
  | meanwhile _ hcandid => exact hcandid

/-- What holds of the first tables, hangs on links and rules alone, and is kept
by every task that is committed holds after every run. -/
theorem Managed.database_of {allowed : Task → Prop} {first : Service}
    {P : Database → Prop} (h : Managed most allowed first s)
    (hcandid : first.store.IsCandid) (hfirst : P first.store.database)
    (hsame : ∀ d d' : Database, d'.links = d.links → d'.rules = d.rules →
      P d → P d')
    (hstep : ∀ now c t d d' l, allowed t →
      Task.Commits most now c d d' t l → P d → P d') :
    P s.store.database := by
  induction h with
  | start => exact hfirst
  | task h ht c ih =>
      obtain ⟨-, ⟨l, hcommits⟩ | hd⟩ := after_cases (h.isCandid hcandid)
      · exact hstep _ _ _ _ _ l ht hcommits ih
      · rw [hd]
        exact ih
  | meanwhile _ _ hlinks hrules ih => exact hsame _ _ hlinks hrules ih

end Service

end Signpost
