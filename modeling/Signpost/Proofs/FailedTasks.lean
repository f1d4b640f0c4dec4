import Mathlib
import Signpost.Proofs.Arrivals
import Signpost.Proofs.CacheTransparency
import Signpost.Proofs.ManagementRuns

/-!
# Tasks that fail leave no trace

A task asks the store up to six times before it commits, and only then touches
the cache and the events. Whatever keeps it from its commit, a destination
that is not public, a link or a rule that is not there, the limit, or the
store at any one of its queries or at the commit itself, the rows of all three
tables are as they were, and so are the cache, the events and the tally.

One thing can go wrong after the commit: the rule that was committed has a
count that is no number any more and cannot be shown. Nothing else that a
caller is told comes from there.

`Plan.IsFailed` says that the store failed a plan, at whichever of its
queries. A failure of the store's own becomes the refusal that tells the
caller to try again; an entry of the audit trail that is not taken is passed
over and is no failure of the plan.
-/

namespace Signpost

/-! ## Plans that the store fails -/

namespace Plan

variable {α β : Type} {now : Clock} {s : Store} {f : StoreFailure}

/-- The store fails a plan: at a query that is not passed over, or at the
commit. -/
inductive IsFailed (now : Clock) : Plan α → Store → StoreFailure → Prop
  | query {q : Query} {next : q.Answer → Plan α} {s s' : Store}
      {f : StoreFailure} (hask : s.ask now q = (.error f, s'))
      (hspare : spare? f q = none) : IsFailed now (.ask q next) s f
  | later {q : Query} {next : q.Answer → Plan α} {s s' : Store}
      {answer : q.Answer} {f : StoreFailure}
      (hask : s.ask now q = (.ok answer, s'))
      (h : IsFailed now (next answer) s' f) : IsFailed now (.ask q next) s f
  | passedOver {q : Query} {next : q.Answer → Plan α} {s s' : Store}
      {answer : q.Answer} {f g : StoreFailure}
      (hask : s.ask now q = (.error g, s'))
      (hspare : spare? g q = some answer)
      (h : IsFailed now (next answer) s' f) : IsFailed now (.ask q next) s f
  | commit {a : α} {s s' : Store} {kind : FaultKind}
      (hpass : s.pass .commit = (.fails kind, s')) :
      IsFailed now (.done a) s (.arranged kind)

/-- A plan that is failed ends there, or is about to be committed and is not. -/
theorem IsFailed.run {p : Plan α} (h : p.IsFailed now s f) :
    (∃ s', p.run now s = (.error (.store f), s')) ∨
      ∃ a after kind s', p.run now s = (.ok a, after) ∧
        after.pass .commit = (.fails kind, s') ∧ f = .arranged kind := by
  induction h with
  | @query q next s s' f hask hspare =>
      refine .inl ⟨s', ?_⟩
      rw [Plan.run, hask]
      dsimp only
      rw [hspare]
  | later hask _ ih =>
      rw [Plan.run, hask]
      exact ih
  | passedOver hask hspare _ ih =>
      rw [Plan.run, hask]
      dsimp only
      rw [hspare]
      exact ih
  | commit hpass => exact .inr ⟨_, _, _, _, rfl, hpass, rfl⟩

theorem IsFailed.transact {p : Plan α} (h : p.IsFailed now s f) :
    (p.transact now s).1 = .error (.store f) := by
  rw [Plan.transact]
  rcases h.run with ⟨s', hrun⟩ | ⟨a, after, kind, s', hrun, hpass, rfl⟩
  · rw [hrun]
  · rw [hrun]
    dsimp only
    rw [Plan.commit, hpass]

/-- A transaction that does not come to its end leaves the rows as they were. -/
theorem transact_error {p : Plan α} {g : Failure}
    (h : (p.transact now s).1 = .error g) :
    (p.transact now s).2.database = s.database := by
  rw [transact] at h ⊢
  split at h
  · next a after hrun =>
      rw [commit] at h ⊢
      split at h
      · rfl
      · cases h
  · rfl

end Plan

/-! ## How tasks end -/

/-- What the store cannot do when it fails a task. -/
def Manage.Task.storeTask : Manage.Task → StoreTask
  | createRule .. | createFromTemplate .. => .createRule
  | updateRule .. => .updateRule
  | deleteRule .. => .deleteRule
  | updateSettings .. => .updateSettings

namespace Service

open Manage (Task Caller)

variable {s : Service} {most : Int} {c : Caller} {t : Task} {f : Failure}

/-- How a task ends. -/
def ending (s : Service) (most : Int) (c : Caller) : Task → Except Failure Unit
  | .createRule link d => (s.createRule most link c d).1.map fun _ => ()
  | .createFromTemplate link use =>
    (s.createFromTemplate most link c use).1.map fun _ => ()
  | .updateRule link rule changes =>
    (s.updateRule link rule c changes).1.map fun _ => ()
  | .deleteRule link rule => (s.deleteRule link rule c).1
  | .updateSettings link settings =>
    (s.updateSettings link c settings).1.map fun _ => ()

/-- A task ends with what its plan failed with, or well; what was committed may
still be impossible to show. -/
def EndsWith (task : StoreTask) {α : Type} (result : Except Failure α)
    (ended : Except Failure Unit) : Prop :=
  (∀ f, result = .error f → ended = .error (f.during task)) ∧
    ∀ a, result = .ok a →
      ended = .ok () ∨ ∃ faults, ended = .error (.invalid faults)

theorem endsWith_error (task : StoreTask) (α : Type) (f : Failure) :
    EndsWith task (.error f : Except Failure α) (.error (f.during task)) := by
  constructor
  · intro g hg
    cases hg
    rfl
  · intro a ha
    cases ha

theorem endsWith_ok {task : StoreTask} {α : Type} (a : α)
    {ended : Except Failure Unit}
    (h : ended = .ok () ∨ ∃ faults, ended = .error (.invalid faults)) :
    EndsWith task (.ok a) ended := by
  constructor
  · intro f hf
    cases hf
  · exact fun _ _ => h

theorem endsWith_onRule {α : Type} (g : Link × Rule → α) (task : StoreTask)
    (kind : RuleEvent.Kind) (who : Requester) (p : Plan (Link × Rule)) :
    EndsWith task (s.transact (g <$> p)).1
      ((s.onRule task kind who p).1.map fun _ => ()) := by
  rw [transact_map, onRule]
  cases s.transact p with
  | mk result s' =>
      cases result with
      | error f => exact endsWith_error task α f
      | ok x =>
          refine endsWith_ok (g x) ?_
          show (shown x.2).map _ = _ ∨ ∃ _, (shown x.2).map _ = _
          rw [shown]
          cases x.2.checked with
          | passed r => exact .inl rfl
          | failed faults => exact .inr ⟨faults, rfl⟩

theorem guarded_of_some {β : Type} (α : Type) {target : Option String}
    {p q : Plan β} (h : Task.guarded? target p = some q) :
    q = p ∧ ∀ task : Service → Outcome α, s.guarded target task = task s := by
  rw [Task.guarded?] at h
  split at h
  · next hsafe =>
      refine ⟨(Option.some.inj h).symm, fun task => ?_⟩
      cases target with
      | none => rfl
      | some t => exact if_pos hsafe
  · cases h

theorem endsWith_createRule {link : Int} {d : RuleDraft}
    {p : Plan (Link × Option RuleEvent)}
    (hp : (Task.createRule link d).plan? most s.now c = some p) :
    EndsWith .createRule (s.transact p).1
      ((s.createRule most link c d).1.map fun _ => ()) := by
  obtain ⟨rfl, hguarded⟩ := guarded_of_some Rule hp
  rw [createRule, hguarded]
  exact endsWith_onRule ..

/-- A task that is not refused beforehand ends as its plan does. -/
theorem endsWith_plan {p : Plan (Link × Option RuleEvent)}
    (hp : t.plan? most s.now c = some p) :
    EndsWith t.storeTask (s.transact p).1 (s.ending most c t) := by
  cases t with
  | createRule link d => exact endsWith_createRule hp
  | createFromTemplate link use =>
      obtain ⟨template, htemplate, hp⟩ := Option.bind_eq_some_iff.mp hp
      obtain ⟨d, hd, hp⟩ := Option.bind_eq_some_iff.mp hp
      rw [ending, createFromTemplate, htemplate]
      dsimp only
      cases hdraft : template.draft use with
      | failed faults => rw [hdraft] at hd; cases hd
      | passed d' =>
          rw [hdraft] at hd
          cases hd
          exact endsWith_createRule hp
  | updateRule link rule changes =>
      obtain ⟨rfl, hguarded⟩ := guarded_of_some Rule hp
      rw [ending, updateRule, hguarded]
      exact endsWith_onRule ..
  | deleteRule link rule =>
      cases hp
      rw [ending, deleteRule, transact_map]
      cases s.transact (Manage.deleteRule link rule c) with
      | mk result s' =>
          cases result with
          | error f => exact endsWith_error _ _ f
          | ok x => exact endsWith_ok _ (.inl rfl)
  | updateSettings link settings =>
      obtain ⟨rfl, hguarded⟩ := guarded_of_some Link hp
      rw [ending, updateSettings, hguarded, transact_map]
      cases s.transact (Manage.updateSettings link c settings) with
      | mk result s' =>
          cases result with
          | error f => exact endsWith_error _ _ f
          | ok l => exact endsWith_ok _ (.inl rfl)

/-! ## What is left of a task that fails -/

/-- All tables, the cache and the events are as before. So is the tally, but
for matches that were counted while the store was asked. -/
structure IsUntouched (s s' : Service) : Prop where
  database : s'.store.database = s.store.database
  cache : s'.cache = s.cache
  events : s'.events = s.events
  tally : s.store.IsQuiet → s'.tally = s.tally

theorem isUntouched_of_transact {α : Type} {p : Plan α}
    (h : (s.transact p).1 = .error f) : s.IsUntouched (s.transact p).2 where
  database := Plan.transact_error h
  cache := rfl
  events := rfl
  tally := fun hquiet => by rw [transact_of_isQuiet p hquiet]

/-- Whatever a task fails with, it leaves no trace, unless it was committed and
the rule that it was about cannot be shown. And a task that the store fails, at
any one of its queries or at the commit, is told to be tried again. -/
theorem isUntouched_of_failed (s : Service) (most : Int) (c : Caller)
    (t : Task) :
    (∀ f, s.ending most c t = .error f →
      s.IsUntouched (s.after most c t) ∨
        (∃ faults, f = .invalid faults) ∧
          (s.commitTask most c t).1.isSome = true) ∧
    ∀ p f, t.plan? most s.now c = some p → p.IsFailed s.now s.store f →
      f.isOwn = true → s.ending most c t =
        .error (.refused (.storeUnavailable t.storeTask f.message)) := by
  constructor
  · intro f hf
    rw [after_eq, commitTask]
    cases hp : t.plan? most s.now c with
    | none => exact .inl ⟨rfl, rfl, rfl, fun _ => rfl⟩
    | some p =>
        have hends := endsWith_plan hp
        rw [carryOut]
        cases hresult : (s.transact p).1 with
        | error g => exact .inl (isUntouched_of_transact hresult)
        | ok told =>
            refine .inr ⟨?_, rfl⟩
            rcases hends.2 told hresult with hok | ⟨faults, hfaults⟩
            · rw [hf] at hok
              cases hok
            · rw [hf] at hfaults
              cases hfaults
              exact ⟨faults, rfl⟩
  · intro p f hp hfailed hown
    have hresult : (s.transact p).1 = .error (.store f) := hfailed.transact
    rw [(endsWith_plan hp).1 _ hresult, Failure.during, if_pos hown]

theorem plan?_elsewhereDraft (now : Clock) :
    (Task.createRule 1 elsewhereDraft).plan? 50 now owner =
      some (Task.told .created owner <$>
        Manage.createRule 50 now 1 owner elsewhereDraft) := by
  have hpublic : Net.isSafeUrl elsewhereDraft.targetUrl = true := by
    decide +kernel
  rw [Task.plan?, Task.guarded?]
  exact if_pos hpublic

/-- The service with one link, whose store will fail the next commit. -/
def withFailingCommit : Service :=
  { withLink with
    store := withLink.store.arrange ⟨.commit, 1, some .repository, [], none⟩ }

/-- The flag was set, the rule was added and the entry of the audit trail was
taken when the commit failed. -/
theorem isUntouched_withFailingCommit :
    withFailingCommit.ending 50 owner (.createRule 1 elsewhereDraft) =
      .error (.refused (.storeUnavailable .createRule "injected fault")) ∧
    withFailingCommit.IsUntouched
      (withFailingCommit.after 50 owner (.createRule 1 elsewhereDraft)) := by
  have hatomic := isUntouched_of_failed withFailingCommit 50 owner
    (.createRule 1 elsewhereDraft)
  have hfailed : Plan.IsFailed ⟨0⟩ (Task.told .created owner <$>
      Manage.createRule 50 ⟨0⟩ 1 owner elsewhereDraft) withFailingCommit.store
      (.arranged .repository) :=
    .later rfl (.later rfl (.later rfl (.later rfl (.later rfl (.commit rfl)))))
  have hended := hatomic.2 _ _ (plan?_elsewhereDraft _) hfailed rfl
  refine ⟨hended, ?_⟩
  rcases hatomic.1 _ hended with huntouched | ⟨⟨faults, hinvalid⟩, -⟩
  · exact huntouched
  · cases hinvalid

end Service

end Signpost
