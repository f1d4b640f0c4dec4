import Mathlib
import Signpost.Proofs.Requests

/-!
# Tasks do not hang on the audit trail

What a task does and tells is the same whether the audit trail takes its
entries or not. The trail is written in the middle of a transaction, with the
changes of the task made and not yet committed; an entry that the store fails
to take is passed over there and then, and no other query of a task looks at
the trail.

`withoutTrail` is a database, a store or a service as it is seen by somebody
who cannot see the trail: its rows, whether its table is there, and the
outages that await its entries are left out. Asking anything else gives the
same answer with it and without it, recording changes nothing but it, and so
two services that differ in the trail alone still do after a task.
-/

namespace Signpost

/-! ## Out of sight of the trail -/

/-- The query concerns the audit trail. -/
def Query.isAboutTrail : Query → Bool
  | .recordAudit _ | .auditOf .. => true
  | _ => false

namespace Database

variable {d : Database} {now : Clock} {q : Query}

def withoutTrail (d : Database) : Database :=
  { d with
    audit := [] }

theorem link?_withoutTrail (d : Database) (id : Int) :
    d.withoutTrail.link? id = d.link? id := rfl

theorem rule?_withoutTrail (d : Database) (id : Int) :
    d.withoutTrail.rule? id = d.rule? id := rfl

theorem addMatches_withoutTrail (counts : List (Int × Int)) :
    ∀ d : Database, d.withoutTrail.addMatches counts =
      (d.addMatches counts).withoutTrail := by
  induction counts with
  | nil => exact fun d => rfl
  | cons x rest ih => exact fun d => ih (d.modifyRule x.1 (·.addMatches x.2))

/-- What is not about the trail is answered without it. -/
theorem run_withoutTrail (d : Database) (now : Clock)
    (hq : q.isAboutTrail = false) :
    d.withoutTrail.run now q =
      (d.run now q).map fun x => (x.1, x.2.withoutTrail) := by
  cases q with
  | recordAudit note => cases hq
  | auditOf entityType entityId => cases hq
  | addMatches counts =>
      rw [run, run, addMatches_withoutTrail]
      rfl
  | updateLink id settings =>
      rw [run, run, link?_withoutTrail]
      cases d.link? id <;> rfl
  | updateRule id changes =>
      rw [run, run, rule?_withoutTrail]
      cases d.rule? id <;> rfl
  | addLink l =>
      rw [run, run]
      show (if (d.linkBySlug? l.slug).isSome = true then _ else _) = _
      split <;> rfl
  | addRule r =>
      rw [run, run, link?_withoutTrail]
      split <;> rfl
  | hasLink filters =>
      rw [run, run]
      split <;> rfl
  | ownedLink | linkBySlug | addBareLink | setFlag | hasRoom | hasRules
  | ruleOfLink | rulesOf | activeRulesOf | addBareRule | deleteRule => rfl

end Database

namespace Outage

variable {outages : List Outage} {point : StorePoint}

def isElsewhere (o : Outage) : Bool :=
  o.point != .recordAudit

theorem filter_elsewhere (o : Outage) (times : Nat) (older : List Outage) :
    ({ o with times := times } :: older).filter isElsewhere =
      if o.isElsewhere then
        { o with times := times } :: older.filter isElsewhere
      else older.filter isElsewhere :=
  List.filter_cons

/-- Outages that await entries of the trail are not met elsewhere. -/
theorem pass_elsewhere (hpoint : point ≠ .recordAudit)
    (outages : List Outage) :
    pass point (outages.filter isElsewhere) =
      ((pass point outages).1, (pass point outages).2.1,
        (pass point outages).2.2.filter isElsewhere) := by
  induction outages with
  | nil => rfl
  | cons o older ih =>
      cases ho : o.isElsewhere with
      | false =>
          have hskip : ¬ (o.point = point ∧ o.times ≠ 0) := by
            rintro ⟨hsame, -⟩
            rw [isElsewhere, hsame] at ho
            simp [hpoint] at ho
          rw [List.filter_cons_of_neg (by simp [ho]), ih, pass, if_neg hskip,
            List.filter_cons_of_neg (by simp [ho])]
      | true =>
          rw [List.filter_cons_of_pos ho, pass, pass]
          split
          · split <;> simp only [filter_elsewhere, ho, if_true, ih]
          · rw [ih, List.filter_cons_of_pos ho]

/-- Entries of the trail meet no other outages than those that await them, and
when these bring no matches along none arrive. -/
theorem pass_recordAudit
    (hquiet : ∀ o ∈ outages, o.point = .recordAudit → o.arrivals = []) :
    (pass .recordAudit outages).2.1 = [] ∧
      (pass .recordAudit outages).2.2.filter isElsewhere =
        outages.filter isElsewhere := by
  induction outages with
  | nil => exact ⟨rfl, rfl⟩
  | cons o older ih =>
      obtain ⟨ho, holder⟩ := List.forall_mem_cons.mp hquiet
      obtain ⟨hnone, hrest⟩ := ih holder
      rw [pass]
      split
      · next hmet =>
          have haway : o.isElsewhere = false := by simp [isElsewhere, hmet.1]
          have hdrop : (o :: older).filter isElsewhere =
              older.filter isElsewhere :=
            List.filter_cons_of_neg (by simp [haway])
          have hused : ∀ rest : List Outage,
              ({ o with times := o.times - 1 } :: rest).filter isElsewhere =
                rest.filter isElsewhere := by
            intro rest
            rw [filter_elsewhere, haway]
            rfl
          rw [hdrop]
          split
          · exact ⟨ho hmet.1, hused older⟩
          · exact ⟨ho hmet.1, hused older⟩
          · refine ⟨?_, (hused _).trans hrest⟩
            show o.arrivals ++ (pass .recordAudit older).2.1 = []
            rw [ho hmet.1, hnone, List.append_nil]
      · exact ⟨hnone, by rw [List.filter_cons, List.filter_cons, hrest]⟩

theorem pass_recordsQuietly (point : StorePoint)
    (hquiet : ∀ o ∈ outages, o.point = .recordAudit → o.arrivals = []) :
    ∀ o ∈ (pass point outages).2.2, o.point = .recordAudit →
      o.arrivals = [] := by
  induction outages with
  | nil => exact hquiet
  | cons o older ih =>
      obtain ⟨ho, holder⟩ := List.forall_mem_cons.mp hquiet
      have hrest := ih holder
      rw [pass]
      split
      · split
        · exact List.forall_mem_cons.mpr ⟨ho, holder⟩
        · exact List.forall_mem_cons.mpr ⟨ho, holder⟩
        · exact List.forall_mem_cons.mpr ⟨ho, hrest⟩
      · exact List.forall_mem_cons.mpr ⟨ho, hrest⟩

end Outage

namespace Store

variable {s s' : Store} {now : Clock} {q : Query} {point : StorePoint}

def withoutTrail (s : Store) : Store where
  database := s.database.withoutTrail
  missing := s.missing.filter (· != .audit)
  outages := s.outages.filter Outage.isElsewhere
  arrivals := s.arrivals

/-- No match is counted while the trail takes its entries. -/
def RecordsQuietly (s : Store) : Prop :=
  ∀ o ∈ s.outages, o.point = .recordAudit → o.arrivals = []

theorem pass_withoutTrail (hpoint : point ≠ .recordAudit) (s : Store) :
    s.withoutTrail.pass point =
      ((s.pass point).1, (s.pass point).2.withoutTrail) := by
  rw [pass, withoutTrail, Outage.pass_elsewhere hpoint]
  rfl

theorem passAll_withoutTrail {points : List StorePoint}
    (hpoints : .recordAudit ∉ points) : ∀ s : Store,
    s.withoutTrail.passAll points =
      ((s.passAll points).1, (s.passAll points).2.withoutTrail) := by
  induction points with
  | nil => exact fun s => rfl
  | cons point rest ih =>
      obtain ⟨hpoint, hrest⟩ := not_or.mp (mt List.mem_cons.mpr hpoints)
      intro s
      rw [passAll, passAll, pass_withoutTrail (Ne.symm hpoint)]
      cases s.pass point with
      | mk passage s₁ =>
          cases passage with
          | proceeds => exact ih hrest s₁
          | fails kind => rfl
          | isAnswered reply => rfl

theorem not_mem_points (hq : q.isAboutTrail = false) :
    StorePoint.recordAudit ∉ q.points := by
  cases q with
  | recordAudit note => cases hq
  | ownedLink link who => cases hrole : who.role <;> simp [Query.points, hrole]
  | _ => simp [Query.points]

theorem not_mem_tables (hq : q.isAboutTrail = false) :
    Table.audit ∉ q.tables := by
  cases q with
  | recordAudit note => cases hq
  | auditOf entityType entityId => cases hq
  | addMatches counts => cases counts <;> simp [Query.tables]
  | _ => simp [Query.tables]

theorem obstacle?_withoutTrail (hq : q.isAboutTrail = false) (s : Store) :
    s.withoutTrail.obstacle? q = s.obstacle? q := by
  have htables : q.tables.find? s.withoutTrail.missing.contains =
      q.tables.find? s.missing.contains := by
    refine List.find?_congr fun t ht => ?_
    have hne : t ≠ .audit := fun h => not_mem_tables hq (h ▸ ht)
    simp [withoutTrail, hne]
  rw [obstacle?, htables, obstacle?]

/-- What is not about the trail is answered in the same way without it. -/
theorem ask_withoutTrail (hq : q.isAboutTrail = false) (s : Store) :
    s.withoutTrail.ask now q =
      ((s.ask now q).1, (s.ask now q).2.withoutTrail) := by
  have hrows : ∀ s : Store, s.withoutTrail.askRows now q =
      ((s.askRows now q).1, (s.askRows now q).2.withoutTrail) := by
    intro s
    rw [askRows, askRows, obstacle?_withoutTrail hq]
    cases s.obstacle? q with
    | some f => rfl
    | none =>
        dsimp only
        rw [withoutTrail, Database.run_withoutTrail _ _ hq]
        cases s.database.run now q <;> rfl
  rw [ask, ask, passAll_withoutTrail (not_mem_points hq)]
  cases s.passAll q.points with
  | mk stopped s₁ =>
      cases stopped with
      | none => exact hrows s₁
      | some stop =>
          obtain ⟨point, passage⟩ := stop
          cases passage with
          | proceeds => exact hrows s₁
          | fails kind => rfl
          | isAnswered reply =>
              dsimp only
              cases q.answerOf? reply <;> rfl

theorem ask_recordAudit (hquiet : s.RecordsQuietly) (note : AuditNote) :
    (s.ask now (.recordAudit note)).2.withoutTrail = s.withoutTrail := by
  have hpass : (s.pass .recordAudit).2.withoutTrail = s.withoutTrail := by
    obtain ⟨hnone, hrest⟩ := Outage.pass_recordAudit hquiet
    rw [pass, withoutTrail, withoutTrail]
    dsimp only
    rw [hnone, hrest, List.append_nil]
  have hrows : ∀ s : Store, (s.askRows now (.recordAudit note)).2.withoutTrail =
      s.withoutTrail := by
    intro s
    rw [askRows]
    split <;> rfl
  rw [ask, Query.points, passAll]
  cases hs : s.pass .recordAudit with
  | mk passage s₁ =>
      rw [hs] at hpass
      cases passage with
      | proceeds => exact (hrows s₁).trans hpass
      | fails kind => exact hpass
      | isAnswered reply => exact hpass

theorem RecordsQuietly.passAll (points : List StorePoint) : ∀ {s : Store},
    s.RecordsQuietly → (s.passAll points).2.RecordsQuietly := by
  induction points with
  | nil => exact fun h => h
  | cons point rest ih =>
      intro s h
      have hpass : (s.pass point).2.RecordsQuietly :=
        Outage.pass_recordsQuietly point h
      rw [Store.passAll]
      split
      · next s₁ hs =>
          rw [hs] at hpass
          exact ih hpass
      · next stopped s₁ _ hs =>
          rw [hs] at hpass
          exact hpass

theorem RecordsQuietly.ask (h : s.RecordsQuietly) (q : Query) :
    (s.ask now q).2.RecordsQuietly := by
  have hpass := RecordsQuietly.passAll q.points h
  rw [Store.ask]
  split
  · next s₁ hs =>
      rw [hs] at hpass
      exact hpass
  · next s₁ hs =>
      rw [hs] at hpass
      split <;> exact hpass
  · next s₁ _ _ hs =>
      rw [hs] at hpass
      rw [askRows]
      split
      · exact hpass
      · split <;> exact hpass

/-- Two stores that differ in the trail alone. -/
structure IsTwin (s s' : Store) : Prop where
  same : s.withoutTrail = s'.withoutTrail
  quiet : s.RecordsQuietly
  quiet' : s'.RecordsQuietly

theorem IsTwin.withDatabase (h : s.IsTwin s') {d d' : Database}
    (hd : d.withoutTrail = d'.withoutTrail) :
    { s with database := d }.IsTwin { s' with database := d' } where
  same := by
    show { s.withoutTrail with database := d.withoutTrail } =
      { s'.withoutTrail with database := d'.withoutTrail }
    rw [h.same, hd]
  quiet := h.quiet
  quiet' := h.quiet'

theorem IsTwin.commit (h : s.IsTwin s') :
    (s.pass .commit).1 = (s'.pass .commit).1 ∧
      (s.pass .commit).2.IsTwin (s'.pass .commit).2 := by
  have hpoint : StorePoint.commit ≠ .recordAudit := by decide
  have hs := pass_withoutTrail hpoint s
  rw [h.same, pass_withoutTrail hpoint] at hs
  obtain ⟨hpassage, hstore⟩ := Prod.mk.inj hs
  exact ⟨hpassage.symm, hstore.symm, Outage.pass_recordsQuietly .commit h.quiet,
    Outage.pass_recordsQuietly .commit h.quiet'⟩

theorem IsTwin.ask (h : s.IsTwin s') (hq : q.isAboutTrail = false) :
    (s.ask now q).1 = (s'.ask now q).1 ∧
      (s.ask now q).2.IsTwin (s'.ask now q).2 := by
  have hs : s.withoutTrail.ask now q = _ := ask_withoutTrail hq s
  rw [h.same, ask_withoutTrail hq] at hs
  obtain ⟨hanswer, hstore⟩ := Prod.mk.inj hs
  exact ⟨hanswer.symm, hstore.symm, h.quiet.ask q, h.quiet'.ask q⟩

theorem IsTwin.record (h : s.IsTwin s') (note : AuditNote) :
    (s.ask now (.recordAudit note)).2.IsTwin
      (s'.ask now (.recordAudit note)).2 where
  same := by
    rw [ask_recordAudit h.quiet, ask_recordAudit h.quiet', h.same]
  quiet := h.quiet.ask _
  quiet' := h.quiet'.ask _

end Store

/-! ## Plans that record -/

namespace Plan

variable {α β : Type} {now : Clock} {s s' : Store}

/-- What came of a query that records. -/
def recording? : (q : Query) → Except StoreFailure q.Answer →
    Option (Except StoreFailure Unit)
  | .recordAudit _, result => some result
  | _, _ => none

/-- What came of each of the entries that a plan puts into the trail. -/
def recordings (now : Clock) : Plan α → Store → List (Except StoreFailure Unit)
  | done _, _ => []
  | stop _, _ => []
  | ask q next, s =>
    (recording? q (s.ask now q).1).toList ++
      match s.ask now q with
      | (.ok answer, s) => (next answer).recordings now s
      | (.error f, s) =>
        match spare? f q with
        | some answer => (next answer).recordings now s
        | none => []

/-- The entry was taken, or the store failed to take it. -/
def IsSpared (result : Except StoreFailure Unit) : Prop :=
  ∀ f, result = .error f → f.isOwn = true

/-- No entry of the trail keeps the plan from its end: each is taken, or passed
over. -/
def SparesTrail (now : Clock) (p : Plan α) (s : Store) : Prop :=
  ∀ r ∈ p.recordings now s, IsSpared r

/-- The plan never reads the trail. -/
def OverlooksTrail : Plan α → Prop
  | done _ => True
  | stop _ => True
  | ask q next =>
    (∀ entityType entityId, q ≠ .auditOf entityType entityId) ∧
      ∀ answer, (next answer).OverlooksTrail

theorem OverlooksTrail.bind {p : Plan α} {next : α → Plan β}
    (hp : p.OverlooksTrail) (hnext : ∀ a, (next a).OverlooksTrail) :
    (p >>= next).OverlooksTrail := by
  induction p with
  | done a => exact hnext a
  | stop f => trivial
  | ask q more ih => exact ⟨hp.1, fun answer => ih answer (hp.2 answer)⟩

theorem recordings_map (f : α → β) (p : Plan α) : ∀ s : Store,
    (f <$> p).recordings now s = p.recordings now s := by
  induction p with
  | done a => exact fun s => rfl
  | stop g => exact fun s => rfl
  | ask q next ih =>
      intro s
      show (ask q fun answer => f <$> next answer).recordings now s = _
      rw [recordings, recordings]
      congr 1
      split
      · exact ih _ _
      · split
        · exact ih _ _
        · rfl

theorem run_record {note : AuditNote} {next : Unit → Plan α}
    (hspared : (ask (.recordAudit note) next).SparesTrail now s) :
    (ask (.recordAudit note) next).run now s =
        (next ()).run now (s.ask now (.recordAudit note)).2 ∧
      (next ()).SparesTrail now (s.ask now (.recordAudit note)).2 := by
  rw [SparesTrail, recordings] at hspared
  rw [run]
  obtain ⟨hfirst, hrest⟩ := List.forall_mem_append.mp hspared
  cases hs : s.ask now (.recordAudit note) with
  | mk result s₁ =>
      rw [hs] at hfirst hrest
      cases result with
      | ok answer => exact ⟨rfl, hrest⟩
      | error f =>
          have hspare : spare? f (.recordAudit note) = some () := by
            rw [spare?, hfirst _ (List.mem_singleton.mpr rfl) f rfl]
            rfl
          dsimp only at hrest ⊢
          rw [hspare] at hrest ⊢
          exact ⟨rfl, hrest⟩

/-- A plan that does not read the trail ends alike on two stores that differ
in the trail alone, as long as no entry keeps it from its end. -/
theorem run_isTwin {p : Plan α} (hp : p.OverlooksTrail) :
    ∀ {s s' : Store}, s.IsTwin s' → p.SparesTrail now s →
      p.SparesTrail now s' →
      (p.run now s).1 = (p.run now s').1 ∧
        (p.run now s).2.IsTwin (p.run now s').2 := by
  induction p with
  | done a => exact fun h _ _ => ⟨rfl, h⟩
  | stop f => exact fun h _ _ => ⟨rfl, h⟩
  | ask q next ih =>
      intro s s' h hspared hspared'
      cases htrail : q.isAboutTrail with
      | false =>
          -- The answer is the same, and no failure of such a query is passed
          -- over.
          rw [SparesTrail, recordings] at hspared hspared'
          rw [run, run]
          have hnot : ∀ f, spare? f q = none := by
            intro f
            cases q <;> first | rfl | cases htrail
          obtain ⟨hanswer, htwin⟩ := @Store.IsTwin.ask _ _ now _ h htrail
          cases hs : s.ask now q with
          | mk result s₁ =>
              cases hs' : s'.ask now q with
              | mk result' s₁' =>
                  rw [hs] at hanswer htwin hspared
                  rw [hs'] at hanswer htwin hspared'
                  obtain rfl : result = result' := hanswer
                  cases result with
                  | error f =>
                      dsimp only
                      rw [hnot f]
                      exact ⟨rfl, htwin⟩
                  | ok answer =>
                      exact ih answer (hp.2 answer) htwin
                        (fun r hr => hspared r (List.mem_append_right _ hr))
                        (fun r hr => hspared' r (List.mem_append_right _ hr))
      | true =>
          cases q with
          | recordAudit note =>
              -- One store may take the entry and the other not; both go on.
              obtain ⟨hrun, hrest⟩ := run_record hspared
              obtain ⟨hrun', hrest'⟩ := run_record hspared'
              rw [hrun, hrun']
              exact ih () (hp.2 ()) (h.record note) hrest hrest'
          | auditOf entityType entityId => exact absurd rfl (hp.1 _ _)
          | _ => cases htrail

theorem commit_isTwin {d d' : Database}
    (hd : d.withoutTrail = d'.withoutTrail) (h : s.IsTwin s') (a : α) :
    (commit d a s).1 = (commit d' a s').1 ∧
      (commit d a s).2.IsTwin (commit d' a s').2 := by
  obtain ⟨hpassage, htwin⟩ := h.commit
  rw [commit, commit]
  cases hs : s.pass .commit with
  | mk passage s₁ =>
      cases hs' : s'.pass .commit with
      | mk passage' s₁' =>
          rw [hs, hs'] at hpassage htwin
          obtain rfl : passage = passage' := hpassage
          cases passage with
          | fails kind => exact ⟨rfl, htwin.withDatabase hd⟩
          | proceeds => exact ⟨rfl, htwin⟩
          | isAnswered reply => exact ⟨rfl, htwin⟩

theorem transact_isTwin {p : Plan α} (hp : p.OverlooksTrail)
    (h : s.IsTwin s') (hspared : p.SparesTrail now s)
    (hspared' : p.SparesTrail now s') :
    (p.transact now s).1 = (p.transact now s').1 ∧
      (p.transact now s).2.IsTwin (p.transact now s').2 := by
  have hd : s.database.withoutTrail = s'.database.withoutTrail :=
    congrArg Store.database h.same
  obtain ⟨hresult, htwin⟩ := run_isTwin hp h hspared hspared'
  rw [transact, transact]
  cases hs : p.run now s with
  | mk result s₁ =>
      cases hs' : p.run now s' with
      | mk result' s₁' =>
          rw [hs, hs'] at hresult htwin
          obtain rfl : result = result' := hresult
          cases result with
          | ok a => exact commit_isTwin hd htwin a
          | error f => exact ⟨rfl, htwin.withDatabase hd⟩

end Plan

/-! ## The plans of the tasks -/

namespace Manage

open Plan (OverlooksTrail)

variable {most : Int} {now : Clock} {c : Caller} {link rule : Int}

theorem overlooksTrail_query {q : Query}
    (hq : ∀ entityType entityId, q ≠ .auditOf entityType entityId) :
    (Plan.query q).OverlooksTrail :=
  ⟨hq, fun _ => trivial⟩

theorem ownedLink_overlooksTrail (link : Int) (who : Requester) :
    (ownedLink link who).OverlooksTrail := by
  refine ⟨nofun, fun answer => ?_⟩
  cases answer <;> trivial

theorem ruleOf_overlooksTrail (link rule : Int) :
    (ruleOf link rule).OverlooksTrail := by
  refine ⟨nofun, fun answer => ?_⟩
  cases answer <;> trivial

theorem record_overlooksTrail {α : Type} (action : Audit.Action)
    (entityId : Int) (before after : List (String × Json)) (a : α) :
    (do record c action entityId before after; pure a : Plan α).OverlooksTrail :=
  .bind (overlooksTrail_query nofun) fun _ => trivial

theorem setFlag_overlooksTrail {α : Type} {skip on : Bool} {id : Int}
    {next : Unit → Plan α} (hnext : (next ()).OverlooksTrail) :
    (if skip = true then next ()
      else Plan.query (.setFlag id on) >>= next).OverlooksTrail := by
  split
  · exact hnext
  · exact .bind (overlooksTrail_query nofun) fun _ => hnext

theorem createRule_overlooksTrail (d : RuleDraft) :
    (createRule most now link c d).OverlooksTrail := by
  refine .bind (ownedLink_overlooksTrail _ _) fun l => ?_
  refine .bind (overlooksTrail_query nofun) fun hasRoom => ?_
  split
  · trivial
  · refine setFlag_overlooksTrail ?_
    refine .bind (overlooksTrail_query nofun) fun r => ?_
    exact record_overlooksTrail _ _ _ _ _

theorem updateRule_overlooksTrail (changes : RuleChanges) :
    (updateRule link rule c changes).OverlooksTrail := by
  refine .bind (ownedLink_overlooksTrail _ _) fun l => ?_
  refine .bind (ruleOf_overlooksTrail _ _) fun old => ?_
  refine .bind (overlooksTrail_query nofun) fun r => ?_
  exact record_overlooksTrail _ _ _ _ _

theorem deleteRule_overlooksTrail :
    (deleteRule link rule c).OverlooksTrail := by
  refine .bind (ownedLink_overlooksTrail _ _) fun l => ?_
  refine .bind (ruleOf_overlooksTrail _ _) fun r => ?_
  refine .bind (overlooksTrail_query nofun) fun _ => ?_
  refine .bind (overlooksTrail_query nofun) fun hasRules => ?_
  refine setFlag_overlooksTrail ?_
  exact record_overlooksTrail _ _ _ _ _

theorem updateSettings_overlooksTrail (settings : LinkSettings) :
    (updateSettings link c settings).OverlooksTrail := by
  refine .bind (ownedLink_overlooksTrail _ _) fun old => ?_
  refine .bind (overlooksTrail_query nofun) fun l => ?_
  exact record_overlooksTrail _ _ _ _ _

end Manage

/-! ## Tasks -/

namespace Service

open Manage (Task Caller Answer)

variable {s s' : Service} {most : Int} {c : Caller} {t : Task}

/-- Two services that differ in the audit trail alone. -/
structure IsTwin (s s' : Service) : Prop where
  store : s.store.IsTwin s'.store
  rest : { s with store := s'.store } = s'

namespace IsTwin

theorem now (h : s.IsTwin s') : s'.now = s.now := by
  rw [← h.rest]

theorem withStore (h : s.IsTwin s') {store store' : Store}
    (hstore : store.IsTwin store') :
    (s.withStore store).IsTwin (s'.withStore store') where
  store := ⟨congrArg (fun x : Store => { x with arrivals := [] }) hstore.same,
    hstore.quiet, hstore.quiet'⟩
  rest := by
    have harrivals : store.withoutTrail.arrivals =
        store'.withoutTrail.arrivals := congrArg Store.arrivals hstore.same
    have harrivals : store.arrivals = store'.arrivals := harrivals
    rw [← h.rest, Service.withStore, harrivals]
    rfl

theorem forgetLink (h : s.IsTwin s') (l : Link) :
    (s.forgetLink l).IsTwin (s'.forgetLink l) where
  store := h.store
  rest := congrArg (fun x : Service => x.forgetLink l) h.rest

theorem announce (h : s.IsTwin s') (e : RuleEvent) :
    (s.announce e).IsTwin (s'.announce e) where
  store := h.store
  rest := congrArg (fun x : Service => x.announce e) h.rest

end IsTwin

/-- Two outcomes that tell the same and leave services that differ in the trail
alone. -/
def AreTwins {α : Type} (o o' : Outcome α) : Prop :=
  o.1 = o'.1 ∧ o.2.IsTwin o'.2

theorem AreTwins.map {α β : Type} {o o' : Outcome α} (h : AreTwins o o')
    (f : α → β) : AreTwins (o.map f) (o'.map f) :=
  ⟨congrArg (Except.map f) h.1, h.2⟩

theorem AreTwins.cases {α : Type} {o o' : Outcome α} (h : AreTwins o o') :
    ∃ result s₁ s₁', o = (result, s₁) ∧ o' = (result, s₁') ∧ s₁.IsTwin s₁' := by
  obtain ⟨result, s₁⟩ := o
  obtain ⟨result', s₁'⟩ := o'
  obtain ⟨rfl, htwin⟩ := h
  exact ⟨_, s₁, s₁', rfl, rfl, htwin⟩

/-- The plan of both services, and what came of the entries that it puts into
the trail of each. -/
structure Spares {α : Type} (s s' : Service) (p : Plan α) : Prop where
  overlooks : p.OverlooksTrail
  spared : p.SparesTrail s.now s.store
  spared' : p.SparesTrail s.now s'.store

theorem Spares.transact {α : Type} {p : Plan α} (hp : s.Spares s' p)
    (h : s.IsTwin s') : AreTwins (s.transact p) (s'.transact p) := by
  obtain ⟨hresult, hstore⟩ :=
    Plan.transact_isTwin hp.overlooks h.store hp.spared hp.spared'
  rw [Service.transact, Service.transact, h.now]
  exact ⟨hresult, h.withStore hstore⟩

theorem Spares.onRule {p : Plan (Link × Rule)} (hp : s.Spares s' p)
    (h : s.IsTwin s') (task : StoreTask) (kind : RuleEvent.Kind)
    (who : Requester) :
    AreTwins (s.onRule task kind who p) (s'.onRule task kind who p) := by
  obtain ⟨result, s₁, s₁', hs, hs', htwin⟩ := (hp.transact h).cases
  rw [Service.onRule, Service.onRule, hs, hs']
  cases result with
  | error f => exact ⟨rfl, htwin⟩
  | ok x => exact ⟨rfl, (htwin.forgetLink x.1).announce _⟩

theorem guarded_areTwins {α : Type} {target : Option String}
    {task : Service → Outcome α} (h : s.IsTwin s')
    (htask : target.all Net.isSafeUrl = true → AreTwins (task s) (task s')) :
    AreTwins (s.guarded target task) (s'.guarded target task) := by
  cases target with
  | none => exact htask rfl
  | some url =>
      rw [guarded, guarded]
      split
      · next hsafe => exact htask hsafe
      · exact ⟨rfl, h⟩

/-- What came of each of the entries that a task puts into the trail. -/
def recordings (s : Service) (most : Int) (c : Caller) (t : Task) :
    List (Except StoreFailure Unit) :=
  ((t.plan? most s.now c).map fun p => p.recordings s.now s.store).getD []

/-- No entry of the trail keeps a task from its end: each is taken, or passed
over. -/
def SparesTrail (s : Service) (most : Int) (c : Caller) (t : Task) : Prop :=
  ∀ r ∈ s.recordings most c t, Plan.IsSpared r

/-- The plan of a task that is not refused puts the same entries into the
trail. -/
theorem spares_of_plan? {α : Type} {f : α → Link × Option RuleEvent}
    {p : Plan α} (h : s.IsTwin s') (hspared : s.SparesTrail most c t)
    (hspared' : s'.SparesTrail most c t)
    (hplan : t.plan? most s.now c = some (f <$> p))
    (hp : p.OverlooksTrail) : s.Spares s' p := by
  have hsame : ∀ x : Service, x.now = s.now → x.SparesTrail most c t →
      p.SparesTrail s.now x.store := by
    intro x hnow hx
    rw [SparesTrail, recordings, hnow, hplan, Option.map_some, Option.getD_some,
      Plan.recordings_map] at hx
    exact hx
  exact ⟨hp, hsame s rfl hspared, hsame s' h.now hspared'⟩

theorem createRule_areTwins {link : Int} {d : RuleDraft} (h : s.IsTwin s')
    (hspared : s.SparesTrail most c (.createRule link d))
    (hspared' : s'.SparesTrail most c (.createRule link d)) :
    AreTwins (s.createRule most link c d) (s'.createRule most link c d) := by
  refine guarded_areTwins h fun hsafe => ?_
  have hp := spares_of_plan? h hspared hspared' (if_pos hsafe)
    (Manage.createRule_overlooksTrail d)
  rw [h.now]
  exact hp.onRule h _ _ _

/-- A task does and tells the same whatever becomes of the entries that it puts
into the audit trail, as long as none of them fails in a way that is not the
store's own. -/
theorem perform_areTwins (h : s.IsTwin s') (most : Int) (c : Caller) (t : Task)
    (hspared : s.SparesTrail most c t) (hspared' : s'.SparesTrail most c t) :
    (s.perform most c t).1 = (s'.perform most c t).1 ∧
      (s.perform most c t).2.IsTwin (s'.perform most c t).2 := by
  cases t with
  | createRule link d =>
      exact (createRule_areTwins h hspared hspared').map _
  | createFromTemplate link use =>
      refine AreTwins.map ?_ _
      rw [createFromTemplate, createFromTemplate]
      cases htemplate : Template.find? use.key with
      | none => exact ⟨rfl, h⟩
      | some template =>
          dsimp only
          cases hdraft : template.draft use with
          | failed faults => exact ⟨rfl, h⟩
          | passed d =>
              have hsame : ∀ x : Service, x.SparesTrail most c
                  (.createFromTemplate link use) →
                    x.SparesTrail most c (.createRule link d) := by
                intro x hx
                rw [SparesTrail, recordings, Task.plan?, htemplate,
                  Option.bind_some, hdraft] at hx
                exact hx
              exact createRule_areTwins h (hsame s hspared) (hsame s' hspared')
  | updateRule link rule changes =>
      refine AreTwins.map (guarded_areTwins h fun hsafe => ?_) _
      have hp := spares_of_plan? h hspared hspared' (if_pos hsafe)
        (Manage.updateRule_overlooksTrail changes)
      exact hp.onRule h _ _ _
  | deleteRule link rule =>
      have hp := spares_of_plan? h hspared hspared' rfl
        Manage.deleteRule_overlooksTrail
      refine AreTwins.map ?_ _
      obtain ⟨result, s₁, s₁', hs, hs', htwin⟩ := (hp.transact h).cases
      rw [deleteRule, deleteRule, hs, hs']
      cases result with
      | error f => exact ⟨rfl, htwin⟩
      | ok x => exact ⟨rfl, (htwin.forgetLink x.1).announce _⟩
  | updateSettings link settings =>
      refine AreTwins.map (guarded_areTwins h fun hsafe => ?_) _
      have hp := spares_of_plan? h hspared hspared' (if_pos hsafe)
        (Manage.updateSettings_overlooksTrail settings)
      obtain ⟨result, s₁, s₁', hs, hs', htwin⟩ := (hp.transact h).cases
      rw [hs, hs']
      cases result with
      | error f => exact ⟨rfl, htwin⟩
      | ok l => exact ⟨rfl, htwin.forgetLink l⟩

/-- The service with one link, whose store will fail to take the next entry of
the trail. -/
def withFailingTrail : Service :=
  { withLink with
    store := withLink.store.arrange
      ⟨.recordAudit, 1, some .repository, [], none⟩ }

/-- The rule is added where the entry is taken, and where it is not. -/
theorem perform_withFailingTrail :
    withLink.IsTwin withFailingTrail ∧
    withLink.recordings 50 owner (.createRule 1 elsewhereDraft) = [.ok ()] ∧
    withFailingTrail.recordings 50 owner (.createRule 1 elsewhereDraft) =
      [.error (.arranged .repository)] ∧
    (withLink.perform 50 owner (.createRule 1 elsewhereDraft)).1 =
      (withFailingTrail.perform 50 owner (.createRule 1 elsewhereDraft)).1 ∧
    (withLink.perform 50 owner (.createRule 1 elsewhereDraft)).2.IsTwin
      (withFailingTrail.perform 50 owner (.createRule 1 elsewhereDraft)).2 ∧
    (withLink.perform 50 owner
      (.createRule 1 elsewhereDraft)).2.store.database.audit.length = 1 ∧
    (withFailingTrail.perform 50 owner
      (.createRule 1 elsewhereDraft)).2.store.database.audit.length = 0 ∧
    (withFailingTrail.perform 50 owner
      (.createRule 1 elsewhereDraft)).1.isOk = true := by
  have htwin : withLink.IsTwin withFailingTrail := by
    refine ⟨⟨rfl, nofun, ?_⟩, rfl⟩
    intro o ho _
    obtain rfl := List.mem_singleton.mp ho
    rfl
  have htaken : withLink.recordings 50 owner (.createRule 1 elsewhereDraft) =
      [.ok ()] := by
    rw [recordings, plan?_elsewhereDraft]
    rfl
  have hfailed : withFailingTrail.recordings 50 owner
      (.createRule 1 elsewhereDraft) = [.error (.arranged .repository)] := by
    rw [recordings, plan?_elsewhereDraft]
    rfl
  have hspared : withLink.SparesTrail 50 owner
      (.createRule 1 elsewhereDraft) := by
    rw [SparesTrail, htaken]
    rintro r hr f rfl
    cases List.mem_singleton.mp hr
  have hspared' : withFailingTrail.SparesTrail 50 owner
      (.createRule 1 elsewhereDraft) := by
    rw [SparesTrail, hfailed]
    rintro r hr f rfl
    cases List.mem_singleton.mp hr
    rfl
  obtain ⟨htold, hafter⟩ := perform_areTwins htwin 50 owner _ hspared hspared'
  exact ⟨htwin, htaken, hfailed, htold, hafter, by decide +kernel,
    by decide +kernel, by decide +kernel⟩

end Service

end Signpost
