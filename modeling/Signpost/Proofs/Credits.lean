import Mathlib
import Signpost.Proofs.Arrivals
import Signpost.Proofs.TallyEntries
import Signpost.Proofs.CacheTransparency

/-!
# Whom a match is credited to

A match is counted under the number of the rule that it was, and a number is
all that the tally knows of a rule. Writing the tally moves what is pending
under a number to the count of the rule that has the number by then, and what
nobody has the number of is let go. Tasks touch no count and no tally. So what
a rule has, written and pending, grows with each redirection that names it and
with nothing else.

What it starts from is another matter. A new rule gets the number after the
greatest one in use, which may be the number of a rule that was deleted since
the tally was written last, and then the matches of that rule are pending for
the new one. The law says what they come to: a rule has the matches since it
was created and what was pending under its number at that moment.
-/

namespace Signpost

open Manage (Task Caller)

/-! ## Asking the store -/

theorem Plan.run_query_reads {now : Clock} {q : Query} {s : Store}
    (hs : s.IsCandid)
    (hq : ∀ answer d, s.database.run now q = .ok (answer, d) →
      d = s.database) :
    ((query q).run now s).2.IsCandid ∧
      ((query q).run now s).2.database = s.database := by
  rw [query, run]
  split
  · next answer s₁ hask =>
      obtain ⟨hc, hrun, -⟩ := hs.ask_ok hask
      exact ⟨hc, hq answer _ hrun⟩
  · next f s₁ hask =>
      split
      · exact hs.ask_error hask
      · exact hs.ask_error hask

namespace Service

variable {s s' : Service}

/-- The rules and the tally are as before, and nothing is arranged that would
answer in the store's place or bring matches along. -/
structure KeepsBooks (s s' : Service) : Prop where
  candid : s'.store.IsCandid
  quiet : s'.store.IsQuiet
  rules : s'.store.database.rules = s.store.database.rules
  tally : s'.tally = s.tally

namespace KeepsBooks

theorem trans {s'' : Service} (h : s.KeepsBooks s') (h' : s'.KeepsBooks s'') :
    s.KeepsBooks s'' where
  candid := h'.candid
  quiet := h'.quiet
  rules := h'.rules.trans h.rules
  tally := h'.tally.trans h.tally

variable (hcandid : s.store.IsCandid) (hquiet : s.store.IsQuiet)
include hcandid hquiet

theorem consult {q : Query}
    (hq : ∀ answer d, s.store.database.run s.now q = .ok (answer, d) →
      d = s.store.database) :
    s.KeepsBooks (s.consult (Plan.query q)).2 := by
  have hrun := Plan.run_query_reads hcandid hq
  have hquiet' : ((Plan.query q).run s.now s.store).2.IsQuiet :=
    Plan.run_isQuiet _ hquiet
  rw [consult_of_isQuiet _ hquiet]
  exact ⟨hrun.1, hquiet', congrArg Database.rules hrun.2, rfl⟩

theorem findLink (slug : String) : s.KeepsBooks (s.findLink slug).2 := by
  have hasked := consult hcandid hquiet (q := .linkBySlug slug)
    fun answer d h => (Prod.mk.inj (Except.ok.inj h)).2.symm
  rw [Service.findLink]
  split
  · exact ⟨hcandid, hquiet, rfl, rfl⟩
  · exact ⟨hcandid, hquiet, rfl, rfl⟩
  · split
    · next f s₁ hs =>
        rw [hs] at hasked
        exact hasked
    · next s₁ hs =>
        rw [hs] at hasked
        exact hasked
    · next l s₁ hs =>
        rw [hs] at hasked
        exact ⟨hasked.candid, hasked.quiet, hasked.rules, hasked.tally⟩

theorem pickRule (link : Int) (v : Visitor) :
    s.KeepsBooks (s.pickRule link v).2 := by
  have hasked := consult hcandid hquiet (q := .activeRulesOf link)
    fun answer d h => (Prod.mk.inj (Except.ok.inj h)).2.symm
  have hactive : s.KeepsBooks (s.activeRules link).2 := by
    rw [activeRules]
    split
    · exact ⟨hcandid, hquiet, rfl, rfl⟩
    · exact ⟨hcandid, hquiet, rfl, rfl⟩
    · split
      · next f s₁ hs =>
          rw [hs] at hasked
          exact hasked
      · next faults s₁ hs =>
          rw [hs] at hasked
          exact hasked
      · next rules s₁ hs =>
          rw [hs] at hasked
          split
          · exact hasked
          · exact ⟨hasked.candid, hasked.quiet, hasked.rules, hasked.tally⟩
  rw [Service.pickRule]
  split
  · next f s₁ hs =>
      rw [hs] at hactive
      exact hactive
  · next rules s₁ hs =>
      rw [hs] at hactive
      exact hactive

end KeepsBooks

/-- The rule that a redirection names. -/
def matched? (result : Except Failure Redirection) : Option Int :=
  result.toOption.bind Redirection.rule?

/-- A redirection counts one match of the rule that it names, and does nothing
else to the tally and the rows. -/
theorem resolve_credits (hcandid : s.store.IsCandid) (hquiet : s.store.IsQuiet)
    (slug : String) (v : Visitor) :
    (matched? (s.resolve slug v).1 = none ∧
        s.KeepsBooks (s.resolve slug v).2) ∨
      ∃ rule s₁, matched? (s.resolve slug v).1 = some rule ∧ s.KeepsBooks s₁ ∧
        (s.resolve slug v).2 = { s₁ with tally := s₁.tally.count rule 1 } := by
  have hlink := KeepsBooks.findLink hcandid hquiet slug
  rw [resolve]
  split
  · next f s₁ hs =>
      rw [hs] at hlink
      exact .inl ⟨rfl, hlink⟩
  · next e s₁ hs =>
      rw [hs] at hlink
      split
      · have hpick := hlink.trans
          (KeepsBooks.pickRule hlink.candid hlink.quiet e.id v)
        split
        · next f s₂ hs₂ =>
            rw [hs₂] at hpick
            exact .inl ⟨rfl, hpick⟩
        · next s₂ hs₂ =>
            rw [hs₂] at hpick
            exact .inl ⟨rfl, hpick⟩
        · next r s₂ hs₂ =>
            rw [hs₂] at hpick
            exact .inr ⟨r.id, s₂, rfl, hpick, rfl⟩
      · exact .inl ⟨rfl, hlink⟩

theorem pickRule_mem {link : Int} {v : Visitor} {e : RuleEntry}
    (h : (s.pickRule link v).1 = .ok (some e)) :
    ∃ es, (s.activeRules link).1 = .ok es ∧ e ∈ es := by
  rw [pickRule] at h
  split at h
  · cases h
  · next es s₁ hs =>
      cases hfound : RuleEntry.firstMatch v es with
      | error u =>
          rw [hfound] at h
          cases h
      | ok found =>
          rw [hfound] at h
          cases h
          have hfind := (RuleEntry.firstMatch_ok hfound).symm
          exact ⟨es, by rw [hs], List.mem_of_find?_eq_some hfind⟩

/-- Rules that are asked are what the rows say, also where a row spoils it for
the rules that are not in the cache. -/
theorem Coherent.activeRules_ok (h : s.Coherent) {link : Int}
    {es : List RuleEntry} (hes : (s.activeRules link).1 = .ok es) :
    es.map RuleEntry.uncounted =
      (s.store.database.activeEntries link).map RuleEntry.uncounted := by
  obtain ⟨held, hheld, hrules⟩ := h.rules link
  cases held with
  | some found =>
      rw [activeRules_of_hit hheld] at hes
      cases hes
      exact hrules es rfl
  | none =>
      by_cases hnot : s.Spoiled link
      · obtain ⟨f, hf⟩ := activeRules_of_spoiled h.sound hheld hnot
        rw [hf] at hes
        cases hes
      · rw [activeRules_of_miss h.sound hheld hnot] at hes
        cases hes
        rfl

/-- Where the cache agrees with the rows, the rule that a redirection names is
an active rule of the rows: its number stands for no other. -/
theorem Coherent.active_of_matched (h : s.Coherent) {slug : String}
    {v : Visitor} {rule : Int}
    (hmatched : matched? (s.resolve slug v).1 = some rule) :
    ∃ r ∈ s.store.database.rules, r.id = rule ∧ r.isActive = true := by
  obtain ⟨cache, hlink, hcoherent⟩ := h.findLink slug
  cases hfound : s.storedLink slug >>= fun l => s.unexpired slug l.entry with
  | error f =>
      rw [hfound] at hlink
      rw [Service.resolve, hlink] at hmatched
      cases hmatched
  | ok e =>
      rw [hfound] at hlink
      rw [resolve_of_findLink hlink] at hmatched
      split at hmatched
      · cases hpick : (Service.pickRule { s with cache := cache } e.id v).1 with
        | error f =>
            rw [hpick] at hmatched
            cases hmatched
        | ok found =>
            rw [hpick] at hmatched
            cases found with
            | none => cases hmatched
            | some entry =>
                cases hmatched
                obtain ⟨es, hes, hmem⟩ := pickRule_mem hpick
                have hsame := hcoherent.activeRules_ok hes
                have hkept := List.mem_map_of_mem
                  (f := RuleEntry.uncounted) hmem
                rw [hsame, Database.activeEntries, List.map_map] at hkept
                obtain ⟨r, hr, heq⟩ := List.mem_map.mp hkept
                obtain ⟨hmem, hactive⟩ := Database.mem_activeRules.mp hr
                exact ⟨r, (List.mem_filter.mp hmem).1,
                  congrArg RuleEntry.id heq, hactive⟩
      · cases hmatched

/-! ## Tasks -/

variable {most : Int} {c : Caller} {t : Task}

/-- The rule that a task added, as it is shown to the caller. -/
def added? (s : Service) (most : Int) (c : Caller) : Task → Option Rule
  | .createRule link d => (s.createRule most link c d).1.toOption
  | .createFromTemplate link use =>
    (s.createFromTemplate most link c use).1.toOption
  | _ => none

/-- Rules that were there before, with the counts that they had. -/
def KeepsCounts (d d' : Database) : Prop :=
  ∀ r ∈ d'.rules, ∃ x ∈ d.rules, x.id = r.id ∧ x.matchCount = r.matchCount

theorem keepsCounts_of_rules {d d' : Database} (h : d'.rules = d.rules) :
    KeepsCounts d d' :=
  fun r hr => ⟨r, h ▸ hr, rfl, rfl⟩

/-- A rule was added under the next number, with no matches. -/
structure Adds (d d' : Database) (r : Rule) : Prop where
  rules : d'.rules = d.rules ++ [r]
  id : r.id = Database.nextId (d.rules.map (·.id))
  matchCount : r.matchCount = 0

/-- A rule that is added is told to the caller. -/
theorem createRule_adds (hs : s.store.IsCandid) (link : Int) (d : RuleDraft) :
    (∃ r, (s.createRule most link c d).1 = .ok r ∧
      Adds s.store.database (s.createRule most link c d).2.store.database r) ∨
    ∃ f, (s.createRule most link c d).1 = .error f ∧
      (s.createRule most link c d).2.store.database = s.store.database := by
  rw [createRule, guarded]
  split
  · rw [onRule, transact]
    cases ht : (Manage.createRule most s.now link c d).transact s.now
        s.store with
    | mk result store =>
        obtain ⟨-, ⟨x, s₁, rfl, hrun, hd⟩ | ⟨f, rfl, hd⟩⟩ :=
          Plan.transact_of_candid hs ht
        · obtain ⟨-, -, -, hr, hrules, -⟩ := Manage.createRule_ok hs hrun
          have hcount : x.2.matchCount = 0 := by
            rw [hr]
            rfl
          have hshown : shown x.2 = .ok x.2 := by
            rw [shown, Rule.checked_of_hasPlace (hcount ▸ rfl)]
            rfl
          refine .inl ⟨x.2, hshown, ⟨hd ▸ hrules, ?_, hcount⟩⟩
          rw [hr]
          rfl
        · exact .inr ⟨_, rfl, hd⟩
  · exact .inr ⟨_, rfl, rfl⟩

theorem keepsCounts_modifyRule (d : Database) (id : Int) {f : Rule → Rule}
    (hf : ∀ r, (f r).id = r.id ∧ (f r).matchCount = r.matchCount) :
    KeepsCounts d (d.modifyRule id f) := by
  intro r hr
  obtain ⟨x, hx, rfl⟩ := List.mem_map.mp hr
  refine ⟨x, hx, ?_⟩
  split
  · exact ⟨(hf x).1.symm, (hf x).2.symm⟩
  · exact ⟨rfl, rfl⟩

theorem keepsCounts_after (hs : s.store.IsCandid)
    (h : ∀ d l, t.Alters most s.now s.store.database d l →
      KeepsCounts s.store.database d) :
    KeepsCounts s.store.database (s.after most c t).store.database := by
  obtain ⟨-, ⟨l, hcommits⟩ | hd⟩ := after_cases hs
  · exact h _ l hcommits.rows
  · exact keepsCounts_of_rules (congrArg Database.rules hd)

/-- A task adds a rule and tells it, or leaves the counts of the rules that it
leaves. -/
theorem after_adds (hs : s.store.IsCandid) (most : Int) (c : Caller)
    (t : Task) :
    (∃ r, s.added? most c t = some r ∧
      Adds s.store.database (s.after most c t).store.database r) ∨
    s.added? most c t = none ∧
      KeepsCounts s.store.database (s.after most c t).store.database := by
  have hcreate : ∀ link d, (∃ r, (s.createRule most link c d).1.toOption =
        some r ∧ Adds s.store.database
          (s.createRule most link c d).2.store.database r) ∨
      (s.createRule most link c d).1.toOption = none ∧
        KeepsCounts s.store.database
          (s.createRule most link c d).2.store.database := by
    intro link d
    rcases createRule_adds hs link d with ⟨r, hr, hadds⟩ | ⟨f, hf, hd⟩
    · exact .inl ⟨r, by rw [hr]; rfl, hadds⟩
    · exact .inr ⟨by rw [hf]; rfl,
        keepsCounts_of_rules (congrArg Database.rules hd)⟩
  cases t with
  | createRule link d => exact hcreate link d
  | createFromTemplate link use =>
      rw [added?, after, createFromTemplate]
      split
      · exact .inr ⟨rfl, keepsCounts_of_rules rfl⟩
      · split
        · exact .inr ⟨rfl, keepsCounts_of_rules rfl⟩
        · exact hcreate link _
  | updateRule link rule changes =>
      refine .inr ⟨rfl, keepsCounts_after hs fun d l halters => ?_⟩
      cases halters with
      | updated hold hof hrules hlinks =>
          intro r hr
          rw [hrules] at hr
          exact keepsCounts_modifyRule s.store.database _
            (f := fun r => r.withChanges changes s.now)
            (fun _ => ⟨rfl, rfl⟩) r hr
  | deleteRule link rule =>
      refine .inr ⟨rfl, keepsCounts_after hs fun d l halters => ?_⟩
      cases halters with
      | deleted hr hof hrules hlinks =>
          intro x hx
          rw [hrules] at hx
          exact ⟨x, (List.mem_filter.mp hx).1, rfl, rfl⟩
  | updateSettings link settings =>
      refine .inr ⟨rfl, keepsCounts_after hs fun d l halters => ?_⟩
      cases halters with
      | settled hrules hlinks => exact keepsCounts_of_rules hrules

theorem after_isQuiet (hs : s.store.IsQuiet) (most : Int) (c : Caller)
    (t : Task) :
    (s.after most c t).store.IsQuiet ∧ (s.after most c t).tally = s.tally := by
  have hcommit : (s.commitTask most c t).2.store.IsQuiet ∧
      (s.commitTask most c t).2.tally = s.tally := by
    rw [commitTask]
    cases t.plan? most s.now c with
    | none => exact ⟨hs, rfl⟩
    | some p =>
        rw [carryOut, transact_of_isQuiet p hs]
        exact ⟨Plan.transact_isQuiet p hs, rfl⟩
  rw [after_eq]
  cases hct : s.commitTask most c t with
  | mk told s₁ =>
      rw [hct] at hcommit
      cases told <;> exact hcommit

/-! ## Runs -/

/-- What a run is remembered for: a rule that was added, with the matches that
were pending under its number, or a rule that a redirection named. -/
inductive Note
  | added (rule pending : Int)
  | matched (rule : Int)
deriving DecidableEq

namespace Note

/-- The redirections that named a rule since one with its number was added
last, the latest note being the first. -/
def matchesSince (rule : Int) : List Note → Int
  | [] => 0
  | added id _ :: rest => if id = rule then 0 else matchesSince rule rest
  | matched id :: rest =>
    (if id = rule then 1 else 0) + matchesSince rule rest

/-- The matches that were pending under a number when a rule with it was added
last. -/
def inherited (rule : Int) : List Note → Int
  | [] => 0
  | added id pending :: rest =>
    if id = rule then pending else inherited rule rest
  | matched _ :: rest => inherited rule rest

/-- All redirections that named a rule with the number. -/
def matchesEver (rule : Int) : List Note → Int
  | [] => 0
  | added _ _ :: rest => matchesEver rule rest
  | matched id :: rest =>
    (if id = rule then 1 else 0) + matchesEver rule rest

theorem matchesEver_le (rule : Int) (log : List Note) :
    matchesEver rule log ≤ log.length := by
  induction log with
  | nil => exact le_rfl
  | cons n rest ih =>
      rw [List.length_cons]
      cases n with
      | added id pending =>
          rw [matchesEver]
          omega
      | matched id =>
          rw [matchesEver]
          split <;> omega

end Note

/-- Runs of redirections, tasks by any callers, and writings of the tally that
succeed, from no rules and an empty tally. In between anything may happen that
leaves the rows and the tally alone, so tasks and redirections may fail at any
query, and the cache may hold anything. -/
inductive Credits (most : Int) : List Note → Service → Prop
  | start {s : Service} (hcandid : s.store.IsCandid)
      (hquiet : s.store.IsQuiet) (hrules : s.store.database.rules = [])
      (hcounts : s.tally.counts = []) : Credits most [] s
  | resolve {log : List Note} {s : Service} (h : Credits most log s)
      (slug : String) (v : Visitor) :
      Credits most
        (((matched? (s.resolve slug v).1).map Note.matched).toList ++ log)
        (s.resolve slug v).2
  | task {log : List Note} {s : Service} (h : Credits most log s)
      (c : Caller) (t : Task) :
      Credits most
        (((s.added? most c t).map fun r =>
          Note.added r.id (s.tally.pending r.id)).toList ++ log)
        (s.after most c t)
  | flush {log : List Note} {s : Service} (h : Credits most log s)
      (hall : s.flush.1 = s.tally.counts.length) :
      Credits most log s.flush.2
  | meanwhile {log : List Note} {s s' : Service} (h : Credits most log s)
      (hkeeps : s.KeepsBooks s') : Credits most log s'

/-- What holds of the counts and the tally after every run. -/
structure IsCredited (s : Service) (log : List Note) : Prop where
  candid : s.store.IsCandid
  quiet : s.store.IsQuiet
  keyed : Tally.IsKeyed s.tally.counts
  amounts : Tally.IsCount s.tally.counts
  owed : ∀ id, Tally.owed id s.tally.counts ≤ Note.matchesEver id log
  counts : ∀ r ∈ s.store.database.rules, 0 ≤ r.matchCount ∧
    r.matchCount + Tally.owed r.id s.tally.counts ≤
      Note.matchesEver r.id log ∧
    r.matchCount + Tally.owed r.id s.tally.counts =
      Note.matchesSince r.id log + Note.inherited r.id log
  noted : ∀ r ∈ s.store.database.rules, ∃ pending, .added r.id pending ∈ log

namespace IsCredited

variable {log : List Note}

theorem of_keepsBooks (h : s.IsCredited log) (hkeeps : s.KeepsBooks s') :
    s'.IsCredited log where
  candid := hkeeps.candid
  quiet := hkeeps.quiet
  keyed := hkeeps.tally ▸ h.keyed
  amounts := hkeeps.tally ▸ h.amounts
  owed := hkeeps.tally ▸ h.owed
  counts := by
    rw [hkeeps.rules, hkeeps.tally]
    exact h.counts
  noted := hkeeps.rules ▸ h.noted

/-- A redirection that names a rule is one match more of the rule, and none of
another. -/
theorem matched (h : s.IsCredited log) (rule : Int) :
    IsCredited { s with tally := s.tally.count rule 1 }
      (.matched rule :: log) where
  candid := h.candid
  quiet := h.quiet
  keyed := h.keyed.count rule 1
  amounts := h.amounts.count (by omega)
  owed := by
    intro id
    have hid := h.owed id
    rw [Tally.owed_count, Note.matchesEver]
    omega
  counts := by
    intro r hr
    obtain ⟨hnonneg, hle, heq⟩ := h.counts r hr
    rw [Tally.owed_count, Note.matchesEver, Note.matchesSince,
      Note.inherited]
    omega
  noted := by
    intro r hr
    obtain ⟨pending, hmem⟩ := h.noted r hr
    exact ⟨pending, List.mem_cons_of_mem _ hmem⟩

/-- A rule that is added starts from what is pending under its number. -/
theorem added (h : s.IsCredited log) {r : Rule}
    (hcandid : s'.store.IsCandid) (hquiet : s'.store.IsQuiet)
    (hadds : Adds s.store.database s'.store.database r)
    (htally : s'.tally = s.tally) :
    s'.IsCredited (.added r.id (s.tally.pending r.id) :: log) where
  candid := hcandid
  quiet := hquiet
  keyed := htally ▸ h.keyed
  amounts := htally ▸ h.amounts
  owed := htally ▸ h.owed
  counts := by
    intro x hx
    rw [hadds.rules] at hx
    rw [htally, Note.matchesEver, Note.matchesSince, Note.inherited]
    rcases List.mem_append.mp hx with hx | hx
    · -- The new number is greater than all that are in use.
      have hid : x.id < r.id := by
        rw [hadds.id]
        exact Database.le_nextId x.id (List.mem_map_of_mem hx)
      rw [if_neg (by omega), if_neg (by omega)]
      exact h.counts x hx
    · rw [List.mem_singleton.mp hx, hadds.matchCount, if_pos rfl, if_pos rfl,
        Tally.pending, ← h.keyed.owed_eq]
      have howed := h.owed r.id
      omega
  noted := by
    intro x hx
    rw [hadds.rules] at hx
    rcases List.mem_append.mp hx with hx | hx
    · obtain ⟨pending, hmem⟩ := h.noted x hx
      exact ⟨pending, List.mem_cons_of_mem _ hmem⟩
    · rw [List.mem_singleton.mp hx]
      exact ⟨_, List.mem_cons_self⟩

theorem of_keepsCounts (h : s.IsCredited log) (hcandid : s'.store.IsCandid)
    (hquiet : s'.store.IsQuiet)
    (hkeeps : KeepsCounts s.store.database s'.store.database)
    (htally : s'.tally = s.tally) : s'.IsCredited log where
  candid := hcandid
  quiet := hquiet
  keyed := htally ▸ h.keyed
  amounts := htally ▸ h.amounts
  owed := htally ▸ h.owed
  counts := by
    intro r hr
    obtain ⟨x, hx, hid, hcount⟩ := hkeeps r hr
    rw [htally, ← hid, ← hcount]
    exact h.counts x hx
  noted := by
    intro r hr
    obtain ⟨x, hx, hid, -⟩ := hkeeps r hr
    exact hid ▸ h.noted x hx

/-- Writing the tally credits what was pending, and nothing is pending then. -/
theorem flush (h : s.IsCredited log) (hroom : (log.length : Int) < numberLimit)
    (hall : s.flush.1 = s.tally.counts.length) : s.flush.2.IsCredited log := by
  cases hcounts : s.tally.counts.isEmpty with
  | true =>
      rw [Service.flush, hcounts]
      exact h
  | false =>
      obtain ⟨store, arrivals, hcandid, hquiet, hcases⟩ :=
        flush_of_candid h.candid hcounts
      obtain ⟨hstore, rfl⟩ := hquiet h.quiet
      rcases hcases with ⟨hdatabase, hflush⟩ | ⟨-, hflush⟩
      · -- A rule's count and what is pending for it are redirections of the
        -- run, so the sum has room in its place.
        have hsum : ∀ x ∈ s.store.database.rules, 0 ≤ x.matchCount ∧
            x.matchCount + Tally.owed x.id s.tally.counts < numberLimit := by
          intro x hx
          obtain ⟨hnonneg, hle, -⟩ := h.counts x hx
          have hever := Note.matchesEver_le x.id log
          exact ⟨hnonneg, by omega⟩
        rw [hflush]
        refine ⟨hcandid, hstore, List.nodup_nil, List.forall_mem_nil _,
          fun id => ?_, fun r hr => ?_, fun r hr => ?_⟩
        · exact (h.amounts.owed_nonneg id).trans (h.owed id)
        · rw [hdatabase] at hr
          obtain ⟨x, hx, hid, hcount⟩ :=
            Database.addMatches_counts h.amounts hsum r hr
          obtain ⟨hnonneg, hle, heq⟩ := h.counts x hx
          have howed := h.amounts.owed_nonneg x.id
          have hnone : Tally.owed r.id ((s.tally.emptied.countAll []).settle
            s.tally.counts).counts = 0 := rfl
          rw [hnone, hcount, ← hid]
          omega
        · rw [hdatabase] at hr
          obtain ⟨x, hx, hid, -⟩ :=
            Database.addMatches_counts h.amounts hsum r hr
          exact hid ▸ h.noted x hx
      · rw [hflush] at hall
        rw [List.isEmpty_eq_false_iff] at hcounts
        exact absurd (List.length_eq_zero_iff.mp hall.symm) hcounts

end IsCredited

/-- The books are in order after every run, as long as there are fewer notes
than a place has room for. -/
theorem Credits.isCredited {log : List Note} (h : Credits most log s)
    (hroom : (log.length : Int) < numberLimit) : s.IsCredited log := by
  induction h with
  | start hcandid hquiet hrules hcounts =>
      refine ⟨hcandid, hquiet, ?_, ?_, fun id => ?_, ?_, ?_⟩
      · rw [hcounts]
        exact List.nodup_nil
      · rw [hcounts]
        exact List.forall_mem_nil _
      · rw [hcounts]
        exact le_rfl
      · rw [hrules]
        exact List.forall_mem_nil _
      · rw [hrules]
        exact List.forall_mem_nil _
  | resolve h slug v ih =>
      rw [List.length_append] at hroom
      have hbefore := ih (by omega)
      rcases resolve_credits hbefore.candid hbefore.quiet slug v with
        ⟨hnone, hkeeps⟩ | ⟨rule, s₁, hsome, hkeeps, hafter⟩
      · rw [hnone]
        exact hbefore.of_keepsBooks hkeeps
      · rw [hsome, hafter]
        exact (hbefore.of_keepsBooks hkeeps).matched rule
  | @task log s h c t ih =>
      rw [List.length_append] at hroom
      have hbefore := ih (by omega)
      have hcandid : (s.after most c t).store.IsCandid :=
        (after_cases hbefore.candid).1
      obtain ⟨hquiet, htally⟩ := after_isQuiet hbefore.quiet most c t
      rcases after_adds hbefore.candid most c t with
        ⟨r, hadded, hadds⟩ | ⟨hnone, hkeeps⟩
      · rw [hadded]
        exact hbefore.added hcandid hquiet hadds htally
      · rw [hnone]
        exact hbefore.of_keepsCounts hcandid hquiet hkeeps htally
  | flush h hall ih => exact (ih hroom).flush hroom hall
  | meanwhile h hkeeps ih => exact (ih hroom).of_keepsBooks hkeeps

/-- After every run in which no writing of the tally fails, a rule has the
matches of the redirections that named it since it was added, written and
pending together, and what was pending under its number when it was added. So
it has its own matches and no others exactly if nothing was. -/
theorem matchCount_of_credits {log : List Note} (h : Credits most log s)
    (hroom : (log.length : Int) < numberLimit) {r : Rule}
    (hr : r ∈ s.store.database.rules) :
    (∃ pending, .added r.id pending ∈ log) ∧
    r.matchCount + s.tally.pending r.id =
      Note.matchesSince r.id log + Note.inherited r.id log := by
  have hcredited := h.isCredited hroom
  obtain ⟨-, -, heq⟩ := hcredited.counts r hr
  rw [hcredited.keyed.owed_eq] at heq
  exact ⟨hcredited.noted r hr, heq⟩

/-- The service with one link and without a cache, after the link got a rule
and a visitor came. -/
def matchedOnce : Service :=
  ((withLink.uncached.createRule 50 1 owner elsewhereDraft).2.resolve "go"
    stranger).2

theorem credits_matchedOnce :
    Credits 50 [.matched 1, .added 1 0] matchedOnce := by
  have hstart : Credits 50 [] withLink.uncached :=
    .start isInitial_withLink.sound.isCandid isInitial_withLink.sound.isQuiet
      rfl rfl
  have hadded := hstart.task owner (.createRule 1 elsewhereDraft)
  have hnotes : (withLink.uncached.added? 50 owner
      (.createRule 1 elsewhereDraft)).map (fun r =>
        Note.added r.id (withLink.uncached.tally.pending r.id)) =
          some (.added 1 0) := by
    decide +kernel
  rw [hnotes] at hadded
  have hmatched := hadded.resolve "go" stranger
  have hnamed : matched? ((withLink.uncached.after 50 owner
      (.createRule 1 elsewhereDraft)).resolve "go" stranger).1 = some 1 := by
    decide +kernel
  rw [hnamed] at hmatched
  exact hmatched

/-- The service after the tally was written and another visitor came. -/
def matchedTwice : Service :=
  (matchedOnce.flush.2.resolve "go" stranger).2

/-- One match is written and one is pending. -/
theorem matchCount_matchedTwice :
    Credits 50 [.matched 1, .matched 1, .added 1 0] matchedTwice ∧
    ((3 : Nat) : Int) < numberLimit ∧
    ∃ r ∈ matchedTwice.store.database.rules, r.matchCount = 1 ∧
      r.matchCount + matchedTwice.tally.pending r.id = 2 := by
  have hflush := credits_matchedOnce.flush (by decide +kernel)
  have hmatched := hflush.resolve "go" stranger
  have hnamed : matched? (matchedOnce.flush.2.resolve "go" stranger).1 =
      some 1 := by
    decide +kernel
  rw [hnamed] at hmatched
  have hrules : ∃ r ∈ matchedTwice.store.database.rules,
      r.id = 1 ∧ r.matchCount = 1 := by
    decide +kernel
  obtain ⟨r, hr, hid, hcount⟩ := hrules
  have hlaw := (matchCount_of_credits hmatched (by decide) hr).2
  refine ⟨hmatched, by decide, r, hr, hcount, hlaw.trans ?_⟩
  rw [hid]
  rfl

/-- The service after the rule was deleted and another was added to the
link. -/
def renewed : Service :=
  ((matchedOnce.deleteRule 1 1 owner).2.createRule 50 1 owner elsewhereDraft).2

/-- The new rule got the number of the deleted one, and with it a match that no
redirection brought it. -/
theorem inherited_renewed :
    Credits 50 [.added 1 1, .matched 1, .added 1 0] renewed ∧
    ∃ r ∈ renewed.store.database.rules, r.matchCount +
        renewed.tally.pending r.id = 1 ∧
      Note.matchesSince r.id [.added 1 1, .matched 1, .added 1 0] = 0 := by
  have hdeleted := credits_matchedOnce.task owner (.deleteRule 1 1)
  have hadded := hdeleted.task owner (.createRule 1 elsewhereDraft)
  have hnotes : ((matchedOnce.deleteRule 1 1 owner).2.added? 50 owner
      (.createRule 1 elsewhereDraft)).map (fun r => Note.added r.id
        ((matchedOnce.deleteRule 1 1 owner).2.tally.pending r.id)) =
          some (.added 1 1) := by
    decide +kernel
  have hafter : matchedOnce.after 50 owner (.deleteRule 1 1) =
      (matchedOnce.deleteRule 1 1 owner).2 := rfl
  rw [hafter, hnotes] at hadded
  exact ⟨hadded, by decide +kernel⟩

end Service

end Signpost
