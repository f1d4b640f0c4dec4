import Mathlib
import Signpost.Proofs.OverlappingTasks

/-!
# Counts that are written beside a transaction

While a transaction edits rows, the tally may be written to the store any
number of times, before the transaction has read the row that it is about,
after that, and after it is committed. What it edits and what the others write
do not meet: an edit puts values into some fields of a row, whatever the row
holds when the transaction is committed, and leaves the count to the others.
So the rows in the end are the first rows with all the matches that were
written, edited once. Nothing that was counted is overwritten.

For that it is enough that the edit minds no count (`Rule.IgnoresCount`), and
that the log of the transaction comes down to it (`Plan.EditsRows`).
-/

namespace Signpost

/-! ## Edits and counts -/

/-- An edit of rules that knows them by their numbers and minds no count. -/
structure Rule.IgnoresCount (g : Rule → Rule) : Prop where
  id : ∀ r, (g r).id = r.id
  addMatches : ∀ r n, g (r.addMatches n) = (g r).addMatches n

namespace Database

/-- Every link and every rule is edited in its place. -/
structure Edits (d d' : Database) (f : Link → Link) (g : Rule → Rule) :
    Prop where
  links : d'.links = d.links.map f
  rules : d'.rules = d.rules.map g

variable {d d' : Database} {f : Link → Link} {g : Rule → Rule}

/-- Matches may be added before an edit or after it. -/
theorem Edits.addMatches (hg : Rule.IgnoresCount g) (counts : List (Int × Int)) :
    ∀ {d d' : Database}, d.Edits d' f g →
      (d.addMatches counts).Edits (d'.addMatches counts) f g := by
  induction counts with
  | nil => exact fun h => h
  | cons x rest ih =>
      intro d d' h
      have hedits : (d.modifyRule x.1 (·.addMatches x.2)).Edits
          (d'.modifyRule x.1 (·.addMatches x.2)) f g := by
        refine ⟨h.links, ?_⟩
        rw [modifyRule, h.rules, modifyRule, List.map_map, List.map_map]
        refine List.map_congr_left fun r _ => ?_
        dsimp only [Function.comp_apply]
        rw [hg.id]
        split
        · exact (hg.addMatches r x.2).symm
        · rfl
      exact ih hedits

theorem addMatches_append (d : Database) (counts more : List (Int × Int)) :
    d.addMatches (counts ++ more) = (d.addMatches counts).addMatches more :=
  List.foldl_append

end Database

/-! ## Steps of transactions -/

/-- The matches that a query adds to counts. -/
def Asked.counts : Asked → List (Int × Int)
  | ⟨_, .addMatches counts, _⟩ => counts
  | _ => []

namespace Transaction

variable {α : Type}

/-- The matches that a transaction adds to counts. -/
def counts (t : Transaction α) : List (Int × Int) :=
  t.log.flatMap (·.counts)

/-- A transaction that comes from a plan, and which of some moves were its
own. -/
structure Stems (p : Plan α) (i : Nat) (moves : List Transactions.Move)
    (t : Transaction α) : Prop where
  leads : p.Leads t.log t.plan
  honest : ∀ a ∈ t.log, a.IsHonest
  asked : ∀ a ∈ t.log, .ask i a.now ∈ moves

end Transaction

namespace Transactions

variable {α : Type} {c : Transactions α} {i j : Nat} {t : Transaction α}
  {m : Move} {moves : List Move}

/-- The transaction that a move commits. -/
def commits? (c : Transactions α) : Move → Option (Transaction α)
  | .commit i => (c.transaction? i).filter (·.isDone)
  | _ => none

/-- The matches that are committed by some moves. -/
def written (c : Transactions α) : List Move → List (Int × Int)
  | [] => []
  | m :: rest => ((c.commits? m).map (·.counts)).getD [] ++ (c.step m).written rest

theorem written_append (before after : List Move) :
    c.written (before ++ after) =
      c.written before ++ (c.run before).written after := by
  induction before generalizing c with
  | nil => rfl
  | cons m rest ih =>
      rw [List.cons_append, written, written, ih, List.append_assoc]
      rfl

theorem run_append (c : Transactions α) (before after : List Move) :
    c.run (before ++ after) = (c.run before).run after :=
  List.foldl_append

/-- The committed rows are those of the transaction that a move commits. -/
theorem committed_step_eq (c : Transactions α) (m : Move) :
    (c.step m).committed =
      ((c.commits? m).map (·.view c.committed)).getD c.committed := by
  cases m with
  | ask i now =>
      show (c.step (.ask i now)).committed = c.committed
      rw [step]
      split
      · split <;> rfl
      · rfl
  | passOver i =>
      show (c.step (.passOver i)).committed = c.committed
      rw [step]
      split <;> rfl
  | abort i => rfl
  | commit i =>
      rw [step, commits?]
      split
      · next a log hfound => rw [hfound]; rfl
      · next hnone =>
          have hfilter : (c.transaction? i).filter (·.isDone) = none := by
            refine Option.filter_eq_none_iff.mpr fun t ht hdone => ?_
            obtain ⟨plan, log⟩ := t
            cases plan with
            | done a => exact hnone a log ht
            | stop | ask => cases hdone
          rw [hfilter]
          rfl

/-- A transaction that is running after a move was running before it, and is as
it was unless the move was its own. -/
theorem transaction?_step (h : (c.step m).transaction? i = some t) :
    c.transaction? i = some t ∨
      (∃ (now : Clock) (q : Query) (next : q.Answer → Plan α) (log : List Asked)
        (answer : q.Answer), m = .ask i now ∧
        c.transaction? i = some ⟨.ask q next, log⟩ ∧
        c.answer i ⟨.ask q next, log⟩ now q = .ok answer ∧
        t = ⟨next answer, log ++ [⟨now, q, answer⟩]⟩) ∨
      ∃ (note : AuditNote) (next : Unit → Plan α) (log : List Asked),
        m = .passOver i ∧
        c.transaction? i = some ⟨.ask (.recordAudit note) next, log⟩ ∧
        t = ⟨next (), log⟩ := by
  have hgone : ∀ j, (c.put j none).transaction? i = some t →
      c.transaction? i = some t := by
    intro j h
    rcases transaction?_put none i h with ⟨-, hnone⟩ | h
    · cases hnone
    · exact h
  cases m with
  | ask j now =>
      rw [step] at h
      split at h
      · next q next log hfound =>
          split at h
          · next answer hanswer =>
              rcases transaction?_put _ i h with ⟨rfl, ht⟩ | h
              · cases ht
                exact .inr (.inl ⟨now, q, next, log, answer, rfl, hfound, hanswer, rfl⟩)
              · exact .inl h
          · exact .inl (hgone j h)
      · exact .inl h
  | passOver j =>
      rw [step] at h
      split at h
      · next note next log hfound =>
          rcases transaction?_put _ i h with ⟨rfl, ht⟩ | h
          · cases ht
            exact .inr (.inr ⟨note, next, log, rfl, hfound, rfl⟩)
          · exact .inl h
      · exact .inl h
  | commit j =>
      rw [step] at h
      split at h
      · exact .inl (hgone j h)
      · exact .inl h
  | abort j => exact .inl (hgone j h)

/-- What is running was begun, and comes from what it was begun with. -/
theorem stems_of_run (h : (c.run moves).transaction? i = some t) :
    ∃ t₀, c.transaction? i = some t₀ ∧
      ∀ p, t₀ = .begin p → t.Stems p i moves := by
  induction moves using List.reverseRecOn generalizing t with
  | nil =>
      refine ⟨t, h, ?_⟩
      rintro p rfl
      exact ⟨.refl p, fun a ha => (nomatch ha), fun a ha => nomatch ha⟩
  | append_singleton moves m ih =>
      rw [run_concat] at h
      rcases transaction?_step h with hsame |
        ⟨now, q, next, log, answer, rfl, hfound, hanswer, rfl⟩ |
        ⟨note, next, log, rfl, hfound, rfl⟩
      · obtain ⟨t₀, ht₀, hstems⟩ := ih hsame
        refine ⟨t₀, ht₀, fun p hp => ?_⟩
        obtain ⟨hleads, hhonest, hasked⟩ := hstems p hp
        exact ⟨hleads, hhonest, fun a ha => List.mem_append_left _ (hasked a ha)⟩
      · obtain ⟨t₀, ht₀, hstems⟩ := ih hfound
        refine ⟨t₀, ht₀, fun p hp => ?_⟩
        obtain ⟨hleads, hhonest, hasked⟩ := hstems p hp
        refine ⟨hleads.asked now answer, ?_, ?_⟩
        · refine List.forall_mem_append.mpr ⟨hhonest, ?_⟩
          exact List.forall_mem_singleton.mpr (isHonest_of_answer hanswer)
        · refine List.forall_mem_append.mpr ⟨fun a ha => ?_, ?_⟩
          · exact List.mem_append_left _ (hasked a ha)
          · exact List.forall_mem_singleton.mpr (by simp)
      · obtain ⟨t₀, ht₀, hstems⟩ := ih hfound
        refine ⟨t₀, ht₀, fun p hp => ?_⟩
        obtain ⟨hleads, hhonest, hasked⟩ := hstems p hp
        exact ⟨hleads.passedOver, hhonest,
          fun a ha => List.mem_append_left _ (hasked a ha)⟩

/-- What has ended is not begun again. -/
theorem transaction?_of_run (h : (c.run moves).transaction? i = some t) :
    ∃ t₀, c.transaction? i = some t₀ :=
  (stems_of_run h).imp fun _ h => h.1

/-- A transaction that is committed has ended. -/
theorem transaction?_commit (h : c.transaction? i = some t)
    (hdone : t.isDone = true) : (c.step (.commit i)).transaction? i = none := by
  obtain ⟨plan, log⟩ := t
  cases plan with
  | stop | ask => cases hdone
  | done a =>
      rw [step, h]
      show ((c.running.set i none)[i]?).join = none
      rw [List.getElem?_set_self']
      cases c.running[i]? <;> rfl

/-! ## Writing counts beside an edit -/

/-- The rows after moves that commit counts alone. -/
theorem committed_run_of_counts
    (h : ∀ before m, before ++ [m] <+: moves → ∀ t ∈ (c.run before).commits? m,
      ∀ d, t.view d = d.addMatches t.counts) :
    (c.run moves).committed = c.committed.addMatches (c.written moves) := by
  induction moves using List.reverseRecOn with
  | nil => rfl
  | append_singleton moves m ih =>
      have hrest := ih fun before m hb =>
        h before m (hb.trans (List.prefix_append _ _))
      have hlast := h moves m List.prefix_rfl
      have hone : (c.run moves).written [m] =
          (((c.run moves).commits? m).map (·.counts)).getD [] :=
        List.append_nil _
      rw [run_concat, committed_step_eq, written_append, Database.addMatches_append,
        ← hrest, hone]
      cases hcommits : (c.run moves).commits? m with
      | none => rfl
      | some t => exact hlast t hcommits _

/-- The transaction begins with a plan, and beside it are only such that write
counts. -/
structure Flanks (i : Nat) (p : Plan Unit) (c : Transactions Unit) : Prop where
  begun : ∀ t, c.transaction? i = some t → t = .begin p
  others : ∀ j t, j ≠ i → c.transaction? j = some t →
    ∃ counts, t = .begin (Plan.query (.addMatches counts))

end Transactions

/-- Whatever a plan was answered on its way to its end, it edits links and rules
in their places, at the moment of one of its queries. -/
structure Plan.EditsRows {α : Type} (p : Plan α) (f : Clock → Link → Link)
    (g : Clock → Rule → Rule) : Prop where
  edits : ∀ {log : List Asked} {a : α}, p.Leads log (.done a) →
    (∀ x ∈ log, x.IsHonest) → log.flatMap (·.counts) = [] ∧
      ∃ x ∈ log, ∀ d : Database,
        d.Edits (log.foldl Asked.effect d) (f x.now) (g x.now)
  ignoresCount : ∀ now, Rule.IgnoresCount (g now)

namespace Transactions

variable {i : Nat} {p : Plan Unit} {c : Transactions Unit} {moves : List Move}

/-- A transaction beside the one adds its matches and does nothing else. -/
theorem Flanks.view_of_other (h : c.Flanks i p) {j : Nat} (hj : j ≠ i)
    {t : Transaction Unit} (ht : (c.run moves).transaction? j = some t)
    (hdone : t.isDone = true) (d : Database) : t.view d = d.addMatches t.counts := by
  obtain ⟨t₀, ht₀, hstems⟩ := stems_of_run ht
  obtain ⟨counts, rfl⟩ := h.others j t₀ hj ht₀
  have hleads := (hstems _ rfl).leads
  obtain ⟨plan, log⟩ := t
  cases plan with
  | stop | ask => cases hdone
  | done a =>
      obtain ⟨now, rfl⟩ := hleads.of_query (by simp)
      show d.addMatches counts = d.addMatches (counts ++ [])
      rw [List.append_nil]

/-- As long as the one transaction is not committed, only counts are. -/
theorem Flanks.committed_run (h : c.Flanks i p) (first : List Move)
    (hnot : ∀ before, before ++ [.commit i] <+: moves → ∀ t,
      (c.run (first ++ before)).transaction? i = some t → t.isDone = false) :
    ((c.run first).run moves).committed =
      (c.run first).committed.addMatches ((c.run first).written moves) := by
  refine committed_run_of_counts fun before m hbefore t ht d => ?_
  rw [← run_append] at ht
  cases m with
  | ask | passOver | abort => cases ht
  | commit j =>
      obtain ⟨hfound, hdone⟩ := Option.filter_eq_some_iff.mp ht
      by_cases hj : j = i
      · subst hj
        rw [hnot before hbefore t hfound] at hdone
        cases hdone
      · exact h.view_of_other hj hfound hdone d

/-- Once the one transaction is committed, the rows are the first ones with all
matches that were written, and the edit. -/
theorem Flanks.edits_of_committed {f : Clock → Link → Link}
    {g : Clock → Rule → Rule} (h : c.Flanks i p) (hp : p.EditsRows f g)
    {before after : List Move} {t : Transaction Unit}
    (ht : (c.run before).transaction? i = some t) (hdone : t.isDone = true) :
    ∃ now, .ask i now ∈ before ∧
      (c.committed.addMatches (c.written (before ++ .commit i :: after))).Edits
        (c.run (before ++ .commit i :: after)).committed (f now) (g now) := by
  have hended := transaction?_commit ht hdone
  have hcommits : (c.run before).commits? (.commit i) = some t :=
    Option.filter_eq_some_iff.mpr ⟨ht, hdone⟩
  -- Before its commit the transaction is there, so it was not committed yet.
  have hbefore : (c.run before).committed =
      c.committed.addMatches (c.written before) := by
    refine h.committed_run [] fun b ⟨rest, hb⟩ t' ht' => ?_
    by_contra hdone'
    have hgone : ((c.run b).step (.commit i)).transaction? i = none :=
      transaction?_commit ht' (by simpa using hdone')
    rw [← hb, run_append, run_concat] at ht
    obtain ⟨t₁, ht₁⟩ := transaction?_of_run ht
    rw [hgone] at ht₁
    cases ht₁
  -- After it the transaction is gone for good.
  have hafter : ((c.run (before ++ [.commit i])).run after).committed =
      (c.run (before ++ [.commit i])).committed.addMatches
        ((c.run (before ++ [.commit i])).written after) := by
    refine h.committed_run (before ++ [.commit i]) fun b _ t' ht' => ?_
    rw [run_append, run_concat] at ht'
    obtain ⟨t₁, ht₁⟩ := transaction?_of_run ht'
    rw [hended] at ht₁
    cases ht₁
  obtain ⟨t₀, ht₀, hstems⟩ := stems_of_run ht
  obtain ⟨hleads, hhonest, hasked⟩ := hstems p (h.begun t₀ ht₀)
  obtain ⟨plan, log⟩ := t
  cases plan with
  | stop | ask => cases hdone
  | done a =>
      obtain ⟨hcounts, x, hx, hedits⟩ := hp.edits hleads hhonest
      have hwritten : c.written (before ++ .commit i :: after) =
          c.written before ++ (c.run (before ++ [.commit i])).written after := by
        have hnone : (((c.run before).commits? (.commit i)).map (·.counts)).getD [] =
            [] := by
          rw [hcommits]
          exact hcounts
        rw [written_append, written, hnone, List.nil_append, run_concat]
      have hrun : c.run (before ++ .commit i :: after) =
          (c.run (before ++ [.commit i])).run after := by
        rw [← run_append, List.append_assoc]
        rfl
      refine ⟨x.now, hasked x hx, ?_⟩
      rw [hwritten, Database.addMatches_append, hrun, hafter, ← hbefore]
      refine Database.Edits.addMatches (hp.ignoresCount x.now) _ ?_
      rw [run_concat, committed_step_eq, hcommits]
      exact hedits _

end Transactions

end Signpost
