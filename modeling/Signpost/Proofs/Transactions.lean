import Mathlib
import Signpost.Proofs.Tasks

/-!
# Transactions side by side

When several transactions run at once, each asks its queries one at a time and
in between come the queries and the commits of the others. Under read
committed, what a query sees is the rows that are committed by then with the
writes of its own transaction on top; a commit puts these writes into the
committed rows, and an abort forgets them.

A transaction is therefore a plan, as far as it has not been run, and a log of
what it asked and was answered. What a query that got its answer did to the
rows is read off the log (`Asked.effect`), so the rows that a transaction sees
are the committed rows with its log replayed on them. Only the number of a new rule
does not hang on these rows alone: it is no number of a rule that another
transaction has added and not committed yet.

What is left of a plan and what is in the log belong together: `Plan.Leads`
says that the one is what the other leads to, and reading it from the front
gives the log of a plan that came to its end.
-/

namespace Signpost

/-! ## What was asked -/

/-- A query and what it was answered with. -/
structure Asked where
  now : Clock
  query : Query
  answer : query.Answer

namespace Asked

/-- What a query that got its answer did to the rows. -/
def effect (d : Database) : Asked → Database
  | ⟨_, .addLink _, row⟩ => { d with links := d.links ++ [row] }
  | ⟨_, .setFlag id on, _⟩ =>
    d.modifyLink id fun l => { l with isSmartRouting := on }
  | ⟨_, .updateLink id settings, _⟩ =>
    d.modifyLink id fun l => l.withSettings settings
  | ⟨_, .addRule _, row⟩ => { d with rules := d.rules ++ [row] }
  | ⟨now, .updateRule id changes, _⟩ =>
    d.modifyRule id fun r => r.withChanges changes now
  | ⟨_, .deleteRule id, _⟩ => { d with rules := d.rules.filter (·.id != id) }
  | ⟨_, .addMatches counts, _⟩ => d.addMatches counts
  | ⟨now, .recordAudit note, _⟩ =>
    { d with audit := d.audit ++
        [.ofNote (Database.nextId (d.audit.map (·.id))) now note] }
  | _ => d

/-- What the rows do with a query is the effect of its answer. -/
theorem effect_of_run {d d' : Database} {now : Clock} {q : Query}
    {answer : q.Answer} (h : d.run now q = .ok (answer, d')) :
    d' = effect d ⟨now, q, answer⟩ := by
  cases q with
  | hasLink filters =>
      rw [Database.run] at h
      split at h
      · exact (Prod.mk.inj (Except.ok.inj h)).2.symm
      · cases h
  | addLink l =>
      rw [Database.run] at h
      split at h
      · cases h
      · obtain ⟨rfl, rfl⟩ := Prod.mk.inj (Except.ok.inj h)
        rfl
  | updateLink id settings =>
      rw [Database.run] at h
      split at h
      · cases h
      · exact (Prod.mk.inj (Except.ok.inj h)).2.symm
  | addRule r =>
      rw [Database.run] at h
      split at h
      · cases h
      · obtain ⟨rfl, rfl⟩ := Prod.mk.inj (Except.ok.inj h)
        rfl
  | updateRule id changes =>
      rw [Database.run] at h
      split at h
      · cases h
      · exact (Prod.mk.inj (Except.ok.inj h)).2.symm
  | addBareLink | addBareRule => cases h
  | ownedLink | linkBySlug | setFlag | hasRoom | hasRules | ruleOfLink
  | rulesOf | activeRulesOf | deleteRule | addMatches | recordAudit
  | auditOf => exact (Prod.mk.inj (Except.ok.inj h)).2.symm

def newRule? : Asked → Option Rule
  | ⟨_, .addRule _, row⟩ => some row
  | _ => none

/-- What is found is what was asked for, and what is added what was handed
over. -/
def IsHonest : Asked → Prop
  | ⟨_, .ownedLink id _, found⟩ => ∀ l ∈ found, l.id = id
  | ⟨_, .ruleOfLink id link, found⟩ =>
    ∀ r ∈ found, r.id = id ∧ r.linkId = link
  | ⟨_, .addRule r, row⟩ => row.linkId = r.linkId
  | _ => True

end Asked

/-! ## Transactions -/

/-- A transaction: what it has yet to do and what it asked so far. -/
structure Transaction (α : Type) where
  plan : Plan α
  log : List Asked

namespace Transaction

variable {α : Type}

def begin (p : Plan α) : Transaction α :=
  ⟨p, []⟩

/-- Committed rows with the writes of the transaction on top. -/
def view (t : Transaction α) (d : Database) : Database :=
  t.log.foldl Asked.effect d

end Transaction

/-- Committed rows, and the transactions side by side; of one that has ended
nothing is left. -/
structure Transactions (α : Type) where
  committed : Database
  running : List (Option (Transaction α))

/-- What one transaction does, or what becomes of it. -/
inductive Transactions.Move
  | ask (i : Nat) (now : Clock)
  /-- An entry of the audit trail is not taken, which is passed over. -/
  | passOver (i : Nat)
  | commit (i : Nat)
  | abort (i : Nat)
deriving DecidableEq

namespace Transactions

variable {α : Type}

/-- A transaction that has not ended. -/
def transaction? (c : Transactions α) (i : Nat) : Option (Transaction α) :=
  c.running[i]?.join

def put (c : Transactions α) (i : Nat) (t : Option (Transaction α)) :
    Transactions α :=
  { c with running := c.running.set i t }

/-- The rules that the transactions beside one have added so far. -/
def addedBeside (c : Transactions α) (i : Nat) : List Rule :=
  (c.running.eraseIdx i).flatMap fun t =>
    t.toList.flatMap fun t => t.log.filterMap (·.newRule?)

/-- What a transaction is answered: what the rows answer that it sees. -/
def answer (c : Transactions α) (i : Nat) (t : Transaction α) (now : Clock) :
    (q : Query) → Except StoreFailure q.Answer
  | .addRule r =>
    let seen := t.view c.committed
    if (seen.link? r.linkId).isNone then .error .danglingRow
    else
      let taken := (seen.rules ++ c.addedBeside i).map (·.id)
      .ok (.ofNew (Database.nextId taken) now r)
  | q => ((t.view c.committed).run now q).map Prod.fst

/-- One move; one that cannot be made changes nothing. A query that fails ends
its transaction. -/
def step (c : Transactions α) : Move → Transactions α
  | .ask i now =>
    match c.transaction? i with
    | some ⟨.ask q next, log⟩ =>
      match c.answer i ⟨.ask q next, log⟩ now q with
      | .ok a => c.put i (some ⟨next a, log ++ [⟨now, q, a⟩]⟩)
      | .error _ => c.put i none
    | _ => c
  | .passOver i =>
    match c.transaction? i with
    | some ⟨.ask (.recordAudit _) next, log⟩ => c.put i (some ⟨next (), log⟩)
    | _ => c
  | .commit i =>
    match c.transaction? i with
    | some ⟨.done a, log⟩ =>
      { c with committed := Transaction.view ⟨.done a, log⟩ c.committed }.put i
        none
    | _ => c
  | .abort i => c.put i none

def run (c : Transactions α) (moves : List Move) : Transactions α :=
  moves.foldl step c

def allEnded (c : Transactions α) : Bool :=
  c.running.all (·.isNone)

variable {c : Transactions α} {i : Nat} {t : Transaction α} {now : Clock}

/-- Without rules that others have added it is the rows alone that answer. -/
theorem answer_of_nil (h : c.addedBeside i = []) (q : Query) :
    c.answer i t now q = ((t.view c.committed).run now q).map Prod.fst := by
  cases q with
  | addRule r =>
      rw [answer, Database.run, h, List.append_nil]
      dsimp only
      split <;> rfl
  | _ => rfl

theorem step_ask {q : Query} {next : q.Answer → Plan α} {log : List Asked}
    {answer : q.Answer} (h : c.transaction? i = some ⟨.ask q next, log⟩)
    (hanswer : c.answer i ⟨.ask q next, log⟩ now q = .ok answer) :
    c.step (.ask i now) =
      c.put i (some ⟨next answer, log ++ [⟨now, q, answer⟩]⟩) := by
  simp only [step, h, hanswer]

theorem step_passOver {note : AuditNote} {next : Unit → Plan α}
    {log : List Asked}
    (h : c.transaction? i = some ⟨.ask (.recordAudit note) next, log⟩) :
    c.step (.passOver i) = c.put i (some ⟨next (), log⟩) := by
  simp only [step, h]

/-- A transaction alone does what its plan does in one piece. -/
theorem run_alone {a : α} (p : Plan α) : ∀ {s s' : Store} {d : Database}
    {log : List Asked}, s.IsSound → s.database = log.foldl Asked.effect d →
    p.run now s = (.ok a, s') →
    ∃ moves, Transactions.run ⟨d, [some ⟨p, log⟩]⟩ moves =
      ⟨s'.database, [none]⟩ := by
  induction p with
  | done x =>
      intro s s' d log hs hd h
      cases h
      exact ⟨[.commit 0], by rw [hd]; rfl⟩
  | stop f =>
      intro s s' d log hs hd h
      cases h
  | ask q next ih =>
      intro s s' d log hs hd h
      rw [Plan.run] at h
      split at h
      · next answer s₁ hask =>
          have hrun := (hs.isCandid.ask_ok hask).2.1
          have hanswer : (⟨d, [some ⟨.ask q next, log⟩]⟩ :
              Transactions α).answer 0 ⟨.ask q next, log⟩ now q = .ok answer := by
            rw [answer_of_nil rfl, Transaction.view, ← hd, hrun]
            rfl
          have hseen : s₁.database = (log ++ [(⟨now, q, answer⟩ : Asked)]).foldl
              Asked.effect d := by
            rw [List.foldl_append, ← hd]
            exact Asked.effect_of_run hrun
          obtain ⟨moves, hmoves⟩ := ih answer (hs.ask_ok hask) hseen h
          refine ⟨.ask 0 now :: moves, ?_⟩
          rw [run, List.foldl_cons, step_ask rfl hanswer]
          exact hmoves
      · next f s₁ hask =>
          rw [hs.ask_error hask] at h
          split at h
          · next answer hspare =>
              -- Only what is recorded is passed over.
              cases q with
              | recordAudit note =>
                  obtain ⟨moves, hmoves⟩ := ih answer hs hd h
                  refine ⟨.passOver 0 :: moves, ?_⟩
                  rw [run, List.foldl_cons, step_passOver rfl]
                  exact hmoves
              | _ => cases hspare
          · cases h

end Transactions

/-! ## What a plan leads to -/

/-- What a plan, or what is left of it, leads to with a log. -/
inductive Plan.Leads {α : Type} : Plan α → List Asked → Plan α → Prop
  | refl (p : Plan α) : Leads p [] p
  | ask {q : Query} {next : q.Answer → Plan α} {log : List Asked} {p : Plan α}
      (now : Clock) (answer : q.Answer) (h : Leads (next answer) log p) :
      Leads (.ask q next) (⟨now, q, answer⟩ :: log) p
  | passOver {note : AuditNote} {next : Unit → Plan α} {log : List Asked}
      {p : Plan α} (h : Leads (next ()) log p) :
      Leads (.ask (.recordAudit note) next) log p

namespace Plan.Leads

variable {α : Type} {p : Plan α} {log : List Asked} {a : α}

theorem asked {q : Query} {next : q.Answer → Plan α}
    (h : Leads p log (.ask q next)) (now : Clock) (answer : q.Answer) :
    Leads p (log ++ [⟨now, q, answer⟩]) (next answer) := by
  generalize hp : Plan.ask q next = left at h
  induction h with
  | refl => subst hp; exact .ask now answer (.refl _)
  | ask now' answer' _ ih => exact .ask now' answer' (ih hp)
  | passOver _ ih => exact .passOver (ih hp)

theorem passedOver {note : AuditNote} {next : Unit → Plan α}
    (h : Leads p log (.ask (.recordAudit note) next)) :
    Leads p log (next ()) := by
  generalize hp : Plan.ask (.recordAudit note) next = left at h
  induction h with
  | refl => subst hp; exact .passOver (.refl _)
  | ask now answer _ ih => exact .ask now answer (ih hp)
  | passOver _ ih => exact .passOver (ih hp)

/-- What the two halves of a plan lead to. -/
theorem of_bind {β : Type} {next : α → Plan β} {b : β} (p : Plan α) :
    ∀ {log : List Asked}, (p >>= next).Leads log (.done b) →
    ∃ a first rest, log = first ++ rest ∧ p.Leads first (.done a) ∧
      (next a).Leads rest (.done b) := by
  induction p with
  | done a =>
      intro log h
      exact ⟨a, [], log, rfl, .refl _, h⟩
  | stop f =>
      intro log h
      cases show Leads (.stop f) log (.done b) from h
  | ask q more ih =>
      intro log h
      have h : Leads (.ask q fun answer => more answer >>= next) log
        (.done b) := h
      cases h with
      | ask now answer h =>
          obtain ⟨a, first, rest, rfl, hfirst, hrest⟩ := ih answer h
          exact ⟨a, _, rest, rfl, .ask now answer hfirst, hrest⟩
      | passOver h =>
          obtain ⟨a, first, rest, rfl, hfirst, hrest⟩ := ih () h
          exact ⟨a, first, rest, rfl, .passOver hfirst, hrest⟩

/-- A plan that came to its end was answered its first query. -/
theorem of_ask {q : Query} {next : q.Answer → Plan α}
    (hq : ∀ note, q ≠ .recordAudit note)
    (h : Leads (.ask q next) log (.done a)) :
    ∃ now answer rest, log = ⟨now, q, answer⟩ :: rest ∧
      Leads (next answer) rest (.done a) := by
  cases h with
  | ask now answer h => exact ⟨now, answer, _, rfl, h⟩
  | passOver h => exact absurd rfl (hq _)

theorem of_query {q : Query} {answer : q.Answer}
    (hq : ∀ note, q ≠ .recordAudit note)
    (hleads : (Plan.query q).Leads log (.done answer)) :
    ∃ now, log = [⟨now, q, answer⟩] := by
  obtain ⟨now, found, rest, rfl, h⟩ := of_ask hq hleads
  cases show Leads (.done found) rest (.done answer) from h
  exact ⟨now, rfl⟩

/-- What is recorded may be in the log or not. -/
theorem of_record {note : AuditNote}
    (h : (Plan.query (.recordAudit note)).Leads log (.done ())) :
    log = [] ∨ ∃ now, log = [⟨now, .recordAudit note, ()⟩] := by
  cases h with
  | ask now answer h => cases h; exact .inr ⟨now, rfl⟩
  | passOver h => cases h; exact .inl rfl

end Plan.Leads

namespace Transactions

variable {α : Type} {c : Transactions α} {i : Nat} {t : Transaction α}
  {now : Clock}

theorem isHonest_of_answer {q : Query} {answer : q.Answer}
    (h : c.answer i t now q = .ok answer) :
    Asked.IsHonest ⟨now, q, answer⟩ := by
  cases q with
  | ownedLink id who =>
      cases h
      intro l hl
      exact Database.link?_id (Option.filter_eq_some_iff.mp hl).1
  | ruleOfLink id link =>
      cases h
      intro r hr
      obtain ⟨hfound, hof⟩ := Option.filter_eq_some_iff.mp hr
      exact ⟨Database.rule?_id hfound, by simpa using hof⟩
  | addRule r =>
      rw [Transactions.answer] at h
      dsimp only at h
      split at h
      · cases h
      · cases h
        rfl
  | _ => trivial

/-- Each transaction comes from one of some plans, and was answered honestly. -/
def From (plans : Plan α → Prop) (c : Transactions α) : Prop :=
  ∀ i t, c.transaction? i = some t →
    (∃ p, plans p ∧ p.Leads t.log t.plan) ∧ ∀ a ∈ t.log, a.IsHonest

theorem transaction?_put (t : Option (Transaction α)) (j : Nat)
    {found : Transaction α} (h : (c.put i t).transaction? j = some found) :
    (j = i ∧ t = some found) ∨ c.transaction? j = some found := by
  rw [transaction?, put, List.getElem?_set] at h
  split at h
  · next heq =>
      split at h
      · exact .inl ⟨heq.symm, h⟩
      · cases h
  · exact .inr h

theorem From.put {plans : Plan α → Prop} (h : c.From plans)
    {t : Option (Transaction α)}
    (ht : ∀ x ∈ t, (∃ p, plans p ∧ p.Leads x.log x.plan) ∧
      ∀ a ∈ x.log, a.IsHonest) : (c.put i t).From plans := by
  intro j found hfound
  rcases transaction?_put t j hfound with ⟨-, rfl⟩ | hfound
  · exact ht found rfl
  · exact h j found hfound

theorem From.step {plans : Plan α → Prop} (h : c.From plans) (m : Move) :
    (c.step m).From plans := by
  have hnone : ∀ i, (c.put i none).From plans := fun i =>
    h.put fun x hx => nomatch hx
  cases m with
  | ask i now =>
      rw [Transactions.step]
      split
      · next q next log hfound =>
          obtain ⟨⟨p, hp, hleads⟩, hhonest⟩ := h i _ hfound
          split
          · next answer hanswer =>
              refine h.put fun x hx => ?_
              cases hx
              refine ⟨⟨p, hp, hleads.asked now answer⟩, fun a ha => ?_⟩
              rcases List.mem_append.mp ha with ha | ha
              · exact hhonest a ha
              · rw [List.mem_singleton.mp ha]
                exact isHonest_of_answer hanswer
          · exact hnone i
      · exact h
  | passOver i =>
      rw [Transactions.step]
      split
      · next note next log hfound =>
          obtain ⟨⟨p, hp, hleads⟩, hhonest⟩ := h i _ hfound
          refine h.put fun x hx => ?_
          cases hx
          exact ⟨⟨p, hp, hleads.passedOver⟩, hhonest⟩
      · exact h
  | commit i =>
      rw [Transactions.step]
      split
      · exact hnone i
      · exact h
  | abort i => exact hnone i

/-- A move that is no commit commits nothing. -/
theorem committed_step (c : Transactions α) (m : Move) :
    (c.step m).committed = c.committed ∨ ∃ i a log, m = .commit i ∧
      c.transaction? i = some ⟨.done a, log⟩ ∧
      (c.step m).committed = Transaction.view ⟨.done a, log⟩ c.committed := by
  cases m with
  | ask i now =>
      refine .inl ?_
      rw [Transactions.step]
      split
      · split <;> rfl
      · rfl
  | passOver i =>
      refine .inl ?_
      rw [Transactions.step]
      split <;> rfl
  | commit i =>
      rw [Transactions.step]
      split
      · next a log hfound => exact .inr ⟨i, a, log, rfl, hfound, rfl⟩
      · exact .inl rfl
  | abort i => exact .inl rfl

theorem run_concat (c : Transactions α) (moves : List Move) (m : Move) :
    c.run (moves ++ [m]) = (c.run moves).step m :=
  List.foldl_concat step c m moves

theorem From.run {plans : Plan α → Prop} (h : c.From plans)
    (moves : List Move) : (c.run moves).From plans := by
  induction moves generalizing c with
  | nil => exact h
  | cons m moves ih => exact ih (h.step m)

end Transactions

end Signpost
