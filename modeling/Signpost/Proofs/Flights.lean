import Mathlib
import Signpost.Proofs.Arrivals
import Signpost.Proofs.TallyEntries

/-!
# Batches under way

To write the tally, its batch is taken out, one rule's count after the other
is written in a transaction, the transaction is committed, and the tally is
told how it went. In between visitors are redirected and other batches are
taken out, so that several are under way at once, each of them at its own
place. What is written is not in the rows before the commit, and a batch that
fails on its way leaves nothing in them. A batch that is committed adds to the
count of each rule what it has for it, and so the counts are in the end what
they were at first and what the committed batches have for them.

No match is lost without being dropped, and none is written twice. A batch
belongs to one flight from the moment when it is taken out: it is in the rows
from its commit on, and back in the tally, but for what is dropped, when a
flight that failed is over. Putting it back is counting it again, so it does
not matter what the tally has counted meanwhile, nor which flight ends first.
-/

namespace Signpost

/-! ## Flights -/

/-- How far a batch has come. -/
inductive Flight.State
  /-- Some counts are written, though not committed, and others are left. -/
  | writing (written left : List (Int × Int))
  | failed
  | committed
  /-- The tally was told that the batch is written. -/
  | settled
  /-- The batch was put back, but for what was dropped of it. -/
  | requeued (dropped : List (Int × Int))

/-- A batch that was taken out of the tally. -/
structure Flight where
  batch : List (Int × Int)
  state : Flight.State

namespace Flight

def isCommitted (f : Flight) : Bool :=
  match f.state with
  | .committed | .settled => true
  | _ => false

/-- The matches of a rule that the flight has committed. -/
def stored (rule : Int) (f : Flight) : Int :=
  match f.state with
  | .committed | .settled => Tally.owed rule f.batch
  | _ => 0

theorem stored_eq (rule : Int) (f : Flight) :
    f.stored rule = if f.isCommitted then Tally.owed rule f.batch else 0 := by
  rw [stored, isCommitted]
  cases f.state <;> rfl

/-- The matches of a rule that are neither committed nor put back. -/
def held (rule : Int) (f : Flight) : Int :=
  match f.state with
  | .writing _ _ | .failed => Tally.owed rule f.batch
  | _ => 0

/-- The matches of a rule that were dropped when the batch was put back. -/
def lost (rule : Int) (f : Flight) : Int :=
  match f.state with
  | .requeued dropped => Tally.owed rule dropped
  | _ => 0

/-- The matches of a rule that the flight took out of the tally for good, as
far as it is known by now. -/
def share (rule : Int) (f : Flight) : Int :=
  match f.state with
  | .requeued dropped => Tally.owed rule dropped
  | _ => Tally.owed rule f.batch

theorem share_eq (rule : Int) (f : Flight) :
    f.share rule = f.stored rule + f.held rule + f.lost rule := by
  rw [share, stored, held, lost]
  cases f.state <;> simp

/-- What the flight has written and what is left is its batch, which has one
entry for each rule. -/
structure IsWhole (f : Flight) : Prop where
  keyed : Tally.IsKeyed f.batch
  parts : ∀ written left, f.state = .writing written left →
    written ++ left = f.batch

end Flight

/-! ## Counting while batches are under way -/

/-- A tally, the committed rows, and the batches that were taken out. -/
structure Counting where
  tally : Tally
  rows : Database
  flights : List Flight
  /-- The flights that were committed, in the order of their commits, each with
  what it had written by then. -/
  commits : List (Nat × List (Int × Int))

namespace Counting

/-- What a flight does next. -/
inductive Part
  /-- It writes the next count that is left. -/
  | write
  | commit
  /-- A write or the commit fails, and the transaction is rolled back. -/
  | fail
  /-- It tells the tally how it went. -/
  | finish

inductive Move
  | count (rule amount : Int)
  | take
  | flight (i : Nat) (part : Part)

def begin (patience : Int) (rows : Database) : Counting :=
  ⟨.empty patience, rows, [], []⟩

def put (c : Counting) (i : Nat) (batch : List (Int × Int))
    (state : Flight.State) : Counting :=
  { c with flights := c.flights.set i ⟨batch, state⟩ }

/-- A flight moves on; what it cannot do yet, or not any more, it does not. -/
def advance (c : Counting) (i : Nat) : Part → Flight → Counting
  | .write, ⟨batch, .writing written (entry :: left)⟩ =>
    c.put i batch (.writing (written ++ [entry]) left)
  | .commit, ⟨batch, .writing written []⟩ =>
    { c.put i batch .committed with
      rows := c.rows.addMatches written
      commits := c.commits ++ [(i, written)] }
  | .fail, ⟨batch, .writing _ _⟩ => c.put i batch .failed
  | .finish, ⟨batch, .committed⟩ =>
    { c.put i batch .settled with tally := c.tally.settle batch }
  | .finish, ⟨batch, .failed⟩ =>
    { c.put i batch (.requeued (c.tally.dropped batch)) with
      tally := c.tally.requeue batch }
  | _, _ => c

def step (c : Counting) : Move → Counting
  | .count rule amount => { c with tally := c.tally.count rule amount }
  | .take =>
    if c.tally.counts.isEmpty then c
    else { c with
      tally := c.tally.emptied
      flights := c.flights ++ [⟨c.tally.counts, .writing [] c.tally.counts⟩] }
  | .flight i part =>
    match c.flights[i]? with
    | some f => c.advance i part f
    | none => c

def run (moves : List Move) (c : Counting) : Counting :=
  moves.foldl step c

theorem run_cons (m : Move) (rest : List Move) (c : Counting) :
    run (m :: rest) c = run rest (c.step m) := rfl

theorem run_append (before after : List Move) (c : Counting) :
    run (before ++ after) c = run after (run before c) :=
  List.foldl_append

/-- The matches of a rule that a move counts. -/
def Move.amount (rule : Int) : Move → Int
  | .count id amount => if id = rule then amount else 0
  | _ => 0

/-- The matches of a rule that were ever counted. -/
def counted (rule : Int) (moves : List Move) : Int :=
  (moves.map (·.amount rule)).sum

def stored (c : Counting) (rule : Int) : Int :=
  (c.flights.map (Flight.stored rule)).sum

def held (c : Counting) (rule : Int) : Int :=
  (c.flights.map (Flight.held rule)).sum

def lost (c : Counting) (rule : Int) : Int :=
  (c.flights.map (Flight.lost rule)).sum

inductive Advances (c : Counting) (i : Nat) (batch : List (Int × Int)) :
    Flight.State → Counting → Prop
  | write (written left : List (Int × Int)) (entry : Int × Int) :
      c.Advances i batch (.writing written (entry :: left))
        (c.put i batch (.writing (written ++ [entry]) left))
  | commit (written : List (Int × Int)) :
      c.Advances i batch (.writing written [])
        { c.put i batch .committed with
          rows := c.rows.addMatches written
          commits := c.commits ++ [(i, written)] }
  | fail (written left : List (Int × Int)) :
      c.Advances i batch (.writing written left) (c.put i batch .failed)
  | settle :
      c.Advances i batch .committed
        { c.put i batch .settled with tally := c.tally.settle batch }
  | requeue :
      c.Advances i batch .failed
        { c.put i batch (.requeued (c.tally.dropped batch)) with
          tally := c.tally.requeue batch }

theorem advance_cases (c : Counting) (i : Nat) (part : Part) (f : Flight) :
    c.advance i part f = c ∨
      c.Advances i f.batch f.state (c.advance i part f) := by
  obtain ⟨batch, state⟩ := f
  cases part with
  | write =>
      cases state with
      | writing written left =>
          cases left with
          | nil => exact .inl rfl
          | cons entry left => exact .inr (.write written left entry)
      | failed | committed | settled | requeued => exact .inl rfl
  | commit =>
      cases state with
      | writing written left =>
          cases left with
          | nil => exact .inr (.commit written)
          | cons entry left => exact .inl rfl
      | failed | committed | settled | requeued => exact .inl rfl
  | fail =>
      cases state with
      | writing written left => exact .inr (.fail written left)
      | failed | committed | settled | requeued => exact .inl rfl
  | finish =>
      cases state with
      | committed => exact .inr .settle
      | failed => exact .inr .requeue
      | writing | settled | requeued => exact .inl rfl

variable {c : Counting} {i : Nat} {f : Flight} {moves : List Move}
variable {rows : Database}

/-! ## No match is lost -/

theorem sum_put (hf : c.flights[i]? = some f) (g : Flight → Int)
    (batch : List (Int × Int)) (state : Flight.State) :
    ((c.put i batch state).flights.map g).sum =
      (c.flights.map g).sum - g f + g ⟨batch, state⟩ := by
  obtain ⟨hi, rfl⟩ := List.getElem?_eq_some_iff.mp hf
  rw [put, List.map_set, List.sum_set', dif_pos (by simpa using hi),
    List.getElem_map]
  omega

/-- What is owed to a rule and what was taken out of the tally. -/
def total (c : Counting) (rule : Int) : Int :=
  Tally.owed rule c.tally.counts + (c.flights.map (Flight.share rule)).sum

theorem total_eq (c : Counting) (rule : Int) :
    c.total rule = Tally.owed rule c.tally.counts +
      (c.stored rule + c.held rule + c.lost rule) := by
  rw [total, stored, held, lost, ← List.sum_map_add, ← List.sum_map_add,
    ← funext (Flight.share_eq rule)]

theorem total_put (hf : c.flights[i]? = some f) {state : Flight.State}
    {rule : Int} (hshare : Flight.share rule ⟨f.batch, state⟩ = f.share rule) :
    (c.put i f.batch state).total rule = c.total rule := by
  rw [total, total, sum_put hf, hshare, Int.sub_add_cancel]
  rfl

theorem Advances.total {c' : Counting} (h : c.Advances i f.batch f.state c')
    (hf : c.flights[i]? = some f) (rule : Int) :
    c'.total rule = c.total rule := by
  obtain ⟨batch, state⟩ := f
  cases h with
  | write written left entry => exact total_put hf rfl
  | commit written => exact total_put hf rfl
  | fail written left => exact total_put hf rfl
  | settle => exact total_put hf rfl
  | requeue =>
      -- The batch goes back into the tally; only what is dropped of it stays
      -- out.
      have hback := Tally.owed_requeue c.tally batch rule
      have hsum := sum_put hf (Flight.share rule) batch
        (.requeued (c.tally.dropped batch))
      have hheld : Flight.share rule ⟨batch, .failed⟩ =
        Tally.owed rule batch := rfl
      have hlost : Flight.share rule
          ⟨batch, .requeued (c.tally.dropped batch)⟩ =
        Tally.owed rule (c.tally.dropped batch) := rfl
      have hafter : Counting.total { c.put i batch
            (.requeued (c.tally.dropped batch)) with
          tally := c.tally.requeue batch } rule =
        Tally.owed rule (c.tally.requeue batch).counts +
          ((c.put i batch (.requeued (c.tally.dropped batch))).flights.map
            (Flight.share rule)).sum := rfl
      rw [hafter, hsum, Counting.total]
      omega

theorem total_step (c : Counting) (m : Move) (rule : Int) :
    (c.step m).total rule = c.total rule + m.amount rule := by
  cases m with
  | count id amount =>
      rw [total, step, Tally.owed_count, total, Move.amount]
      dsimp only
      omega
  | take =>
      have hzero : Move.take.amount rule = 0 := rfl
      rw [step, hzero, Int.add_zero]
      split
      · rfl
      · have hempty : Tally.owed rule c.tally.emptied.counts = 0 := rfl
        rw [total, total, hempty, List.map_append, List.sum_append,
          List.map_singleton, List.sum_singleton, Int.zero_add, Int.add_comm]
        rfl
  | flight i part =>
      have hzero : (Move.flight i part).amount rule = 0 := rfl
      rw [step, hzero, Int.add_zero]
      split
      · next f hf =>
          rcases c.advance_cases i part f with hsame | hmoves
          · rw [hsame]
          · exact hmoves.total hf rule
      · rfl

theorem total_run (moves : List Move) (c : Counting) (rule : Int) :
    (run moves c).total rule = c.total rule + counted rule moves := by
  induction moves generalizing c with
  | nil => exact (Int.add_zero _).symm
  | cons m rest ih =>
      have hrest := ih (c.step m)
      rw [total_step] at hrest
      rw [run_cons, hrest, counted, counted, List.map_cons, List.sum_cons,
        Int.add_assoc]

/-! ## No match is written twice -/

/-- The batches that were committed, in the order of their commits. -/
def batches (c : Counting) : List (List (Int × Int)) :=
  c.commits.map (·.2)

/-- What holds of the rows and the flights at every moment. The rows are as
they were at first, with the committed batches credited in the order of their
commits, each once, and these are the batches of the committed flights. -/
structure IsFaithful (rows : Database) (c : Counting) : Prop where
  counts : Tally.IsKeyed c.tally.counts
  flights : ∀ f ∈ c.flights, f.IsWhole
  rows : c.rows = { rows with
    rules := rows.rules.map fun r =>
      c.batches.foldl (fun r batch => r.credit batch) r }
  stored : ∀ rule, c.stored rule = (c.batches.map (Tally.owed rule)).sum
  once : (c.commits.map (·.1)).Nodup
  commits : ∀ i batch, (i, batch) ∈ c.commits ↔
    ∃ f, c.flights[i]? = some f ∧ f.isCommitted = true ∧ f.batch = batch

theorem isFaithful_begin (patience : Int) (rows : Database) :
    (begin patience rows).IsFaithful rows where
  counts := List.nodup_nil
  flights := List.forall_mem_nil _
  rows := by
    cases rows
    simp [begin, batches]
  stored := fun _ => rfl
  once := List.nodup_nil
  commits := by simp [begin]

theorem IsFaithful.withTally (h : c.IsFaithful rows) {tally : Tally}
    (htally : Tally.IsKeyed tally.counts) :
    ({ c with tally := tally } : Counting).IsFaithful rows :=
  { h with counts := htally }

/-- Of what is committed, a move changes no more than its own flight has. -/
theorem stored_put (hf : c.flights[i]? = some f) (state : Flight.State)
    (rule : Int) :
    (c.put i f.batch state).stored rule =
      c.stored rule - f.stored rule + Flight.stored rule ⟨f.batch, state⟩ :=
  sum_put hf (Flight.stored rule) f.batch state

/-- A flight that is not committed by its move changes no row. -/
theorem IsFaithful.put (h : c.IsFaithful rows) (hf : c.flights[i]? = some f)
    (state : Flight.State) (hkept : Flight.IsWhole ⟨f.batch, state⟩)
    (hsame : Flight.isCommitted ⟨f.batch, state⟩ = f.isCommitted) :
    (c.put i f.batch state).IsFaithful rows where
  counts := h.counts
  flights := by
    intro g hg
    rcases List.mem_or_eq_of_mem_set hg with hg | rfl
    · exact h.flights g hg
    · exact hkept
  rows := h.rows
  stored := by
    intro rule
    have hrule : Flight.stored rule ⟨f.batch, state⟩ = f.stored rule := by
      rw [Flight.stored_eq, Flight.stored_eq, hsame]
    have hput := stored_put hf state rule
    rw [hrule, Int.sub_add_cancel] at hput
    exact hput.trans (h.stored rule)
  once := h.once
  commits := by
    intro j batch
    refine (h.commits j batch).trans ?_
    rw [Counting.put, List.getElem?_set]
    by_cases hj : i = j
    · subst hj
      obtain ⟨hi, -⟩ := List.getElem?_eq_some_iff.mp hf
      rw [if_pos rfl, if_pos hi, hf]
      simp [hsame]
    · rw [if_neg hj]

theorem IsFaithful.not_mem_commits (h : c.IsFaithful rows)
    (hf : c.flights[i]? = some f) (hnot : f.isCommitted = false)
    (batch : List (Int × Int)) : (i, batch) ∉ c.commits := by
  intro hmem
  obtain ⟨f', hf', hcommitted, -⟩ := (h.commits i batch).mp hmem
  rw [hf] at hf'
  cases hf'
  rw [hnot] at hcommitted
  cases hcommitted

theorem IsFaithful.commit (h : c.IsFaithful rows)
    {batch written : List (Int × Int)}
    (hf : c.flights[i]? = some ⟨batch, .writing written []⟩) :
    ({ c.put i batch .committed with
      rows := c.rows.addMatches written
      commits := c.commits ++ [(i, written)] } : Counting).IsFaithful rows := by
  have hkept := h.flights _ (List.mem_of_getElem? hf)
  have hwritten : written = batch := by
    have hparts := hkept.parts written [] rfl
    rwa [List.append_nil] at hparts
  subst hwritten
  -- A flight that is still writing is not among the commits, so its batch is
  -- credited here for the first time.
  have hnew := h.not_mem_commits hf rfl
  refine ⟨h.counts, ?_, ?_, ?_, ?_, ?_⟩
  · intro g hg
    rcases List.mem_or_eq_of_mem_set hg with hg | rfl
    · exact h.flights g hg
    · exact ⟨hkept.keyed, fun _ _ hw => by cases hw⟩
  · rw [Database.addMatches_eq hkept.keyed, h.rows]
    simp only [batches, List.map_append, List.map_singleton, List.map_map,
      Function.comp_def, List.foldl_append, List.foldl_cons, List.foldl_nil]
  · intro rule
    have hbefore : Flight.stored rule ⟨written, .writing written []⟩ = 0 := rfl
    have hput := stored_put hf .committed rule
    rw [hbefore, Int.sub_zero] at hput
    rw [batches, List.map_append, List.map_singleton, List.map_append,
      List.sum_append, List.map_singleton, List.sum_singleton]
    exact hput.trans (congrArg (· + _) (h.stored rule))
  · rw [List.map_append, List.map_singleton]
    refine List.nodup_append.mpr ⟨h.once, List.nodup_singleton i, ?_⟩
    intro j hj k hk hjk
    obtain ⟨⟨j, batch⟩, hmem, rfl⟩ := List.mem_map.mp hj
    obtain rfl : j = i := hjk.trans (List.mem_singleton.mp hk)
    exact hnew batch hmem
  · intro j batch
    rw [List.mem_append, List.mem_singleton, Counting.put, List.getElem?_set]
    by_cases hj : i = j
    · subst hj
      obtain ⟨hi, -⟩ := List.getElem?_eq_some_iff.mp hf
      rw [if_pos rfl, if_pos hi, or_iff_right (hnew batch)]
      constructor
      · intro heq
        cases heq
        exact ⟨_, rfl, rfl, rfl⟩
      · rintro ⟨_, hg, -, rfl⟩
        cases hg
        rfl
    · have hother : (j, batch) ≠ (i, written) := fun heq =>
        hj (Prod.mk.inj heq).1.symm
      rw [if_neg hj, or_iff_left hother]
      exact h.commits j batch

theorem IsFaithful.advances (h : c.IsFaithful rows)
    (hf : c.flights[i]? = some f) {c' : Counting}
    (hmoves : c.Advances i f.batch f.state c') : c'.IsFaithful rows := by
  have hkept := h.flights f (List.mem_of_getElem? hf)
  obtain ⟨batch, state⟩ := f
  cases hmoves with
  | write written left entry =>
      refine h.put hf _ ⟨hkept.keyed, fun w l hstate => ?_⟩ rfl
      cases hstate
      rw [List.append_assoc]
      exact hkept.parts written (entry :: left) rfl
  | commit written => exact h.commit hf
  | fail written left =>
      exact h.put hf .failed ⟨hkept.keyed, fun _ _ hw => by cases hw⟩ rfl
  | settle =>
      have hput := h.put hf .settled
        ⟨hkept.keyed, fun _ _ hw => by cases hw⟩ rfl
      exact hput.withTally h.counts
  | requeue =>
      have hput := h.put hf (.requeued (c.tally.dropped batch))
        ⟨hkept.keyed, fun _ _ hw => by cases hw⟩ rfl
      exact hput.withTally (h.counts.requeue batch)

/-- A batch that is taken out is not committed yet. -/
theorem IsFaithful.take (h : c.IsFaithful rows) : ({ c with
    tally := c.tally.emptied
    flights := c.flights ++ [⟨c.tally.counts, .writing [] c.tally.counts⟩] } :
      Counting).IsFaithful rows where
  counts := List.nodup_nil
  flights := by
    intro f hf
    rcases List.mem_append.mp hf with hf | hf
    · exact h.flights f hf
    · rw [List.mem_singleton.mp hf]
      exact ⟨h.counts, fun w l hstate => by cases hstate; rfl⟩
  rows := h.rows
  stored := by
    intro rule
    rw [Counting.stored, List.map_append, List.sum_append, List.map_singleton,
      List.sum_singleton]
    exact (Int.add_zero _).trans (h.stored rule)
  once := h.once
  commits := by
    intro i batch
    refine (h.commits i batch).trans ?_
    rcases Nat.lt_trichotomy i c.flights.length with hi | rfl | hi
    · rw [List.getElem?_append_left hi]
    · rw [List.getElem?_eq_none le_rfl, List.getElem?_concat_length]
      constructor
      · rintro ⟨f, hf, -⟩
        cases hf
      · rintro ⟨f, hf, hcommitted, -⟩
        cases hf
        cases hcommitted
    · rw [List.getElem?_eq_none hi.le, List.getElem?_eq_none
        (by rw [List.length_append, List.length_singleton]; omega)]

theorem IsFaithful.step (h : c.IsFaithful rows) (m : Move) :
    (c.step m).IsFaithful rows := by
  cases m with
  | count rule amount => exact h.withTally (h.counts.count rule amount)
  | take =>
      rw [Counting.step]
      split
      · exact h
      · exact h.take
  | flight i part =>
      rw [Counting.step]
      split
      · next f hf =>
          rcases c.advance_cases i part f with hsame | hmoves
          · rw [hsame]
            exact h
          · exact h.advances hf hmoves
      · exact h

theorem IsFaithful.run (h : c.IsFaithful rows) (moves : List Move) :
    (run moves c).IsFaithful rows := by
  induction moves generalizing c with
  | nil => exact h
  | cons m rest ih => exact ih (h.step m)

theorem IsFaithful.keyed (h : c.IsFaithful rows) :
    ∀ batch ∈ c.batches, Tally.IsKeyed batch := by
  intro batch hbatch
  obtain ⟨⟨j, batch⟩, hmem, rfl⟩ := List.mem_map.mp hbatch
  obtain ⟨f, hf, -, rfl⟩ := (h.commits j batch).mp hmem
  exact (h.flights f (List.mem_of_getElem? hf)).keyed

/-- The count of each rule is what it was at first and what is committed for
the rule, if counts of that size have had a place in the row all along. Nothing
else of the rule has changed. -/
def AddsUp (rows : Database) (c : Counting) : Prop :=
  ∀ (k : Nat) (r : Rule), rows.rules[k]? = some r → r.HasRoom c.batches →
    c.rows.rules[k]? =
      some { r with matchCount := r.matchCount + c.stored r.id }

theorem IsFaithful.addsUp (h : c.IsFaithful rows) : c.AddsUp rows := by
  intro k r hr hroom
  rw [h.rows, h.stored, ← hroom.foldl_credit h.keyed]
  dsimp only
  rw [List.getElem?_map, hr]
  rfl

/-- At every moment, whatever order things went in and whatever failed, every
match that was ever counted is in a committed batch, in the tally, in a batch
under way, or was dropped. And the rows are as they were at first, but that
each rule was credited with every committed batch once, which adds to its count
what is in these batches for it; other batches left no trace in the rows. -/
theorem conserved_run (patience : Int) (rows : Database)
    (moves : List Move) :
    (∀ rule, counted rule moves =
      (run moves (begin patience rows)).stored rule +
        (run moves (begin patience rows)).tally.pending rule +
        (run moves (begin patience rows)).held rule +
        (run moves (begin patience rows)).lost rule) ∧
    (run moves (begin patience rows)).IsFaithful rows ∧
    (run moves (begin patience rows)).AddsUp rows := by
  have hkept := (isFaithful_begin patience rows).run moves
  refine ⟨fun rule => ?_, hkept, hkept.addsUp⟩
  have htotal := total_run moves (begin patience rows) rule
  have hnone : (begin patience rows).total rule = 0 := rfl
  rw [hnone, Int.zero_add, total_eq, hkept.counts.owed_eq] at htotal
  rw [← htotal, Tally.pending]
  omega

/-- A rule that was matched some times. -/
def matched (id times : Int) : Rule :=
  ⟨id, 1, "sample", "https://t.example.com", 0, true, .null, times, ⟨0⟩, ⟨0⟩⟩

/-- Two rules, of which one was matched three times. -/
def twoRules : Database :=
  ⟨[], [matched 1 3, matched 2 0], []⟩

/-- Two batches for one rule are under way at once. Of the older one all is
written when its transaction fails, and the younger one is committed before the
older one is put back. -/
def olderFails : List Move :=
  [.count 1 2, .take, .count 1 5, .take, .flight 0 .write, .flight 1 .write,
    .flight 0 .fail, .flight 1 .commit, .flight 0 .finish, .flight 1 .finish]

/-- The five matches of the younger batch come on top of the three that were
there, and the two of the older one are in the tally again. -/
theorem conserved_olderFails :
    (run olderFails (begin 3 twoRules)).rows.rules[0]? =
      some (matched 1 (3 + 5)) ∧
    (run olderFails (begin 3 twoRules)).rows.rules[1]? = some (matched 2 0) ∧
    (run olderFails (begin 3 twoRules)).tally.pending 1 = 2 ∧
    counted 1 olderFails = 5 + 2 := by
  obtain ⟨hcounted, -, hadds⟩ := conserved_run 3 twoRules olderFails
  exact ⟨hadds 0 _ rfl (by decide), hadds 1 _ rfl (by decide), rfl, hcounted 1⟩

/-! ## Writing the tally in one go -/

theorem run_counts (arrivals : List Arrival) (c : Counting) :
    run (arrivals.map fun (rule, amount) => .count rule amount) c =
      { c with tally := c.tally.countAll arrivals } := by
  induction arrivals generalizing c with
  | nil => rfl
  | cons x rest ih => exact ih _

theorem run_writes (tally : Tally) (rows : Database)
    (batch left : List (Int × Int)) : ∀ written : List (Int × Int),
    run (left.map fun _ => .flight 0 .write)
      ⟨tally, rows, [⟨batch, .writing written left⟩], []⟩ =
      ⟨tally, rows, [⟨batch, .writing (written ++ left) []⟩], []⟩ := by
  induction left with
  | nil =>
      intro written
      rw [List.append_nil]
      rfl
  | cons entry left ih =>
      intro written
      have hrest := ih (written ++ [entry])
      rw [List.append_assoc] at hrest
      exact hrest

/-- The service takes one batch through all its stages while nothing but what
the store lets arrive comes in between. -/
theorem flush_isRun {s : Service} (hs : s.store.IsCandid) :
    ∃ moves : List Move,
      (run moves ⟨s.tally, s.store.database, [], []⟩).tally =
          s.flush.2.tally ∧
        (run moves ⟨s.tally, s.store.database, [], []⟩).rows =
          s.flush.2.store.database := by
  cases hcounts : s.tally.counts.isEmpty with
  | true =>
      refine ⟨[], ?_⟩
      rw [Service.flush, hcounts]
      exact ⟨rfl, rfl⟩
  | false =>
      have htake : ∀ moves,
          run (.take :: moves) ⟨s.tally, s.store.database, [], []⟩ =
            run moves ⟨s.tally.emptied, s.store.database,
              [⟨s.tally.counts, .writing [] s.tally.counts⟩], []⟩ := by
        intro moves
        rw [run_cons, step, hcounts]
        rfl
      obtain ⟨store, arrivals, -, -, ⟨hstore, hflush⟩ | ⟨hstore, hflush⟩⟩ :=
        Service.flush_of_candid hs hcounts
      · refine ⟨(.take :: arrivals.map fun (rule, amount) =>
            .count rule amount) ++
          ((s.tally.counts.map fun _ => .flight 0 .write) ++
            [.flight 0 .commit, .flight 0 .finish]), ?_⟩
        rw [hflush, hstore, run_append, run_append, htake, run_counts,
          run_writes]
        exact ⟨rfl, rfl⟩
      · refine ⟨(.take :: arrivals.map fun (rule, amount) =>
            .count rule amount) ++
          [.flight 0 .fail, .flight 0 .finish], ?_⟩
        rw [hflush, hstore, run_append, htake, run_counts]
        exact ⟨rfl, rfl⟩

end Counting

end Signpost
