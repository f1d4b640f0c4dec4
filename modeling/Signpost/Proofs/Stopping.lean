import Mathlib
import Signpost.Proofs.Flights

/-!
# Stopping while batches are under way

When counting is stopped, no batch is taken out any more but a last one, what
the tally holds when that one is over is discarded, and what was discarded is
made known. Batches that are still under way are not waited for. One that fails
before the last one is over is put back in time to be discarded with the rest;
one that fails later is put back into a tally that nobody writes or discards
any more.

So every match that was counted before is committed, and then once, or dropped,
or discarded, or back in the tally; and the tally is empty in the end just when
none of the late batches was put back, but for those of which everything was
dropped.
-/

namespace Signpost

/-! ## What is left of a batch -/

namespace Flight

def isOver (f : Flight) : Bool :=
  match f.state with
  | .settled | .requeued _ => true
  | _ => false

/-- If the batch was put back, all of it was dropped. -/
def LeavesNothing (f : Flight) : Prop :=
  ∀ dropped, f.state = .requeued dropped → dropped = f.batch

theorem leavesNothing_of_under_way {f : Flight} (h : f.isOver = false) :
    f.LeavesNothing := by
  intro dropped hstate
  rw [isOver, hstate] at h
  cases h

theorem held_of_isOver {f : Flight} (h : f.isOver = true) (rule : Int) :
    f.held rule = 0 := by
  rw [isOver] at h
  rw [held]
  split at h
  · next hstate => rw [hstate]
  · next hstate => rw [hstate]
  · cases h

end Flight

namespace Tally

theorem assign_ne_nil {α : Type} (id : Int) (a : α) (entries : List (Int × α)) :
    assign id a entries ≠ [] := by
  cases entries with
  | nil => exact List.cons_ne_nil _ _
  | cons x rest =>
      rw [assign]
      split <;> exact List.cons_ne_nil _ _

theorem dropped_sublist (t : Tally) (batch : List (Int × Int)) :
    (t.dropped batch).Sublist batch := by
  induction batch generalizing t with
  | nil => exact List.Sublist.slnil
  | cons x rest ih =>
      rw [dropped]
      split
      · exact (ih _).cons_cons x
      · exact (ih _).cons x

/-- A batch that is put back leaves a tally empty just when the tally was and
all of the batch is dropped. -/
theorem requeue_eq_nil_iff (t : Tally) (batch : List (Int × Int)) :
    (t.requeue batch).counts = [] ↔
      t.counts = [] ∧ t.dropped batch = batch := by
  induction batch generalizing t with
  | nil => exact (and_iff_left rfl).symm
  | cons x rest ih =>
      have hrest := ih (t.requeueOne x.1 x.2)
      have hrequeue : t.requeue (x :: rest) =
          (t.requeueOne x.1 x.2).requeue rest := rfl
      rw [counts_requeueOne] at hrest
      rw [hrequeue, hrest, dropped]
      split
      · rw [List.cons_inj_right]
      · -- Neither side: the entry is back in the tally.
        refine iff_of_false (fun h => assign_ne_nil _ _ _ h.1) fun h => ?_
        have hshort := (dropped_sublist (t.requeueOne x.1 x.2) rest).length_le
        rw [h.2, List.length_cons] at hshort
        omega

end Tally

namespace Counting

variable {c c' : Counting} {i : Nat}

def isOver (c : Counting) (i : Nat) : Bool :=
  (c.flights[i]?).any (·.isOver)

def underWay (c : Counting) : List Nat :=
  (List.range c.flights.length).filter fun i => !c.isOver i

theorem mem_underWay {f : Flight} (hf : c.flights[i]? = some f) :
    i ∈ c.underWay ↔ f.isOver = false := by
  obtain ⟨hi, -⟩ := List.getElem?_eq_some_iff.mp hf
  rw [underWay, List.mem_filter, List.mem_range, and_iff_right hi, isOver, hf]
  simp

/-- What moves on is not over, and of all flights only this one changes. If it
puts its batch back, the tally is empty afterwards just when it was and nothing
of the batch is left. -/
theorem Advances.eq_nil_iff {batch : List (Int × Int)} {state : Flight.State}
    (h : c.Advances i batch state c') :
    Flight.isOver ⟨batch, state⟩ = false ∧ ∃ next,
      c'.flights = c.flights.set i ⟨batch, next⟩ ∧
      (c'.tally.counts = [] ↔
        c.tally.counts = [] ∧ Flight.LeavesNothing ⟨batch, next⟩) := by
  cases h with
  | write written left entry =>
      exact ⟨rfl, _, rfl, (and_iff_left fun _ h => by cases h).symm⟩
  | commit written =>
      exact ⟨rfl, _, rfl, (and_iff_left fun _ h => by cases h).symm⟩
  | fail written left =>
      exact ⟨rfl, _, rfl, (and_iff_left fun _ h => by cases h).symm⟩
  | settle => exact ⟨rfl, _, rfl, (and_iff_left fun _ h => by cases h).symm⟩
  | requeue =>
      refine ⟨rfl, _, rfl, (Tally.requeue_eq_nil_iff c.tally batch).trans ?_⟩
      refine and_congr_right fun _ => ⟨fun hall dropped h => ?_, fun h => ?_⟩
      · cases h
        exact hall
      · exact h _ rfl

/-- What is known of flights that were not waited for: no other is under way,
and the tally is empty just when none of them has left anything in it. -/
structure AreLate (late : List Nat) (c : Counting) : Prop where
  mem : ∀ i f, c.flights[i]? = some f → f.isOver = false → i ∈ late
  eq_nil_iff : c.tally.counts = [] ↔
    ∀ i ∈ late, ∀ f, c.flights[i]? = some f → f.LeavesNothing

theorem areLate_underWay (h : c.tally.counts = []) :
    c.AreLate c.underWay where
  mem := fun _ _ hf hway => (mem_underWay hf).mpr hway
  eq_nil_iff := iff_of_true h fun _ hi _ hf =>
    Flight.leavesNothing_of_under_way ((mem_underWay hf).mp hi)

theorem AreLate.advances {late : List Nat} {f : Flight}
    (h : c.AreLate late) (hf : c.flights[i]? = some f)
    (hmoves : c.Advances i f.batch f.state c') : c'.AreLate late := by
  obtain ⟨hway, next, hflights, hempty⟩ := hmoves.eq_nil_iff
  obtain ⟨hi, -⟩ := List.getElem?_eq_some_iff.mp hf
  -- The flight that moves is one of the late ones, as all that are under way.
  have hlate := h.mem i f hf hway
  have hsame : c'.flights[i]? = some ⟨f.batch, next⟩ := by
    rw [hflights, List.getElem?_set_self hi]
  have hother : ∀ j, i ≠ j → c'.flights[j]? = c.flights[j]? := by
    intro j hj
    rw [hflights, List.getElem?_set_ne hj]
  constructor
  · intro j g hg hover
    by_cases hj : i = j
    · exact hj ▸ hlate
    · exact h.mem j g (hother j hj ▸ hg) hover
  · rw [hempty, h.eq_nil_iff]
    constructor
    · rintro ⟨hbefore, hnext⟩ j hjlate g hg
      by_cases hj : i = j
      · subst hj
        rw [hsame] at hg
        exact Option.some.inj hg ▸ hnext
      · exact hbefore j hjlate g (hother j hj ▸ hg)
    · intro hafter
      refine ⟨fun j hjlate g hg => ?_, hafter i hlate _ hsame⟩
      by_cases hj : i = j
      · subst hj
        rw [hf] at hg
        exact Option.some.inj hg ▸ Flight.leavesNothing_of_under_way hway
      · exact hafter j hjlate g ((hother j hj).trans hg)

theorem AreLate.step {late : List Nat} (h : c.AreLate late) (i : Nat)
    (part : Part) : (c.step (.flight i part)).AreLate late := by
  rw [Counting.step]
  split
  · next f hf =>
      rcases c.advance_cases i part f with hsame | hmoves
      · rw [hsame]
        exact h
      · exact h.advances hf hmoves
  · exact h

end Counting

/-! ## Stopping -/

/-- How far counting has been stopped. -/
inductive Stopping.Stage
  /-- The last batch is under way. -/
  | flushing (own : Nat)
  /-- Counting has been stopped. Flights that were still under way when this
  came about are late. -/
  | stopped (late : List Nat) (discarded : List (Int × Int))

structure Stopping where
  counting : Counting
  stage : Stopping.Stage

namespace Stopping

open Counting (Part)

/-- Starts to stop counting: what the tally holds is taken out, if there is
anything. -/
def start (c : Counting) : Stopping :=
  if c.tally.counts.isEmpty then ⟨c, .stopped c.underWay []⟩
  else ⟨c.step .take, .flushing c.flights.length⟩

/-- A flight moves on. When the last batch is over, counting is stopped, and
what the tally then holds is discarded. -/
def step (s : Stopping) (x : Nat × Part) : Stopping :=
  let c := s.counting.step (.flight x.1 x.2)
  match s.stage with
  | .flushing own =>
    if c.isOver own then
      ⟨{ c with tally := c.tally.emptied },
        .stopped c.underWay c.tally.counts⟩
    else ⟨c, .flushing own⟩
  | .stopped late discarded => ⟨c, .stopped late discarded⟩

def run (parts : List (Nat × Part)) (s : Stopping) : Stopping :=
  parts.foldl step s

def discarded (s : Stopping) : List (Int × Int) :=
  match s.stage with
  | .flushing _ => []
  | .stopped _ discarded => discarded

/-- What is owed to a rule, what was taken out of the tally and what was
discarded. -/
def total (s : Stopping) (rule : Int) : Int :=
  s.counting.total rule + Tally.owed rule s.discarded

theorem total_start (c : Counting) (rule : Int) :
    (start c).total rule = c.total rule := by
  rw [start]
  split
  · exact Int.add_zero _
  · exact (Int.add_zero _).trans
      ((c.total_step .take rule).trans (Int.add_zero _))

theorem total_step (s : Stopping) (x : Nat × Part) (rule : Int) :
    (s.step x).total rule = s.total rule := by
  have hsame : (s.counting.step (.flight x.1 x.2)).total rule =
      s.counting.total rule :=
    (s.counting.total_step _ rule).trans (Int.add_zero _)
  rw [step, total, total, discarded, discarded, ← hsame]
  cases s.stage with
  | flushing own =>
      dsimp only
      split
      · -- What the tally held is discarded instead.
        rw [Counting.total, Counting.total, Int.add_right_comm]
        have hnone : Tally.owed rule
          (s.counting.step (.flight x.1 x.2)).tally.emptied.counts = 0 := rfl
        dsimp only
        rw [hnone]
        have hnothing : Tally.owed rule [] = 0 := rfl
        rw [hnothing]
        omega
      · rfl
  | stopped late discarded => rfl

/-- What holds when counting is being stopped. -/
structure Fits (rows : Database) (s : Stopping) : Prop where
  faithful : s.counting.IsFaithful rows
  late : ∀ late discarded, s.stage = .stopped late discarded →
    s.counting.AreLate late

variable {rows : Database} {s : Stopping}

theorem fits_start {c : Counting} (h : c.IsFaithful rows) :
    (start c).Fits rows := by
  rw [start]
  split
  · next hempty =>
      refine ⟨h, fun late discarded hstage => ?_⟩
      cases hstage
      exact Counting.areLate_underWay (List.isEmpty_iff.mp hempty)
  · exact ⟨h.step .take, fun late discarded hstage => by cases hstage⟩

theorem Fits.step (h : s.Fits rows) (x : Nat × Part) :
    (s.step x).Fits rows := by
  obtain ⟨c, stage⟩ := s
  have hfaithful := h.faithful.step (.flight x.1 x.2)
  cases stage with
  | flushing own =>
      rw [Stopping.step]
      dsimp only
      split
      · refine ⟨hfaithful.withTally List.nodup_nil,
          fun late discarded hstage => ?_⟩
        cases hstage
        exact Counting.areLate_underWay (c := { c.step (.flight x.1 x.2) with
          tally := (c.step (.flight x.1 x.2)).tally.emptied }) rfl
      · exact ⟨hfaithful, fun late discarded hstage => by cases hstage⟩
  | stopped late discarded =>
      refine ⟨hfaithful, fun late' discarded' hstage => ?_⟩
      cases hstage
      exact (h.late late discarded rfl).step x.1 x.2

theorem run_append (parts later : List (Nat × Part)) (s : Stopping) :
    run (parts ++ later) s = run later (run parts s) :=
  List.foldl_append

theorem Fits.run (h : s.Fits rows) (parts : List (Nat × Part)) :
    (run parts s).Fits rows := by
  induction parts generalizing s with
  | nil => exact h
  | cons x rest ih => exact ih (h.step x)

theorem total_run (parts : List (Nat × Part)) (s : Stopping) (rule : Int) :
    (run parts s).total rule = s.total rule := by
  induction parts generalizing s with
  | nil => rfl
  | cons x rest ih => exact (ih (s.step x)).trans (total_step s x rule)

/-- When counting has been stopped and every batch is over, every match that was
counted before is in a committed batch, was dropped, was discarded, or is in the
tally, and the rows are as they were at first, but that each rule was credited
with every committed batch once, which adds to its count what is in these
batches for it. Nothing is in the tally just when each batch that was late is
committed or was dropped as a whole. -/
theorem emptied_iff {patience : Int} {before : List Counting.Move}
    {parts : List (Nat × Part)} {late : List Nat}
    {discarded : List (Int × Int)} {e : Stopping}
    (he : e = run parts (start (.run before (.begin patience rows))))
    (hstopped : e.stage = .stopped late discarded)
    (hover : ∀ f ∈ e.counting.flights, f.isOver = true) :
    (e.counting.tally.counts = [] ↔
      ∀ i ∈ late, ∀ f, e.counting.flights[i]? = some f → f.LeavesNothing) ∧
    (∀ rule, Counting.counted rule before =
      e.counting.stored rule + e.counting.lost rule +
        Tally.owed rule discarded + e.counting.tally.pending rule) ∧
    e.counting.IsFaithful rows ∧ e.counting.AddsUp rows := by
  have hbegin := (Counting.isFaithful_begin patience rows).run before
  have hfits := (fits_start hbegin).run parts
  rw [← he] at hfits
  refine ⟨(hfits.late late discarded hstopped).eq_nil_iff, fun rule => ?_,
    hfits.faithful, hfits.faithful.addsUp⟩
  have hheld : e.counting.held rule = 0 := by
    refine List.sum_eq_zero fun n hn => ?_
    obtain ⟨f, hf, rfl⟩ := List.mem_map.mp hn
    exact f.held_of_isOver (hover f hf) rule
  have htotal := total_run parts
    (start (.run before (.begin patience rows))) rule
  have hnone : (Counting.begin patience rows).total rule = 0 := rfl
  rw [← he, total_start, Counting.total_run, hnone, total, Stopping.discarded,
    hstopped, Counting.total_eq, hheld,
    hfits.faithful.counts.owed_eq] at htotal
  rw [Tally.pending]
  dsimp only at htotal
  omega

open Counting (matched twoRules)

/-- Two batches are under way when counting is stopped. The older one fails
before the last one is over. -/
def failedInTime : Stopping :=
  run [(0, .fail), (1, .write), (0, .finish), (1, .commit), (1, .finish)]
    (start (.run [.count 1 1, .take, .count 2 4] (.begin 3 twoRules)))

/-- What was put back in time is discarded. The last batch is in the count of
its rule, and the other rule has the count that it had. -/
theorem emptied_failedInTime :
    failedInTime.stage = .stopped [] [(1, 1)] ∧
    (∀ f ∈ failedInTime.counting.flights, f.isOver = true) ∧
    failedInTime.counting.tally.counts = [] ∧
    (∀ rule, Counting.counted rule [.count 1 1, .take, .count 2 4] =
      failedInTime.counting.stored rule + failedInTime.counting.lost rule +
        Tally.owed rule [(1, 1)] +
        failedInTime.counting.tally.pending rule) ∧
    failedInTime.counting.IsFaithful twoRules ∧
    failedInTime.counting.rows.rules[0]? = some (matched 1 3) ∧
    failedInTime.counting.rows.rules[1]? = some (matched 2 4) := by
  have hover : ∀ f ∈ failedInTime.counting.flights, f.isOver = true := by
    decide
  have hrun : failedInTime = run
      [(0, .fail), (1, .write), (0, .finish), (1, .commit), (1, .finish)]
      (start (.run [.count 1 1, .take, .count 2 4] (.begin 3 twoRules))) := rfl
  obtain ⟨hempty, hcounted, hfaithful, hadds⟩ := emptied_iff hrun rfl hover
  exact ⟨rfl, hover, hempty.mpr (List.forall_mem_nil _), hcounted, hfaithful,
    hadds 0 _ rfl (by decide), hadds 1 _ rfl (by decide)⟩

/-- The same batch, with nothing else to write, fails when counting has been
stopped. -/
def failedLate : Stopping :=
  run [(0, .fail), (0, .finish)]
    (start (.run [.count 1 1, .take] (.begin 3 twoRules)))

/-- The match is put back when nobody looks after the tally any more. -/
theorem not_emptied_failedLate :
    failedLate.stage = .stopped [0] [] ∧
    (∀ f ∈ failedLate.counting.flights, f.isOver = true) ∧
    failedLate.counting.tally.counts = [(1, 1)] :=
  ⟨rfl, by decide, rfl⟩

/-! ## Stopping in one go -/

theorem run_writes (tally : Tally) (rows : Database)
    (batch left : List (Int × Int)) : ∀ written : List (Int × Int),
    run (left.map fun _ => (0, .write))
      ⟨⟨tally, rows, [⟨batch, .writing written left⟩], []⟩, .flushing 0⟩ =
      ⟨⟨tally, rows, [⟨batch, .writing (written ++ left) []⟩], []⟩,
        .flushing 0⟩ := by
  induction left with
  | nil =>
      intro written
      rw [List.append_nil]
      rfl
  | cons entry left ih =>
      intro written
      have hrest := ih (written ++ [entry])
      rw [List.append_assoc] at hrest
      exact hrest

theorem run_written (tally : Tally) (rows : Database)
    (batch : List (Int × Int)) :
    run ((batch.map fun _ => (0, .write)) ++ [(0, .commit), (0, .finish)])
      ⟨⟨tally, rows, [⟨batch, .writing [] batch⟩], []⟩, .flushing 0⟩ =
      ⟨⟨(tally.settle batch).emptied, rows.addMatches batch,
        [⟨batch, .settled⟩], [(0, batch)]⟩,
        .stopped [] (tally.settle batch).counts⟩ := by
  rw [run_append, run_writes, List.nil_append]
  rfl

theorem run_failed (tally : Tally) (rows : Database)
    (batch : List (Int × Int)) :
    run [(0, .fail), (0, .finish)]
      ⟨⟨tally, rows, [⟨batch, .writing [] batch⟩], []⟩, .flushing 0⟩ =
      ⟨⟨(tally.requeue batch).emptied, rows,
        [⟨batch, .requeued (tally.dropped batch)⟩], []⟩,
        .stopped [] (tally.requeue batch).counts⟩ := rfl

/-- The service stops counting in this way when no other batch is under way, and
then none is late. -/
theorem stopCounting_isRun {s : Service} (hs : s.store.IsCandid)
    (hquiet : s.store.IsQuiet) :
    ∃ parts discarded e,
      e = run parts (start ⟨s.tally, s.store.database, [], []⟩) ∧
      e.stage = .stopped [] discarded ∧
      (∀ f ∈ e.counting.flights, f.isOver = true) ∧
      e.counting.tally = s.stopCounting.tally ∧
      e.counting.rows = s.stopCounting.store.database := by
  let s' : Service := { s with schedule := s.schedule.removeFlush }
  have hstop : s.stopCounting =
    { s'.flush.2 with tally := s'.flush.2.tally.emptied } := rfl
  cases hcounts : s.tally.counts.isEmpty with
  | true =>
      have hflush : s'.flush = (0, s') := by
        rw [Service.flush, hcounts]
        rfl
      have hsame : s.tally = s.tally.emptied := by
        rw [Tally.emptied, ← List.isEmpty_iff.mp hcounts]
      refine ⟨[], [], ⟨⟨s.tally, s.store.database, [], []⟩, .stopped [] []⟩,
        ?_, rfl, List.forall_mem_nil _, ?_, ?_⟩
      · rw [start, hcounts]
        rfl
      · rw [hstop, hflush]
        exact hsame
      · rw [hstop, hflush]
  | false =>
      have hstart : start ⟨s.tally, s.store.database, [], []⟩ =
          ⟨⟨s.tally.emptied, s.store.database,
            [⟨s.tally.counts, .writing [] s.tally.counts⟩], []⟩,
            .flushing 0⟩ := by
        rw [start, Counting.step, hcounts]
        rfl
      obtain ⟨store, arrivals, -, hnone, hcases⟩ :=
        Service.flush_of_candid (s := s') hs hcounts
      obtain ⟨-, rfl⟩ := hnone hquiet
      rw [hstart, hstop]
      rcases hcases with ⟨hstore, hflush⟩ | ⟨hstore, hflush⟩
      · rw [hflush, hstore]
        exact ⟨_, _, _, (run_written _ _ _).symm, rfl,
          List.forall_mem_singleton.mpr rfl, rfl, rfl⟩
      · rw [hflush, hstore]
        exact ⟨_, _, _, (run_failed _ _ _).symm, rfl,
          List.forall_mem_singleton.mpr rfl, rfl, rfl⟩

end Stopping

end Signpost
