import Mathlib
import Signpost.Proofs.Arrivals
import Signpost.Proofs.TallyEntries

/-!
# Failures in a row

A count that cannot be written is put back, and dropped when that has happened
so many times in a row that the patience of the tally is at its end. The tally
remembers the failures of each rule for this: another failure adds one, and
they are forgotten when the count is written or dropped.

They are not forgotten when counting is stopped. What cannot be written then is
discarded, and the service may go on counting; but the failures of a rule whose
count was discarded are held against the count that it gets next, which is
dropped after so many failures fewer. The last results say just when it is so:
what the tally remembers are the failures since the rule was last written or
dropped, whatever was discarded meanwhile.
-/

namespace Signpost

/-! ## What the tally remembers of one rule -/

namespace Tally

variable {batch : List (Int × Int)} {t : Tally} {rule id amount : Int}

/-- The rules with matches that are not yet written. -/
def rules (t : Tally) : List Int :=
  t.counts.map (·.1)

/-- What the tally remembers of a rule after the count of the rule has failed
once more. -/
def failedAgain? (t : Tally) (rule : Int) : Option Nat :=
  let failed := (value? t.failures rule).getD 0 + 1
  if t.patience ≤ failed then none else some failed

theorem mem_rules_count (t : Tally) (id amount rule : Int) :
    rule ∈ (t.count id amount).rules ↔ rule = id ∨ rule ∈ t.rules := by
  have hkeys : (t.count id amount).rules =
      if id ∈ t.rules then t.rules else t.rules ++ [id] :=
    keys_assign id _ t.counts
  rw [hkeys]
  split
  · next hid =>
      exact (or_iff_right_of_imp fun h => h ▸ hid).symm
  · rw [List.mem_append, List.mem_singleton, or_comm]

theorem value?_settle (t : Tally) (batch : List (Int × Int)) (rule : Int) :
    value? (t.settle batch).failures rule =
      if rule ∈ batch.map (·.1) then none else value? t.failures rule := by
  have hfold : ∀ failures : List (Int × Nat),
      value? (batch.foldl (fun fs x => release x.1 fs) failures) rule =
        if rule ∈ batch.map (·.1) then none else value? failures rule := by
    induction batch with
    | nil => exact fun _ => rfl
    | cons x rest ih =>
        intro failures
        rw [List.foldl_cons, ih, value?_release]
        by_cases hx : x.1 = rule
        · simp [hx]
        · have hsymm : rule ≠ x.1 := Ne.symm hx
          simp only [hx, hsymm, List.map_cons, List.mem_cons, false_or,
            if_false]
  exact hfold t.failures

theorem requeueOne_of_ne (h : id ≠ rule) (t : Tally) (amount : Int) :
    value? (t.requeueOne id amount).failures rule = value? t.failures rule ∧
      (rule ∈ (t.requeueOne id amount).rules ↔ rule ∈ t.rules) := by
  rw [requeueOne]
  split
  · exact ⟨by rw [value?_release, if_neg h], Iff.rfl⟩
  · refine ⟨by rw [value?_assign, if_neg h], ?_⟩
    exact (mem_rules_count t id amount rule).trans (or_iff_right h.symm)

theorem requeueOne_self (t : Tally) (rule amount : Int) :
    value? (t.requeueOne rule amount).failures rule = t.failedAgain? rule ∧
      (rule ∈ (t.requeueOne rule amount).rules ↔
        t.failedAgain? rule ≠ none ∨ rule ∈ t.rules) := by
  rw [requeueOne, failedAgain?]
  dsimp only
  split
  · exact ⟨by rw [value?_release, if_pos rfl], (or_iff_right (· rfl)).symm⟩
  · refine ⟨by rw [value?_assign, if_pos rfl], ?_⟩
    have hcounted := mem_rules_count t rule amount rule
    exact iff_of_true (hcounted.mpr (.inl rfl)) (.inl (Option.some_ne_none _))

theorem patience_requeueOne (t : Tally) (id amount : Int) :
    (t.requeueOne id amount).patience = t.patience := by
  rw [requeueOne]
  split <;> rfl

theorem patience_requeue (t : Tally) (batch : List (Int × Int)) :
    (t.requeue batch).patience = t.patience := by
  induction batch generalizing t with
  | nil => rfl
  | cons x rest ih =>
      exact (ih (t.requeueOne x.1 x.2)).trans (patience_requeueOne t x.1 x.2)

/-- A batch that is put back leaves alone what it has no entry for. -/
theorem requeue_of_not_mem (h : rule ∉ batch.map (·.1)) (t : Tally) :
    value? (t.requeue batch).failures rule = value? t.failures rule ∧
      (rule ∈ (t.requeue batch).rules ↔ rule ∈ t.rules) := by
  induction batch generalizing t with
  | nil => exact ⟨rfl, Iff.rfl⟩
  | cons x rest ih =>
      rw [List.map_cons, List.mem_cons, not_or] at h
      obtain ⟨hfailures, hrules⟩ := ih h.2 (t.requeueOne x.1 x.2)
      obtain ⟨hfailures', hrules'⟩ :=
        requeueOne_of_ne (Ne.symm h.1) t x.2
      exact ⟨hfailures.trans hfailures', hrules.trans hrules'⟩

/-- A rule of a batch that is put back has failed once more, however many
others are in the batch. -/
theorem requeue_of_mem (hbatch : IsKeyed batch) (h : rule ∈ batch.map (·.1))
    (t : Tally) :
    value? (t.requeue batch).failures rule = t.failedAgain? rule ∧
      (rule ∈ (t.requeue batch).rules ↔
        t.failedAgain? rule ≠ none ∨ rule ∈ t.rules) := by
  induction batch generalizing t with
  | nil => cases h
  | cons x rest ih =>
      obtain ⟨hx, hrest⟩ := List.nodup_cons.mp hbatch
      by_cases hid : x.1 = rule
      · subst hid
        obtain ⟨hfailures, hrules⟩ :=
          requeue_of_not_mem hx (t.requeueOne x.1 x.2)
        obtain ⟨hfailures', hrules'⟩ := requeueOne_self t x.1 x.2
        exact ⟨hfailures.trans hfailures', hrules.trans hrules'⟩
      · have hmem : rule ∈ rest.map (·.1) :=
          (List.mem_cons.mp h).resolve_left (Ne.symm hid)
        obtain ⟨hfailures, hrules⟩ := ih hrest hmem (t.requeueOne x.1 x.2)
        obtain ⟨hfailures', hrules'⟩ := requeueOne_of_ne hid t x.2
        have hagain : (t.requeueOne x.1 x.2).failedAgain? rule = t.failedAgain? rule := by
          rw [failedAgain?, failedAgain?, hfailures', patience_requeueOne]
        rw [hagain] at hfailures hrules
        exact ⟨hfailures, hrules.trans (or_congr_right hrules')⟩

end Tally

/-! ## Writing the tally to a quiet store -/

namespace Service

variable {s : Service} {rule : Int}

theorem flush_of_isQuiet (hs : s.store.IsQuiet) :
    (s.tally.counts = [] ∧ s.flush = (0, s)) ∨
    (s.flush.1 ≠ 0 ∧
      s.flush.2.tally = s.tally.emptied.settle s.tally.counts) ∨
    (s.flush.1 = 0 ∧
      s.flush.2.tally = s.tally.emptied.requeue s.tally.counts) := by
  cases hcounts : s.tally.counts with
  | nil =>
      refine .inl ⟨rfl, ?_⟩
      rw [flush, hcounts]
      rfl
  | cons x rest =>
      have hfull : s.tally.counts.isEmpty = false := by
        rw [hcounts]
        rfl
      have hkept : ({ s with tally := s.tally.emptied }.transact
          (Plan.query (.addMatches s.tally.counts))).2.tally =
            s.tally.emptied :=
        congrArg tally (transact_of_isQuiet
          (s := { s with tally := s.tally.emptied }) _ hs)
      rw [flush, hfull, if_neg Bool.false_ne_true, ← hcounts]
      split
      · next after hwritten =>
          rw [hwritten] at hkept
          refine .inr (.inl ⟨?_, congrArg (·.settle s.tally.counts) hkept⟩)
          rw [hcounts]
          exact Nat.succ_ne_zero _
      · next after hfailed =>
          rw [hfailed] at hkept
          exact .inr (.inr ⟨rfl, congrArg (·.requeue s.tally.counts) hkept⟩)

theorem flush_of_uncounted (hs : s.store.IsQuiet) (h : rule ∉ s.tally.rules) :
    Tally.value? s.flush.2.tally.failures rule =
        Tally.value? s.tally.failures rule ∧
      rule ∉ s.flush.2.tally.rules := by
  rcases flush_of_isQuiet hs with ⟨-, hflush⟩ | ⟨-, hflush⟩ | ⟨-, hflush⟩
  · rw [hflush]
    exact ⟨rfl, h⟩
  · rw [hflush]
    exact ⟨(Tally.value?_settle _ _ rule).trans (if_neg h),
      List.not_mem_nil⟩
  · obtain ⟨hfailures, hrules⟩ := Tally.requeue_of_not_mem h s.tally.emptied
    rw [hflush]
    exact ⟨hfailures, fun hmem => List.not_mem_nil (hrules.mp hmem)⟩

/-- What becomes of a count when the tally is written: it is out of the tally,
and its failures are forgotten, or it has failed once more. -/
theorem flush_of_counted (hs : s.store.IsQuiet)
    (hkeyed : Tally.IsKeyed s.tally.counts) (h : rule ∈ s.tally.rules) :
    (s.flush.1 ≠ 0 ∧ Tally.value? s.flush.2.tally.failures rule = none ∧
      rule ∉ s.flush.2.tally.rules) ∨
    (s.flush.1 = 0 ∧ Tally.value? s.flush.2.tally.failures rule =
        s.tally.failedAgain? rule ∧
      (rule ∈ s.flush.2.tally.rules ↔ s.tally.failedAgain? rule ≠ none)) := by
  rcases flush_of_isQuiet hs with ⟨hnone, -⟩ | ⟨hdone, hflush⟩ | ⟨hfailed, hflush⟩
  · rw [Tally.rules, hnone] at h
    cases h
  · refine .inl ⟨hdone, ?_⟩
    rw [hflush]
    exact ⟨(Tally.value?_settle _ _ rule).trans (if_pos h),
      List.not_mem_nil⟩
  · obtain ⟨hfailures, hrules⟩ :=
      Tally.requeue_of_mem hkeyed h s.tally.emptied
    refine .inr ⟨hfailed, ?_⟩
    rw [hflush]
    exact ⟨hfailures, hrules.trans (or_iff_left List.not_mem_nil)⟩

theorem isKeyed_flush (hs : s.store.IsQuiet)
    (hkeyed : Tally.IsKeyed s.tally.counts) :
    Tally.IsKeyed s.flush.2.tally.counts := by
  rcases flush_of_isQuiet hs with ⟨-, hflush⟩ | ⟨-, hflush⟩ | ⟨-, hflush⟩
  · rw [hflush]
    exact hkeyed
  · rw [hflush]
    exact List.nodup_nil
  · have hempty : Tally.IsKeyed s.tally.emptied.counts := List.nodup_nil
    rw [hflush]
    exact hempty.requeue s.tally.counts

theorem patience_flush (hs : s.store.IsQuiet) :
    s.flush.2.tally.patience = s.tally.patience := by
  rcases flush_of_isQuiet hs with ⟨-, hflush⟩ | ⟨-, hflush⟩ | ⟨-, hflush⟩
  · rw [hflush]
  · rw [hflush]
    rfl
  · rw [hflush]
    exact Tally.patience_requeue s.tally.emptied s.tally.counts

end Service

/-! ## What becomes of counts -/

/-- What becomes of the count of a rule. -/
inductive Fate
  | written
  /-- It could not be written and was put back. -/
  | failed
  /-- It could not be written and was dropped. -/
  | dropped
  /-- It was still there when counting had been stopped. -/
  | discarded
deriving DecidableEq

/-- The failures of a rule. -/
structure Streak where
  /-- Since its count was last written, dropped or discarded. -/
  own : Nat
  /-- Since its count was last written or dropped. -/
  carried : Nat
deriving DecidableEq

namespace Streak

def after (r : Streak) : Fate → Streak
  | .failed => ⟨r.own + 1, r.carried + 1⟩
  | .written | .dropped => ⟨0, 0⟩
  | .discarded => ⟨0, r.carried⟩

def afterAll (r : Streak) (fates : List Fate) : Streak :=
  fates.foldl after r

theorem afterAll_append (r : Streak) (fates later : List Fate) :
    r.afterAll (fates ++ later) = (r.afterAll fates).afterAll later :=
  List.foldl_append

end Streak

/-- Something that is done to the tally of a service, with the store as it is
by then. -/
inductive Deed
  | count (rule amount : Int)
  | flush (store : Store) (quiet : store.IsQuiet)
  | stop (store : Store) (quiet : store.IsQuiet)

def Deed.isStop : Deed → Bool
  | .stop .. => true
  | _ => false

namespace Service

def facing (s : Service) (store : Store) : Service :=
  { s with store := store }

/-- What becomes of the count of a rule, if it has one, when the tally is
written. -/
def attempt (s : Service) (rule : Int) : List Fate :=
  if rule ∈ s.tally.rules then
    if s.flush.1 ≠ 0 then [.written]
    else if rule ∈ s.flush.2.tally.rules then [.failed]
    else [.dropped]
  else []

def done (s : Service) : Deed → Service
  | .count rule amount => { s with tally := s.tally.count rule amount }
  | .flush store _ => (s.facing store).flush.2
  | .stop store _ => (s.facing store).stopCounting

/-- What becomes of the count of a rule. Counting is stopped with an attempt to
write the tally; what is left after it is discarded. -/
def fates (s : Service) (rule : Int) : Deed → List Fate
  | .count _ _ => []
  | .flush store _ => (s.facing store).attempt rule
  | .stop store _ =>
    let s := { s.facing store with schedule := s.schedule.removeFlush }
    s.attempt rule ++
      if rule ∈ s.flush.2.tally.rules then [.discarded] else []

def doneAll (s : Service) (deeds : List Deed) : Service :=
  deeds.foldl done s

def streak (s : Service) (rule : Int) (r : Streak) : List Deed → Streak
  | [] => r
  | d :: rest => (s.done d).streak rule (r.afterAll (s.fates rule d)) rest

/-- While counting is not stopped, a rule carries no failures but its own. -/
theorem own_eq_carried {s : Service} {rule : Int} {r : Streak}
    (hr : r.own = r.carried) (deeds : List Deed)
    (h : ∀ d ∈ deeds, d.isStop = false) :
    (s.streak rule r deeds).own = (s.streak rule r deeds).carried := by
  induction deeds generalizing s r with
  | nil => exact hr
  | cons d rest ih =>
      obtain ⟨hd, hrest⟩ := List.forall_mem_cons.mp h
      refine ih ?_ hrest
      cases d with
      | count id amount => exact hr
      | stop store hquiet => cases hd
      | flush store hquiet =>
          -- Only a count that is discarded could set the two apart.
          rw [fates, attempt]
          split
          · split
            · rfl
            · split
              · exact congrArg Nat.succ hr
              · rfl
          · exact hr

end Service

/-! ## What the tally remembers of a streak -/

namespace Streak

/-- What holds of a rule's streak and the tally after every deed. The tally
remembers the failures that were carried, not only the rule's own. -/
structure Fits (k : Nat) (rule : Int) (t : Tally) (r : Streak) : Prop where
  keyed : Tally.IsKeyed t.counts
  patience : t.patience = k
  failures : Tally.value? t.failures rule =
    if r.carried = 0 then none else some r.carried
  few : r.carried < k
  counted : r.own ≠ 0 → rule ∈ t.rules
  within : r.own ≤ r.carried

/-- What an attempt to write the tally can bring a rule with such a streak. -/
inductive Attempted (k : Nat) (rule : Int) (r : Streak) (s : Service) : Prop
  | uncounted (out : rule ∉ s.tally.rules) (fate : s.attempt rule = [])
      (failures : Tally.value? s.flush.2.tally.failures rule =
        Tally.value? s.tally.failures rule)
  | written (counted : rule ∈ s.tally.rules) (done : s.flush.1 ≠ 0)
      (fate : s.attempt rule = [.written])
      (failures : Tally.value? s.flush.2.tally.failures rule = none)
  | failed (counted : rule ∈ s.tally.rules) (failed : s.flush.1 = 0)
      (more : r.carried + 1 ≠ k) (fate : s.attempt rule = [.failed])
      (failures : Tally.value? s.flush.2.tally.failures rule =
        some (r.carried + 1))
      (back : rule ∈ s.flush.2.tally.rules)
  | dropped (counted : rule ∈ s.tally.rules) (failed : s.flush.1 = 0)
      (last : r.carried + 1 = k) (fate : s.attempt rule = [.dropped])
      (failures : Tally.value? s.flush.2.tally.failures rule = none)

namespace Fits

variable {k : Nat} {rule : Int} {t : Tally} {r : Streak} {s : Service}

theorem failedAgain? (h : r.Fits k rule t) :
    t.failedAgain? rule =
      if r.carried + 1 = k then none else some (r.carried + 1) := by
  have hfailed : (Tally.value? t.failures rule).getD 0 = r.carried := by
    rw [h.failures]
    split
    · next hzero => exact hzero.symm
    · rfl
  have hfew := h.few
  rw [Tally.failedAgain?, hfailed, h.patience]
  split
  · next hmany => rw [if_pos (by omega)]
  · next hroom => rw [if_neg (by omega)]

theorem count (h : r.Fits k rule t) (id amount : Int) :
    r.Fits k rule (t.count id amount) where
  keyed := h.keyed.count id amount
  patience := h.patience
  failures := h.failures
  few := h.few
  counted := fun hown =>
    (Tally.mem_rules_count t id amount rule).mpr (.inr (h.counted hown))
  within := h.within

theorem own_eq_zero (h : r.Fits k rule t) (hnone : rule ∉ t.rules) :
    r.own = 0 :=
  of_not_not fun hown => hnone (h.counted hown)

theorem attempted (h : r.Fits k rule s.tally) (hs : s.store.IsQuiet) :
    Attempted k rule r s := by
  by_cases hmem : rule ∈ s.tally.rules
  · rcases Service.flush_of_counted hs h.keyed hmem with
      ⟨hdone, hfailures, -⟩ | ⟨hfailed, hfailures, hback⟩
    · refine .written hmem hdone ?_ hfailures
      rw [Service.attempt, if_pos hmem, if_pos hdone]
    · rw [h.failedAgain?] at hfailures hback
      by_cases hlast : r.carried + 1 = k
      · rw [if_pos hlast] at hfailures hback
        refine .dropped hmem hfailed hlast ?_ hfailures
        rw [Service.attempt, if_pos hmem, if_neg (not_not.mpr hfailed),
          if_neg fun hin => hback.mp hin rfl]
      · rw [if_neg hlast] at hfailures hback
        have hin := hback.mpr (Option.some_ne_none _)
        refine .failed hmem hfailed hlast ?_ hfailures hin
        rw [Service.attempt, if_pos hmem, if_neg (not_not.mpr hfailed),
          if_pos hin]
  · refine .uncounted hmem ?_ (Service.flush_of_uncounted hs hmem).1
    rw [Service.attempt, if_neg hmem]

theorem flush (h : r.Fits k rule s.tally) (hs : s.store.IsQuiet) :
    (r.afterAll (s.attempt rule)).Fits k rule s.flush.2.tally := by
  have hkeyed := Service.isKeyed_flush hs h.keyed
  have hpatience := (Service.patience_flush hs).trans h.patience
  have hpositive : 0 < k := Nat.zero_lt_of_lt h.few
  cases h.attempted hs with
  | uncounted hout hfate hfailures =>
      rw [hfate]
      exact ⟨hkeyed, hpatience, hfailures.trans h.failures, h.few,
        fun hown => absurd (h.own_eq_zero hout) hown, h.within⟩
  | written hmem hdone hfate hfailures =>
      rw [hfate]
      exact ⟨hkeyed, hpatience, hfailures, hpositive,
        fun hown => absurd rfl hown, le_rfl⟩
  | failed hmem hfailed hmore hfate hfailures hback =>
      rw [hfate]
      have hroom := Nat.lt_of_le_of_ne h.few hmore
      exact ⟨hkeyed, hpatience, hfailures, hroom, fun _ => hback,
        Nat.succ_le_succ h.within⟩
  | dropped hmem hfailed hlast hfate hfailures =>
      rw [hfate]
      exact ⟨hkeyed, hpatience, hfailures, hpositive,
        fun hown => absurd rfl hown, le_rfl⟩

/-- Discarding what is left empties the tally and forgets no failure. -/
theorem discard (h : r.Fits k rule t) :
    (r.afterAll (if rule ∈ t.rules then [.discarded] else [])).Fits k rule
      t.emptied := by
  split
  · exact ⟨List.nodup_nil, h.patience, h.failures, h.few,
      fun hown => absurd rfl hown, Nat.zero_le _⟩
  · next hmem =>
      exact ⟨List.nodup_nil, h.patience, h.failures, h.few,
        fun hown => absurd (h.own_eq_zero hmem) hown, h.within⟩

theorem done (h : r.Fits k rule s.tally) (d : Deed) :
    (r.afterAll (s.fates rule d)).Fits k rule (s.done d).tally := by
  cases d with
  | count id amount => exact h.count id amount
  | flush store hquiet =>
      exact flush (s := s.facing store) h hquiet
  | stop store hquiet =>
      have hflush := flush (s := { s.facing store with
        schedule := s.schedule.removeFlush }) h hquiet
      rw [Service.fates, afterAll_append]
      exact hflush.discard

theorem doneAll (h : r.Fits k rule s.tally) (deeds : List Deed) :
    (s.streak rule r deeds).Fits k rule (s.doneAll deeds).tally := by
  induction deeds generalizing s r with
  | nil => exact h
  | cons d rest ih => exact ih (h.done d)

/-- What the tally remembers of a rule is as it should be just when the rule
carries no failures but its own. -/
theorem tidy_iff (h : r.Fits k rule t) :
    (∀ n, Tally.value? t.failures rule = some n →
      rule ∈ t.rules ∧ 1 ≤ n ∧ n ≤ t.patience - 1 ∧ n = r.own) ↔
    r.own = r.carried := by
  have hfew := h.few
  have hwithin := h.within
  rw [h.failures, h.patience]
  split
  · next hzero =>
      exact iff_of_true (fun n hn => by cases hn) (by omega)
  · next hsome =>
      constructor
      · exact fun htidy => (htidy r.carried rfl).2.2.2.symm
      · intro hown n hn
        obtain rfl := Option.some.inj hn
        exact ⟨h.counted (hown ▸ hsome), by omega, by omega, hown.symm⟩

theorem dropped_iff (h : r.Fits k rule s.tally) (hs : s.store.IsQuiet) :
    s.attempt rule = [.dropped] ↔
      rule ∈ s.tally.rules ∧ s.flush.1 = 0 ∧ r.carried + 1 = k := by
  cases h.attempted hs with
  | uncounted hout hfate => simp [hfate, hout]
  | written hmem hdone hfate => simp [hfate, hdone]
  | failed hmem hfailed hmore hfate => simp [hfate, hmore]
  | dropped hmem hfailed hlast hfate => simp [hfate, hmem, hfailed, hlast]

end Fits

theorem fits_empty {k : Nat} (hk : 1 ≤ k) (rule : Int) :
    Fits k rule (.empty k) ⟨0, 0⟩ :=
  ⟨List.nodup_nil, rfl, rfl, hk, fun hown => absurd rfl hown, le_rfl⟩

end Streak

/-! ## When a count is dropped -/

/-- Each rule that failed, as far as the tally remembers, has matches in it,
and it has failed a number of times in a row that leaves patience. -/
def Tally.IsTidy (t : Tally) (failed : Int → Nat) : Prop :=
  ∀ rule n, value? t.failures rule = some n →
    rule ∈ t.rules ∧ 1 ≤ n ∧ n ≤ t.patience - 1 ∧ n = failed rule

namespace Service

/-- After whatever was done, the tally remembers of each rule the failures since
it was last written or dropped, and drops its count with the failure at which
they reach the patience of the tally. These are the failures since it was last
written, dropped or discarded, so that the tally is tidy, as long as no rule has
others that it carries on from before it was discarded. -/
theorem isTidy_iff {s : Service} {k : Nat} (hk : 1 ≤ k)
    (hnew : s.tally = .empty k) (deeds : List Deed) :
    ((s.doneAll deeds).tally.IsTidy
        (fun rule => (s.streak rule ⟨0, 0⟩ deeds).own) ↔
      ∀ rule, (s.streak rule ⟨0, 0⟩ deeds).own =
        (s.streak rule ⟨0, 0⟩ deeds).carried) ∧
    (∀ rule, Tally.value? (s.doneAll deeds).tally.failures rule =
      if (s.streak rule ⟨0, 0⟩ deeds).carried = 0 then none
      else some (s.streak rule ⟨0, 0⟩ deeds).carried) ∧
    ∀ rule (u : Service), u.store.IsQuiet →
      u.tally = (s.doneAll deeds).tally →
      (u.attempt rule = [.dropped] ↔ rule ∈ u.tally.rules ∧ u.flush.1 = 0 ∧
        (s.streak rule ⟨0, 0⟩ deeds).carried + 1 = k) := by
  have hfits : ∀ rule, (s.streak rule ⟨0, 0⟩ deeds).Fits k rule
      (s.doneAll deeds).tally := fun rule =>
    Streak.Fits.doneAll (hnew ▸ Streak.fits_empty hk rule) deeds
  exact ⟨forall_congr' fun rule => (hfits rule).tidy_iff,
    fun rule => (hfits rule).failures,
    fun rule u hquiet hu => (hu ▸ hfits rule).dropped_iff hquiet⟩

/-- A store that fails to take the next matches. -/
def unwritable : Store :=
  Store.empty.arrange ⟨.addMatches, 1, some .repository, [], none⟩

theorem isQuiet_unwritable : unwritable.IsQuiet :=
  ⟨rfl, fun _ ho => List.mem_singleton.mp ho ▸ rfl⟩

/-- A service that gives up with the third failure. -/
def patient : Service :=
  .fresh ⟨0⟩ false 3 60

/-- Two failures in a row, the other rule being counted after the first. -/
def failedTwice : List Deed :=
  [.count 1 5, .flush unwritable isQuiet_unwritable, .count 2 1,
    .flush unwritable isQuiet_unwritable]

/-- The next failure drops the count of the one rule and puts that of the other
back. -/
theorem isTidy_failedTwice :
    1 ≤ 3 ∧ patient.tally = .empty (3 : Nat) ∧
    (patient.doneAll failedTwice).tally.IsTidy
      (fun rule => (patient.streak rule ⟨0, 0⟩ failedTwice).own) ∧
    Tally.value? (patient.doneAll failedTwice).tally.failures 1 = some 2 ∧
    Tally.value? (patient.doneAll failedTwice).tally.failures 2 = some 1 ∧
    ((patient.doneAll failedTwice).facing unwritable).attempt 1 =
      [.dropped] ∧
    ((patient.doneAll failedTwice).facing unwritable).attempt 2 ≠
      [.dropped] := by
  obtain ⟨htidy, hfailures, hdropped⟩ :=
    isTidy_iff (s := patient) (k := 3) (by decide) rfl failedTwice
  have hone : patient.streak 1 ⟨0, 0⟩ failedTwice = ⟨2, 2⟩ := by decide
  have htwo : patient.streak 2 ⟨0, 0⟩ failedTwice = ⟨1, 1⟩ := by decide
  refine ⟨by decide, rfl, htidy.mpr fun rule => ?_, ?_, ?_, ?_, ?_⟩
  · exact own_eq_carried rfl failedTwice (by simp [failedTwice, Deed.isStop])
  · rw [hfailures 1, hone]
    rfl
  · rw [hfailures 2, htwo]
    rfl
  · refine (hdropped 1 (facing _ unwritable) isQuiet_unwritable rfl).mpr
      ⟨by decide, by decide, ?_⟩
    rw [hone]
  · intro hnow
    have hlast := (hdropped 2 (facing _ unwritable) isQuiet_unwritable rfl).mp
      hnow
    rw [htwo] at hlast
    cases hlast.2.2

/-- A failure when counting is stopped, and one when the service has gone on. -/
def failedOnStop : List Deed :=
  [.count 1 1, .stop unwritable isQuiet_unwritable]

def failedAfterwards : List Deed :=
  failedOnStop ++ [.count 1 1, .flush unwritable isQuiet_unwritable]

/-- A failure is remembered of a rule without matches, and the match that the
rule gets next is dropped with its second failure. -/
theorem not_isTidy_failedOnStop :
    1 ≤ 3 ∧ patient.tally = .empty (3 : Nat) ∧
    ¬ (patient.doneAll failedOnStop).tally.IsTidy
      (fun rule => (patient.streak rule ⟨0, 0⟩ failedOnStop).own) ∧
    (patient.streak 1 ⟨0, 0⟩ failedAfterwards).own + 1 = 2 ∧
    ((patient.doneAll failedAfterwards).facing unwritable).attempt 1 =
      [.dropped] := by
  refine ⟨by decide, rfl, fun htidy => ?_, by decide, by decide⟩
  have hcounted := (htidy 1 1 (by decide)).1
  exact absurd hcounted (by decide)

end Service

end Signpost
