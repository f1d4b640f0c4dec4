import Mathlib
import Signpost.Proofs.Coherence

/-!
# Counts and redirections

A redirection counts one match at the most. Whatever happens to a match
afterwards, it is in the tally, in the count of its row, or lost: writing the
tally moves a batch from the one to the other, a batch that could not be
written goes back or is dropped, and no task of managing rules touches a
count. So what a row holds and what the tally still owes it are together no
more than the redirections so far, and a count has its place until there were
as many redirections as a place has room for.
-/

namespace Signpost

/-! ## What a tally owes -/

namespace Tally

/-- The matches of a rule among counted ones, under all its entries. -/
def owed (rule : Int) : List (Int × Int) → Int
  | [] => 0
  | (id, amount) :: rest => (if id = rule then amount else 0) + owed rule rest

/-- Entries that only ever counted something: no amount is negative. -/
def IsCount (counts : List (Int × Int)) : Prop :=
  ∀ x ∈ counts, 0 ≤ x.2

variable {counts batch : List (Int × Int)} {t : Tally} {rule id amount : Int}

theorem IsCount.owed_nonneg (h : IsCount counts) (rule : Int) :
    0 ≤ owed rule counts := by
  induction counts with
  | nil => exact le_rfl
  | cons x rest ih =>
      obtain ⟨hx, hrest⟩ := List.forall_mem_cons.mp h
      have hnonneg := ih hrest
      rw [owed]
      split <;> omega

theorem IsCount.value?_nonneg (h : IsCount counts) :
    0 ≤ (value? counts rule).getD 0 := by
  rw [value?]
  cases hfound : counts.find? (·.1 == rule) with
  | none => exact le_rfl
  | some x => exact h x (List.mem_of_find?_eq_some hfound)

theorem IsCount.assign (h : IsCount counts) (hamount : 0 ≤ amount) :
    IsCount (assign rule amount counts) := by
  induction counts with
  | nil =>
      intro x hx
      rw [List.mem_singleton.mp hx]
      exact hamount
  | cons x rest ih =>
      obtain ⟨hx, hrest⟩ := List.forall_mem_cons.mp h
      rw [Tally.assign]
      split
      · exact List.forall_mem_cons.mpr ⟨hamount, hrest⟩
      · exact List.forall_mem_cons.mpr ⟨hx, ih hrest⟩

/-- Counting matches of a rule owes it so many more, and no other. -/
theorem owed_count (t : Tally) (rule amount id : Int) :
    owed id (t.count rule amount).counts =
      owed id t.counts + if rule = id then amount else 0 := by
  have hassign : ∀ counts : List (Int × Int),
      owed id (Tally.assign rule ((value? counts rule).getD 0 + amount)
        counts) = owed id counts + if rule = id then amount else 0 := by
    intro counts
    induction counts with
    | nil => simp [Tally.assign, value?, owed]
    | cons x rest ih =>
        by_cases hx : x.1 = rule
        · simp only [Tally.assign, value?, List.find?_cons, hx, owed,
            beq_self_eq_true, if_true, Option.map_some, Option.getD_some]
          split <;> omega
        · have hvalue : value? (x :: rest) rule = value? rest rule := by
            simp [value?, hx]
          rw [hvalue, Tally.assign, if_neg hx, owed, owed, ih]
          omega
  exact hassign t.counts

theorem IsCount.count (h : IsCount t.counts) (hamount : 0 ≤ amount) :
    IsCount (t.count rule amount).counts :=
  h.assign (Int.add_nonneg h.value?_nonneg hamount)

/-- What is dropped of a batch that is put back: the entries of the rules that
have failed too many times in a row. -/
def dropped (t : Tally) : List (Int × Int) → List (Int × Int)
  | [] => []
  | (id, amount) :: rest =>
    if t.patience ≤ (value? t.failures id).getD 0 + 1 then
      (id, amount) :: dropped (t.requeueOne id amount) rest
    else dropped (t.requeueOne id amount) rest

theorem counts_requeueOne (t : Tally) (id amount : Int) :
    (t.requeueOne id amount).counts =
      if t.patience ≤ (value? t.failures id).getD 0 + 1 then t.counts
      else (t.count id amount).counts := by
  rw [requeueOne]
  split
  · next hmany => rw [if_pos (by exact_mod_cast hmany)]
  · next hfew => rw [if_neg (by exact_mod_cast hfew)]

/-- A batch that is put back is owed again, but for what is dropped of it. -/
theorem owed_requeue (t : Tally) (batch : List (Int × Int)) (id : Int) :
    owed id (t.requeue batch).counts + owed id (t.dropped batch) =
      owed id t.counts + owed id batch := by
  induction batch generalizing t with
  | nil => rfl
  | cons x rest ih =>
      have hrest := ih (t.requeueOne x.1 x.2)
      have hrequeue : t.requeue (x :: rest) =
          (t.requeueOne x.1 x.2).requeue rest := rfl
      rw [counts_requeueOne] at hrest
      rw [hrequeue, dropped, owed]
      split
      · next hmany =>
          rw [if_pos hmany] at hrest
          rw [owed]
          omega
      · next hfew =>
          rw [if_neg hfew, owed_count] at hrest
          omega

theorem IsCount.dropped (hbatch : IsCount batch) (t : Tally) :
    IsCount (t.dropped batch) := by
  induction batch generalizing t with
  | nil => exact List.forall_mem_nil _
  | cons x rest ih =>
      obtain ⟨hx, hrest⟩ := List.forall_mem_cons.mp hbatch
      rw [Tally.dropped]
      split
      · exact List.forall_mem_cons.mpr ⟨hx, ih hrest _⟩
      · exact ih hrest _

theorem IsCount.requeue (hbatch : IsCount batch) (h : IsCount t.counts) :
    IsCount (t.requeue batch).counts := by
  induction batch generalizing t with
  | nil => exact h
  | cons x rest ih =>
      obtain ⟨hx, hrest⟩ := List.forall_mem_cons.mp hbatch
      have hone : IsCount (t.requeueOne x.1 x.2).counts := by
        rw [requeueOne]
        split
        · exact h
        · exact h.count hx
      exact ih hrest hone

end Tally

/-! ## Writing a batch -/

theorem hasPlace_of_nonneg {n : Int} (hnonneg : 0 ≤ n)
    (hlimit : n < numberLimit) : hasPlace n = true := by
  rw [hasPlace, Bool.and_eq_true, decide_eq_true_eq, decide_eq_true_eq]
  rw [numberLimit] at hlimit ⊢
  omega

namespace Database

variable {d : Database}

/-- Writing one entry adds to the count of its rule and to no other. -/
theorem modifyRule_counts {id amount : Int} (hamount : 0 ≤ amount)
    (h : ∀ x ∈ d.rules, 0 ≤ x.matchCount ∧
      (x.matchCount + if id = x.id then amount else 0) < numberLimit) :
    ∀ r ∈ (d.modifyRule id (·.addMatches amount)).rules,
      ∃ x ∈ d.rules, x.id = r.id ∧
        r.matchCount = x.matchCount + if id = x.id then amount else 0 := by
  intro r hr
  obtain ⟨x, hx, rfl⟩ := List.mem_map.mp hr
  refine ⟨x, hx, ?_⟩
  obtain ⟨hnonneg, hlimit⟩ := h x hx
  by_cases hid : x.id = id
  · rw [if_pos hid.symm] at hlimit
    have hsum : sumCounts x.matchCount amount = x.matchCount + amount :=
      sumCounts_of_hasPlace (hasPlace_of_nonneg hnonneg (by omega))
        (hasPlace_of_nonneg (by omega) hlimit)
    simp [hid, Rule.addMatches, hsum]
  · simp [hid, Ne.symm hid]

/-- Writing a batch adds to a count what is owed to it, as long as the sum has
its place. -/
theorem addMatches_counts {counts : List (Int × Int)}
    (hcounts : Tally.IsCount counts)
    (h : ∀ x ∈ d.rules, 0 ≤ x.matchCount ∧
      x.matchCount + Tally.owed x.id counts < numberLimit) :
    ∀ r ∈ (d.addMatches counts).rules, ∃ x ∈ d.rules, x.id = r.id ∧
      r.matchCount = x.matchCount + Tally.owed x.id counts := by
  -- The bound is on all that is owed, so that it holds between entries too.
  induction counts generalizing d with
  | nil => exact fun r hr => ⟨r, hr, rfl, by simp [Tally.owed]⟩
  | cons y rest ih =>
      obtain ⟨hy, hforall⟩ := List.forall_mem_cons.mp hcounts
      have hrest : Tally.IsCount rest := hforall
      have hroom : ∀ x ∈ d.rules, 0 ≤ x.matchCount ∧
          (x.matchCount + if y.1 = x.id then y.2 else 0) < numberLimit := by
        intro x hx
        obtain ⟨hnonneg, hlimit⟩ := h x hx
        have howed := hrest.owed_nonneg x.id
        rw [Tally.owed] at hlimit
        exact ⟨hnonneg, by omega⟩
      have hstep := modifyRule_counts hy hroom
      have hnext : ∀ r ∈ (d.modifyRule y.1 (·.addMatches y.2)).rules,
          0 ≤ r.matchCount ∧
            r.matchCount + Tally.owed r.id rest < numberLimit := by
        intro r hr
        obtain ⟨x, hx, hid, hcount⟩ := hstep r hr
        obtain ⟨hnonneg, hlimit⟩ := h x hx
        rw [Tally.owed] at hlimit
        rw [hcount, ← hid]
        constructor
        · split <;> omega
        · omega
      intro r hr
      obtain ⟨z, hz, hzid, hzcount⟩ := ih hrest hnext r hr
      obtain ⟨x, hx, hxid, hxcount⟩ := hstep z hz
      refine ⟨x, hx, hxid.trans hzid, ?_⟩
      rw [hzcount, hxcount, Tally.owed, hxid]
      omega

end Database

/-! ## Counts of a service -/

namespace Service

/-- No rule has more matches than a number, written and owed together. -/
structure CountsWithin (n : Int) (s : Service) : Prop where
  amounts : Tally.IsCount s.tally.counts
  owed : ∀ id, Tally.owed id s.tally.counts ≤ n
  counts : ∀ r ∈ s.store.database.rules, 0 ≤ r.matchCount ∧
    r.matchCount + Tally.owed r.id s.tally.counts ≤ n

namespace CountsWithin

variable {n : Int} {s s' : Service}

/-- Counts with room for what is owed have their places. -/
theorem holdsCounts (h : s.CountsWithin n) (hn : n < numberLimit) :
    s.store.database.HoldsCounts := by
  intro r hr
  obtain ⟨hnonneg, hle⟩ := h.counts r hr
  have howed := h.amounts.owed_nonneg r.id
  exact hasPlace_of_nonneg hnonneg (by omega)

theorem congr (h : s.CountsWithin n) (hstore : s'.store = s.store)
    (htally : s'.tally = s.tally) : s'.CountsWithin n where
  amounts := htally ▸ h.amounts
  owed := htally ▸ h.owed
  counts := by
    rw [hstore, htally]
    exact h.counts

/-- Tasks change no count, and a new rule starts from nothing. -/
theorem of_leaves (h : s.CountsWithin n) (hleaves : s.Leaves s') :
    s'.CountsWithin n := by
  rcases hleaves with rfl | ⟨l, store, events, -, hchanges, rfl⟩
  · exact h
  · refine ⟨h.amounts, h.owed, fun r hr => ?_⟩
    rcases hchanges.counts r hr with hzero | ⟨x, hx, hid, hcount⟩
    · rw [hzero, Int.zero_add]
      exact ⟨le_rfl, h.owed r.id⟩
    · rw [← hid, ← hcount]
      exact h.counts x hx

theorem flush (h : s.CountsWithin n) (hs : s.store.IsSound)
    (hn : n < numberLimit) : s.flush.2.CountsWithin n := by
  have hnone : Tally.IsCount s.tally.emptied.counts := fun x hx => nomatch hx
  have hn' : 0 ≤ n := (h.amounts.owed_nonneg 0).trans (h.owed 0)
  rcases flush_cases hs with heq | ⟨store, -, hstore, heq⟩ | heq
  · exact heq.symm ▸ h
  · rw [heq]
    refine ⟨hnone, fun id => hn', fun r hr => ?_⟩
    rw [hstore] at hr
    obtain ⟨x, hx, hid, hcount⟩ := Database.addMatches_counts h.amounts
      (fun x hx => ⟨(h.counts x hx).1, by have := h.counts x hx; omega⟩) r hr
    have hle := h.counts x hx
    have howed := h.amounts.owed_nonneg x.id
    have hempty : Tally.owed r.id
        (s.tally.emptied.settle s.tally.counts).counts = 0 := rfl
    dsimp only
    rw [hcount, hempty]
    omega
  · rw [heq]
    have hle' : ∀ id, Tally.owed id
        (s.tally.emptied.requeue s.tally.counts).counts ≤
          Tally.owed id s.tally.counts := by
      intro id
      have hzero : Tally.owed id s.tally.emptied.counts = 0 := rfl
      have hid := Tally.owed_requeue s.tally.emptied s.tally.counts id
      have hlost := (h.amounts.dropped s.tally.emptied).owed_nonneg id
      omega
    refine ⟨h.amounts.requeue hnone, fun id => (hle' id).trans (h.owed id),
      fun r hr => ?_⟩
    have hrule := h.counts r hr
    have hid := hle' r.id
    dsimp only
    omega

theorem advance (h : s.CountsWithin n) {span : Int}
    (hs : s.advance span = .ok s') : s'.CountsWithin n := by
  obtain ⟨now, -, rfl⟩ := map_eq_ok_iff.mp hs
  exact h.congr rfl rfl

/-- A redirection is one match more at the most. -/
theorem resolve (h : s.CountsWithin n) (hs : s.Coherent) (slug : String)
    (v : Visitor) : (s.resolve slug v).2.CountsWithin (n + 1) := by
  obtain ⟨cache, tally, heq, -, htally⟩ := hs.resolve_cases slug v
  have hmore : Tally.IsCount tally.counts ∧ ∀ id,
      Tally.owed id tally.counts ≤ Tally.owed id s.tally.counts + 1 := by
    rcases htally with rfl | ⟨rule, rfl⟩
    · exact ⟨h.amounts, fun id => by omega⟩
    · refine ⟨h.amounts.count (by omega), fun id => ?_⟩
      rw [Tally.owed_count]
      split <;> omega
  rw [heq]
  refine ⟨hmore.1, fun id => ?_, fun r hr => ?_⟩
  · have howed := h.owed id
    have hid := hmore.2 id
    dsimp only
    omega
  · have hrule := h.counts r hr
    have hid := hmore.2 r.id
    dsimp only
    omega

end CountsWithin

end Service

end Signpost
