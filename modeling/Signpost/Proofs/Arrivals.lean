import Signpost.Proofs.ManagementRuns
import Signpost.Service.Upkeep

/-!
# Matches that are counted meanwhile

While the store is being asked, other visitors may be redirected. An outage
that takes its time brings such matches along, and they are in the tally when
the store has answered, whatever it answered.

A store is quiet when nothing of the kind is arranged. Asking it leaves it
quiet, and the tally of a service with a quiet store is what its own work made
it.

Writing the tally of a candid store is all or nothing: the whole batch is in
the rows, or all of it is put back. What was counted meanwhile is in the tally
either way.
-/

namespace Signpost

/-- No match is counted while the store is asked. -/
structure Store.IsQuiet (s : Store) : Prop where
  arrivals : s.arrivals = []
  outages : ∀ o ∈ s.outages, o.arrivals = []

theorem Store.IsSound.isQuiet {s : Store} (h : s.IsSound) : s.IsQuiet where
  arrivals := h.arrivals
  outages := by
    rw [h.outages]
    exact List.forall_mem_nil _

theorem Outage.pass_quiet (point : StorePoint) {outages : List Outage}
    (h : ∀ o ∈ outages, o.arrivals = []) :
    (pass point outages).2.1 = [] ∧
      ∀ o ∈ (pass point outages).2.2, o.arrivals = [] := by
  induction outages with
  | nil => exact ⟨rfl, h⟩
  | cons o older ih =>
      obtain ⟨ho, holder⟩ := List.forall_mem_cons.mp h
      obtain ⟨hnone, hrest⟩ := ih holder
      rw [pass]
      split
      · split
        · exact ⟨ho, List.forall_mem_cons.mpr ⟨ho, holder⟩⟩
        · exact ⟨ho, List.forall_mem_cons.mpr ⟨ho, holder⟩⟩
        · refine ⟨?_, List.forall_mem_cons.mpr ⟨ho, hrest⟩⟩
          show o.arrivals ++ (pass point older).2.1 = []
          rw [ho, hnone, List.nil_append]
      · exact ⟨hnone, List.forall_mem_cons.mpr ⟨ho, hrest⟩⟩

namespace Store.IsQuiet

variable {s : Store} {now : Clock}

theorem pass (h : s.IsQuiet) (point : StorePoint) :
    (s.pass point).2.IsQuiet := by
  obtain ⟨hnone, hrest⟩ := Outage.pass_quiet point h.outages
  refine ⟨?_, hrest⟩
  show s.arrivals ++ (Outage.pass point s.outages).2.1 = []
  rw [h.arrivals, hnone, List.nil_append]

theorem passAll (points : List StorePoint) : ∀ {s : Store}, s.IsQuiet →
    (s.passAll points).2.IsQuiet := by
  induction points with
  | nil => exact fun h => h
  | cons point rest ih =>
      intro s h
      have hpass := h.pass point
      rw [Store.passAll]
      split
      · next s₁ hs =>
          rw [hs] at hpass
          exact ih hpass
      · next stopped s₁ _ hs =>
          rw [hs] at hpass
          exact hpass

theorem ask (h : s.IsQuiet) (q : Query) : (s.ask now q).2.IsQuiet := by
  have hpass := passAll q.points h
  rw [Store.ask]
  split
  · next s₁ hs =>
      rw [hs] at hpass
      exact hpass
  · next s₁ hs =>
      rw [hs] at hpass
      split <;> exact hpass
  · next s₁ _ _ hs =>
      rw [hs] at hpass
      rw [askRows]
      split
      · exact hpass
      · split
        · exact hpass
        · exact ⟨hpass.arrivals, hpass.outages⟩

end Store.IsQuiet

namespace Plan

variable {α : Type} {now : Clock} {s : Store}

theorem run_isQuiet (p : Plan α) : ∀ {s : Store}, s.IsQuiet →
    (p.run now s).2.IsQuiet := by
  induction p with
  | done a => exact fun h => h
  | stop f => exact fun h => h
  | ask q next ih =>
      intro s h
      have hask : (s.ask now q).2.IsQuiet := h.ask q
      rw [run]
      split
      · next answer s₁ hs =>
          rw [hs] at hask
          exact ih answer hask
      · next f s₁ hs =>
          rw [hs] at hask
          split
          · next answer _ => exact ih answer hask
          · exact hask

theorem transact_isQuiet (p : Plan α) (h : s.IsQuiet) :
    (p.transact now s).2.IsQuiet := by
  have hrun : (p.run now s).2.IsQuiet := run_isQuiet p h
  rw [transact]
  split
  · next a after hp =>
      rw [hp] at hrun
      have hpass := hrun.pass .commit
      rw [commit]
      split
      · next kind s₁ hs =>
          rw [hs] at hpass
          exact ⟨hpass.arrivals, hpass.outages⟩
      · next passage s₁ _ hs =>
          rw [hs] at hpass
          exact hpass
  · next f after hp =>
      rw [hp] at hrun
      exact ⟨hrun.arrivals, hrun.outages⟩

end Plan

namespace Service

variable {s : Service}

theorem withStore_of_isQuiet {store : Store} (h : store.IsQuiet) :
    s.withStore store = { s with store := store } := by
  cases store
  obtain ⟨rfl, -⟩ := h
  rfl

theorem transact_of_isQuiet {α : Type} (p : Plan α) (h : s.store.IsQuiet) :
    (s.transact p).2 = { s with store := (p.transact s.now s.store).2 } :=
  withStore_of_isQuiet (Plan.transact_isQuiet p h)

theorem consult_of_isQuiet {α : Type} (p : Plan α) (h : s.store.IsQuiet) :
    (s.consult p).2 = { s with store := (p.run s.now s.store).2 } :=
  withStore_of_isQuiet (Plan.run_isQuiet p h)

/-- Writing the tally to a candid store adds the whole batch to the counts, or
changes no row and puts the batch back. -/
theorem flush_of_candid (hs : s.store.IsCandid)
    (hcounts : s.tally.counts.isEmpty = false) :
    ∃ store arrivals, store.IsCandid ∧
      (s.store.IsQuiet → store.IsQuiet ∧ arrivals = []) ∧
      (store.database = s.store.database.addMatches s.tally.counts ∧
        s.flush = (s.tally.counts.length, { s with
          store := store
          tally := (s.tally.emptied.countAll arrivals).settle
            s.tally.counts }) ∨
      store.database = s.store.database ∧
        s.flush = (0, { s with
          store := store
          tally := (s.tally.emptied.countAll arrivals).requeue
            s.tally.counts })) := by
  cases ht : (Plan.query (.addMatches s.tally.counts)).transact s.now
      s.store with
  | mk result store =>
      obtain ⟨hcandid, hcases⟩ := Plan.transact_of_candid hs ht
      refine ⟨{ store with arrivals := [] }, store.arrivals, hcandid,
        fun hquiet => ?_, ?_⟩
      · have hstore : ((Plan.query (.addMatches s.tally.counts)).transact s.now
            s.store).2.IsQuiet := Plan.transact_isQuiet _ hquiet
        rw [ht] at hstore
        exact ⟨⟨rfl, hstore.outages⟩, hstore.arrivals⟩
      · rw [flush, hcounts]
        dsimp only
        rw [transact, ht]
        rcases hcases with ⟨_, s₁, rfl, hrun, hdatabase⟩ | ⟨f, rfl, hdatabase⟩
        · obtain ⟨-, hquery, -⟩ := Plan.run_query_ok (fun _ => rfl) hs hrun
          have hrows := (Prod.mk.inj (Except.ok.inj hquery)).2
          exact .inl ⟨hdatabase.trans hrows.symm, rfl⟩
        · exact .inr ⟨hdatabase, rfl⟩

end Service

end Signpost
