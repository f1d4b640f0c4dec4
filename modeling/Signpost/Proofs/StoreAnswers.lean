import Signpost.Service.Basic

/-!
# What the store answers when nothing answers in its place

An outage may fail a query, hold it up, or answer it in the store's stead.
A store is candid when none of its outages does the last: whatever a candid
store answers, its rows answered. That is enough to read the effect of a plan
off the rows alone, one query after the other, without asking which of the
outages were met on the way.

What was handed over with a query that got its answer had its place in the
store, the numbers as well as the texts.

A store is sound when nothing is arranged and no table is missing. Asking it
is asking its rows, and it stays as it was but for them.
-/

namespace Signpost

/-! ## Candid stores -/

/-- An outage that does not answer in the store's place. -/
def Outage.IsCandid (o : Outage) : Prop :=
  o.kind = none → o.reply = none

/-- A passage that does not answer in the store's place. -/
def Passage.IsCandid : Passage → Prop
  | .isAnswered _ => False
  | _ => True

/-- No outage of the store answers in its place. -/
def Store.IsCandid (s : Store) : Prop :=
  ∀ o ∈ s.outages, o.IsCandid

/-- What a query hands over has its place in the store. -/
structure Query.Fits (q : Query) : Prop where
  numbers : ∀ n ∈ q.numbers, hasPlace n = true
  texts : ∀ t ∈ q.texts, Text.isWellFormed t.toList = true

theorem Outage.pass_candid {point : StorePoint} {outages : List Outage}
    (h : ∀ o ∈ outages, o.IsCandid) :
    (pass point outages).1.IsCandid ∧
      ∀ o ∈ (pass point outages).2.2, o.IsCandid := by
  induction outages with
  | nil => exact ⟨trivial, by simp [pass]⟩
  | cons o older ih =>
      have ho : o.IsCandid := h o (by simp)
      obtain ⟨hp, hrest⟩ := ih fun x hx => h x (by simp [hx])
      rw [pass]
      split
      · next hmet =>
          cases hk : o.kind with
          | some kind =>
              refine ⟨trivial, fun x hx => ?_⟩
              rcases List.mem_cons.mp hx with rfl | hx
              · intro hnone
                cases hnone
              · exact h x (by simp [hx])
          | none =>
              simp only [ho hk]
              refine ⟨hp, fun x hx => ?_⟩
              rcases List.mem_cons.mp hx with rfl | hx
              · exact fun _ => rfl
              · exact hrest x hx
      · refine ⟨hp, fun x hx => ?_⟩
        rcases List.mem_cons.mp hx with rfl | hx
        · exact ho
        · exact hrest x hx

namespace Store

@[simp] theorem pass_database (s : Store) (point : StorePoint) :
    (s.pass point).2.database = s.database := rfl

theorem IsCandid.pass {s : Store} (h : s.IsCandid) (point : StorePoint) :
    (s.pass point).1.IsCandid ∧ (s.pass point).2.IsCandid :=
  Outage.pass_candid h

/-- Passing points leaves the rows alone, and a candid store candid. -/
theorem IsCandid.passAll (points : List StorePoint) : ∀ {s : Store},
    s.IsCandid →
    (s.passAll points).2.IsCandid ∧
      (s.passAll points).2.database = s.database ∧
      ∀ point passage, (s.passAll points).1 = some (point, passage) →
        passage.IsCandid := by
  induction points with
  | nil =>
      intro s h
      exact ⟨h, rfl, by simp [Store.passAll]⟩
  | cons point rest ih =>
      intro s h
      obtain ⟨hpassage, hstore⟩ := h.pass point
      rw [Store.passAll]
      split
      · next s' hs =>
          rw [hs] at hstore
          obtain ⟨hc, hd, hp⟩ := ih hstore
          refine ⟨hc, ?_, hp⟩
          rw [hd, ← pass_database s point, hs]
      · next stopped s' hne hs =>
          rw [hs] at hstore hpassage
          refine ⟨hstore, by rw [← pass_database s point, hs], ?_⟩
          rintro point' passage hsome
          cases hsome
          exact hpassage

/-- Nothing that is handed over was in the way. -/
theorem fits_of_obstacle? {s : Store} {q : Query}
    (h : s.obstacle? q = none) : q.Fits := by
  simp only [obstacle?, Option.orElse_eq_orElse, Option.orElse_eq_or,
    Option.or_eq_none_iff, Option.map_eq_none_iff] at h
  obtain ⟨-, -, hnumbers, htexts⟩ := h
  constructor
  · simpa using hnumbers
  · simpa using htexts

/-- What the rows answer changes the rows and nothing else. -/
theorem askRows_ok {s s' : Store} {now : Clock} {q : Query} {a : q.Answer}
    (h : s.askRows now q = (.ok a, s')) :
    s.obstacle? q = none ∧ s.database.run now q = .ok (a, s'.database) ∧
      s' = { s with database := s'.database } := by
  rw [askRows] at h
  split at h
  · simp at h
  · next hnone =>
      refine ⟨hnone, ?_⟩
      split at h
      · simp at h
      · next hrun =>
          simp only [Prod.mk.injEq, Except.ok.injEq] at h
          obtain ⟨rfl, rfl⟩ := h
          exact ⟨hrun, rfl⟩

/-- A candid store answers what its rows answer. -/
theorem IsCandid.ask_ok {s s' : Store} {now : Clock} {q : Query}
    {a : q.Answer} (hs : s.IsCandid) (h : s.ask now q = (.ok a, s')) :
    s'.IsCandid ∧ s.database.run now q = .ok (a, s'.database) ∧ q.Fits := by
  obtain ⟨hc, hd, hp⟩ := IsCandid.passAll q.points hs
  rw [ask] at h
  split at h
  · simp at h
  · next point reply s₁ hpass =>
      rw [hpass] at hp
      exact (hp point (.isAnswered reply) rfl).elim
  · next stopped s₁ _ _ hpass =>
      rw [hpass] at hc hd
      obtain ⟨hnone, hrun, heq⟩ := askRows_ok h
      refine ⟨?_, by rw [← hd]; exact hrun, fits_of_obstacle? hnone⟩
      rw [heq]
      exact hc

/-- Rows that cannot answer stay as they are. -/
theorem askRows_error {s s' : Store} {now : Clock} {q : Query}
    {f : StoreFailure} (h : s.askRows now q = (.error f, s')) : s' = s := by
  rw [askRows] at h
  split at h
  · exact (Prod.mk.inj h).2.symm
  · split at h
    · exact (Prod.mk.inj h).2.symm
    · simp at h

/-- A query that fails leaves the rows alone. -/
theorem IsCandid.ask_error {s s' : Store} {now : Clock} {q : Query}
    {f : StoreFailure} (hs : s.IsCandid)
    (h : s.ask now q = (.error f, s')) :
    s'.IsCandid ∧ s'.database = s.database := by
  obtain ⟨hc, hd, -⟩ := IsCandid.passAll q.points hs
  rw [ask] at h
  split at h
  · next s₁ hpass =>
      rw [hpass] at hc hd
      cases h
      exact ⟨hc, hd⟩
  · next s₁ hpass =>
      rw [hpass] at hc hd
      split at h
      · simp at h
      · cases h
        exact ⟨hc, hd⟩
  · next s₁ _ _ hpass =>
      rw [hpass] at hc hd
      rw [askRows_error h]
      exact ⟨hc, hd⟩

end Store

/-! ## Sound stores -/

/-- Nothing is arranged, no table is missing, and no matches arrived while the
store was asked. -/
structure Store.IsSound (s : Store) : Prop where
  missing : s.missing = []
  outages : s.outages = []
  arrivals : s.arrivals = []

namespace Store.IsSound

variable {s s' : Store} {now : Clock}

theorem isCandid (h : s.IsSound) : s.IsCandid := by
  intro o ho
  rw [h.outages] at ho
  cases ho

/-- Of a sound store there is nothing to tell but its rows. -/
theorem eq_withDatabase (h : s.IsSound) (h' : s'.IsSound) :
    s' = { s with database := s'.database } := by
  cases s
  cases s'
  obtain ⟨rfl, rfl, rfl⟩ := h
  obtain ⟨rfl, rfl, rfl⟩ := h'
  rfl

theorem withDatabase (h : s.IsSound) (d : Database) :
    { s with database := d }.IsSound :=
  ⟨h.missing, h.outages, h.arrivals⟩

theorem pass (h : s.IsSound) (point : StorePoint) :
    s.pass point = (.proceeds, s) := by
  rw [Store.pass, h.outages, Outage.pass]
  cases s
  obtain ⟨rfl, rfl, rfl⟩ := h
  rfl

theorem passAll (h : s.IsSound) (points : List StorePoint) :
    s.passAll points = (none, s) := by
  induction points with
  | nil => rfl
  | cons point rest ih => rw [Store.passAll, h.pass]; exact ih

theorem ask (h : s.IsSound) (q : Query) : s.ask now q = s.askRows now q := by
  rw [Store.ask, h.passAll]

theorem ask_ok {q : Query} {a : q.Answer} (h : s.IsSound)
    (hask : s.ask now q = (.ok a, s')) : s'.IsSound := by
  rw [h.ask] at hask
  rw [(askRows_ok hask).2.2]
  exact h.withDatabase _

theorem ask_error {q : Query} {f : StoreFailure} (h : s.IsSound)
    (hask : s.ask now q = (.error f, s')) : s' = s := by
  rw [h.ask] at hask
  exact askRows_error hask

/-- What is handed over to a sound store is all that can be in the way. -/
theorem obstacle?_eq_none {q : Query} (h : s.IsSound)
    (hq : misfit? q = none) (hnumbers : q.numbers.all hasPlace = true)
    (htexts : ∀ t ∈ q.texts, Text.isWellFormed t.toList = true) :
    s.obstacle? q = none := by
  have htables : q.tables.find? s.missing.contains = none := by
    rw [h.missing]
    simp
  have hfind : (q.texts.find? fun t => !Text.isWellFormed t.toList) = none := by
    simpa using htexts
  rw [obstacle?, hq, htables, hfind, if_pos hnumbers]
  rfl

end Store.IsSound

/-! ## Plans on a candid store -/

namespace Plan

variable {α β : Type} {now : Clock}

/-- A plan that goes on with another one ends where that one ends. -/
theorem run_bind (p : Plan α) (next : α → Plan β) : ∀ s : Store,
    (p >>= next).run now s =
      match p.run now s with
      | (.ok a, s') => (next a).run now s'
      | (.error f, s') => (.error f, s') := by
  induction p with
  | done a => intro s; rfl
  | stop f => intro s; rfl
  | ask q more ih =>
      intro s
      show (ask q fun answer => (more answer).bind next).run now s = _
      rw [run, run]
      split
      · next answer s₁ _ => exact ih answer s₁
      · next f s₁ _ =>
          split
          · next answer _ => exact ih answer s₁
          · rfl

/-- What has to come out of the two halves of a plan that ends well. -/
theorem run_bind_ok {p : Plan α} {next : α → Plan β} {s s' : Store} {b : β}
    (h : (p >>= next).run now s = (.ok b, s')) :
    ∃ a s₁, p.run now s = (.ok a, s₁) ∧ (next a).run now s₁ = (.ok b, s') := by
  rw [run_bind] at h
  split at h
  · next a s₁ hp => exact ⟨a, s₁, hp, h⟩
  · simp at h

/-- A plan that asks a query that is not let off goes on only with what the
rows answered. -/
theorem run_ask_ok {q : Query} {next : q.Answer → Plan α}
    (hq : ∀ f, spare? f q = none) {s s' : Store} {a : α} (hs : s.IsCandid)
    (h : (ask q next).run now s = (.ok a, s')) :
    ∃ answer s₁, s₁.IsCandid ∧
      s.database.run now q = .ok (answer, s₁.database) ∧ q.Fits ∧
      (next answer).run now s₁ = (.ok a, s') := by
  rw [run] at h
  split at h
  · next answer s₁ hask =>
      obtain ⟨hc, hrun, hfits⟩ := hs.ask_ok hask
      exact ⟨answer, s₁, hc, hrun, hfits, h⟩
  · next f s₁ hask =>
      rw [hq f] at h
      simp at h

theorem run_query_ok {q : Query} (hq : ∀ f, spare? f q = none)
    {s s' : Store} {a : q.Answer} (hs : s.IsCandid)
    (h : (query q).run now s = (.ok a, s')) :
    s'.IsCandid ∧ s.database.run now q = .ok (a, s'.database) ∧ q.Fits := by
  obtain ⟨answer, s₁, hc, hrun, hfits, hdone⟩ := run_ask_ok hq hs h
  cases hdone
  exact ⟨hc, hrun, hfits⟩

/-- Recording in the audit trail changes no link and no rule, whether or not
the entry is taken. -/
theorem run_recordAudit_ok {note : AuditNote} {s s' : Store}
    (hs : s.IsCandid)
    (h : (query (.recordAudit note)).run now s = (.ok (), s')) :
    s'.IsCandid ∧ s'.database.links = s.database.links ∧
      s'.database.rules = s.database.rules := by
  rw [query, run] at h
  split at h
  · next answer s₁ hask =>
      rw [run] at h
      cases h
      obtain ⟨hc, hrun, -⟩ := hs.ask_ok hask
      simp only [Database.run, Except.ok.injEq, Prod.mk.injEq] at hrun
      rw [← hrun.2]
      exact ⟨hc, rfl, rfl⟩
  · next f s₁ hask =>
      obtain ⟨hc, hd⟩ := hs.ask_error hask
      split at h
      · rw [run] at h
        cases h
        exact ⟨hc, by rw [hd], by rw [hd]⟩
      · simp at h

/-! ## Plans on a sound store -/

theorem run_isSound (p : Plan α) : ∀ {s : Store}, s.IsSound →
    (p.run now s).2.IsSound := by
  induction p with
  | done a => intro s h; exact h
  | stop f => intro s h; exact h
  | ask q next ih =>
      intro s h
      rw [run]
      split
      · next answer s₁ hask => exact ih answer (h.ask_ok hask)
      · next f s₁ hask =>
          rw [h.ask_error hask]
          split
          · next answer _ => exact ih answer h
          · exact h

theorem run_ok_isSound {p : Plan α} {s s' : Store}
    {result : Except Failure α} (h : s.IsSound)
    (hrun : p.run now s = (result, s')) : s'.IsSound := by
  have hsound : (p.run now s).2.IsSound := run_isSound p h
  rw [hrun] at hsound
  exact hsound

/-- A note that a sound store passes over has its place all the same. -/
theorem fits_of_run_recordAudit {note : AuditNote} {s s' : Store}
    (hs : s.IsSound)
    (h : (query (.recordAudit note)).run now s = (.ok (), s')) :
    (Query.recordAudit note).Fits := by
  cases hplaced : (Query.recordAudit note).numbers.all hasPlace with
  | true => exact ⟨by simpa using hplaced, fun t ht => nomatch ht⟩
  | false =>
      have hobstacle : s.obstacle? (.recordAudit note) =
          some .numberTooLarge := by
        rw [Store.obstacle?, hs.missing, hplaced]
        rfl
      rw [query, run, hs.ask, Store.askRows, hobstacle] at h
      cases h

/-- A transaction on a sound store does all of its plan or nothing. -/
theorem transact_cases {p : Plan α} {s s' : Store}
    {result : Except Failure α} (h : s.IsSound)
    (ht : p.transact now s = (result, s')) :
    (∃ a, result = .ok a ∧ p.run now s = (.ok a, s')) ∨
      (∃ f, result = .error f ∧ s' = s) := by
  have hrun : (p.run now s).2.IsSound := run_isSound p h
  rw [transact] at ht
  split at ht
  · next a after hp =>
      rw [hp] at hrun
      rw [commit, hrun.pass] at ht
      cases ht
      exact .inl ⟨a, rfl, hp⟩
  · next f after hp =>
      rw [hp] at hrun
      cases ht
      exact .inr ⟨f, rfl, (Store.IsSound.eq_withDatabase hrun h).symm⟩

end Plan

/-! ## Services on a sound store -/

namespace Service

variable {s : Service}

theorem withStore_of_isSound {store : Store} (h : store.IsSound) :
    s.withStore store = { s with store := store } := by
  cases store
  obtain ⟨-, -, rfl⟩ := h
  rfl

/-- A task on a sound store does all of its plan or nothing. -/
theorem transact_cases {α : Type} (p : Plan α) (h : s.store.IsSound) :
    (∃ a store, store.IsSound ∧ p.run s.now s.store = (.ok a, store) ∧
      s.transact p = (.ok a, { s with store := store })) ∨
    ∃ f, s.transact p = (.error f, s) := by
  cases ht : p.transact s.now s.store with
  | mk result store =>
      rw [transact, ht]
      dsimp only
      rcases Plan.transact_cases h ht with ⟨a, rfl, hrun⟩ | ⟨f, rfl, rfl⟩
      · have hsound := Plan.run_ok_isSound h hrun
        exact .inl ⟨a, store, hsound, hrun, by rw [withStore_of_isSound hsound]⟩
      · exact .inr ⟨f, by rw [withStore_of_isSound h]⟩

/-- A query that only reads, of a sound store that can answer it, changes
nothing at all. -/
theorem consult_query {q : Query} {a : q.Answer} (h : s.store.IsSound)
    (hnone : s.store.obstacle? q = none)
    (hrun : s.store.database.run s.now q = .ok (a, s.store.database)) :
    s.consult (Plan.query q) = (.ok a, s) := by
  have hask : s.store.ask s.now q = (.ok a, s.store) := by
    rw [h.ask, Store.askRows, hnone]
    simp only [hrun]
  rw [consult, Plan.query, Plan.run, hask]
  simp only [Plan.run]
  rw [withStore_of_isSound h]

/-- A query that a sound store cannot be asked fails and changes nothing. -/
theorem consult_query_error {q : Query} {f : StoreFailure}
    (h : s.store.IsSound) (hq : Plan.spare? f q = none)
    (hobstacle : s.store.obstacle? q = some f) :
    s.consult (Plan.query q) = (.error (.store f), s) := by
  have hask : s.store.ask s.now q = (.error f, s.store) := by
    rw [h.ask, Store.askRows, hobstacle]
  rw [consult, Plan.query, Plan.run, hask]
  simp only [hq]
  rw [withStore_of_isSound h]

end Service

end Signpost
