import Mathlib
import Signpost.Proofs.Traffic

/-!
# Entries that outlive their rows

A task that has committed clears both entries of its link a little later, and a
redirection puts into the cache what it read a little earlier. Nothing tells the
one about the other. So an entry may well outlive the rows that it was made of:
a redirection reads, a task commits and clears, and then the redirection puts
what it read.

That is the only way. A commit that is not cleared yet still will be, and
clearing takes every entry away; hence an entry that is not what the rows say,
once nothing is under way any more, was put late (`Traffic.isCurrent_run`).
What holds all the time is `Traffic.IsSound`: an entry is what the rows say
unless it was put late or a commit is not cleared yet, and what a redirection
carries is what the rows say unless there was a commit since it read.
-/

namespace Signpost

open Manage (Task Caller)

/-! ## What holds all the time -/

/-- The service has a sound store and a cache that answers, and a link. -/
structure Service.Hosts (slug : String) (link : Int) (s : Service) : Prop where
  sound : s.store.IsSound
  kept : s.store.database.IsKept
  up : s.cache.isUp = true
  now : s.now.micros < Clock.limit
  row : ∃ l ∈ s.store.database.links, l.id = link ∧ l.slug = slug

variable {slug : String} {link : Int}

/-- What a redirection carries is fit for the cache, and what the rows say
unless there was a commit since. -/
def Trip.IsSound (slug : String) (link : Int) (s : Service) (commits : Nat)
    (t : Trip) : Prop :=
  match t.stage with
  | .gotLink l => l.id = link ∧ l.entry.IsKept ∧ t.seen ≤ commits ∧
    (t.seen = commits → s.HasLink slug l.entry)
  | .foundLink e | .missedRules e => e.id = link
  | .gotRules e rules => e.id = link ∧ (∀ r ∈ rules, r.IsKept) ∧
    t.seen ≤ commits ∧ (t.seen = commits → s.HasRules link rules)
  | _ => True

/-- What a redirection carries stays fit, and what the rows say where they say
the same as long as there is no other commit. -/
theorem Trip.IsSound.later {t : Trip} {s s' : Service} {commits commits' : Nat}
    (h : t.IsSound slug link s commits) (hle : commits ≤ commits')
    (hlink : commits' = commits → ∀ e, s.HasLink slug e → s'.HasLink slug e)
    (hrules : commits' = commits → ∀ es,
      s.HasRules link es → s'.HasRules link es) :
    t.IsSound slug link s' commits' := by
  obtain ⟨v, stage, seen⟩ := t
  cases stage with
  | gotLink l =>
      obtain ⟨hid, hkept, hseen, hcurrent⟩ := h
      refine ⟨hid, hkept, hseen.trans hle, fun heq => ?_⟩
      have hsame : commits' = commits := le_antisymm (heq ▸ hseen) hle
      exact hlink hsame _ (hcurrent (heq.trans hsame))
  | gotRules e rules =>
      obtain ⟨hid, hkept, hseen, hcurrent⟩ := h
      refine ⟨hid, hkept, hseen.trans hle, fun heq => ?_⟩
      have hsame : commits' = commits := le_antisymm (heq ▸ hseen) hle
      exact hrules hsame _ (hcurrent (heq.trans hsame))
  | foundLink | missedRules => exact h
  | begun | missedLink | ended => trivial

/-- A task is about the link. -/
def Errand.IsSound (slug : String) (link : Int) (commits : Nat) : Errand → Prop
  | .waiting _ t => t.link = link ∧ t.IsChecked
  | .committed told number =>
    told.1.id = link ∧ told.1.slug = slug ∧ number ≤ commits
  | .ended => True

theorem Errand.IsSound.later {e : Errand} {commits commits' : Nat}
    (h : e.IsSound slug link commits) (hle : commits ≤ commits') :
    e.IsSound slug link commits' := by
  cases e with
  | waiting => exact h
  | committed => exact ⟨h.1, h.2.1, h.2.2.trans hle⟩
  | ended => trivial

/-- An entry of the cache may be old: it was put late, or it will be cleared. -/
def Traffic.MayBeOld (c : Traffic) (late : Bool) : Prop :=
  late = true ∨ c.cleared < c.commits

/-- What holds at any time of what goes on at a link. -/
structure Traffic.IsSound (slug : String) (link : Int) (c : Traffic) : Prop where
  hosts : c.service.Hosts slug link
  linkEntry : ∃ found, c.service.cache.link? slug = .ok found ∧
    ∀ e ∈ found, e.id = link ∧
      (c.MayBeOld c.lateLink ∨ c.service.HasLink slug e)
  rulesEntry : ∃ found, c.service.cache.rules? link = .ok found ∧
    ∀ es ∈ found, c.MayBeOld c.lateRules ∨ c.service.HasRules link es
  trips : ∀ t ∈ c.trips, t.IsSound slug link c.service c.commits
  errands : ∀ j ∈ c.errands, j.IsSound slug link c.commits
  /-- The last commit is cleared, or somebody is about to do so. -/
  cleared : c.cleared < c.commits →
    ∃ (i : Nat) (told : Link × Option RuleEvent),
      c.errands[i]? = some (.committed told c.commits)
  cleared_le : c.cleared ≤ c.commits

/-! ## Asking the store -/

namespace Service

variable {s s' : Service}

/-- A sound store answers what the rows say, or cannot be asked. -/
theorem consult_cases {q : Query} {a : q.Answer} (h : s.store.IsSound)
    (hq : ∀ f, Plan.spare? f q = none)
    (hrun : s.store.database.run s.now q = .ok (a, s.store.database)) :
    s.consult (Plan.query q) = (.ok a, s) ∨
      ∃ f, s.consult (Plan.query q) = (.error f, s) := by
  cases hobstacle : s.store.obstacle? q with
  | none => exact .inl (consult_query h hobstacle hrun)
  | some f => exact .inr ⟨_, consult_query_error h (hq f) hobstacle⟩

/-- The rules that the store answers with are the active rules of the link, and
fit for the cache. -/
theorem Hosts.entries_passed (h : s.Hosts slug link) {link' : Int}
    {rules : List RuleEntry}
    (hpassed : Database.entries (s.store.database.activeRules link') =
      .passed rules) :
    rules = s.store.database.activeEntries link' ∧ ∀ r ∈ rules, r.IsKept := by
  by_cases hfailed : ∃ r ∈ s.store.database.activeRules link',
      ∃ faults, r.checked = .failed faults
  · obtain ⟨faults, hf⟩ := Database.entries_failed hfailed
    rw [hf] at hpassed
    cases hpassed
  · have hall := fun r hr hf => hfailed ⟨r, hr, hf⟩
    rw [Database.entries_passed hall] at hpassed
    cases hpassed
    exact ⟨rfl, h.kept.activeEntries hall⟩

theorem Hosts.id_of_slug (h : s.Hosts slug link) {l : Link}
    (hl : l ∈ s.store.database.links) (hslug : l.slug = slug) :
    l.id = link := by
  obtain ⟨l', hl', rfl, hslug'⟩ := h.row
  rw [List.inj_on_of_nodup_map h.kept.links.slugs hl hl'
    (hslug.trans hslug'.symm)]

theorem unexpired_ok {e e' : LinkEntry} (h : s.unexpired slug e = .ok e') :
    e' = e := by
  rw [unexpired] at h
  split at h <;> cases h
  rfl

end Service

/-! ## One stage of a redirection -/

namespace Stage

variable {s : Service} {commits : Nat}

/-- A link that is found is asked for its rules, or the redirection ends. -/
theorem isSound_opened {s' : Service} {v : Visitor} {seen : Nat}
    {e : LinkEntry} (h : e.id = link) :
    Trip.IsSound slug link s' commits
      ⟨v, opened (s.unexpired slug e), seen⟩ := by
  cases hfound : s.unexpired slug e with
  | error f => trivial
  | ok e' =>
      rw [Service.unexpired_ok hfound, opened]
      split
      · exact h
      · trivial

end Stage

namespace Traffic

variable {c : Traffic} {most : Int} {i : Nat} {t : Trip}

namespace IsSound

/-- A redirection goes on without the cache or the store being changed. -/
theorem withTrip (h : c.IsSound slug link) (t : Trip) (tally : Tally)
    (ht : t.IsSound slug link c.service c.commits) :
    ({ c with
      service := { c.service with tally := tally }
      trips := c.trips.set i t } : Traffic).IsSound slug link where
  hosts := { h.hosts with }
  linkEntry := h.linkEntry
  rulesEntry := h.rulesEntry
  trips := by
    intro t' ht'
    rcases List.mem_or_eq_of_mem_set ht' with hmem | rfl
    · exact h.trips t' hmem
    · exact ht
  errands := h.errands
  cleared := h.cleared
  cleared_le := h.cleared_le

/-- What was read and is put into the cache is what the rows say, or late, or
will be cleared. -/
theorem current_or_mayBeOld (h : c.IsSound slug link) {P : Prop} {seen : Nat}
    (hseen : seen ≤ c.commits) (hP : seen = c.commits → P) :
    (decide (seen < c.cleared) = true ∨ c.cleared < c.commits) ∨ P := by
  have hle := h.cleared_le
  by_cases heq : seen = c.commits
  · exact .inr (hP heq)
  · by_cases hpending : c.cleared < c.commits
    · exact .inl (.inr hpending)
    · -- All commits are cleared, one of them since the store was read.
      exact .inl (.inl (decide_eq_true (by omega)))

theorem keepLink (h : c.IsSound slug link) {l : Link} {seen : Nat}
    (hid : l.id = link) (hkept : l.entry.IsKept) (hseen : seen ≤ c.commits)
    (hcurrent : seen = c.commits → c.service.HasLink slug l.entry) :
    ({ c with
      service := { c.service with
        cache := c.service.cache.keepLink slug l.entry }
      lateLink := decide (seen < c.cleared) } : Traffic).IsSound slug link where
  hosts := { h.hosts with up := (Cache.isUp_keepLink _).trans h.hosts.up }
  linkEntry := by
    refine ⟨some l.entry, ?_, fun e he => ?_⟩
    · rw [Cache.link?_keepLink h.hosts.up hkept, if_pos rfl]
    · cases he
      exact ⟨hid, h.current_or_mayBeOld hseen hcurrent⟩
  rulesEntry := by
    rw [Cache.rules?_keepLink h.hosts.up]
    exact h.rulesEntry
  trips := h.trips
  errands := h.errands
  cleared := h.cleared
  cleared_le := h.cleared_le

theorem keepRules (h : c.IsSound slug link) {rules : List RuleEntry}
    {seen : Nat} (hne : rules ≠ []) (hkept : ∀ r ∈ rules, r.IsKept)
    (hseen : seen ≤ c.commits)
    (hcurrent : seen = c.commits → c.service.HasRules link rules) :
    ({ c with
      service := { c.service with
        cache := c.service.cache.keepRules link rules }
      lateRules := decide (seen < c.cleared) } : Traffic).IsSound slug link where
  hosts := { h.hosts with up := (Cache.isUp_keepRules _).trans h.hosts.up }
  linkEntry := by
    rw [Cache.link?_keepRules h.hosts.up]
    exact h.linkEntry
  rulesEntry := by
    refine ⟨some rules, ?_, fun es hes => ?_⟩
    · rw [Cache.rules?_keepRules h.hosts.up hne hkept, if_pos rfl]
    · cases hes
      exact h.current_or_mayBeOld hseen hcurrent
  trips := h.trips
  errands := h.errands
  cleared := h.cleared
  cleared_le := h.cleared_le

theorem decided (h : c.IsSound slug link) (t : Trip) (e : LinkEntry)
    (found : Except Failure (Option RuleEntry)) :
    ({ c with
      service := (Stage.decided e (found, c.service)).2
      trips := c.trips.set i
        { t with stage := (Stage.decided e (found, c.service)).1 } } :
      Traffic).IsSound slug link := by
  obtain ⟨result, tally, heq⟩ := Stage.decided_cases e found c.service
  rw [heq]
  exact h.withTrip ⟨t.visitor, .ended result, t.seen⟩ tally trivial

theorem readLink (h : c.IsSound slug link) (v : Visitor) (seen : Nat) :
    (c.advanceTrip slug i ⟨v, .missedLink, seen⟩).IsSound slug link := by
  have hasked := Service.consult_cases (q := .linkBySlug slug) h.hosts.sound
    (fun _ => rfl) rfl
  rw [Traffic.advanceTrip, Stage.advance]
  rcases hasked with hasked | ⟨f, hasked⟩
  · rw [hasked]
    cases hfound : c.service.store.database.linkBySlug? slug with
    | none => exact h.withTrip ⟨v, .ended _, c.commits⟩ _ trivial
    | some l =>
        have hl := List.mem_of_find?_eq_some hfound
        have hslug : l.slug = slug := by simpa using List.find?_some hfound
        have hread : Trip.IsSound slug link c.service c.commits
            ⟨v, .gotLink l, c.commits⟩ :=
          ⟨h.hosts.id_of_slug hl hslug, h.hosts.kept.links.entries l hl, le_rfl,
            fun _ => ⟨l, hl, hslug, rfl⟩⟩
        exact h.withTrip _ _ hread
  · rw [hasked]
    exact h.withTrip ⟨v, .ended _, c.commits⟩ _ trivial

theorem readRules (h : c.IsSound slug link) (v : Visitor) {e : LinkEntry}
    (he : e.id = link) (seen : Nat) :
    (c.advanceTrip slug i ⟨v, .missedRules e, seen⟩).IsSound slug link := by
  have hasked := Service.consult_cases (q := .activeRulesOf e.id) h.hosts.sound
    (fun _ => rfl) rfl
  rw [Traffic.advanceTrip, Stage.advance]
  rcases hasked with hasked | ⟨f, hasked⟩
  · rw [hasked]
    cases hpassed : Database.entries (Database.inOrder
        ((c.service.store.database.rulesOf e.id).filter (·.isActive))) with
    | failed faults =>
        exact h.decided ⟨v, .missedRules e, c.commits⟩ e (.error (.invalid faults))
    | passed rules =>
        obtain ⟨hrules, hkept⟩ := h.hosts.entries_passed hpassed
        have hread : Trip.IsSound slug link c.service c.commits
            ⟨v, .gotRules e rules, c.commits⟩ :=
          ⟨he, hkept, le_rfl, fun _ => by rw [hrules, he]; rfl⟩
        dsimp only
        split
        · exact h.decided ⟨v, .missedRules e, c.commits⟩ e _
        · exact h.withTrip _ _ hread
  · rw [hasked]
    exact h.decided ⟨v, .missedRules e, c.commits⟩ e (.error f)

theorem advanceTrip (h : c.IsSound slug link) (ht : t ∈ c.trips) :
    (c.advanceTrip slug i t).IsSound slug link := by
  have hsound := h.trips t ht
  obtain ⟨v, stage, seen⟩ := t
  cases stage with
  | begun =>
      obtain ⟨found, hfound, hlink⟩ := h.linkEntry
      rw [Traffic.advanceTrip, Stage.advance, hfound]
      cases found with
      | none => exact h.withTrip ⟨v, .missedLink, seen⟩ _ trivial
      | some e =>
          have hopened : Trip.IsSound slug link c.service c.commits
              ⟨v, .opened (c.service.unexpired slug e), seen⟩ :=
            Stage.isSound_opened (hlink e rfl).1
          exact h.withTrip _ _ hopened
  | missedLink => exact h.readLink v seen
  | gotLink l =>
      obtain ⟨hid, hkept, hseen, hcurrent⟩ := hsound
      have hput := h.keepLink hid hkept hseen hcurrent
      have hopened : Trip.IsSound slug link c.service c.commits
          ⟨v, .opened (c.service.unexpired slug l.entry), seen⟩ :=
        Stage.isSound_opened hid
      exact hput.withTrip _ _ hopened
  | foundLink e =>
      obtain rfl : e.id = link := hsound
      obtain ⟨found, hfound, -⟩ := h.rulesEntry
      rw [Traffic.advanceTrip, Stage.advance, hfound]
      cases found with
      | none => exact h.withTrip ⟨v, .missedRules e, seen⟩ _ rfl
      | some rules => exact h.decided ⟨v, .foundLink e, seen⟩ e _
  | missedRules e => exact h.readRules v hsound seen
  | gotRules e rules =>
      obtain ⟨rfl, hkept, hseen, hcurrent⟩ := hsound
      cases rules with
      | nil =>
          -- No rules are not put into the cache.
          exact h.decided ⟨v, .gotRules e [], seen⟩ e (.ok none)
      | cons r rest =>
          have hput := h.keepRules (List.cons_ne_nil r rest) hkept hseen hcurrent
          exact hput.decided ⟨v, .gotRules e (r :: rest), seen⟩ e _
  | ended result => exact h.withTrip ⟨v, .ended result, seen⟩ _ trivial

end IsSound

end Traffic

/-! ## One half of a task -/

namespace Service

variable {s : Service} {most : Int} {c : Caller} {task : Task}

theorem commitTask_of_isSound (h : s.store.IsSound) :
    s.commitTask most c task = (none, s) ∨ ∃ told store, store.IsSound ∧
      s.commitTask most c task = (some told, { s with store := store }) := by
  rw [Service.commitTask]
  cases task.plan? most s.now c with
  | none => exact .inl rfl
  | some p =>
      rw [carryOut]
      rcases transact_cases p h with ⟨told, store, hsound, -, ht⟩ | ⟨f, ht⟩
      · exact .inr ⟨told, store, hsound, by rw [ht]; rfl⟩
      · exact .inl (by rw [ht]; rfl)

/-- What a task leaves behind when it is done it has left behind when it is
committed. -/
theorem Hosts.isKept_commitTask (h : s.Hosts slug link)
    (hchecked : task.IsChecked) :
    (s.commitTask most c task).2.store.database.IsKept := by
  rw [← finish_store, ← after_eq]
  rcases (manages_after hchecked s most c).leaves h.sound h.kept h.now with
    heq | ⟨_, _, _, _, hchanges, heq⟩
  · rw [heq]
    exact h.kept
  · rw [heq]
    exact hchanges.kept

/-- Once a task is committed the link is still there, with its number and its
slug. A task that is not leaves no trace. -/
theorem Hosts.commitTask (h : s.Hosts slug link) (hchecked : task.IsChecked)
    (hlink : task.link = link) :
    (∃ told store, s.commitTask most c task =
        (some told, { s with store := store }) ∧
      ({ s with store := store } : Service).Hosts slug link ∧
      told.1.id = link ∧ told.1.slug = slug) ∨
    s.commitTask most c task = (none, s) := by
  have hkept := @Hosts.isKept_commitTask _ _ s most c task h hchecked
  obtain ⟨-, hcases⟩ := @commitTask_cases s most c task h.sound.isCandid
  rcases @commitTask_of_isSound s most c task h.sound with
    hnone | ⟨told, store, hsound, hcommit⟩
  · exact .inr hnone
  · refine .inl ⟨told, store, hcommit, ?_⟩
    rw [hcommit] at hkept hcases
    obtain ⟨told', l, htold, hcommits, hid, hslug⟩ :=
      hcases.resolve_right fun hnone => nomatch hnone.1
    cases htold
    obtain ⟨l', hl', hid', hslug'⟩ := h.row
    -- The link that the task found is the link that is there.
    have hrow : l = l' := by
      have hl := hcommits.found
      refine List.inj_on_of_nodup_map h.kept.links.ids
        (Database.mem_of_link? hl) hl' ?_
      rw [Database.link?_id hl, hlink, hid']
    subst hrow
    obtain ⟨f, hf, hlinks⟩ := hcommits.rows.links
    have hlinks : store.database.links = s.store.database.links.map f := hlinks
    refine ⟨⟨hsound, hkept, h.up, h.now, f l, ?_, ?_⟩, ?_, ?_⟩
    · show f l ∈ store.database.links
      rw [hlinks]
      exact List.mem_map_of_mem hl'
    · exact ⟨(hf l).1.trans hid', (hf l).2.trans hslug'⟩
    · exact hid.trans hid'
    · exact hslug.trans hslug'

end Service

namespace Traffic

variable {c : Traffic} {most : Int} {i : Nat}

namespace IsSound

/-- A task is committed: the entries may be old, and the task is to clear
them. -/
theorem commit (h : c.IsSound slug link) {store : Store}
    {told : Link × Option RuleEvent} (hi : i < c.errands.length)
    (hhosts : ({ c.service with store := store } : Service).Hosts slug link)
    (hid : told.1.id = link) (hslug : told.1.slug = slug) :
    ({ c with
      service := { c.service with store := store }
      errands := c.errands.set i (.committed told (c.commits + 1))
      commits := c.commits + 1 } : Traffic).IsSound slug link where
  hosts := hhosts
  linkEntry := by
    obtain ⟨found, hfound, hlink⟩ := h.linkEntry
    refine ⟨found, hfound, fun e he => ⟨(hlink e he).1, .inl (.inr ?_)⟩⟩
    exact Nat.lt_succ_of_le h.cleared_le
  rulesEntry := by
    obtain ⟨found, hfound, -⟩ := h.rulesEntry
    refine ⟨found, hfound, fun es _ => .inl (.inr ?_)⟩
    exact Nat.lt_succ_of_le h.cleared_le
  trips := fun t ht => (h.trips t ht).later (Nat.le_succ _)
    (fun heq => absurd heq (Nat.succ_ne_self _))
    fun heq => absurd heq (Nat.succ_ne_self _)
  errands := by
    intro e he
    rcases List.mem_or_eq_of_mem_set he with hmem | rfl
    · exact (h.errands e hmem).later (Nat.le_succ _)
    · exact ⟨hid, hslug, le_rfl⟩
  cleared := fun _ => ⟨i, told, List.getElem?_set_self hi⟩
  cleared_le := Nat.le_succ_of_le h.cleared_le

theorem publish (h : c.IsSound slug link) {told : Link × Option RuleEvent}
    {number : Nat} (hi : c.errands[i]? = some (.committed told number)) :
    ({ c with
      service := c.service.publish told
      errands := c.errands.set i .ended
      cleared := max c.cleared number } : Traffic).IsSound slug link := by
  obtain ⟨hid, hslug, hnumber⟩ := h.errands _ (List.mem_of_getElem? hi)
  exact {
    hosts := { h.hosts with up := (Cache.isUp_delete _).trans h.hosts.up }
    linkEntry := by
      refine ⟨none, ?_, fun e he => by cases he⟩
      rw [Service.publish, Service.forgetLink, Cache.link?_delete h.hosts.up,
        hslug]
      exact if_pos (by simp)
    rulesEntry := by
      refine ⟨none, ?_, fun es hes => by cases hes⟩
      rw [Service.publish, Service.forgetLink, Cache.rules?_delete h.hosts.up,
        hid]
      exact if_pos (by simp)
    trips := h.trips
    errands := by
      intro e he
      rcases List.mem_or_eq_of_mem_set he with hmem | rfl
      · exact h.errands e hmem
      · trivial
    cleared := by
      intro hless
      have hless : max c.cleared number < c.commits := hless
      -- This was not the last commit, so another task is to clear that one.
      obtain ⟨j, told', hj⟩ := h.cleared (by omega)
      refine ⟨j, told', ?_⟩
      have hne : i ≠ j := by
        rintro rfl
        cases hi.symm.trans hj
        omega
      exact (List.getElem?_set_ne hne).trans hj
    cleared_le := max_le h.cleared_le hnumber }

theorem advanceErrand (h : c.IsSound slug link) {e : Errand}
    (he : c.errands[i]? = some e) :
    (c.advanceErrand most i e).IsSound slug link := by
  have hsound := h.errands e (List.mem_of_getElem? he)
  have hi : i < c.errands.length := (List.getElem?_eq_some_iff.mp he).1
  cases e with
  | waiting caller task =>
      rw [Traffic.advanceErrand]
      rcases h.hosts.commitTask hsound.2 hsound.1 with
        ⟨told, store, hcommit, hhosts, hid, hslug⟩ | hnone
      · rw [hcommit]
        exact h.commit hi hhosts hid hslug
      · rw [hnone]
        exact { h with
          errands := by
            intro e' he'
            rcases List.mem_or_eq_of_mem_set he' with hmem | rfl
            · exact h.errands e' hmem
            · trivial
          cleared := by
            intro hless
            obtain ⟨j, told, hj⟩ := h.cleared hless
            have hne : i ≠ j := by
              rintro rfl
              cases he.symm.trans hj
            exact ⟨j, told, (List.getElem?_set_ne hne).trans hj⟩ }
  | committed told number => exact h.publish he
  | ended => exact h

/-! ## What comes with time -/

/-- What leaves links and rules alone, their counts aside, and puts nothing into
the cache is of no account. -/
theorem quiet (h : c.IsSound slug link) {s : Service}
    (hsound : s.store.IsSound) (hkept : s.store.database.IsKept)
    (hup : s.cache.isUp = true) (hnow : s.now.micros < Clock.limit)
    (hlinks : s.store.database.links = c.service.store.database.links)
    (hrules : (s.store.database.activeEntries link).map RuleEntry.uncounted =
      (c.service.store.database.activeEntries link).map RuleEntry.uncounted)
    (hlink? : s.cache.link? slug = .ok none ∨
      s.cache.link? slug = c.service.cache.link? slug)
    (hrules? : s.cache.rules? link = .ok none ∨
      s.cache.rules? link = c.service.cache.rules? link) :
    ({ c with service := s } : Traffic).IsSound slug link := by
  have hhasLink : ∀ e, c.service.HasLink slug e → s.HasLink slug e := by
    intro e he
    rw [Service.HasLink, hlinks]
    exact he
  have hhasRules : ∀ es, c.service.HasRules link es → s.HasRules link es :=
    fun es hes => hes.trans hrules.symm
  exact {
    hosts := ⟨hsound, hkept, hup, hnow, hlinks ▸ h.hosts.row⟩
    linkEntry := by
      rcases hlink? with hnone | hsame
      · exact ⟨none, hnone, fun e he => nomatch he⟩
      · obtain ⟨found, hfound, hlink⟩ := h.linkEntry
        refine ⟨found, hsame.trans hfound, fun e he => ⟨(hlink e he).1, ?_⟩⟩
        exact (hlink e he).2.imp id (hhasLink e)
    rulesEntry := by
      rcases hrules? with hnone | hsame
      · exact ⟨none, hnone, fun es hes => nomatch hes⟩
      · obtain ⟨found, hfound, hhas⟩ := h.rulesEntry
        refine ⟨found, hsame.trans hfound, fun es hes => ?_⟩
        exact (hhas es hes).imp id (hhasRules es)
    trips := fun t ht => (h.trips t ht).later le_rfl (fun _ => hhasLink)
      fun _ => hhasRules
    errands := h.errands
    cleared := h.cleared
    cleared_le := h.cleared_le }

theorem flush (h : c.IsSound slug link) :
    ({ c with service := c.service.flush.2 } : Traffic).IsSound slug link := by
  have hhosts := h.hosts
  rcases Service.flush_cases hhosts.sound with
    heq | ⟨store, hsound, hstore, heq⟩ | heq
  · rw [heq]
    exact h
  · rw [heq]
    refine h.quiet hsound (hstore ▸ hhosts.kept.addMatches _) hhosts.up
      hhosts.now ?_ ?_ (.inr rfl) (.inr rfl)
    · exact hstore ▸ (Database.addMatches_uncounted _ _).1
    · exact hstore ▸ Database.activeEntries_addMatches _ _
  · rw [heq]
    exact h.quiet hhosts.sound hhosts.kept hhosts.up hhosts.now rfl rfl
      (.inr rfl) (.inr rfl)

theorem expire (h : c.IsSound slug link) (key : String) :
    ({ c with
      service := { c.service with
        cache := c.service.cache.expire key } } : Traffic).IsSound slug link := by
  have hhosts := h.hosts
  refine h.quiet hhosts.sound hhosts.kept hhosts.up hhosts.now rfl rfl ?_ ?_
  · rw [Cache.link?_expire hhosts.up]
    split
    · exact .inl rfl
    · exact .inr rfl
  · rw [Cache.rules?_expire hhosts.up]
    split
    · exact .inl rfl
    · exact .inr rfl

/-- Every move keeps what holds all the time. -/
theorem step (h : c.IsSound slug link) (m : Move) :
    (c.step most slug m).IsSound slug link := by
  cases m with
  | trip i =>
      rw [Traffic.step]
      split
      · next t ht => exact h.advanceTrip (List.mem_of_getElem? ht)
      · exact h
  | errand i =>
      rw [Traffic.step]
      split
      · next e he => exact h.advanceErrand he
      · exact h
  | flush => exact h.flush
  | wait span =>
      rw [Traffic.step]
      split
      · next s hs =>
          obtain ⟨now, rfl, hnow⟩ := Service.advance_ok hs
          exact h.quiet h.hosts.sound h.hosts.kept h.hosts.up hnow rfl rfl
            (.inr rfl) (.inr rfl)
      · exact h
  | expire key => exact h.expire key

theorem run (h : c.IsSound slug link) (moves : List Move) :
    (c.run most slug moves).IsSound slug link := by
  induction moves generalizing c with
  | nil => exact h
  | cons m moves ih => exact ih (h.step m)

/-- It holds of a service whose cache agrees with its rows when visitors and
callers come. -/
theorem begin {s : Service} (hs : s.Coherent) {l : Link}
    (hl : l ∈ s.store.database.links) (visitors : List Visitor)
    {tasks : List (Caller × Task)}
    (htasks : ∀ x ∈ tasks, x.2.link = l.id ∧ x.2.IsChecked) :
    (begin s visitors tasks).IsSound l.slug l.id where
  hosts := ⟨hs.sound, hs.kept, hs.up, hs.now, l, hl, rfl, rfl⟩
  linkEntry := by
    obtain ⟨found, hfound, hlinks⟩ := hs.links l.slug
    refine ⟨found, hfound, fun e he => ?_⟩
    obtain ⟨l', hl', hslug, rfl⟩ := hlinks e he
    obtain rfl := List.inj_on_of_nodup_map hs.kept.links.slugs hl' hl hslug
    exact ⟨rfl, .inr ⟨l', hl', rfl, rfl⟩⟩
  rulesEntry := by
    obtain ⟨found, hfound, hrules⟩ := hs.rules l.id
    exact ⟨found, hfound, fun es hes => .inr (hrules es hes)⟩
  trips := by
    intro t ht
    obtain ⟨v, -, rfl⟩ := List.mem_map.mp ht
    trivial
  errands := by
    intro e he
    obtain ⟨x, hx, rfl⟩ := List.mem_map.mp he
    exact htasks x hx
  cleared := fun h => absurd h (Nat.lt_irrefl 0)
  cleared_le := le_rfl

/-- Once nothing is under way any more, an entry is what the rows say unless it
was put late. -/
theorem isCurrent_or_late (h : c.IsSound slug link)
    (hended : c.allEnded = true) :
    (c.lateLink = true ∨ c.service.LinkIsCurrent slug) ∧
      (c.lateRules = true ∨ c.service.RulesAreCurrent link) := by
  have hcleared : ¬ c.cleared < c.commits := by
    intro hless
    obtain ⟨i, told, hi⟩ := h.cleared hless
    rw [Traffic.allEnded, Bool.and_eq_true, List.all_eq_true,
      List.all_eq_true] at hended
    cases hended.2 _ (List.mem_of_getElem? hi)
  obtain ⟨found, hfound, hlink⟩ := h.linkEntry
  obtain ⟨found', hfound', hrules⟩ := h.rulesEntry
  refine ⟨or_iff_not_imp_left.mpr fun hlate => ⟨found, hfound, fun e he => ?_⟩,
    or_iff_not_imp_left.mpr fun hlate => ⟨found', hfound', fun es hes => ?_⟩⟩
  · exact (hlink e he).2.resolve_left fun hold => hold.elim hlate hcleared
  · exact (hrules es hes).resolve_left fun hold => hold.elim hlate hcleared

end IsSound

/-- Rules that are put into the cache are there as they were read, whatever the
rows say by then. -/
theorem IsSound.rules?_put (h : c.IsSound slug link) {t : Trip}
    (ht : t ∈ c.trips) {rules : List RuleEntry}
    (hrules : t.stage.rules? = some rules) (hne : rules ≠ []) :
    (c.advanceTrip slug i t).service.cache.rules? link = .ok (some rules) := by
  have hsound := h.trips t ht
  obtain ⟨v, stage, seen⟩ := t
  cases stage with
  | gotRules e rules' =>
      cases hrules
      obtain ⟨rfl, hkept, -, -⟩ := hsound
      obtain ⟨result, tally, heq⟩ := Stage.decided_cases e
        ((RuleEntry.firstMatch v rules).mapError Failure.unloadable)
        { c.service with cache := c.service.cache.keepRules e.id rules }
      rw [Traffic.advanceTrip, Stage.advance, Stage.picked, heq]
      exact (Cache.rules?_keepRules h.hosts.up hne hkept e.id).trans (if_pos rfl)
  | _ => cases hrules

/-- Whatever redirections and tasks there were at a link, and however they ran
side by side, once nothing is under way any more what the cache holds of the
link and of its rules is absent, or what the rows say, or was put late. -/
theorem isCurrent_run {s : Service} (hs : s.Coherent) {l : Link}
    (hl : l ∈ s.store.database.links) (visitors : List Visitor)
    {tasks : List (Caller × Task)}
    (htasks : ∀ x ∈ tasks, x.2.link = l.id ∧ x.2.IsChecked)
    (moves : List Move)
    (hended : ((begin s visitors tasks).run most l.slug moves).allEnded = true) :
    (((begin s visitors tasks).run most l.slug moves).lateLink = true ∨
      ((begin s visitors tasks).run most l.slug moves).service.LinkIsCurrent
        l.slug) ∧
    (((begin s visitors tasks).run most l.slug moves).lateRules = true ∨
      ((begin s visitors tasks).run most l.slug moves).service.RulesAreCurrent
        l.id) :=
  ((IsSound.begin hs hl visitors htasks).run moves).isCurrent_or_late hended

def ruledLink : Link :=
  ⟨1, "go", "https://a.example.com", 1, none, true, none, ⟨0⟩, 0⟩

def newTarget : RuleChanges :=
  ⟨.unset, .value "https://new.example.com", .unset, .unset, .unset⟩

def ruled : Service :=
  (Service.withLink.createRule 50 1 Service.owner Service.elsewhereDraft).2

theorem coherent_ruled : ruled.Coherent := by
  have hdraft : RuleDraft.check .document [] Service.elsewhereDraft.toJson =
      .passed Service.elsewhereDraft := rfl
  have hcreated := Service.Reached.manage (.start Service.isInitial_withLink)
    (.createRule 50 1 Service.owner hdraft)
  exact hcreated.coherent

theorem isChecked_newTarget : (Task.updateRule 1 1 newTarget).IsChecked :=
  ⟨.document, [], .obj [("target_url", .str "https://new.example.com")], rfl⟩

/-- A visitor comes while the rule is changed. -/
def crossed : Traffic :=
  begin ruled [Service.stranger] [(Service.owner, .updateRule 1 1 newTarget)]

/-- The rules are read before they change. -/
def readEarly : List Move :=
  [.trip 0, .trip 0, .trip 0, .trip 0, .trip 0, .errand 0, .errand 0]

theorem mem_ruledLink : ruledLink ∈ ruled.store.database.links := by
  decide +kernel

theorem isSound_crossed : crossed.IsSound "go" 1 := by
  refine IsSound.begin coherent_ruled mem_ruledLink _ fun x hx => ?_
  rw [List.mem_singleton.mp hx]
  exact ⟨rfl, isChecked_newTarget⟩

/-- Rules that are put into the cache after they have changed lead where the
rule led before. -/
theorem rulesAreCurrent_lost :
    crossed.service.cache.entries = [] ∧
    (crossed.run 50 "go" (readEarly ++ [.trip 0])).allEnded = true ∧
    ¬ (crossed.run 50 "go" (readEarly ++ [.trip 0])).service.RulesAreCurrent
      1 := by
  have hread : ((crossed.run 50 "go" readEarly).trips[0]?.bind fun t =>
      t.stage.rules?).map (·.map (·.targetUrl)) =
      some ["https://t.example.com"] := by decide +kernel
  have hnow : ((crossed.run 50 "go" (readEarly ++ [.trip 0])).service.store
      |>.database.activeEntries 1).map (·.targetUrl) =
      ["https://new.example.com"] := by decide +kernel
  refine ⟨by decide +kernel, by decide +kernel, ?_⟩
  rintro ⟨found, hfound, hcurrent⟩
  obtain ⟨rules, hrules, htargets⟩ := Option.map_eq_some_iff.mp hread
  obtain ⟨t, ht, hstage⟩ := Option.bind_eq_some_iff.mp hrules
  have hput := (isSound_crossed.run readEarly).rules?_put (i := 0)
    (List.mem_of_getElem? ht) hstage (by rintro rfl; cases htargets)
  have hstep : crossed.run 50 "go" (readEarly ++ [.trip 0]) =
      (crossed.run 50 "go" readEarly).advanceTrip "go" 0 t := by
    rw [run, List.foldl_append, List.foldl_cons, List.foldl_nil, ← run, step, ht]
  rw [hstep] at hfound hcurrent hnow
  obtain rfl := Except.ok.inj (hfound.symm.trans hput)
  have htarget : ∀ es : List RuleEntry,
      (es.map RuleEntry.uncounted).map (·.targetUrl) = es.map (·.targetUrl) :=
    fun es => by rw [List.map_map]; rfl
  have hsame := congrArg (List.map (·.targetUrl)) (hcurrent rules rfl)
  rw [htarget, htarget, htargets, hnow] at hsame
  have hhead := List.head_eq_of_cons_eq hsame
  exact absurd hhead (by decide)

/-- Two visitors come while the rule is changed. -/
def crossedTwice : Traffic :=
  begin ruled [Service.stranger, Service.stranger]
    [(Service.owner, .updateRule 1 1 newTarget)]

/-- One visitor's redirection reads the rules before they change and puts them
between the commit and the clearing. The other one's finds the link before the
clearing, and the rules not any more after it. -/
def putBetween : List Move :=
  [.trip 0, .trip 0, .trip 0, .trip 0, .trip 0, .errand 0, .trip 1, .trip 0,
    .errand 0, .trip 1, .trip 1, .trip 1]

/-- The old rules are there for a while, and then the new ones. -/
theorem isCurrent_crossedTwice :
    ruled.Coherent ∧ ruledLink ∈ ruled.store.database.links ∧
    (∀ x ∈ [(Service.owner, Task.updateRule 1 1 newTarget)],
      x.2.link = ruledLink.id ∧ x.2.IsChecked) ∧
    (crossedTwice.run 50 "go" (putBetween.take 7)).service.cache.entries.length
      = 1 ∧
    (crossedTwice.run 50 "go" (putBetween.take 8)).service.cache.entries.length
      = 2 ∧
    (crossedTwice.run 50 "go" putBetween).service.cache.entries.length = 1 ∧
    (crossedTwice.run 50 "go" putBetween).allEnded = true ∧
    (crossedTwice.run 50 "go" putBetween).service.LinkIsCurrent "go" ∧
    (crossedTwice.run 50 "go" putBetween).service.RulesAreCurrent 1 := by
  have htasks : ∀ x ∈ [(Service.owner, Task.updateRule 1 1 newTarget)],
      x.2.link = ruledLink.id ∧ x.2.IsChecked := by
    intro x hx
    rw [List.mem_singleton.mp hx]
    exact ⟨rfl, isChecked_newTarget⟩
  have hended : (crossedTwice.run 50 "go" putBetween).allEnded = true := by
    decide +kernel
  have hnot : ((crossedTwice.run 50 "go" putBetween).lateLink ||
      (crossedTwice.run 50 "go" putBetween).lateRules) = false := by
    decide +kernel
  obtain ⟨hlink, hrules⟩ := isCurrent_run coherent_ruled mem_ruledLink
    [Service.stranger, Service.stranger] htasks putBetween hended
  rw [Bool.or_eq_false_iff] at hnot
  refine ⟨coherent_ruled, mem_ruledLink, htasks, by decide +kernel,
    by decide +kernel, by decide +kernel, hended, hlink.resolve_left ?_,
    hrules.resolve_left ?_⟩
  · exact Bool.eq_false_iff.mp hnot.1
  · exact Bool.eq_false_iff.mp hnot.2

end Traffic

end Signpost
