import Mathlib
import Signpost.Proofs.ManagementSteps
import Signpost.Proofs.RowCounts
import Signpost.Service.Upkeep

/-!
# What the cache holds

The cache agrees with the rows: what it holds of a slug is the link with that
slug, and what it holds of a link's rules is the link's active rules in
evaluation order, their counts aside.

Every step keeps this. A task that changes rows differs from the rows before
in one link and its rules, and both keys of that link are taken away once the
rows are committed; a task that fails changes nothing. A redirection puts into
the cache what it read from the rows, and what rows hold comes back from the
cache as it was. Writing the tally changes counts alone, and time changes
nothing that is kept.
-/

namespace Signpost

/-- Active rules that are fit for their places come back from the cache as
they are. -/
theorem Database.IsKept.activeEntries {d : Database} (h : d.IsKept) {link : Int}
    (hchecked : ∀ r ∈ d.activeRules link,
      ¬ ∃ faults, r.checked = .failed faults) :
    ∀ e ∈ d.activeEntries link, e.IsKept := by
  intro e he
  obtain ⟨r, hr, rfl⟩ := List.mem_map.mp he
  have hmem := (Database.mem_activeRules.mp hr).1
  refine (h.rules.entries r (List.mem_filter.mp hmem).1).of_uncounted ?_
  cases hpassed : r.checked with
  | passed r' => exact Rule.hasPlace_of_checked hpassed
  | failed faults => exact absurd ⟨faults, hpassed⟩ (hchecked r hr)

namespace Service

/-- What the cache holds is what the rows hold, counts aside. -/
structure Coherent (s : Service) : Prop where
  sound : s.store.IsSound
  kept : s.store.database.IsKept
  up : s.cache.isUp = true
  now : s.now.micros < Clock.limit
  links : ∀ slug, ∃ found, s.cache.link? slug = .ok found ∧
    ∀ e ∈ found, ∃ l ∈ s.store.database.links, l.slug = slug ∧ e = l.entry
  rules : ∀ link, ∃ found, s.cache.rules? link = .ok found ∧
    ∀ es ∈ found, es.map RuleEntry.uncounted =
      (s.store.database.activeEntries link).map RuleEntry.uncounted

variable {s s' : Service}

namespace Coherent

/-- The tally, the events and the schedule are of no account. -/
theorem congr (h : s.Coherent) (hstore : s'.store = s.store)
    (hcache : s'.cache = s.cache) (hnow : s'.now = s.now) : s'.Coherent where
  sound := hstore ▸ h.sound
  kept := hstore ▸ h.kept
  up := hcache ▸ h.up
  now := hnow ▸ h.now
  links := by
    rw [hstore, hcache]
    exact h.links
  rules := by
    rw [hstore, hcache]
    exact h.rules

/-- A link in which rows differ is forgotten. -/
theorem forgetLink (h : s.Coherent) {l : Link} {store : Store}
    (hsound : store.IsSound)
    (hchanges : s.store.database.Changes store.database l) :
    (Service.forgetLink { s with store := store } l).Coherent where
  sound := hsound
  kept := hchanges.kept
  up := (Cache.isUp_delete _).trans h.up
  now := h.now
  links := by
    intro slug
    rw [Service.forgetLink, Cache.link?_delete h.up]
    split
    · exact ⟨none, rfl, fun e he => nomatch he⟩
    · next hkey =>
        obtain ⟨found, hfound, hlinks⟩ := h.links slug
        refine ⟨found, hfound, fun e he => ?_⟩
        obtain ⟨x, hx, rfl, rfl⟩ := hlinks e he
        refine ⟨x, hchanges.links x hx fun hslug => hkey ?_, rfl, rfl⟩
        simp [hslug]
  rules := by
    intro link
    rw [Service.forgetLink, Cache.rules?_delete h.up]
    split
    · exact ⟨none, rfl, fun es hes => nomatch hes⟩
    · next hkey =>
        obtain ⟨found, hfound, hrules⟩ := h.rules link
        refine ⟨found, hfound, fun es hes => ?_⟩
        have hne : link ≠ l.id := fun heq => hkey (by simp [heq])
        rw [hrules es hes]
        show _ = (store.database.activeEntries link).map RuleEntry.uncounted
        rw [hchanges.activeEntries hne]

/-- A task forgets the link that it changed. -/
theorem of_leaves (h : s.Coherent) (hleaves : s.Leaves s') : s'.Coherent := by
  rcases hleaves with rfl | ⟨l, store, events, hsound, hchanges, rfl⟩
  · exact h
  · exact (h.forgetLink hsound hchanges).congr rfl rfl rfl

end Coherent

/-! ## Upkeep -/

/-- Writing the tally adds the whole batch to the counts, or leaves the store
alone and puts the batch back. -/
theorem flush_cases (hs : s.store.IsSound) :
    s.flush.2 = s ∨
    (∃ store, store.IsSound ∧
      store.database = s.store.database.addMatches s.tally.counts ∧
      s.flush.2 = { s with
        store := store
        tally := s.tally.emptied.settle s.tally.counts }) ∨
    s.flush.2 = { s with
      tally := s.tally.emptied.requeue s.tally.counts } := by
  rw [flush]
  cases s.tally.counts.isEmpty with
  | true => exact .inl rfl
  | false =>
      have hemptied : ({ s with tally := s.tally.emptied } :
        Service).store.IsSound := hs
      rcases transact_cases (Plan.query (.addMatches s.tally.counts)) hemptied
        with ⟨_, store, hsound, hrun, ht⟩ | ⟨f, ht⟩
      · obtain ⟨-, hquery, -⟩ := Plan.run_query_ok (fun _ => rfl)
          hs.isCandid hrun
        have hstore := (Prod.mk.inj (Except.ok.inj hquery)).2
        refine .inr (.inl ⟨store, hsound, hstore.symm, ?_⟩)
        rw [ht]
        rfl
      · refine .inr (.inr ?_)
        rw [ht]
        rfl

/-- Time moves on within the calendar, and nothing else changes. -/
theorem advance_ok {span : Int} (h : s.advance span = .ok s') :
    ∃ now, s' = { s with now := now } ∧ now.micros < Clock.limit := by
  obtain ⟨now, hnow, rfl⟩ := map_eq_ok_iff.mp h
  refine ⟨now, rfl, ?_⟩
  rw [Clock.later] at hnow
  split at hnow
  · cases hnow
  · split at hnow
    · cases hnow
    · next hlimit =>
        cases hnow
        dsimp only
        omega

namespace Coherent

theorem addMatches (h : s.Coherent) {counts : List (Int × Int)} {store : Store}
    (hsound : store.IsSound)
    (hstore : store.database = s.store.database.addMatches counts) :
    ({ s with store := store } : Service).Coherent where
  sound := hsound
  kept := hstore ▸ h.kept.addMatches counts
  up := h.up
  now := h.now
  links := by
    intro slug
    obtain ⟨found, hfound, hlinks⟩ := h.links slug
    rw [hstore, (Database.addMatches_uncounted counts _).1]
    exact ⟨found, hfound, hlinks⟩
  rules := by
    intro link
    obtain ⟨found, hfound, hrules⟩ := h.rules link
    rw [hstore, Database.activeEntries_addMatches]
    exact ⟨found, hfound, hrules⟩

theorem flush (h : s.Coherent) : s.flush.2.Coherent := by
  rcases flush_cases h.sound with heq | ⟨store, hsound, hstore, heq⟩ | heq
  · exact heq.symm ▸ h
  · rw [heq]
    exact (h.addMatches hsound hstore).congr rfl rfl rfl
  · rw [heq]
    exact h.congr rfl rfl rfl

theorem advance (h : s.Coherent) {span : Int}
    (hs : s.advance span = .ok s') : s'.Coherent := by
  obtain ⟨now, rfl, hlimit⟩ := advance_ok hs
  exact { h with now := hlimit }

/-- An entry whose time has run out is missed, and no other. -/
theorem expire (h : s.Coherent) (key : String) :
    ({ s with cache := s.cache.expire key } : Service).Coherent where
  sound := h.sound
  kept := h.kept
  up := h.up
  now := h.now
  links := by
    intro slug
    obtain ⟨found, hfound, hlinks⟩ := h.links slug
    rw [Cache.link?_expire h.up]
    split
    · exact ⟨none, rfl, fun e he => nomatch he⟩
    · exact ⟨found, hfound, hlinks⟩
  rules := by
    intro link
    obtain ⟨found, hfound, hrules⟩ := h.rules link
    rw [Cache.rules?_expire h.up]
    split
    · exact ⟨none, rfl, fun es hes => nomatch hes⟩
    · exact ⟨found, hfound, hrules⟩

end Coherent

/-! ## Links as the rows have them -/

/-- The link with a slug, from the rows alone. -/
def storedLink (s : Service) (slug : String) : Except Failure Link :=
  if Text.isWellFormed slug.toList then
    match s.store.database.linkBySlug? slug with
    | some l => .ok l
    | none => .error (.refused (.slugNotFound slug))
  else .error (.store (.illFormedText slug))

theorem storedLink_ok {slug : String} {l : Link}
    (h : s.storedLink slug = .ok l) :
    l ∈ s.store.database.links ∧ l.slug = slug := by
  rw [storedLink] at h
  split at h
  · split at h
    · next hfound =>
        cases h
        exact ⟨List.mem_of_find?_eq_some hfound,
          by simpa using List.find?_some hfound⟩
    · cases h
  · cases h

/-- Only a link of the rows is ever found. -/
theorem entry_of_storedLink {slug : String} {e : LinkEntry}
    (h : (s.storedLink slug >>= fun l => s.unexpired slug l.entry) = .ok e) :
    ∃ l ∈ s.store.database.links, e = l.entry := by
  cases hstored : s.storedLink slug with
  | error f => rw [hstored] at h; cases h
  | ok l =>
      rw [hstored] at h
      have hunexpired : s.unexpired slug l.entry = .ok e := h
      rw [unexpired] at hunexpired
      split at hunexpired
      · cases hunexpired
        exact ⟨l, (storedLink_ok hstored).1, rfl⟩
      · cases hunexpired
      · cases hunexpired

theorem Coherent.storedLink_of_mem (h : s.Coherent) {l : Link}
    (hl : l ∈ s.store.database.links) : s.storedLink l.slug = .ok l := by
  have hslug : Text.isWellFormed l.slug.toList = true :=
    (h.kept.links.entries l hl).slug
  rw [storedLink, if_pos hslug, h.kept.linkBySlug?_eq hl]

/-- A link that is not in the cache comes from the rows, and goes to the
cache. -/
theorem findLink_of_miss {slug : String} (hsound : s.store.IsSound)
    (hmiss : s.cache.link? slug = .ok none) :
    s.findLink slug = match s.storedLink slug with
      | .ok l => (s.unexpired slug l.entry,
          { s with cache := s.cache.keepLink slug l.entry })
      | .error f => (.error f, s) := by
  rw [findLink, hmiss, storedLink]
  cases hslug : Text.isWellFormed slug.toList with
  | true =>
      have hnone : s.store.obstacle? (.linkBySlug slug) = none :=
        hsound.obstacle?_eq_none rfl rfl (by simpa [Query.texts] using hslug)
      rw [consult_query hsound hnone rfl]
      dsimp only
      rw [if_pos rfl]
      cases s.store.database.linkBySlug? slug <;> rfl
  | false =>
      have hobstacle : s.store.obstacle? (.linkBySlug slug) =
          some (.illFormedText slug) := by
        rw [Store.obstacle?, hsound.missing]
        simp [Store.misfit?, Query.numbers, Query.texts, Query.tables, hslug]
      rw [consult_query_error hsound rfl hobstacle]
      rfl

/-! ## Redirections with the cache -/

namespace Coherent

theorem keepLink (h : s.Coherent) {l : Link}
    (hl : l ∈ s.store.database.links) :
    ({ s with
      cache := s.cache.keepLink l.slug l.entry } : Service).Coherent where
  sound := h.sound
  kept := h.kept
  up := (Cache.isUp_keepLink _).trans h.up
  now := h.now
  links := by
    intro slug
    rw [Cache.link?_keepLink h.up (h.kept.links.entries l hl)]
    split
    · next hslug =>
        refine ⟨some l.entry, rfl, fun e he => ?_⟩
        cases he
        exact ⟨l, hl, hslug, rfl⟩
    · exact h.links slug
  rules := by
    intro link
    rw [Cache.rules?_keepLink h.up]
    exact h.rules link

/-- What a slug leads to is what the rows say, wherever it comes from. -/
theorem findLink (h : s.Coherent) (slug : String) :
    ∃ cache, s.findLink slug =
        (s.storedLink slug >>= fun l => s.unexpired slug l.entry,
          { s with cache := cache }) ∧
      ({ s with cache := cache } : Service).Coherent := by
  obtain ⟨found, hfound, hlinks⟩ := h.links slug
  cases found with
  | some e =>
      obtain ⟨l, hl, rfl, rfl⟩ := hlinks e rfl
      refine ⟨s.cache, ?_, h⟩
      rw [Service.findLink, hfound, h.storedLink_of_mem hl]
      rfl
  | none =>
      rw [findLink_of_miss h.sound hfound]
      cases hstored : s.storedLink slug with
      | ok l =>
          obtain ⟨hl, rfl⟩ := storedLink_ok hstored
          exact ⟨_, rfl, h.keepLink hl⟩
      | error f => exact ⟨s.cache, rfl, h⟩

theorem isKept_of_active (h : s.Coherent) {link : Int}
    (hnot : ¬ s.Spoiled link) :
    ∀ e ∈ s.store.database.activeEntries link, e.IsKept :=
  h.kept.activeEntries fun r hr hfailed =>
    hnot (.inr ⟨r, hr, .inl hfailed⟩)

theorem keepRules (h : s.Coherent) {link : Int} (hnot : ¬ s.Spoiled link) :
    ({ s with
      cache := s.cache.keepRules link
        (s.store.database.activeEntries link) } : Service).Coherent := by
  by_cases hempty : s.store.database.activeEntries link = []
  · rw [hempty]
    exact h
  · exact {
      sound := h.sound
      kept := h.kept
      up := (Cache.isUp_keepRules _).trans h.up
      now := h.now
      links := by
        intro slug
        rw [Cache.link?_keepRules h.up]
        exact h.links slug
      rules := by
        intro link'
        rw [Cache.rules?_keepRules h.up hempty (h.isKept_of_active hnot)]
        split
        · next hlink =>
            subst hlink
            refine ⟨some _, rfl, fun es hes => ?_⟩
            cases hes
            rfl
        · exact h.rules link' }

/-- The active rules of a link are what the rows say, their counts aside,
wherever they come from. -/
theorem activeRules (h : s.Coherent) (link : Int) :
    ∃ found cache, s.activeRules link = (found, { s with cache := cache }) ∧
      ({ s with cache := cache } : Service).Coherent ∧
      (¬ s.Spoiled link → ∃ es, found = .ok es ∧
        es.map RuleEntry.uncounted =
          (s.store.database.activeEntries link).map RuleEntry.uncounted) := by
  obtain ⟨held, hheld, hrules⟩ := h.rules link
  cases held with
  | some es =>
      exact ⟨_, s.cache, activeRules_of_hit hheld, h,
        fun _ => ⟨es, rfl, hrules es rfl⟩⟩
  | none =>
      -- Nothing is put into the cache when a row spoils the rules.
      by_cases hnot : s.Spoiled link
      · obtain ⟨f, hf⟩ := activeRules_of_spoiled h.sound hheld hnot
        exact ⟨_, s.cache, hf, h, fun hno => absurd hnot hno⟩
      · exact ⟨_, _, activeRules_of_miss h.sound hheld hnot, h.keepRules hnot,
          fun _ => ⟨_, rfl, rfl⟩⟩

theorem pickRule (h : s.Coherent) (link : Int) (v : Visitor) :
    ∃ cache, (s.pickRule link v).2 = { s with cache := cache } ∧
      ({ s with cache := cache } : Service).Coherent ∧
      (¬ s.Spoiled link →
        (s.pickRule link v).1.map (Option.map RuleEntry.uncounted) =
          (RuleEntry.firstMatch v ((s.store.database.activeEntries link).map
            RuleEntry.uncounted)).mapError Failure.unloadable) := by
  obtain ⟨found, cache, heq, hcoherent, hspec⟩ := h.activeRules link
  cases found with
  | error f =>
      rw [pickRule_of_activeRules_error heq]
      refine ⟨cache, rfl, hcoherent, fun hnot => ?_⟩
      obtain ⟨es, hes, -⟩ := hspec hnot
      cases hes
  | ok rules =>
      rw [pickRule_of_activeRules heq]
      refine ⟨cache, rfl, hcoherent, fun hnot => ?_⟩
      obtain ⟨es, hes, hsame⟩ := hspec hnot
      cases hes
      rw [← hsame, RuleEntry.firstMatch_uncounted]
      cases RuleEntry.firstMatch v rules <;> rfl

/-- A redirection puts what it read into the cache and counts one match at the
most. -/
theorem resolve_cases (h : s.Coherent) (slug : String) (v : Visitor) :
    ∃ cache tally, (s.resolve slug v).2 = { s with
        cache := cache
        tally := tally } ∧
      ({ s with cache := cache } : Service).Coherent ∧
      (tally = s.tally ∨ ∃ rule, tally = s.tally.count rule 1) := by
  obtain ⟨cache, hlink, hcoherent⟩ := h.findLink slug
  rw [Service.resolve, hlink]
  cases s.storedLink slug >>= fun l => s.unexpired slug l.entry with
  | error f => exact ⟨cache, s.tally, rfl, hcoherent, .inl rfl⟩
  | ok e =>
      dsimp only
      split
      · obtain ⟨cache', hpick, hcoherent', -⟩ := hcoherent.pickRule e.id v
        cases hp : Service.pickRule { s with cache := cache } e.id v with
        | mk found s' =>
            rw [hp] at hpick
            dsimp only at hpick
            subst hpick
            cases found with
            | error f => exact ⟨cache', s.tally, rfl, hcoherent', .inl rfl⟩
            | ok found =>
                cases found with
                | none => exact ⟨cache', s.tally, rfl, hcoherent', .inl rfl⟩
                | some r =>
                    exact ⟨cache', _, rfl, hcoherent', .inr ⟨r.id, rfl⟩⟩
      · exact ⟨cache, s.tally, rfl, hcoherent, .inl rfl⟩

theorem resolve (h : s.Coherent) (slug : String) (v : Visitor) :
    (s.resolve slug v).2.Coherent := by
  obtain ⟨cache, tally, heq, hcoherent, -⟩ := h.resolve_cases slug v
  rw [heq]
  exact hcoherent.congr rfl rfl rfl

end Coherent

end Service

end Signpost
