import Mathlib
import Signpost.Proofs.MatchCounts

/-!
# The cache cannot be seen

A redirection is the same with the cache as without it, after every run of
tasks, redirections and upkeep. Both read the same link and the same active
rules, since the cache agrees with the rows after every run and no redirection
hangs on a count. All that could part them is a row that cannot be loaded: the
cache would still answer where the rows no longer do. Conditions that passed
their check are never too tall, so what is left is a count without a place,
and that takes more redirections than a place has room for.
-/

namespace Signpost.Service

variable {s s' : Service}

/-! ## Redirections without the cache -/

/-- The service with its cache turned off. -/
def uncached (s : Service) : Service :=
  { s with
    cache := { s.cache with
      enabled := false } }

theorem isUp_uncached (s : Service) : s.uncached.cache.isUp = false := rfl

theorem keepLink_of_not_isUp {c : Cache} (h : c.isUp = false) (slug : String)
    (e : LinkEntry) : c.keepLink slug e = c := by
  rw [Cache.keepLink, Cache.set, h]
  rfl

theorem findLink_uncached (h : s.store.IsSound) (slug : String) :
    s.uncached.findLink slug =
      (s.storedLink slug >>= fun l => s.unexpired slug l.entry,
        s.uncached) := by
  have hmiss : s.uncached.cache.link? slug = .ok none := by
    rw [Cache.link?, Cache.get_of_not_isUp (isUp_uncached s)]
    rfl
  have hsound : s.uncached.store.IsSound := h
  have hstored : s.uncached.storedLink slug = s.storedLink slug := rfl
  rw [findLink_of_miss hsound hmiss, hstored]
  cases s.storedLink slug with
  | error f => rfl
  | ok l =>
      dsimp only
      rw [keepLink_of_not_isUp (isUp_uncached s)]
      rfl

theorem pickRule_uncached (h : s.store.IsSound) {link : Int}
    (hnot : ¬ s.Spoiled link) (v : Visitor) :
    (s.uncached.pickRule link v).1 =
      (RuleEntry.firstMatch v (s.store.database.activeEntries link)).mapError
        Failure.unloadable := by
  have hmiss : s.uncached.cache.rules? link = .ok none := by
    rw [Cache.rules?, Cache.get_of_not_isUp (isUp_uncached s)]
    rfl
  have hsound : s.uncached.store.IsSound := h
  have hnot' : ¬ s.uncached.Spoiled link := hnot
  have hactive := activeRules_of_miss hsound hmiss hnot'
  rw [pickRule_of_activeRules hactive]
  rfl

/-- Nothing spoils the rules of a link whose counts have their places. -/
theorem Coherent.not_spoiled (h : s.Coherent)
    (hcounts : s.store.database.HoldsCounts) {l : Link}
    (hl : l ∈ s.store.database.links) : ¬ s.Spoiled l.id := by
  have hlink : hasPlace l.id = true := (h.kept.links.entries l hl).id
  rintro (hid | ⟨r, hr, hspoils⟩)
  · rw [hlink] at hid
    cases hid
  · have hmem := (List.mem_filter.mp (Database.mem_activeRules.mp hr).1).1
    rcases hspoils with ⟨faults, hfailed⟩ | htall
    · rw [Rule.checked_of_hasPlace (hcounts r hmem)] at hfailed
      cases hfailed
    · have hlow : r.isTooTall s.ceiling = false :=
        (h.kept.rules.entries r hmem).isTooTall_eq_false s.ceiling
      rw [hlow] at htall
      cases htall

/-- Where a visitor of a link is sent, by what came of asking its rules. -/
def decision (e : LinkEntry) : Except Failure (Option RuleEntry) → Redirection
  | .error _ => ⟨fallbackUrl e, e.id, .inl .evaluationFailed⟩
  | .ok none => ⟨fallbackUrl e, e.id, .inl .noRuleMatched⟩
  | .ok (some r) => ⟨r.targetUrl, e.id, .inr r.id⟩

theorem decision_uncounted (e : LinkEntry)
    (found : Except Failure (Option RuleEntry)) :
    decision e (found.map (Option.map RuleEntry.uncounted)) =
      decision e found := by
  cases found with
  | error f => rfl
  | ok r => cases r <;> rfl

theorem resolve_of_findLink {slug : String} {v : Visitor} {e : LinkEntry}
    (h : s.findLink slug = (.ok e, s')) :
    (s.resolve slug v).1 = .ok (if e.isSmartRouting then
      decision e (s'.pickRule e.id v).1
      else ⟨e.originalUrl, e.id, .inl .routingDisabled⟩) := by
  rw [resolve, h]
  dsimp only
  split
  · cases s'.pickRule e.id v with
    | mk found s'' =>
        cases found with
        | error f => rfl
        | ok r => cases r <;> rfl
  · rfl

/-- A redirection is the same without the cache. -/
theorem Coherent.resolve_uncached (h : s.Coherent)
    (hcounts : s.store.database.HoldsCounts) (slug : String) (v : Visitor) :
    (s.resolve slug v).1 = (s.uncached.resolve slug v).1 := by
  obtain ⟨cache, hlink, hcoherent⟩ := h.findLink slug
  have hother := findLink_uncached h.sound slug
  cases hfound : s.storedLink slug >>= fun l => s.unexpired slug l.entry with
  | error f =>
      rw [hfound] at hlink hother
      rw [Service.resolve, Service.resolve, hlink, hother]
  | ok e =>
      rw [hfound] at hlink hother
      have hnot : ¬ s.Spoiled e.id := by
        obtain ⟨l, hl, rfl⟩ := entry_of_storedLink hfound
        exact h.not_spoiled hcounts hl
      obtain ⟨cache', -, -, hpick⟩ := hcoherent.pickRule e.id v
      -- The cache may hold older counts, so rules are compared without theirs.
      have hsame : (Service.pickRule { s with cache := cache } e.id v).1.map
            (Option.map RuleEntry.uncounted) =
          (s.uncached.pickRule e.id v).1.map
            (Option.map RuleEntry.uncounted) := by
        rw [hpick hnot, pickRule_uncached h.sound hnot,
          RuleEntry.firstMatch_uncounted]
        cases RuleEntry.firstMatch v (s.store.database.activeEntries e.id) <;>
          rfl
      have hdecision := congrArg (decision e) hsame
      rw [decision_uncounted, decision_uncounted] at hdecision
      rw [resolve_of_findLink hlink, resolve_of_findLink hother, hdecision]

/-! ## Runs -/

/-- A service that was just set up, with links and without rules. -/
structure IsInitial (s : Service) : Prop where
  sound : s.store.IsSound
  links : LinksKept s.store.database.links
  rules : s.store.database.rules = []
  cache : s.cache = .empty true s.cache.decodes
  tally : s.tally.counts = []
  now : s.now.micros < Clock.limit

/-- What a run of tasks, upkeep and so many redirections can lead to while
neither the store nor the cache fails. -/
inductive Reached : Nat → Service → Prop
  | start {s : Service} (h : s.IsInitial) : Reached 0 s
  | manage {n : Nat} {s s' : Service} (h : Reached n s) (hs : s.Manages s') :
      Reached n s'
  | flush {n : Nat} {s : Service} (h : Reached n s) : Reached n s.flush.2
  | advance {n : Nat} {s s' : Service} (h : Reached n s) {span : Int}
      (hs : s.advance span = .ok s') : Reached n s'
  | expire {n : Nat} {s : Service} (h : Reached n s) (key : String) :
      Reached n { s with cache := s.cache.expire key }
  | resolve {n : Nat} {s : Service} (h : Reached n s) (slug : String)
      (v : Visitor) : Reached (n + 1) (s.resolve slug v).2

theorem IsInitial.coherent (h : s.IsInitial) : s.Coherent where
  sound := h.sound
  kept := by
    refine ⟨h.links, ?_⟩
    rw [h.rules]
    exact ⟨List.nodup_nil, fun r hr => nomatch hr⟩
  up := by
    rw [h.cache]
    rfl
  now := h.now
  links := by
    intro slug
    rw [h.cache]
    exact ⟨none, rfl, fun e he => nomatch he⟩
  rules := by
    intro link
    rw [h.cache]
    exact ⟨none, rfl, fun es hes => nomatch hes⟩

theorem IsInitial.countsWithin (h : s.IsInitial) : s.CountsWithin 0 where
  amounts := by
    rw [h.tally]
    exact fun x hx => nomatch hx
  owed := by
    intro id
    rw [h.tally]
    exact le_rfl
  counts := by
    rw [h.rules]
    exact fun r hr => nomatch hr

namespace Reached

variable {n : Nat}

/-- The cache agrees with the rows, after every run. -/
theorem coherent (h : Reached n s) : s.Coherent := by
  induction h with
  | start h => exact h.coherent
  | manage _ hs ih => exact ih.of_leaves (hs.leaves ih.sound ih.kept ih.now)
  | flush _ ih => exact ih.flush
  | advance _ hs ih => exact ih.advance hs
  | expire _ key ih => exact ih.expire key
  | resolve _ slug v ih => exact ih.resolve slug v

/-- No rule has been matched more often than visitors were redirected. -/
theorem countsWithin (h : Reached n s) (hn : n < numberLimit) :
    s.CountsWithin n := by
  induction h with
  | start h => exact h.countsWithin
  | manage h hs ih =>
      have hbefore := h.coherent
      exact (ih hn).of_leaves
        (hs.leaves hbefore.sound hbefore.kept hbefore.now)
  | flush h ih => exact (ih hn).flush h.coherent.sound hn
  | advance _ hs ih => exact (ih hn).advance hs
  | expire _ _ ih => exact (ih hn).congr rfl rfl
  | resolve h slug v ih =>
      have hafter := (ih (by omega)).resolve h.coherent slug v
      exact_mod_cast hafter

end Reached

/-- After every run, a redirection is the same without the cache. A store that
does not fail has a place for every count; only a run of as many redirections
as a place has room for needs it to be said. -/
theorem resolve_eq_uncached {n : Nat} (h : Reached n s)
    (hcounts : numberLimit ≤ n → s.store.database.HoldsCounts) (slug : String)
    (v : Visitor) : (s.resolve slug v).1 = (s.uncached.resolve slug v).1 := by
  refine h.coherent.resolve_uncached ?_ slug v
  by_cases hn : numberLimit ≤ n
  · exact hcounts hn
  · have hless : n < numberLimit := by omega
    exact (h.countsWithin hless).holdsCounts hless

/-- A service with one link, just set up. -/
def withLink : Service :=
  { fresh ⟨0⟩ true 3 30 with
    store := { Store.empty with
      database := ⟨[⟨1, "go", "https://a.example.com", 1, none, false, none,
        ⟨0⟩, 0⟩], [], []⟩ } }

/-- A rule for the visitors from everywhere but one country. -/
def elsewhereDraft : RuleDraft :=
  ⟨"sample", "https://t.example.com", 0, true,
    ⟨.all, [.onAttribute .country .notEquals (.one "DE")]⟩⟩

/-- The owner of the link. -/
def owner : Manage.Caller :=
  ⟨⟨1, .user⟩, ⟨none, none⟩⟩

/-- The service after the link got its rule. -/
def withRule : Service :=
  (withLink.createRule 50 1 owner elsewhereDraft).2

/-- The service after the link got its rule and a visitor came. -/
def visited : Service :=
  ((withLink.createRule 50 1 owner elsewhereDraft).2.resolve "go" stranger).2

theorem isInitial_withLink : withLink.IsInitial where
  sound := ⟨rfl, rfl, rfl⟩
  links := by
    refine ⟨by decide, by decide, ?_⟩
    intro l hl
    obtain rfl := List.mem_singleton.mp hl
    exact ⟨rfl, rfl, by decide, by decide, (fun t ht => nomatch ht),
      (fun m hm => nomatch hm)⟩
  rules := rfl
  cache := rfl
  tally := rfl
  now := by decide

/-- The rule decides for the next visitor, from the cache as from the rows. -/
theorem resolve_visited_eq_uncached :
    Reached 1 visited ∧
    (numberLimit ≤ (1 : Nat) → visited.store.database.HoldsCounts) ∧
    (visited.resolve "go" stranger).1 =
      (visited.uncached.resolve "go" stranger).1 ∧
    (visited.uncached.resolve "go" stranger).1.toOption =
      some ⟨"https://t.example.com", 1, .inr 1⟩ := by
  have hdraft : RuleDraft.check .document [] elsewhereDraft.toJson =
      .passed elsewhereDraft := rfl
  have hcreated := Reached.manage (.start isInitial_withLink)
    (.createRule 50 1 owner hdraft)
  have hreached : Reached 1 visited := by
    rw [visited]
    exact hcreated.resolve "go" stranger
  have hcounts : numberLimit ≤ (1 : Nat) →
      visited.store.database.HoldsCounts := fun h => absurd h (by decide)
  exact ⟨hreached, hcounts, resolve_eq_uncached hreached hcounts "go" stranger,
    by decide +kernel⟩

end Signpost.Service
