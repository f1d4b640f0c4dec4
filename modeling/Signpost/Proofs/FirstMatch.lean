import Mathlib
import Signpost.Proofs.EvaluationOrder
import Signpost.Proofs.Fallible
import Signpost.Proofs.StoredLoading
import Signpost.Proofs.Tasks
import Signpost.Service.Management
import Signpost.Service.Redirection

/-!
# The rule that decides

A visitor is given to the first rule that is active, has conditions that hold
and a public destination. The search is a plain recursion over a list, and
what it finds is `List.find?` with one test, as long as no rule on the way has
conditions that cannot be loaded; such a rule ends the search, for this and
every other visitor that reaches it.

The list is the active rows of the link in evaluation order, or what the cache
holds. Rows in evaluation order are sorted strictly, so the first one that
passes the test is the one that comes before all others that do. Rows whose
conditions are too tall to be written out are never searched: making ready
what the cache is to hold fails before the first of them is looked at.
-/

namespace Signpost

namespace RuleEntry

variable {v : Visitor}

/-- A rule decides for a visitor: it is active, its conditions can be loaded
and hold, and its destination is public. -/
def decides (v : Visitor) (r : RuleEntry) : Bool :=
  r.isActive && (match StoredConditions.load r.conditions with
    | .ok conditions => conditions.holds v
    | .error _ => false) && Net.isSafeUrl r.targetUrl

/-- A rule that ends every search that reaches it. -/
def Blocks (r : RuleEntry) : Prop :=
  r.isActive = true ∧ StoredConditions.Unloads r.conditions

/-- The search for a visitor reaches a rule that ends it. -/
def Blocked (v : Visitor) (rules : List RuleEntry) : Prop :=
  ∃ before r after, rules = before ++ r :: after ∧ r.Blocks ∧
    ∀ b ∈ before, b.decides v = false

theorem decides_iff {r : RuleEntry} :
    r.decides v = true ↔ r.isActive = true ∧
      (∃ c, StoredConditions.load r.conditions = .ok c ∧ c.holds v = true) ∧
      Net.isSafeUrl r.targetUrl = true := by
  rw [decides]
  cases StoredConditions.load r.conditions <;> simp [and_assoc]

theorem firstMatch_of_decides {r : RuleEntry} {rest : List RuleEntry}
    (h : r.decides v = true) : firstMatch v (r :: rest) = .ok (some r) := by
  obtain ⟨hactive, ⟨c, hload, hholds⟩, hsafe⟩ := decides_iff.mp h
  simp [firstMatch, hactive, hload, hholds, hsafe]

theorem firstMatch_of_blocks {r : RuleEntry} {rest : List RuleEntry}
    (h : r.Blocks) : ∃ u, firstMatch v (r :: rest) = .error u := by
  obtain ⟨u, hu⟩ := StoredConditions.load_fails_iff.mpr h.2
  exact ⟨u, by simp [firstMatch, h.1, hu]⟩

theorem firstMatch_of_passed_over {r : RuleEntry} {rest : List RuleEntry}
    (hd : r.decides v = false) (hb : ¬ r.Blocks) :
    firstMatch v (r :: rest) = firstMatch v rest := by
  rw [firstMatch]
  split
  · next hactive =>
      obtain ⟨c, hload⟩ := StoredConditions.load_ok_of_not_unloads
        fun hu => hb ⟨hactive, hu⟩
      rw [decides, hactive, hload] at hd
      rw [hload]
      simp only [Bool.true_and] at hd
      simp [hd]
  · rfl

/-- What a search finds is the first rule that decides. -/
theorem firstMatch_ok : ∀ {rules : List RuleEntry} {found : Option RuleEntry},
    firstMatch v rules = .ok found → found = rules.find? (decides v) := by
  intro rules
  induction rules with
  | nil =>
      intro found h
      cases h
      rfl
  | cons r rest ih =>
      intro found h
      by_cases hb : r.Blocks
      · obtain ⟨u, hu⟩ : ∃ u, firstMatch v (r :: rest) = .error u :=
          firstMatch_of_blocks hb
        rw [hu] at h
        cases h
      · rw [List.find?_cons]
        cases hd : r.decides v with
        | true =>
            rw [firstMatch_of_decides hd] at h
            cases h
            rfl
        | false =>
            rw [firstMatch_of_passed_over hd hb] at h
            exact ih h

/-- The search fails where it is blocked and nowhere else. -/
theorem firstMatch_fails_iff {rules : List RuleEntry} :
    (∃ u, firstMatch v rules = .error u) ↔ Blocked v rules := by
  induction rules with
  | nil => simp [firstMatch, Blocked]
  | cons r rest ih =>
      by_cases hb : r.Blocks
      · exact iff_of_true (firstMatch_of_blocks hb)
          ⟨[], r, rest, rfl, hb, by simp⟩
      · cases hd : r.decides v with
        | true =>
            rw [firstMatch_of_decides hd]
            refine iff_of_false (by simp) ?_
            rintro ⟨before, x, after, heq, hx, hbefore⟩
            cases before with
            | nil =>
                cases heq
                exact hb hx
            | cons b more =>
                cases heq
                rw [hbefore r (by simp)] at hd
                cases hd
        | false =>
            rw [firstMatch_of_passed_over hd hb, ih]
            constructor
            · rintro ⟨before, x, after, rfl, hx, hbefore⟩
              refine ⟨r :: before, x, after, rfl, hx, fun b hmem => ?_⟩
              rcases List.mem_cons.mp hmem with rfl | hmem
              · exact hd
              · exact hbefore b hmem
            · rintro ⟨before, x, after, heq, hx, hbefore⟩
              cases before with
              | nil =>
                  cases heq
                  exact absurd hx hb
              | cons b more =>
                  cases heq
                  exact ⟨more, x, after, rfl, hx,
                    fun y hy => hbefore y (by simp [hy])⟩

/-- A search that is not blocked finds the first rule that decides. -/
theorem firstMatch_eq_find? {rules : List RuleEntry}
    (h : ¬ Blocked v rules) :
    firstMatch v rules = .ok (rules.find? (decides v)) := by
  cases hf : firstMatch v rules with
  | ok found => rw [firstMatch_ok hf]
  | error u => exact absurd (firstMatch_fails_iff.mp ⟨u, hf⟩) h

/-- A search looks at whether rules are active, at what their conditions mean
and at their destinations, and at nothing else. -/
theorem firstMatch_map {f : RuleEntry → RuleEntry} {rules : List RuleEntry}
    (hactive : ∀ e ∈ rules, (f e).isActive = e.isActive)
    (htarget : ∀ e ∈ rules, (f e).targetUrl = e.targetUrl)
    (hload : ∀ e ∈ rules, StoredConditions.load (f e).conditions =
      StoredConditions.load e.conditions) :
    firstMatch v (rules.map f) = (firstMatch v rules).map (Option.map f) := by
  induction rules with
  | nil => rfl
  | cons e rest ih =>
      rw [List.forall_mem_cons] at hactive htarget hload
      rw [List.map_cons, firstMatch, firstMatch, hactive.1, htarget.1, hload.1,
        ih hactive.2 htarget.2 hload.2]
      cases StoredConditions.load e.conditions with
      | error u => split <;> rfl
      | ok conditions =>
          split
          · dsimp only
            split <;> rfl
          · rfl

end RuleEntry

/-! ## The active rows of a link -/

namespace Rule

/-- A row that keeps the rules of its link from being searched at all: its
count is no number any more, or its conditions are too tall to be written
out. -/
def Spoils (r : Rule) (ceiling : Ceiling) : Prop :=
  (∃ faults, r.checked = .failed faults) ∨ r.isTooTall ceiling = true

theorem eq_of_checked {r r' : Rule} (h : r.checked = .passed r') : r' = r := by
  obtain ⟨_, -, heq⟩ := Check.Checked.map_eq_passed.mp h
  exact heq.symm

end Rule

namespace Database

/-- The active rules of a link in evaluation order. -/
def activeRules (d : Database) (link : Int) : List Rule :=
  inOrder ((d.rulesOf link).filter (·.isActive))

theorem mem_activeRules {d : Database} {link : Int} {r : Rule} :
    r ∈ d.activeRules link ↔ r ∈ d.rulesOf link ∧ r.isActive = true := by
  rw [activeRules, mem_inOrder, List.mem_filter]

/-- The active rules of a link as a search goes through them. -/
def activeEntries (d : Database) (link : Int) : List RuleEntry :=
  (d.activeRules link).map Rule.entry

/-- Rules whose counts are all numbers are entries, one and all. -/
theorem entries_passed {rules : List Rule}
    (h : ∀ r ∈ rules, ¬ ∃ faults, r.checked = .failed faults) :
    entries rules = .passed (rules.map Rule.entry) := by
  induction rules with
  | nil => rfl
  | cons r rest ih =>
      rw [entries]
      cases hr : r.checked with
      | failed faults => exact absurd ⟨faults, hr⟩ (h r (by simp))
      | passed r' =>
          rw [Rule.eq_of_checked hr, ih fun x hx => h x (by simp [hx])]
          rfl

theorem entries_failed {rules : List Rule}
    (h : ∃ r ∈ rules, ∃ faults, r.checked = .failed faults) :
    ∃ faults, entries rules = .failed faults := by
  induction rules with
  | nil => simp at h
  | cons r rest ih =>
      rw [entries]
      cases hr : r.checked with
      | failed faults => exact ⟨faults, rfl⟩
      | passed r' =>
          obtain ⟨x, hx, faults, hfailed⟩ := h
          rcases List.mem_cons.mp hx with rfl | hx
          · rw [hr] at hfailed
            cases hfailed
          · obtain ⟨more, hmore⟩ := ih ⟨x, hx, faults, hfailed⟩
            exact ⟨more, by rw [hmore]; rfl⟩

end Database

/-! ## Listings -/

namespace Service

variable {s s' : Service} {link : Int} {v : Visitor}

theorem pickRule_of_activeRules {rules : List RuleEntry}
    (h : s.activeRules link = (.ok rules, s')) :
    s.pickRule link v =
      ((RuleEntry.firstMatch v rules).mapError Failure.unloadable, s') := by
  rw [pickRule, h]

theorem pickRule_of_activeRules_error {f : Failure}
    (h : s.activeRules link = (.error f, s')) :
    s.pickRule link v = (.error f, s') := by
  rw [pickRule, h]

theorem activeRules_of_hit {rules : List RuleEntry}
    (h : s.cache.rules? link = .ok (some rules)) :
    s.activeRules link = (.ok rules, s) := by
  rw [activeRules, h]

/-- Something keeps the active rules of a link from being made ready: the
link's number has no place in the store, or one of the rows spoils it. -/
def Spoiled (s : Service) (link : Int) : Prop :=
  hasPlace link = false ∨
    ∃ r ∈ s.store.database.activeRules link, r.Spoils s.ceiling

theorem consult_activeRulesOf (hsound : s.store.IsSound)
    (hlink : hasPlace link = true) :
    s.consult (Plan.query (.activeRulesOf link)) =
      (.ok (Database.entries (s.store.database.activeRules link)), s) :=
  consult_query hsound
    (hsound.obstacle?_eq_none rfl (by simpa [Query.numbers] using hlink)
      (by simp [Query.texts])) rfl

theorem consult_activeRulesOf_error (hsound : s.store.IsSound)
    (hlink : hasPlace link = false) :
    s.consult (Plan.query (.activeRulesOf link)) =
      (.error (.store .numberTooLarge), s) := by
  have hobstacle : s.store.obstacle? (.activeRulesOf link) =
      some .numberTooLarge := by
    rw [Store.obstacle?, hsound.missing]
    simp [Store.misfit?, Query.numbers, Query.tables, hlink]
  exact consult_query_error hsound rfl hobstacle

/-- What is not in the cache comes from the rows, and goes to the cache. -/
theorem activeRules_of_miss (hsound : s.store.IsSound)
    (hmiss : s.cache.rules? link = .ok none) (h : ¬ s.Spoiled link) :
    s.activeRules link = (.ok (s.store.database.activeEntries link),
      { s with
        cache := s.cache.keepRules link
          (s.store.database.activeEntries link) }) := by
  rw [Spoiled, not_or, Bool.not_eq_false] at h
  obtain ⟨hlink, hrules⟩ := h
  have hpassed : ∀ r ∈ s.store.database.activeRules link,
      ¬ ∃ faults, r.checked = .failed faults :=
    fun r hr hfailed => hrules ⟨r, hr, .inl hfailed⟩
  have hshort : ¬ (s.store.database.activeEntries link).any
      (·.isTooTall s.ceiling) = true := by
    rw [Database.activeEntries, List.any_map, List.any_eq_true]
    rintro ⟨r, hr, htall⟩
    exact hrules ⟨r, hr, .inr htall⟩
  rw [activeRules, hmiss, consult_activeRulesOf hsound hlink,
    Database.entries_passed hpassed]
  exact if_neg hshort

theorem activeRules_of_spoiled (hsound : s.store.IsSound)
    (hmiss : s.cache.rules? link = .ok none) (h : s.Spoiled link) :
    ∃ f, s.activeRules link = (.error f, s) := by
  rw [activeRules, hmiss]
  cases hlink : hasPlace link with
  | false =>
      rw [consult_activeRulesOf_error hsound hlink]
      exact ⟨_, rfl⟩
  | true =>
      rw [consult_activeRulesOf hsound hlink]
      by_cases hfailed : ∃ r ∈ s.store.database.activeRules link,
          ∃ faults, r.checked = .failed faults
      · obtain ⟨faults, hf⟩ := Database.entries_failed hfailed
        rw [hf]
        exact ⟨_, rfl⟩
      · rw [Database.entries_passed fun r hr hf => hfailed ⟨r, hr, hf⟩]
        obtain hl | ⟨r, hr, hf | htall⟩ := h
        · rw [hlink] at hl
          cases hl
        · exact absurd ⟨r, hr, hf⟩ hfailed
        · have hany : ((s.store.database.activeRules link).map
              Rule.entry).any (·.isTooTall s.ceiling) = true := by
            rw [List.any_map, List.any_eq_true]
            exact ⟨r, hr, htall⟩
          exact ⟨_, if_pos hany⟩

/-- A visitor of whom nothing is known. -/
def stranger : Visitor :=
  ⟨fun _ => .absent, some (.universal ⟨0⟩), .text Visitor.defaultZone, .recorded⟩

/-- Conditions that hold of every visitor but those from one country. -/
def elsewhere : Json :=
  .obj [("operator", .str "AND"), ("conditions", .arr
    [.obj [("type", .str "country"), ("operator", .str "not_equals"),
      ("value", .str "DE")]])]

end Service

end Signpost
