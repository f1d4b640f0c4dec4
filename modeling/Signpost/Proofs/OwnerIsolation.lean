import Mathlib
import Signpost.Proofs.Credits
import Signpost.Proofs.Requests
import Signpost.Proofs.RuleLimit
import Signpost.Proofs.WellFormedRows

/-!
# Users are kept apart

Whatever a user asks, and however often, the links of everybody else, their
rules and what the cache holds of them stay as they are. And the user learns
nothing of them: a request about somebody else's link is answered as if the
link and its rules were not there.

Both come from the order of things. Every request looks for its link first,
among the links of the user; a link of somebody else ends it there, and from
then on rules are looked for among the rules of the link that was found. What
is changed is then a row of that link, and the keys that are cleared belong to
its number and its slug.

A rule that does not belong to the user's link is not found, whoever has it.
Only a number that has no place in the store is not looked for at all, and
fails as the store fails with such numbers.
-/

namespace Signpost

/-! ## Rows of others -/

/-- Numbers and slugs stand for one row each. -/
structure Database.IsKeyed (d : Database) : Prop where
  links : (d.links.map (·.id)).Nodup
  slugs : (d.links.map (·.slug)).Nodup
  rules : (d.rules.map (·.id)).Nodup

def Cache.under (c : Cache) (key : String) :
    List (String × Cache.Raw × Option Int) :=
  c.entries.filter (·.1 == key)

theorem Cache.under_delete {key : String} {keys : List String}
    (h : key ∉ keys) (c : Cache) : (c.delete keys).under key = c.under key := by
  rw [delete]
  split
  · rw [under, under, List.filter_filter]
    refine List.filter_congr fun e _ => ?_
    by_cases he : e.1 = key
    · simp [he, h]
    · simp [he]
  · rfl

/-- The keys under which the cache holds what it knows of a link. -/
def Link.keys (l : Link) : List String :=
  [Cache.rulesKey (toString l.id), Cache.slugKey l.slug]

theorem Link.not_mem_keys {l x : Link} (hid : x.id ≠ l.id)
    (hslug : x.slug ≠ l.slug) {key : String} (hkey : key ∈ x.keys) :
    key ∉ l.keys := by
  rw [keys, List.mem_pair, not_or]
  rcases List.mem_pair.mp hkey with rfl | rfl
  · exact ⟨fun h => hid (Cache.rulesKey_inj.mp h),
      fun h => Cache.slugKey_ne_rulesKey _ _ h.symm⟩
  · exact ⟨Cache.slugKey_ne_rulesKey _ _,
      fun h => hslug (Cache.slugKey_inj.mp h)⟩

namespace Database

variable {d d' : Database} {user link : Int}

/-- The rows of everybody else are as before: the links that are not the
user's, and the rules of each of these. -/
structure KeepsOthers (user : Int) (d d' : Database) : Prop where
  links : d'.links.filter (·.userId != user) = d.links.filter (·.userId != user)
  rules : ∀ l ∈ d.links, l.userId ≠ user → d'.rulesOf l.id = d.rulesOf l.id

theorem KeepsOthers.mem (h : KeepsOthers user d d') {l : Link}
    (hl : l ∈ d.links) (huser : l.userId ≠ user) : l ∈ d'.links := by
  have hmem : l ∈ d.links.filter (·.userId != user) :=
    List.mem_filter.mpr ⟨hl, by simpa using huser⟩
  rw [← h.links] at hmem
  exact (List.mem_filter.mp hmem).1

theorem KeepsOthers.trans {d'' : Database} (h : KeepsOthers user d d')
    (h' : KeepsOthers user d' d'') : KeepsOthers user d d'' where
  links := h'.links.trans h.links
  rules := fun l hl huser =>
    (h'.rules l (h.mem hl huser) huser).trans (h.rules l hl huser)

theorem IsKeyed.filter_modifyLink (h : d.IsKeyed) {l : Link} (hl : l ∈ d.links)
    (huser : l.userId = user) {f : Link → Link}
    (hf : ∀ x, (f x).userId = x.userId) :
    (d.modifyLink l.id f).links.filter (·.userId != user) =
      d.links.filter (·.userId != user) := by
  refine filter_modify fun x hx hid => ?_
  have hsame : x = l :=
    List.inj_on_of_nodup_map h.links hx hl (by simpa using hid)
  rw [hsame, hf, huser]
  simp

/-- A link of the user has another number and another slug than a link of
somebody else. -/
theorem IsKeyed.ne_of_owners (h : d.IsKeyed) {l x : Link} (hl : l ∈ d.links)
    (hx : x ∈ d.links) (huser : l.userId = user) (hother : x.userId ≠ user) :
    x.id ≠ l.id ∧ x.slug ≠ l.slug := by
  have hne : x ≠ l := fun heq => hother (heq ▸ huser)
  exact ⟨fun hid => hne (List.inj_on_of_nodup_map h.links hx hl hid),
    fun hslug => hne (List.inj_on_of_nodup_map h.slugs hx hl hslug)⟩

end Database

namespace Manage.Task

variable {most : Int} {now : Clock} {c : Caller} {t : Task} {d d' : Database}
  {l : Link} {user : Int}

theorem Alters.isKeyed (h : t.Alters most now d d' l) (hd : d.IsKeyed) :
    d'.IsKeyed := by
  obtain ⟨f, hf, hlinks⟩ := h.links
  have hkept : ∀ {κ : Type} (key : Link → κ), (∀ x, key (f x) = key x) →
      d'.links.map key = d.links.map key := by
    intro κ key hkey
    rw [hlinks, List.map_map]
    exact List.map_congr_left fun x _ => hkey x
  refine ⟨?_, ?_, h.nodup hd.rules⟩
  · rw [hkept _ fun x => (hf x).1]
    exact hd.links
  · rw [hkept _ fun x => (hf x).2]
    exact hd.slugs

theorem Alters.keepsOthers (h : t.Alters most now d d' l) (hd : d.IsKeyed)
    (hl : l ∈ d.links) (huser : l.userId = user) :
    Database.KeepsOthers user d d' := by
  have hids : ∀ x ∈ d.links, x.userId ≠ user → l.id ≠ x.id :=
    fun x hx hother => (hd.ne_of_owners hl hx huser hother).1.symm
  induction h with
  | created hroom hrules hlinks =>
      constructor
      · rw [hlinks]
        split
        · rfl
        · exact hd.filter_modifyLink hl huser fun _ => rfl
      · intro x hx hother
        generalize hr : Rule.ofNew _ now _ = r at hrules
        have hof : r.linkId = l.id := by rw [← hr]; rfl
        rw [Database.rulesOf_append hrules, hof, if_neg (hids x hx hother),
          List.append_nil]
  | drafted _ _ _ ih => exact ih
  | updated hold hof hrules hlinks =>
      constructor
      · rw [hlinks]
      · intro x hx hother
        rw [Database.rulesOf, hrules]
        exact Rule.filter_modify_of_nodup hd.rules (Database.mem_of_rule? hold)
          (hof ▸ hids x hx hother) fun _ => rfl
  | deleted hr hof hrules hlinks =>
      constructor
      · rw [hlinks]
        split
        · exact hd.filter_modifyLink hl huser fun _ => rfl
        · rfl
      · intro x hx hother
        rw [Database.rulesOf, hrules]
        exact Rule.filter_of_nodup hd.rules (Database.mem_of_rule? hr)
          (hof ▸ hids x hx hother)
  | settled hrules hlinks =>
      constructor
      · rw [hlinks]
        exact hd.filter_modifyLink hl huser fun _ => rfl
      · intro x hx hother
        rw [Database.rulesOf, hrules]
        rfl

end Manage.Task

/-! ## Plans that only read -/

namespace Plan

variable {α β : Type} {now : Clock} {s : Store}

/-- No query of the plan changes a row. -/
def OnlyReads : Plan α → Prop
  | done _ => True
  | stop _ => True
  | ask q next =>
    (∀ d now answer d', Database.run d now q = .ok (answer, d') → d' = d) ∧
      ∀ answer, (next answer).OnlyReads

theorem OnlyReads.bind {p : Plan α} {next : α → Plan β} (hp : p.OnlyReads)
    (hnext : ∀ a, (next a).OnlyReads) : (p >>= next).OnlyReads := by
  induction p with
  | done a => exact hnext a
  | stop f => trivial
  | ask q more ih => exact ⟨hp.1, fun answer => ih answer (hp.2 answer)⟩

theorem run_bind_error {p : Plan α} {f : Failure}
    (h : (p.run now s).1 = .error f) (next : α → Plan β) :
    ((p >>= next).run now s).1 = .error f := by
  rw [run_bind]
  cases hrun : p.run now s with
  | mk result s₁ =>
      rw [hrun] at h
      obtain rfl : result = .error f := h
      rfl

theorem run_onlyReads {p : Plan α} (hp : p.OnlyReads) : ∀ {s : Store},
    s.IsCandid → (p.run now s).2.database = s.database := by
  induction p with
  | done a => exact fun _ => rfl
  | stop f => exact fun _ => rfl
  | ask q next ih =>
      intro s hs
      rw [run]
      split
      · next answer s₁ hask =>
          obtain ⟨hc, hrun, -⟩ := hs.ask_ok hask
          rw [ih answer (hp.2 answer) hc, hp.1 _ _ _ _ hrun]
      · next f s₁ hask =>
          obtain ⟨hc, hd⟩ := hs.ask_error hask
          split
          · next answer _ => rw [ih answer (hp.2 answer) hc, hd]
          · exact hd

end Plan

namespace Manage

theorem ownedLink_onlyReads (link : Int) (who : Requester) :
    (ownedLink link who).OnlyReads := by
  refine ⟨fun d now answer d' h => (Prod.mk.inj (Except.ok.inj h)).2.symm, ?_⟩
  intro answer
  cases answer <;> trivial

theorem rules_onlyReads (link : Int) (who : Requester) :
    (rules link who).OnlyReads := by
  refine (ownedLink_onlyReads link who).bind fun l => ?_
  exact ⟨fun d now answer d' h => (Prod.mk.inj (Except.ok.inj h)).2.symm,
    fun _ => trivial⟩

theorem rule_onlyReads (link rule : Int) (who : Requester) :
    (Manage.rule link rule who).OnlyReads := by
  refine (ownedLink_onlyReads link who).bind fun l => ?_
  refine ⟨fun d now answer d' h => (Prod.mk.inj (Except.ok.inj h)).2.symm, ?_⟩
  intro answer
  cases answer <;> trivial

end Manage

/-! ## What a request leaves alone -/

namespace Service

open Manage (Task Caller Request Answer)

variable {s s' : Service} {most : Int} {c : Caller} {t : Task} {user : Int}

/-- The links that are not the user's, their rules, and what the cache holds of
them, are as before. -/
structure KeepsOthers (user : Int) (s s' : Service) : Prop where
  rows : Database.KeepsOthers user s.store.database s'.store.database
  cache : ∀ l ∈ s.store.database.links, l.userId ≠ user →
    ∀ key ∈ l.keys, s'.cache.under key = s.cache.under key

theorem keepsOthers_of_same (hd : s'.store.database = s.store.database)
    (hcache : s'.cache = s.cache) : s.KeepsOthers user s' where
  rows := by
    rw [hd]
    exact ⟨rfl, fun _ _ _ => rfl⟩
  cache := by
    rw [hcache]
    exact fun _ _ _ _ _ => rfl

theorem KeepsOthers.trans {s'' : Service} (h : s.KeepsOthers user s')
    (h' : s'.KeepsOthers user s'') : s.KeepsOthers user s'' where
  rows := h.rows.trans h'.rows
  cache := fun l hl hother key hkey =>
    (h'.cache l (h.rows.mem hl hother) hother key hkey).trans
      (h.cache l hl hother key hkey)

theorem commitTask_cache (s : Service) (most : Int) (c : Caller) (t : Task) :
    (s.commitTask most c t).2.cache = s.cache := by
  rw [commitTask]
  cases t.plan? most s.now c <;> rfl

theorem cache_finish {x : Option (Link × Option RuleEvent) × Service}
    {told : Link × Option RuleEvent} (h : x.1 = some told) :
    (finish x).cache = x.2.cache.delete told.1.keys := by
  obtain ⟨told?, s⟩ := x
  cases h
  rfl

theorem cache_finish_none {x : Option (Link × Option RuleEvent) × Service}
    (h : x.1 = none) : (finish x).cache = x.2.cache := by
  obtain ⟨told?, s⟩ := x
  cases h
  rfl

/-- A task of a user leaves everybody else's links alone. -/
theorem keepsOthers_after (hs : s.store.IsCandid)
    (hd : s.store.database.IsKeyed) (hrole : c.requester.role = .user) :
    s.KeepsOthers c.requester.userId (s.after most c t) := by
  obtain ⟨-, ⟨told, l, htold, hcommits, hid, hslug⟩ | ⟨hnone, hsame⟩⟩ :=
    @commitTask_cases s most c t hs
  · -- What was committed is about a link that the user may manage, and a user
    -- may manage none but the own ones.
    have hl := Database.mem_of_link? hcommits.found
    have huser : l.userId = c.requester.userId := by
      have howner := hcommits.owner
      rw [Requester.mayManage, hrole] at howner
      simpa using howner
    have hkeys : told.1.keys = l.keys := by
      rw [Link.keys, Link.keys, hid, hslug]
    constructor
    · rw [after_eq, finish_store]
      exact hcommits.rows.keepsOthers hd hl huser
    · intro x hx hother key hkey
      obtain ⟨hidne, hslugne⟩ := hd.ne_of_owners hl hx huser hother
      rw [after_eq, cache_finish htold, hkeys, commitTask_cache]
      exact Cache.under_delete (Link.not_mem_keys hidne hslugne hkey) _
  · refine keepsOthers_of_same ?_ ?_
    · rw [after_eq, finish_store, hsame]
    · rw [after_eq, cache_finish_none hnone, commitTask_cache]

theorem isKeyed_after (hs : s.store.IsCandid)
    (hd : s.store.database.IsKeyed) :
    (s.after most c t).store.database.IsKeyed := by
  obtain ⟨-, ⟨l, hcommits⟩ | hsame⟩ := @after_cases s most c t hs
  · exact hcommits.rows.isKeyed hd
  · rw [hsame]
    exact hd

theorem consult_onlyReads {α : Type} {p : Plan α} (hp : p.OnlyReads)
    (hs : s.store.IsCandid) :
    (s.consult p).2.store.IsCandid ∧
      (s.consult p).2.store.database = s.store.database ∧
      (s.consult p).2.cache = s.cache :=
  ⟨Plan.run_candid p hs, Plan.run_onlyReads hp hs, rfl⟩

theorem listRules_snd (s : Service) (link : Int) (who : Requester) :
    (s.listRules link who).2 = (s.consult (Manage.rules link who)).2 := by
  rw [listRules]
  cases s.consult (Manage.rules link who) with
  | mk result s₁ => cases result <;> rfl

theorem findRule_snd (s : Service) (link rule : Int) (who : Requester) :
    (s.findRule link rule who).2 =
      (s.consult (Manage.rule link rule who)).2 := by
  rw [findRule]
  cases s.consult (Manage.rule link rule who) with
  | mk result s₁ => cases result <;> rfl

/-- A request of a user leaves everybody else's links alone, and rows with keys
of their own. -/
theorem keepsOthers_serve (hs : s.store.IsCandid)
    (hd : s.store.database.IsKeyed) (hrole : c.requester.role = .user)
    (r : Request) :
    (s.serve most c r).2.store.IsCandid ∧
      (s.serve most c r).2.store.database.IsKeyed ∧
      s.KeepsOthers c.requester.userId (s.serve most c r).2 := by
  have hread : ∀ {α : Type} {p : Plan α}, p.OnlyReads →
      (s.consult p).2.store.IsCandid ∧
        (s.consult p).2.store.database.IsKeyed ∧
        s.KeepsOthers c.requester.userId (s.consult p).2 := by
    intro α p hp
    obtain ⟨hc, hsame, hcache⟩ := consult_onlyReads hp hs
    exact ⟨hc, hsame ▸ hd, keepsOthers_of_same hsame hcache⟩
  cases r with
  | task t =>
      rw [serve, perform_snd]
      exact ⟨(after_cases hs).1, isKeyed_after hs hd,
        keepsOthers_after hs hd hrole⟩
  | listRules link =>
      rw [serve, Outcome.map, listRules_snd]
      exact hread (Manage.rules_onlyReads link c.requester)
  | findRule link rule =>
      rw [serve, Outcome.map, findRule_snd]
      exact hread (Manage.rule_onlyReads link rule c.requester)

/-- Requests of one requester, from anywhere and at any times. -/
inductive Served (most : Int) (who : Requester) (first : Service) :
    Service → Prop
  | start : Served most who first first
  | request {s : Service} (h : Served most who first s)
      (origin : Audit.Origin) (r : Request) :
      Served most who first (s.serve most ⟨who, origin⟩ r).2
  | later {s : Service} (h : Served most who first s) (now : Clock) :
      Served most who first { s with now := now }

theorem Served.keepsOthers {who : Requester} {first : Service}
    (h : Served most who first s) (hs : first.store.IsCandid)
    (hd : first.store.database.IsKeyed) (hrole : who.role = .user) :
    s.store.IsCandid ∧ s.store.database.IsKeyed ∧
      first.KeepsOthers who.userId s := by
  induction h with
  | start => exact ⟨hs, hd, keepsOthers_of_same rfl rfl⟩
  | request _ origin r ih =>
      obtain ⟨hc, hkeyed, hkeeps⟩ := ih
      obtain ⟨hc', hkeyed', hkeeps'⟩ :=
        @keepsOthers_serve _ most ⟨who, origin⟩ hc hkeyed hrole r
      exact ⟨hc', hkeyed', hkeeps.trans hkeeps'⟩
  | later _ now ih =>
      obtain ⟨hc, hkeyed, hkeeps⟩ := ih
      exact ⟨hc, hkeyed, hkeeps.rows, hkeeps.cache⟩

end Service

/-! ## Links that are not shown -/

namespace Store

variable {s : Store} {now : Clock}

theorem passAll_withDatabase (points : List StorePoint) (d : Database) :
    ∀ s : Store, { s with database := d }.passAll points =
      ((s.passAll points).1,
        { (s.passAll points).2 with database := d }) := by
  induction points with
  | nil => exact fun s => rfl
  | cons point rest ih =>
      intro s
      rw [passAll, passAll]
      have hpass : { s with database := d }.pass point =
          ((s.pass point).1, { (s.pass point).2 with database := d }) := rfl
      rw [hpass]
      cases s.pass point with
      | mk passage s₁ =>
          cases passage with
          | proceeds => exact ih s₁
          | fails kind => rfl
          | isAnswered reply => rfl

theorem passAll_database (points : List StorePoint) (s : Store) :
    (s.passAll points).2.database = s.database := by
  have hsame := passAll_withDatabase points s.database s
  exact congrArg (fun x => x.2.database) hsame

/-- The user may not manage the link with a number, or there is none. -/
def Hides (d : Database) (link : Int) (who : Requester) : Prop :=
  (d.link? link).filter (fun l => who.mayManage l.userId) = none

theorem askRows_hidden {who : Requester} {link : Int}
    (h : Hides s.database link who) :
    (s.askRows now (.ownedLink link who)).1 =
      match s.obstacle? (.ownedLink link who) with
      | some f => .error f
      | none => .ok none := by
  rw [askRows]
  cases s.obstacle? (.ownedLink link who) with
  | some f => rfl
  | none =>
      rw [Hides] at h
      dsimp only
      rw [Database.run, h]

/-- Somebody else's link is answered as one that is not there. -/
theorem ask_hidden {who : Requester} {link : Int} {d : Database}
    (h : Hides s.database link who) (hd : Hides d link who) :
    (s.ask now (.ownedLink link who)).1 =
        ({ s with database := d }.ask now (.ownedLink link who)).1 ∧
      ∀ l, (s.ask now (.ownedLink link who)).1 ≠ .ok (some l) := by
  have hdatabase := passAll_database (Query.ownedLink link who).points s
  -- What stands in the way of the rows is the same for both databases.
  rw [ask, ask, passAll_withDatabase _ d s]
  cases hp : s.passAll (Query.ownedLink link who).points with
  | mk stopped s₁ =>
      rw [hp] at hdatabase
      have hrows : (s₁.askRows now (.ownedLink link who)).1 =
            ({ s₁ with database := d }.askRows now (.ownedLink link who)).1 ∧
          ∀ l, (s₁.askRows now (.ownedLink link who)).1 ≠ .ok (some l) := by
        have hs₁ : Hides s₁.database link who := by
          rw [show s₁.database = s.database from hdatabase]
          exact h
        rw [askRows_hidden hs₁, @askRows_hidden { s₁ with database := d } _ _ _
          hd]
        refine ⟨rfl, fun l => ?_⟩
        split <;> simp
      cases stopped with
      | none => exact hrows
      | some stop =>
          obtain ⟨point, passage⟩ := stop
          cases passage with
          | proceeds => exact hrows
          | fails kind => exact ⟨rfl, fun l h => by cases h⟩
          | isAnswered reply =>
              dsimp only
              cases reply <;> exact ⟨rfl, fun l h => by cases h⟩

end Store

namespace Service

open Manage (Task Caller Request Answer)

variable {s s' : Service} {most : Int} {c : Caller} {link : Int}
  {who : Requester} {f : Failure}

theorem eq_of_fst {α : Type} {o : Outcome α} (h : o.1 = .error f) :
    o = (.error f, o.2) :=
  Prod.ext h rfl

/-- A plan fails, as a transaction as well as when it only reads. -/
structure Fails {α : Type} (s : Service) (p : Plan α) (f : Failure) : Prop where
  transact : (s.transact p).1 = .error f
  consult : (s.consult p).1 = .error f

theorem fails_of_run {α : Type} {p : Plan α}
    (h : (p.run s.now s.store).1 = .error f) : s.Fails p f where
  transact := by
    rw [Service.transact, Plan.transact,
      show p.run s.now s.store = (.error f, _) from Prod.ext h rfl]
  consult := h

theorem Fails.onRule {p : Plan (Link × Rule)} (h : s.Fails p f)
    (task : StoreTask) (kind : RuleEvent.Kind) (who : Requester) :
    (s.onRule task kind who p).1 = .error (f.during task) := by
  rw [Service.onRule, eq_of_fst h.transact]

theorem Fails.deleteRule {rule : Int}
    (h : s.Fails (Manage.deleteRule link rule c) f) :
    (s.deleteRule link rule c).1 = .error (f.during .deleteRule) := by
  rw [Service.deleteRule, eq_of_fst h.transact]

theorem Fails.listRules (h : s.Fails (Manage.rules link who) f) :
    (s.listRules link who).1 = .error f := by
  rw [Service.listRules, eq_of_fst h.consult]

theorem Fails.findRule {rule : Int}
    (h : s.Fails (Manage.rule link rule who) f) :
    (s.findRule link rule who).1 = .error f := by
  rw [Service.findRule, eq_of_fst h.consult]

theorem guarded_fst {α : Type} (s : Service) (target : Option String)
    (task : Service → Outcome α) :
    (s.guarded target task).1 =
      if target.all Net.isSafeUrl then (task s).1
      else .error (.refused .internalTarget) := by
  cases target with
  | none => rfl
  | some url =>
      rw [guarded]
      show (if Net.isSafeUrl url = true then task s else _).1 =
        if Net.isSafeUrl url = true then (task s).1 else _
      split <;> rfl

theorem Fails.updateRule {rule : Int} {changes : RuleChanges}
    (h : s.Fails (Manage.updateRule link rule c changes) f) :
    (s.updateRule link rule c changes).1 =
      if changes.targetUrl.toOption.all Net.isSafeUrl then
        .error (f.during .updateRule)
      else .error (.refused .internalTarget) := by
  rw [Service.updateRule, guarded_fst, h.onRule]

theorem Fails.updateSettings {settings : LinkSettings}
    (h : s.Fails (Manage.updateSettings link c settings) f) :
    (s.updateSettings link c settings).1 =
      if settings.defaultUrl.toOption.all Net.isSafeUrl then
        .error (f.during .updateSettings)
      else .error (.refused .internalTarget) := by
  rw [Service.updateSettings, guarded_fst, eq_of_fst h.transact]

theorem Fails.createRule {d : RuleDraft}
    (h : s.Fails (Manage.createRule most s.now link c d) f) :
    (s.createRule most link c d).1 =
      if Net.isSafeUrl d.targetUrl then .error (f.during .createRule)
      else .error (.refused .internalTarget) := by
  rw [Service.createRule, guarded_fst, h.onRule]
  rfl

/-- A link that is not found fails every request for it, whatever was to be
done to it. -/
def FailsLink (s : Service) (link : Int) (who : Requester) (f : Failure) :
    Prop :=
  ∀ {α : Type} (next : Link → Plan α),
    s.Fails (Manage.ownedLink link who >>= next) f

/-- What a request is told whose link is not found hangs on the request and on
why it is not found. -/
theorem serve_of_failsLink {r : Request}
    (h : s.FailsLink r.link c.requester f)
    (h' : s'.FailsLink r.link c.requester f) :
    (s.serve most c r).1 = (s'.serve most c r).1 := by
  have hcreate : ∀ {link : Int} (d : RuleDraft),
      s.FailsLink link c.requester f → s'.FailsLink link c.requester f →
      (s.createRule most link c d).1 = (s'.createRule most link c d).1 := by
    intro link d h h'
    rw [Fails.createRule (h _), Fails.createRule (h' _)]
  cases r with
  | listRules link =>
      refine congrArg (Except.map _) ?_
      exact (Fails.listRules (h _)).trans (Fails.listRules (h' _)).symm
  | findRule link rule =>
      refine congrArg (Except.map _) ?_
      exact (Fails.findRule (h _)).trans (Fails.findRule (h' _)).symm
  | task t =>
      cases t with
      | createRule link d => exact congrArg (Except.map _) (hcreate d h h')
      | createFromTemplate link use =>
          refine congrArg (Except.map _) ?_
          rw [createFromTemplate, createFromTemplate]
          cases Template.find? use.key with
          | none => rfl
          | some template =>
              dsimp only
              cases template.draft use with
              | failed faults => rfl
              | passed d => exact hcreate d h h'
      | updateRule link rule changes =>
          refine congrArg (Except.map _) ?_
          exact (Fails.updateRule (h _)).trans (Fails.updateRule (h' _)).symm
      | deleteRule link rule =>
          refine congrArg (Except.map _) ?_
          exact (Fails.deleteRule (h _)).trans (Fails.deleteRule (h' _)).symm
      | updateSettings link settings =>
          refine congrArg (Except.map _) ?_
          exact (Fails.updateSettings (h _)).trans (Fails.updateSettings (h' _)).symm

/-- The service as it would be without a link and its rules. -/
def withoutLink (s : Service) (link : Int) : Service :=
  { s with
    store := { s.store with
      database := { s.store.database with
        links := s.store.database.links.filter (·.id != link)
        rules := s.store.database.rules.filter (·.linkId != link) } } }

theorem hides_withoutLink (s : Service) (link : Int) (who : Requester) :
    Store.Hides (s.withoutLink link).store.database link who := by
  have hgone : (s.withoutLink link).store.database.link? link = none :=
    List.find?_eq_none.mpr fun l hl => by
      simpa using (List.mem_filter.mp hl).2
  rw [Store.Hides, hgone]
  rfl

/-- A link of somebody else is not found in the same way as one that is not
there. -/
theorem failsLink_of_hides {d : Database}
    (h : Store.Hides s.store.database link who) (hd : Store.Hides d link who) :
    ∃ f, s.FailsLink link who f ∧
      { s with store := { s.store with database := d } }.FailsLink link who
        f := by
  have hrun : ∀ store : Store, (∀ l, (store.ask s.now
        (.ownedLink link who)).1 ≠ .ok (some l)) →
      ((Manage.ownedLink link who).run s.now store).1 =
        .error (match (store.ask s.now (.ownedLink link who)).1 with
          | .ok _ => .refused (.linkNotFound link)
          | .error f => .store f) := by
    intro store hnone
    rw [Manage.ownedLink, Plan.run]
    cases hask : store.ask s.now (.ownedLink link who) with
    | mk result store₁ =>
        rw [hask] at hnone
        cases result with
        | error f => rfl
        | ok found =>
            cases found with
            | none => rfl
            | some l => exact absurd rfl (hnone l)
  obtain ⟨hsame, hnone⟩ := @Store.ask_hidden s.store s.now _ _ _ h hd
  have hfirst := hrun s.store hnone
  have hsecond := hrun { s.store with database := d } (hsame ▸ hnone)
  rw [← hsame] at hsecond
  exact ⟨_, fun next => fails_of_run (Plan.run_bind_error hfirst next),
    fun next => fails_of_run (Plan.run_bind_error hsecond next)⟩

/-! ## Rules of other links -/

/-- How it is told that a link has no rule with a number: a number that has no
place is not looked for. -/
def missingRule (rule : Int) : Failure :=
  if hasPlace rule then .refused (.ruleNotFound rule)
  else .store .numberTooLarge

theorem missingRule_during (rule : Int) (task : StoreTask) :
    (missingRule rule).during task = missingRule rule := by
  rw [missingRule]
  split <;> rfl

theorem run_ownedLink {l : Link} (hs : s.store.IsSound)
    (hl : s.store.database.link? link = some l)
    (huser : who.mayManage l.userId = true) (hid : hasPlace l.id = true)
    (hwho : hasPlace who.userId = true) :
    (Manage.ownedLink link who).run s.now s.store = (.ok l, s.store) := by
  have hfits : (Query.ownedLink link who).numbers.all hasPlace = true := by
    rw [← Database.link?_id hl]
    cases hrole : who.role <;> simp [Query.numbers, hrole, hid, hwho]
  have hobstacle := hs.obstacle?_eq_none (q := .ownedLink link who) rfl hfits
    (by simp [Query.texts])
  rw [Manage.ownedLink, Plan.run, hs.ask, Store.askRows, hobstacle]
  dsimp only
  rw [Database.run, hl, Option.filter_some, if_pos huser]
  rfl

theorem run_ruleOf {rule : Int} (hs : s.store.IsSound)
    (hlink : hasPlace link = true)
    (hno : ∀ r, s.store.database.rule? rule = some r → r.linkId ≠ link) :
    ((Manage.ruleOf link rule).run s.now s.store).1 =
      .error (missingRule rule) := by
  have hnone : (s.store.database.rule? rule).filter
      (fun r => r.linkId == link) = none :=
    Option.filter_eq_none_iff.mpr fun r hr => by simpa using hno r hr
  rw [Manage.ruleOf, Plan.run, hs.ask, Store.askRows, missingRule]
  cases hplace : hasPlace rule with
  | true =>
      have hobstacle := hs.obstacle?_eq_none (q := .ruleOfLink rule link) rfl
        (by simp [Query.numbers, hplace, hlink]) (by simp [Query.texts])
      rw [hobstacle]
      dsimp only
      rw [Database.run, hnone]
      rfl
  | false =>
      have hobstacle : s.store.obstacle? (.ruleOfLink rule link) =
          some .numberTooLarge := by
        have hplaced : (Query.ruleOfLink rule link).numbers.all hasPlace =
            false := by simp [Query.numbers, hplace]
        rw [Store.obstacle?, hs.missing, hplaced]
        rfl
      rw [hobstacle]
      rfl

/-- A request for a rule that the link does not have is told so. -/
theorem serve_stranger {r : Request} {l : Link} {rule : Int}
    (hs : s.store.IsSound) (hl : s.store.database.link? r.link = some l)
    (huser : c.requester.mayManage l.userId = true)
    (hid : hasPlace l.id = true) (hwho : hasPlace c.requester.userId = true)
    (hchecked : r.IsChecked) (hrule : r.rule? = some rule)
    (hno : ∀ r, s.store.database.rule? rule = some r → r.linkId ≠ l.id) :
    (s.serve most c r).1 = .error (missingRule rule) := by
  have hfails : ∀ {α : Type} (next : Link → Plan α),
      ((next l).run s.now s.store).1 = .error (missingRule rule) →
      s.Fails (Manage.ownedLink r.link c.requester >>= next)
        (missingRule rule) := by
    intro α next hnext
    refine fails_of_run ?_
    rw [Plan.run_bind, run_ownedLink hs hl huser hid hwho]
    exact hnext
  have hruleOf := run_ruleOf hs hid hno
  -- Each request with a rule looks for its link, which is found, and then for
  -- the rule, which is not.
  cases r with
  | listRules link => cases hrule
  | findRule link id =>
      cases hrule
      have hread : s.Fails (Manage.rule link rule c.requester)
        (missingRule rule) := hfails _ hruleOf
      exact congrArg (Except.map Answer.rule) hread.findRule
  | task t =>
      cases t with
      | createRule => cases hrule
      | createFromTemplate => cases hrule
      | updateSettings => cases hrule
      | deleteRule link id =>
          cases hrule
          have hdelete : s.Fails (Manage.deleteRule link rule c)
            (missingRule rule) := hfails _ (Plan.run_bind_error hruleOf _)
          show Except.map _ (s.deleteRule link rule c).1 = _
          rw [hdelete.deleteRule, missingRule_during]
          rfl
      | updateRule link id changes =>
          cases hrule
          have hupdate : s.Fails (Manage.updateRule link rule c changes)
            (missingRule rule) := hfails _ (Plan.run_bind_error hruleOf _)
          obtain ⟨_, _, _, hpassed⟩ := hchecked
          have hproper := RuleChanges.isProper_of_check hpassed
          have hsafe : changes.targetUrl.toOption.all Net.isSafeUrl = true := by
            cases htarget : changes.targetUrl.toOption with
            | none => rfl
            | some url => exact (hproper.target url htarget).safe
          show Except.map _ (s.updateRule link rule c changes).1 = _
          rw [hupdate.updateRule, if_pos hsafe, missingRule_during]
          rfl

/-- Whatever a user asks, everybody else's links, their rules and what the
cache holds of them stay as they are; a request about somebody else's link is
answered as if it were not there; and a rule that does not belong to the user's
own link is told not to be there, unless its number has no place in the
store. -/
theorem serve_isolates {who : Requester} (hrole : who.role = .user)
    (most : Int) :
    (∀ first s : Service, first.store.IsCandid →
      first.store.database.IsKeyed → Served most who first s →
      first.KeepsOthers who.userId s) ∧
    (∀ (s : Service) (origin : Audit.Origin) (r : Request) (l : Link),
      s.store.database.link? r.link = some l → l.userId ≠ who.userId →
      (s.serve most ⟨who, origin⟩ r).1 =
        ((s.withoutLink l.id).serve most ⟨who, origin⟩ r).1) ∧
    ∀ (s : Service) (origin : Audit.Origin) (r : Request) (l : Link)
      (rule : Int), s.store.IsSound →
      s.store.database.link? r.link = some l → l.userId = who.userId →
      hasPlace l.id = true → hasPlace l.userId = true → r.IsChecked →
      r.rule? = some rule →
      (∀ x, s.store.database.rule? rule = some x → x.linkId ≠ l.id) →
      (s.serve most ⟨who, origin⟩ r).1 = .error (missingRule rule) := by
  have hmay : ∀ user, who.mayManage user = true ↔ user = who.userId := by
    intro user
    rw [Requester.mayManage, hrole]
    exact beq_iff_eq
  refine ⟨fun first s hs hd h => ?_, ?_, ?_⟩
  · exact (h.keepsOthers hs hd hrole).2.2
  · intro s origin r l hl hother
    have hhides : Store.Hides s.store.database r.link who := by
      rw [Store.Hides, hl]
      exact Option.filter_eq_none_iff.mpr fun x hx => by
        cases hx
        rwa [hmay]
    obtain ⟨f, hfails, hfails'⟩ :=
      failsLink_of_hides hhides (hides_withoutLink s r.link who)
    rw [Database.link?_id hl]
    exact serve_of_failsLink hfails hfails'
  · intro s origin r l rule hs hl huser hid hwho hchecked hrule hno
    exact serve_stranger hs hl ((hmay _).mpr huser) hid (huser ▸ hwho) hchecked
      hrule hno

/-- The service with a link of one user, and a link with a rule of another. -/
def withNeighbour : Service :=
  { fresh ⟨0⟩ true 3 30 with
    store := { Store.empty with
      database := ⟨[⟨1, "go", "https://a.example.com", 1, none, false, none,
        ⟨0⟩, 0⟩, ⟨2, "stay", "https://b.example.com", 2, none, true, none, ⟨0⟩,
          0⟩], [⟨5, 2, "theirs", "https://c.example.com", 0, true, .null, 0, ⟨0⟩,
            ⟨0⟩⟩], []⟩ } }

/-- The owner of the first link deletes the neighbour's rule by way of either
link, in vain. -/
theorem serve_withNeighbour :
    owner.requester.role = .user ∧ withNeighbour.store.IsSound ∧
    withNeighbour.store.database.IsKeyed ∧
    withNeighbour.KeepsOthers 1
      (withNeighbour.serve 50 owner (.task (.createRule 1 elsewhereDraft))).2 ∧
    (withNeighbour.serve 50 owner (.task (.deleteRule 2 5))).1 =
      ((withNeighbour.withoutLink 2).serve 50 owner
        (.task (.deleteRule 2 5))).1 ∧
    (withNeighbour.serve 50 owner (.task (.deleteRule 1 5))).1 =
      .error (.refused (.ruleNotFound 5)) := by
  obtain ⟨hkeeps, hhidden, hmissing⟩ :=
    @serve_isolates owner.requester rfl 50
  have hsound : withNeighbour.store.IsSound := ⟨rfl, rfl, rfl⟩
  have hkeyed : withNeighbour.store.database.IsKeyed :=
    ⟨by decide, by decide, by decide⟩
  refine ⟨rfl, hsound, hkeyed, ?_, ?_, ?_⟩
  · exact hkeeps _ _ hsound.isCandid hkeyed
      (.request .start ⟨none, none⟩ (.task (.createRule 1 elsewhereDraft)))
  · exact hhidden withNeighbour ⟨none, none⟩ (.task (.deleteRule 2 5)) _ rfl
      (by decide)
  · refine hmissing withNeighbour ⟨none, none⟩ (.task (.deleteRule 1 5)) _ 5
      hsound rfl rfl (by decide) (by decide) trivial rfl fun x hx => ?_
    cases hx
    decide

/-- A rule is not told not to be there whose number has no place. -/
theorem findRule_beyondLimit :
    withNeighbour.store.database.rule? 9223372036854775808 = none ∧
    (withNeighbour.serve 50 owner (.findRule 1 9223372036854775808)).1 ≠
      .error (.refused (.ruleNotFound 9223372036854775808)) := by
  have htold : (withNeighbour.serve 50 owner
      (.findRule 1 9223372036854775808)).1 =
        .error (.store .numberTooLarge) := rfl
  rw [htold]
  exact ⟨rfl, nofun⟩

end Service

end Signpost
