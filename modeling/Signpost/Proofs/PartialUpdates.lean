import Mathlib
import Signpost.Proofs.CountsBeside
import Signpost.Proofs.StoredRoundTrip

/-!
# Updates change what they name

A payload tells three things of a field: a value, null, or nothing. For a rule
null is nothing, and a value is what the field holds from then on. For a link's
flag it is the same, while its fallback is cleared by null. Fields that are not
named, other rules and other links stay as they are.

This is so although the row was read before it is written. What is written are
the fields that were named, so matches that others add to the count of the row
in between are there afterwards.

Conditions are written out as a text. They hold what is read of it, which are
the conditions that were given unless a text of theirs holds the two halves of
a surrogate pair side by side.
-/

namespace Signpost

/-! ## Rows that take a payload -/

namespace Given

variable {α : Type}

/-- A field that only a value changes. -/
def Sets (given : Given α) (before after : α) : Prop :=
  match given with
  | value a => after = a
  | null | unset => after = before

/-- A field that null clears. -/
def Replaces (given : Given α) (before after : Option α) : Prop :=
  match given with
  | value a => after = some a
  | null => after = none
  | unset => after = before

theorem sets_getD (given : Given α) (before : α) :
    given.Sets before (given.toOption.getD before) := by
  cases given <;> rfl

theorem replaces_ite (given : Given α) (before : Option α) :
    given.Replaces before (if given.isSet then given.toOption else before) := by
  cases given <;> rfl

end Given

/-- A rule after changes: fields that were given a value hold it, the moment of
the last change is set, and nothing else is different. -/
structure Rule.Takes (changes : RuleChanges) (now : Clock) (r r' : Rule) :
    Prop where
  name : changes.name.Sets r.name r'.name
  targetUrl : changes.targetUrl.Sets r.targetUrl r'.targetUrl
  priority : changes.priority.Sets r.priority r'.priority
  isActive : changes.isActive.Sets r.isActive r'.isActive
  conditions : match changes.conditions with
    | .value c => Json.read c.toStorage.print = .ok r'.conditions ∧
        (c.IsJoined →
          StoredConditions.load r'.conditions = .ok (.ofChecked c))
    | .null | .unset => r'.conditions = r.conditions
  updatedAt : r'.updatedAt = now
  others : r' = { r with
    name := r'.name
    targetUrl := r'.targetUrl
    priority := r'.priority
    isActive := r'.isActive
    conditions := r'.conditions
    updatedAt := r'.updatedAt }

/-- A link after settings. -/
structure Link.Takes (settings : LinkSettings) (l l' : Link) : Prop where
  flag : settings.isSmartRouting.Sets l.isSmartRouting l'.isSmartRouting
  fallback : settings.defaultUrl.Replaces l.defaultUrl l'.defaultUrl
  others : l' = { l with
    isSmartRouting := l'.isSmartRouting
    defaultUrl := l'.defaultUrl }

namespace Manage

/-- A change to a row by a payload. -/
inductive Update
  | rule (link rule : Int) (changes : RuleChanges)
  | settings (link : Int) (given : LinkSettings)

namespace Update

/-- The payload passed its check. For settings that makes no difference. -/
def IsChecked : Update → Prop
  | rule _ _ changes =>
    ∃ source path j, RuleChanges.check source path j = .passed changes
  | settings .. => True

/-- The row is there. -/
def Finds (d : Database) : Update → Prop
  | rule link id _ => ∃ r, d.rule? id = some r ∧ r.linkId = link
  | settings link _ => ∃ l, d.link? link = some l

/-- The row takes the payload, and no other rule and no other link is
different. -/
def Changes (now : Clock) (d d' : Database) : Update → Prop
  | rule _ id changes =>
    List.Forall₂ (fun r r' => if r.id = id then r.Takes changes now r' else r' = r)
      d.rules d'.rules ∧ d'.links = d.links
  | settings link given =>
    List.Forall₂ (fun l l' => if l.id = link then l.Takes given l' else l' = l)
      d.links d'.links ∧ d'.rules = d.rules

def plan (c : Caller) : Update → Plan Unit
  | rule link id changes => (fun _ => ()) <$> updateRule link id c changes
  | settings link given => (fun _ => ()) <$> updateSettings link c given

end Update

end Manage

/-- Changes a row by a payload. -/
def Service.update (s : Service) (c : Manage.Caller) :
    Manage.Update → Outcome Unit
  | .rule link id changes => (s.updateRule link id c changes).map fun _ => ()
  | .settings link settings =>
    (s.updateSettings link c settings).map fun _ => ()

/-! ## Edits that are such changes -/

theorem Rule.takes_withChanges {changes : RuleChanges} {source : Check.Source}
    {path : List Check.Step} {j : Json}
    (h : RuleChanges.check source path j = .passed changes) (now : Clock)
    (r : Rule) : r.Takes changes now (r.withChanges changes now) where
  name := changes.name.sets_getD r.name
  targetUrl := changes.targetUrl.sets_getD r.targetUrl
  priority := changes.priority.sets_getD r.priority
  isActive := changes.isActive.sets_getD r.isActive
  conditions := by
    rw [withChanges]
    cases hc : changes.conditions with
    | value c =>
        obtain ⟨path, j, hcheck⟩ := RuleChanges.conditions_of_check h hc
        refine ⟨Conditions.read_toStorage hcheck, fun hjoined => ?_⟩
        have hload := Conditions.load_settled hcheck
        rwa [Conditions.settled_of_isJoined hjoined] at hload
    | null => rfl
    | unset => rfl
  updatedAt := rfl
  others := rfl

theorem Link.takes_withSettings (settings : LinkSettings) (l : Link) :
    l.Takes settings (l.withSettings settings) where
  flag := settings.isSmartRouting.sets_getD l.isSmartRouting
  fallback := settings.defaultUrl.replaces_ite l.defaultUrl
  others := rfl

theorem forall₂_map_ite {α : Type} {P : α → α → Prop} {is : α → Prop}
    [DecidablePred is] {f : α → α} (h : ∀ a, P a (f a)) (as : List α) :
    List.Forall₂ (fun a b => if is a then P a b else b = a) as
      (as.map fun a => if is a then f a else a) := by
  rw [List.forall₂_map_right_iff, List.forall₂_same]
  intro a _
  by_cases ha : is a
  · rw [if_pos ha, if_pos ha]
    exact h a
  · rw [if_neg ha, if_neg ha]

namespace Manage

/-- The edits of the rows that an update comes down to. -/
def Update.linkEdit : Update → Clock → Link → Link
  | rule .., _, l => l
  | settings link given, _, l =>
    if l.id = link then l.withSettings given else l

def Update.ruleEdit : Update → Clock → Rule → Rule
  | rule _ id changes, now, r => if r.id = id then r.withChanges changes now else r
  | settings .., _, r => r

variable {u : Update} {c : Caller} {now : Clock} {d d' : Database}

theorem Update.changes_of_edits (h : u.IsChecked)
    (hedits : d.Edits d' (u.linkEdit now) (u.ruleEdit now)) :
    u.Changes now d d' := by
  obtain ⟨hlinks, hrules⟩ := hedits
  cases u with
  | rule link id changes =>
      obtain ⟨source, path, j, h⟩ := h
      refine ⟨?_, hlinks.trans (List.map_id' _)⟩
      rw [hrules]
      exact forall₂_map_ite (Rule.takes_withChanges h now) d.rules
  | settings link given =>
      refine ⟨?_, hrules.trans (List.map_id' _)⟩
      rw [hlinks]
      exact forall₂_map_ite (Link.takes_withSettings given) d.links

theorem leads_of_map {α β : Type} {f : α → β} {p : Plan α} {b : β}
    {log : List Asked} (hleads : (f <$> p).Leads log (.done b)) :
    ∃ a, p.Leads log (.done a) := by
  have hbound : (p >>= fun a => .done (f a)).Leads log (.done b) := hleads
  obtain ⟨a, first, rest, rfl, hfirst, hrest⟩ := Plan.Leads.of_bind p hbound
  cases hrest
  rw [List.append_nil]
  exact ⟨a, hfirst⟩

theorem updateRule_log {link rule : Int} {changes : RuleChanges}
    {log : List Asked} {x : Link × Rule}
    (hleads : (updateRule link rule c changes).Leads log (.done x)) :
    ∃ (l : Link) (old r : Rule) (n₁ n₂ n₃ : Clock) (note : List Asked),
      log = [⟨n₁, .ownedLink link c.requester, some l⟩,
        ⟨n₂, .ruleOfLink rule l.id, some old⟩,
        ⟨n₃, .updateRule old.id changes, r⟩] ++ note ∧ IsRecord note := by
  obtain ⟨l, _, _, rfl, hl, h₁⟩ := Plan.Leads.of_bind _ hleads
  obtain ⟨n₁, rfl⟩ := ownedLink_log hl
  obtain ⟨old, _, _, rfl, hold, h₂⟩ := Plan.Leads.of_bind _ h₁
  obtain ⟨n₂, rfl⟩ := ruleOf_log hold
  obtain ⟨r, _, note, rfl, hr, h₃⟩ := Plan.Leads.of_bind _ h₂
  obtain ⟨n₃, rfl⟩ := hr.of_query (by simp)
  exact ⟨l, old, r, n₁, n₂, n₃, note, rfl, record_then_log h₃⟩

theorem updateSettings_log {link : Int} {given : LinkSettings}
    {log : List Asked} {x : Link}
    (hleads : (updateSettings link c given).Leads log (.done x)) :
    ∃ (old l : Link) (n₁ n₂ : Clock) (note : List Asked),
      log = [⟨n₁, .ownedLink link c.requester, some old⟩,
        ⟨n₂, .updateLink old.id given, l⟩] ++ note ∧ IsRecord note := by
  obtain ⟨old, _, _, rfl, hold, h₁⟩ := Plan.Leads.of_bind _ hleads
  obtain ⟨n₁, rfl⟩ := ownedLink_log hold
  obtain ⟨l, _, note, rfl, hl, h₂⟩ := Plan.Leads.of_bind _ h₁
  obtain ⟨n₂, rfl⟩ := hl.of_query (by simp)
  exact ⟨old, l, n₁, n₂, note, rfl, record_then_log h₂⟩

theorem IsRecord.counts {log : List Asked} (h : IsRecord log) :
    log.flatMap (·.counts) = [] := by
  rcases h with rfl | ⟨now, note, rfl⟩ <;> rfl

theorem Update.ignoresCount (u : Update) (now : Clock) :
    Rule.IgnoresCount (u.ruleEdit now) := by
  cases u with
  | settings => exact ⟨fun _ => rfl, fun _ _ => rfl⟩
  | rule link id changes =>
      constructor
      · intro r
        rw [ruleEdit]
        split <;> rfl
      · intro r n
        have hid : (r.addMatches n).id = r.id := rfl
        rw [ruleEdit, ruleEdit, hid]
        split <;> rfl

/-- The log of an update comes down to its edit. -/
theorem Update.editsRows (u : Update) (c : Caller) :
    (u.plan c).EditsRows u.linkEdit u.ruleEdit where
  ignoresCount := u.ignoresCount
  edits := by
    intro log a hleads hhonest
    cases u with
    | rule link id changes =>
        obtain ⟨x, hleads⟩ := leads_of_map hleads
        obtain ⟨l, old, r, n₁, n₂, n₃, note, rfl, hnote⟩ := updateRule_log hleads
        have hid : old.id = id :=
          (hhonest ⟨n₂, .ruleOfLink id l.id, some old⟩ (by simp) old rfl).1
        refine ⟨?_, ⟨n₃, .updateRule old.id changes, r⟩, by simp, fun d => ?_⟩
        · rw [List.flatMap_append, hnote.counts]
          rfl
        · obtain ⟨hlinks, hrules⟩ := hnote.effect
            (d.modifyRule old.id fun r => r.withChanges changes n₃)
          rw [List.foldl_append]
          refine ⟨hlinks.trans (List.map_id' _).symm, hrules.trans ?_⟩
          rw [Database.modifyRule, hid]
          simp only [beq_iff_eq]
          rfl
    | settings link given =>
        obtain ⟨x, hleads⟩ := leads_of_map hleads
        obtain ⟨old, l, n₁, n₂, note, rfl, hnote⟩ := updateSettings_log hleads
        have hid : old.id = link :=
          hhonest ⟨n₁, .ownedLink link c.requester, some old⟩ (by simp) old rfl
        refine ⟨?_, ⟨n₂, .updateLink old.id given, l⟩, by simp, fun d => ?_⟩
        · rw [List.flatMap_append, hnote.counts]
          rfl
        · obtain ⟨hlinks, hrules⟩ := hnote.effect
            (d.modifyLink old.id fun l => l.withSettings given)
          rw [List.foldl_append]
          refine ⟨hlinks.trans ?_, hrules.trans (List.map_id' _).symm⟩
          rw [Database.modifyLink, hid]
          simp only [beq_iff_eq]
          rfl

end Manage

/-! ## Updates by themselves -/

namespace Service

open Manage (Update Caller)

variable {s s' : Service} {c : Caller} {u : Update}

theorem guarded_ok {α : Type} {target : Option String}
    {task : Service → Outcome α} {a : α}
    (h : s.guarded target task = (.ok a, s')) : task s = (.ok a, s') := by
  unfold guarded at h
  split at h
  · split at h
    · exact h
    · cases h
  · exact h

theorem onRule_ok {task : StoreTask} {kind : RuleEvent.Kind} {who : Requester}
    {p : Plan (Link × Rule)} {r : Rule}
    (h : s.onRule task kind who p = (.ok r, s')) :
    ∃ x s₁, s.transact p = (.ok x, s₁) ∧ s'.store = s₁.store := by
  rw [onRule] at h
  split at h
  · cases h
  · next l found s₁ ht =>
      exact ⟨_, s₁, ht, congrArg (·.2.store) h.symm⟩

theorem outcome_map_ok {α β : Type} {f : α → β} {o : Outcome α} {b : β}
    (h : o.map f = (.ok b, s')) : ∃ a, o = (.ok a, s') := by
  obtain ⟨result, after⟩ := o
  cases result with
  | error e => cases h
  | ok a => exact ⟨a, by cases h; rfl⟩

/-- An update that succeeds is a transaction of its plan that was committed. -/
theorem transact_of_update (h : s.update c u = (.ok (), s')) :
    ∃ s₁, s.transact (u.plan c) = (.ok (), s₁) ∧ s'.store = s₁.store := by
  cases u with
  | rule link id changes =>
      obtain ⟨r, h⟩ := outcome_map_ok h
      obtain ⟨x, s₁, ht, hstore⟩ := onRule_ok (guarded_ok h)
      exact ⟨s₁, by rw [Update.plan, transact_map, ht]; rfl, hstore⟩
  | settings link given =>
      obtain ⟨l, h⟩ := outcome_map_ok h
      have h := guarded_ok h
      split at h
      · cases h
      · next found s₁ ht =>
          refine ⟨s₁, by rw [Update.plan, transact_map, ht]; rfl, ?_⟩
          exact congrArg (·.2.store) h.symm

/-- An update that succeeds ran to its end and left its rows. -/
theorem run_of_update (hs : s.store.IsCandid)
    (h : s.update c u = (.ok (), s')) :
    ∃ after, (u.plan c).run s.now s.store = (.ok (), after) ∧
      s'.store.database = after.database := by
  obtain ⟨s₁, ht, hstore⟩ := transact_of_update h
  rw [transact] at ht
  cases hp : (u.plan c).transact s.now s.store with
  | mk result store =>
      rw [hp] at ht
      cases ht
      obtain ⟨-, hcases⟩ := Plan.transact_of_candid hs hp
      rcases hcases with ⟨_, after, -, hrun, hd⟩ | ⟨f, hf, -⟩
      · exact ⟨after, hrun, by rw [hstore]; exact hd⟩
      · cases hf

/-- An update that succeeds found its row and edited it. -/
theorem edits_of_update (hs : s.store.IsCandid)
    (h : s.update c u = (.ok (), s')) :
    u.Finds s.store.database ∧ s.store.database.Edits s'.store.database
      (u.linkEdit s.now) (u.ruleEdit s.now) := by
  obtain ⟨after, hrun, hd⟩ := run_of_update hs h
  cases u with
  | rule link id changes =>
      obtain ⟨⟨l, r⟩, hrun, -⟩ := Manage.Task.run_map_ok hrun
      obtain ⟨old, hlink, -, hold, hof, -, hrules, hlinks, -⟩ :=
        Manage.updateRule_ok hs hrun
      refine ⟨⟨old, hold, hof.trans (Database.link?_id hlink)⟩, ?_, ?_⟩
      · rw [hd, hlinks]
        exact (List.map_id' _).symm
      · rw [hd, hrules, Database.modifyRule, Database.rule?_id hold]
        simp only [beq_iff_eq]
        rfl
  | settings link given =>
      obtain ⟨l, hrun, -⟩ := Manage.Task.run_map_ok hrun
      obtain ⟨old, hlink, -, -, hrules, hlinks, -⟩ :=
        Manage.updateSettings_ok hs hrun
      refine ⟨⟨old, hlink⟩, ?_, ?_⟩
      · rw [hd, hlinks, Database.modifyLink, Database.link?_id hlink]
        simp only [beq_iff_eq]
        rfl
      · rw [hd, hrules]
        exact (List.map_id' _).symm

end Service

/-- An update that succeeds found its row, and changes what it names and
nothing else. And beside any number of transactions that write counts, before,
while and after it runs, an update that is committed does so to the rows with
all the matches that were written, at the moment of one of its queries. -/
theorem Manage.Update.changes_named (u : Update) (h : u.IsChecked)
    (c : Caller) :
    (∀ s s' : Service, s.store.IsCandid → s.update c u = (.ok (), s') →
      u.Finds s.store.database ∧
        u.Changes s.now s.store.database s'.store.database) ∧
    ∀ (t : Transactions Unit) (i : Nat), t.Flanks i (u.plan c) →
      ∀ (before after : List Transactions.Move) (x : Transaction Unit),
        (t.run before).transaction? i = some x → x.isDone = true →
        let moves := before ++ .commit i :: after
        ∃ now, .ask i now ∈ before ∧
          u.Changes now (t.committed.addMatches (t.written moves))
            (t.run moves).committed := by
  constructor
  · intro s s' hs hupdate
    obtain ⟨hfinds, hedits⟩ := Service.edits_of_update hs hupdate
    exact ⟨hfinds, changes_of_edits h hedits⟩
  · intro t i ht before after x hx hdone moves
    obtain ⟨now, hnow, hedits⟩ := ht.edits_of_committed (u.editsRows c) hx hdone
    exact ⟨now, hnow, changes_of_edits h hedits⟩

namespace Manage

open Transactions (Move)

theorem isSound_withRule : Service.withRule.store.IsSound :=
  ⟨by decide +kernel, by decide +kernel, by decide +kernel⟩

/-- Gives the rule a name, and says null of its priority. -/
def newName : Update :=
  .rule 1 1 ⟨.value "renamed", .unset, .null, .unset, .unset⟩

/-- The new name, and two matches of the rule that are to be written. -/
def newNameBeside : Transactions Unit :=
  ⟨Service.withRule.store.database,
    [some (.begin (newName.plan Service.owner)),
      some (.begin (Plan.query (.addMatches [(1, 2)])))]⟩

/-- The matches are committed after the rule was read and before the new
name is committed. -/
def countedBetween : List Move :=
  [.ask 0 ⟨0⟩, .ask 0 ⟨0⟩, .ask 1 ⟨0⟩, .commit 1, .ask 0 ⟨5⟩, .ask 0 ⟨5⟩]

/-- The rule has its new name and the two matches. -/
theorem changes_named_newName :
    (∃ s', Service.withRule.update Service.owner newName = (.ok (), s') ∧
      newName.Changes ⟨0⟩ Service.withRule.store.database s'.store.database) ∧
    (∃ now, newName.Changes now
      (newNameBeside.committed.addMatches
        (newNameBeside.written (countedBetween ++ [.commit 0])))
      (newNameBeside.run (countedBetween ++ [.commit 0])).committed) ∧
    (newNameBeside.run (countedBetween ++ [.commit 0])).committed.rules.map
      (fun r => (r.name, r.matchCount)) = [("renamed", 2)] := by
  have hchecked : newName.IsChecked :=
    ⟨.document, [], .obj [("name", .str "renamed"), ("priority", .null)], rfl⟩
  obtain ⟨halone, hbeside⟩ := newName.changes_named hchecked Service.owner
  have hok : (Service.withRule.update Service.owner newName).1 = .ok () := by
    rfl
  have hflanks : newNameBeside.Flanks 0 (newName.plan Service.owner) := by
    constructor
    · rintro t ⟨⟩
      rfl
    · intro j t hj ht
      match j, hj, ht with
      | 1, _, ht => cases ht; exact ⟨_, rfl⟩
  have hready : ((newNameBeside.run countedBetween).transaction? 0).any
      (·.isDone) = true := by decide +kernel
  obtain ⟨x, hx, hdone⟩ := (Option.any_eq_true _ _).mp hready
  obtain ⟨now, -, hchanges⟩ := hbeside newNameBeside 0 hflanks countedBetween []
    x hx hdone
  refine ⟨⟨_, Prod.ext hok rfl, ?_⟩, ⟨now, hchanges⟩, by decide +kernel⟩
  exact (halone Service.withRule _ isSound_withRule.isCandid (Prod.ext hok rfl)).2

/-- A city that is named by the two halves of a surrogate pair. -/
def splitCity : Conditions :=
  ⟨.all, [.onAttribute .city .equals
    (.one (String.ofList [Text.scalar 0xD83D, Text.scalar 0xDE00]))]⟩

def newConditions : Update :=
  .rule 1 1 ⟨.unset, .unset, .unset, .unset, .value splitCity⟩

/-- The update succeeds, and the rule does not have the conditions. -/
theorem conditions_of_newConditions :
    newConditions.IsChecked ∧
    (Service.withRule.update Service.owner newConditions).1 = .ok () ∧
    ∃ r, (Service.withRule.update Service.owner
        newConditions).2.store.database.rules = [r] ∧
      StoredConditions.load r.conditions ≠ .ok (.ofChecked splitCity) := by
  have hcheck : Conditions.check .document [] splitCity.toJson =
      .passed splitCity := by rfl
  refine ⟨⟨.document, [], .obj [("conditions", splitCity.toJson)], rfl⟩, rfl, _, rfl, ?_⟩
  show StoredConditions.load splitCity.toStorage.settled ≠ _
  rw [Conditions.load_settled hcheck]
  intro hsame
  have hitems := (StoredConditions.mk.inj (Except.ok.inj hsame)).2
  have hchanged : splitCity.settled.items = splitCity.items :=
    List.map_injective_iff.mpr (fun _ _ h => StoredCondition.checked.inj h) hitems
  revert hchanged
  decide +kernel

end Manage

end Signpost
