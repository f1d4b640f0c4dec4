import Mathlib
import Signpost.Proofs.RuleLimit
import Signpost.Proofs.Transactions

/-!
# Rules added and deleted side by side

Adding a rule asks whether there is room, and then adds; deleting one deletes,
asks whether a rule is left, and clears the flag if none is. Each acts on an
answer, and between the answer and the commit other transactions may commit.
Nothing keeps them from it: the limit and the flag are looked after by each
transaction for itself, on the rows that it saw.

How far that goes is said here exactly. A commit leaves a balanced link
balanced if and only if what the transaction was told still holds when it
commits: there is still room, the flag that it found set is still set, a rule
is still left, or still none is. So over any interleaving the link is balanced
throughout if and only if every commit is timely. Two rules added at once to a
link with room for one are more than it may have, and a rule added while the
last one is deleted stands behind a flag that is cleared.
-/

namespace Signpost

/-! ## What a log tells of -/

namespace Asked

/-- There is room for a rule, it was said. -/
def saysRoom : Asked → Bool
  | ⟨_, .hasRoom .., answer⟩ => answer
  | _ => false

def raisesFlag : Asked → Bool
  | ⟨_, .setFlag _ on, _⟩ => on
  | _ => false

/-- Whether a rule is left, it was said. -/
def recount? : Asked → Option Bool
  | ⟨_, .hasRules _, answer⟩ => some answer
  | _ => none

end Asked

namespace Transaction

variable {α : Type}

/-- The transaction came to its end and can be committed. -/
def isDone (t : Transaction α) : Bool :=
  match t.plan with
  | .done _ => true
  | _ => false

/-- What the transaction was told of a link, and goes by, holds of the rows that
it is committed to. -/
structure IsTimely (most link : Int) (t : Transaction α) (d : Database) :
    Prop where
  room : t.log.any (·.saysRoom) = true → (d.rulesOf link).length < most
  flag : t.log.any (·.saysRoom) = true → t.log.any (·.raisesFlag) = true ∨
    ∃ l, d.link? link = some l ∧ l.isSmartRouting = true
  someLeft : t.log.findSome? (·.recount?) = some true →
    (t.view d).rulesOf link ≠ [] ∨ d.rulesOf link = []
  noneLeft : t.log.findSome? (·.recount?) = some false →
    (t.view d).rulesOf link = []

end Transaction

namespace Manage

/-- A plan that adds a rule to a link or deletes one of its rules. -/
inductive AddsOrDeletes (most link : Int) : Plan (Link × Rule) → Prop
  | adds (now : Clock) (c : Caller) (d : RuleDraft) :
      AddsOrDeletes most link (createRule most now link c d)
  | deletes (rule : Int) (c : Caller) :
      AddsOrDeletes most link (deleteRule link rule c)

variable {most link rule : Int} {now : Clock} {c : Caller} {d : RuleDraft}
  {log : List Asked} {x : Link × Rule}

/-- An entry that may be in the log, or not. -/
def IsRecord (log : List Asked) : Prop :=
  log = [] ∨ ∃ now note, log = [⟨now, .recordAudit note, ()⟩]

/-- A flag is set on the way, or that is passed over. -/
def IsFlagging (skip on : Bool) (id : Int) (log : List Asked) : Prop :=
  skip = true ∧ log = [] ∨
    skip = false ∧ ∃ now, log = [⟨now, .setFlag id on, ()⟩]

theorem ownedLink_log {who : Requester} {l : Link}
    (hleads : (ownedLink link who).Leads log (.done l)) :
    ∃ now, log = [⟨now, .ownedLink link who, some l⟩] := by
  obtain ⟨now, found, rest, rfl, hrest⟩ := Plan.Leads.of_ask (by simp) hleads
  cases found with
  | none => cases show Plan.Leads (.stop _) rest (.done l) from hrest
  | some l' =>
      cases show Plan.Leads (.done l') rest (.done l) from hrest
      exact ⟨now, rfl⟩

theorem ruleOf_log {r : Rule}
    (hleads : (ruleOf link rule).Leads log (.done r)) :
    ∃ now, log = [⟨now, .ruleOfLink rule link, some r⟩] := by
  obtain ⟨now, found, rest, rfl, hrest⟩ := Plan.Leads.of_ask (by simp) hleads
  cases found with
  | none => cases show Plan.Leads (.stop _) rest (.done r) from hrest
  | some r' =>
      cases show Plan.Leads (.done r') rest (.done r) from hrest
      exact ⟨now, rfl⟩

theorem setFlag_unless_log {skip on : Bool} {id : Int}
    {next : Unit → Plan (Link × Rule)}
    (hleads : Plan.Leads (if skip = true then next ()
      else Plan.query (.setFlag id on) >>= next) log (.done x)) :
    ∃ flag rest, log = flag ++ rest ∧ (next ()).Leads rest (.done x) ∧
      IsFlagging skip on id flag := by
  cases skip with
  | true => exact ⟨[], log, rfl, hleads, .inl ⟨rfl, rfl⟩⟩
  | false =>
      obtain ⟨_, _, rest, rfl, hfirst, hrest⟩ := Plan.Leads.of_bind _ hleads
      obtain ⟨now, rfl⟩ := hfirst.of_query (by simp)
      exact ⟨_, rest, rfl, hrest, .inr ⟨rfl, now, rfl⟩⟩

theorem record_then_log {β : Type} {b b' : β} {action : Audit.Action}
    {id : Int} {before after : List (String × Json)}
    (hleads : Plan.Leads (do record c action id before after; pure b) log
      (.done b')) : IsRecord log := by
  obtain ⟨_, first, rest, rfl, hfirst, hrest⟩ := Plan.Leads.of_bind _ hleads
  cases show Plan.Leads (.done b) rest (.done b') from hrest
  rw [List.append_nil]
  rcases Plan.Leads.of_record hfirst with rfl | ⟨now, rfl⟩
  · exact .inl rfl
  · exact .inr ⟨now, _, rfl⟩

theorem createRule_log
    (hleads : (createRule most now link c d).Leads log (.done x)) :
    ∃ (l : Link) (row : Rule) (n₁ n₂ n₃ : Clock) (flag note : List Asked),
      log = [⟨n₁, .ownedLink link c.requester, some l⟩,
        ⟨n₂, .hasRoom l.id most, true⟩] ++
        (flag ++ ⟨n₃, .addRule (.ofDraft l.id now d), row⟩ :: note) ∧
      IsFlagging l.isSmartRouting true l.id flag ∧ IsRecord note := by
  obtain ⟨l, _, _, rfl, hl, h₁⟩ := Plan.Leads.of_bind _ hleads
  obtain ⟨n₁, rfl⟩ := ownedLink_log hl
  obtain ⟨hasRoom, _, rest, rfl, hroom, h₂⟩ := Plan.Leads.of_bind _ h₁
  obtain ⟨n₂, rfl⟩ := hroom.of_query (by simp)
  split at h₂
  · cases show Plan.Leads (.stop _) rest (.done x) from h₂
  · next hyes =>
      obtain rfl : hasRoom = true := by simpa using hyes
      obtain ⟨flag, _, rfl, h₃, hflag⟩ := setFlag_unless_log h₂
      obtain ⟨row, _, note, rfl, hrow, h₄⟩ := Plan.Leads.of_bind _ h₃
      obtain ⟨n₃, rfl⟩ := hrow.of_query (by simp)
      exact ⟨l, row, n₁, n₂, n₃, flag, note, rfl, hflag, record_then_log h₄⟩

theorem deleteRule_log
    (hleads : (deleteRule link rule c).Leads log (.done x)) :
    ∃ (l : Link) (r : Rule) (told : Bool) (n₁ n₂ n₃ n₄ : Clock)
      (flag note : List Asked),
      log = [⟨n₁, .ownedLink link c.requester, some l⟩,
        ⟨n₂, .ruleOfLink rule l.id, some r⟩, ⟨n₃, .deleteRule r.id, ()⟩,
        ⟨n₄, .hasRules l.id, told⟩] ++ (flag ++ note) ∧
      IsFlagging told false l.id flag ∧ IsRecord note := by
  obtain ⟨l, _, _, rfl, hl, h₁⟩ := Plan.Leads.of_bind _ hleads
  obtain ⟨n₁, rfl⟩ := ownedLink_log hl
  obtain ⟨r, _, _, rfl, hr, h₂⟩ := Plan.Leads.of_bind _ h₁
  obtain ⟨n₂, rfl⟩ := ruleOf_log hr
  obtain ⟨_, _, _, rfl, hdelete, h₃⟩ := Plan.Leads.of_bind _ h₂
  obtain ⟨n₃, rfl⟩ := hdelete.of_query (by simp)
  obtain ⟨told, _, _, rfl, htold, h₄⟩ := Plan.Leads.of_bind _ h₃
  obtain ⟨n₄, rfl⟩ := htold.of_query (by simp)
  obtain ⟨flag, note, rfl, h₅, hflag⟩ := setFlag_unless_log h₄
  exact ⟨l, r, told, n₁, n₂, n₃, n₄, flag, note, rfl, hflag,
    record_then_log h₅⟩

/-- What is recorded is neither a link nor a rule. -/
theorem IsRecord.effect (h : IsRecord log) (d : Database) :
    (log.foldl Asked.effect d).links = d.links ∧
      (log.foldl Asked.effect d).rules = d.rules := by
  rcases h with rfl | ⟨now, note, rfl⟩ <;> exact ⟨rfl, rfl⟩

theorem IsRecord.tells (h : IsRecord log) :
    log.any (·.saysRoom) = false ∧ log.any (·.raisesFlag) = false ∧
      log.findSome? (·.recount?) = none := by
  rcases h with rfl | ⟨now, note, rfl⟩ <;> exact ⟨rfl, rfl, rfl⟩

theorem IsFlagging.rules {skip on : Bool} (h : IsFlagging skip on link log)
    (d : Database) : (log.foldl Asked.effect d).rules = d.rules := by
  rcases h with ⟨-, rfl⟩ | ⟨-, now, rfl⟩ <;> rfl

theorem IsFlagging.link?_effect {skip on : Bool} (h : IsFlagging skip on link log)
    {d : Database} {l : Link} (hl : d.link? link = some l) :
    (log.foldl Asked.effect d).link? link =
      some { l with isSmartRouting := if skip then l.isSmartRouting else on } := by
  rcases h with ⟨rfl, rfl⟩ | ⟨rfl, now, rfl⟩
  · exact hl
  · have hset : (d.modifyLink link fun l =>
        { l with isSmartRouting := on }).link? link = (d.link? link).map fun l =>
          if link = link then { l with isSmartRouting := on } else l :=
      Database.link?_modifyLink rfl fun _ => rfl
    rw [hl, Option.map_some, if_pos rfl] at hset
    exact hset

theorem IsFlagging.tells {skip on : Bool} (h : IsFlagging skip on link log) :
    log.any (·.saysRoom) = false ∧ log.any (·.raisesFlag) = (!skip && on) ∧
      log.findSome? (·.recount?) = none := by
  rcases h with ⟨rfl, rfl⟩ | ⟨rfl, now, rfl⟩
  · exact ⟨rfl, rfl, rfl⟩
  · exact ⟨rfl, Bool.or_false on, rfl⟩

end Manage

/-! ## One commit -/

namespace Transaction

open Manage

variable {most link : Int} {t : Transaction (Link × Rule)} {d : Database}

theorem found_id {now : Clock} {who : Requester} {found : Link}
    {rest : List Asked} (hhonest : ∀ a ∈ t.log, a.IsHonest)
    (hlog : t.log = ⟨now, .ownedLink link who, some found⟩ :: rest) :
    found.id = link := by
  refine hhonest ⟨now, .ownedLink link who, some found⟩ ?_ found rfl
  rw [hlog]
  exact List.mem_cons_self

/-- A transaction that added a rule was told that there is room, and the link
has the flag set if it was set or the transaction set it. -/
theorem view_of_created {now : Clock} {c : Caller} {draft : RuleDraft}
    {x : Link × Rule} {l : Link}
    (hleads : (createRule most now link c draft).Leads t.log (.done x))
    (hhonest : ∀ a ∈ t.log, a.IsHonest) (hl : d.link? link = some l) :
    t.log.any (·.saysRoom) = true ∧ t.log.findSome? (·.recount?) = none ∧
      (∃ row, (t.view d).rulesOf link = d.rulesOf link ++ [row]) ∧
      (t.view d).link? link = some { l with
        isSmartRouting := (t.log.any (·.raisesFlag) || l.isSmartRouting) } := by
  obtain ⟨found, row, n₁, n₂, n₃, flag, note, hlog, hflag, hnote⟩ :=
    createRule_log hleads
  have hfound : found.id = link := found_id hhonest hlog
  have hrow : row.linkId = link := by
    rw [← hfound]
    refine hhonest ⟨n₃, .addRule (.ofDraft found.id now draft), row⟩ ?_
    rw [hlog]
    simp
  rw [hfound] at hlog hflag
  refine ⟨by rw [hlog]; rfl, ?_, ⟨row, ?_⟩, ?_⟩
  · rw [hlog, List.findSome?_append, List.findSome?_append, hflag.tells.2.2]
    exact hnote.tells.2.2
  · have hrules : (t.view d).rules = d.rules ++ [row] := by
      rw [view, hlog, List.foldl_append, List.foldl_append, List.foldl_cons,
        (hnote.effect _).2, Asked.effect, hflag.rules]
      rfl
    rw [Database.rulesOf_append hrules, if_pos hrow]
  · have hraises : t.log.any (·.raisesFlag) = !found.isSmartRouting := by
      rw [hlog, List.any_append, List.any_append, hflag.tells.2.1]
      show (!found.isSmartRouting && true || note.any (·.raisesFlag)) = _
      rw [hnote.tells.2.1, Bool.or_false, Bool.and_true]
    have hlink : (t.view d).link? link = some { l with isSmartRouting :=
        if found.isSmartRouting then l.isSmartRouting else true } := by
      rw [Database.link?, view, hlog, List.foldl_append, List.foldl_append,
        List.foldl_cons, (hnote.effect _).1]
      exact hflag.link?_effect hl
    rw [hlink, hraises]
    cases found.isSmartRouting <;> rfl

/-- A transaction that deleted a rule was told whether a rule is left, and
cleared the flag if none is. -/
theorem view_of_deleted {rule : Int} {c : Caller} {x : Link × Rule} {l : Link}
    (hleads : (deleteRule link rule c).Leads t.log (.done x))
    (hhonest : ∀ a ∈ t.log, a.IsHonest) (hl : d.link? link = some l) :
    t.log.any (·.saysRoom) = false ∧
      ((t.view d).rulesOf link).Sublist (d.rulesOf link) ∧
      ∃ told, t.log.findSome? (·.recount?) = some told ∧
        (t.view d).link? link = some { l with
          isSmartRouting := (told && l.isSmartRouting) } := by
  obtain ⟨found, r, told, n₁, n₂, n₃, n₄, flag, note, hlog, hflag, hnote⟩ :=
    deleteRule_log hleads
  have hfound : found.id = link := found_id hhonest hlog
  rw [hfound] at hlog hflag
  refine ⟨?_, ?_, told, by rw [hlog]; rfl, ?_⟩
  · rw [hlog, List.any_append, List.any_append, hflag.tells.1, hnote.tells.1]
    rfl
  · have hrules : (t.view d).rules = d.rules.filter (·.id != r.id) := by
      rw [view, hlog, List.foldl_append, List.foldl_append, (hnote.effect _).2,
        hflag.rules]
      rfl
    rw [Database.rulesOf, hrules, Database.rulesOf]
    exact List.filter_sublist.filter _
  · have hlink : (t.view d).link? link = some { l with isSmartRouting :=
        if told then l.isSmartRouting else false } := by
      rw [Database.link?, view, hlog, List.foldl_append, List.foldl_append,
        (hnote.effect _).1]
      exact hflag.link?_effect hl
    rw [hlink]
    cases told <;> rfl

/-- A new rule leaves the link balanced if there still is room for it, and the
flag is set. -/
theorem isBalanced_view_of_created {now : Clock} {c : Caller} {draft : RuleDraft}
    {x : Link × Rule}
    (hleads : (createRule most now link c draft).Leads t.log (.done x))
    (hhonest : ∀ a ∈ t.log, a.IsHonest) (hd : d.IsBalanced most link) :
    (t.view d).IsBalanced most link ↔ t.IsTimely most link d := by
  obtain ⟨l, hl, -, -⟩ := hd
  obtain ⟨hroom, hrecount, ⟨row, hrules⟩, hlink⟩ :=
    view_of_created hleads hhonest hl
  have hsome : d.rulesOf link ++ [row] ≠ [] := by simp
  constructor
  · rintro ⟨l', hl', hset, hmost⟩
    obtain rfl := Option.some.inj (hl'.symm.trans hlink)
    rw [hrules] at hset hmost
    refine ⟨fun _ => ?_, fun _ => ?_, fun h => ?_, fun h => ?_⟩
    · rw [List.length_append, List.length_singleton] at hmost
      omega
    · have hset := Bool.or_eq_true_iff.mp (hset.mpr hsome)
      exact hset.imp id fun hset => ⟨l, hl, hset⟩
    · rw [hrecount] at h
      cases h
    · rw [hrecount] at h
      cases h
  · intro ht
    refine ⟨_, hlink, ?_, ?_⟩
    · rw [hrules]
      refine iff_of_true (Bool.or_eq_true_iff.mpr ?_) hsome
      refine (ht.flag hroom).imp id fun ⟨l', hl', hset⟩ => ?_
      obtain rfl := Option.some.inj (hl'.symm.trans hl)
      exact hset
    · have hlength := ht.room hroom
      rw [hrules, List.length_append, List.length_singleton]
      omega

/-- A rule that goes leaves the link balanced if what was told of the rules
that are left still holds. -/
theorem isBalanced_view_of_deleted {rule : Int} {c : Caller} {x : Link × Rule}
    (hleads : (deleteRule link rule c).Leads t.log (.done x))
    (hhonest : ∀ a ∈ t.log, a.IsHonest) (hd : d.IsBalanced most link) :
    (t.view d).IsBalanced most link ↔ t.IsTimely most link d := by
  obtain ⟨l, hl, hset, hmost⟩ := hd
  obtain ⟨hroom, hsub, told, hrecount, hlink⟩ :=
    view_of_deleted hleads hhonest hl
  have hlength := hsub.length_le
  have hleft : (t.view d).rulesOf link ≠ [] → d.rulesOf link ≠ [] := by
    intro hne hnil
    rw [hnil] at hsub
    exact hne (List.sublist_nil.mp hsub)
  constructor
  · rintro ⟨l', hl', hset', -⟩
    obtain rfl := Option.some.inj (hl'.symm.trans hlink)
    refine ⟨fun h => ?_, fun h => ?_, fun h => ?_, fun h => ?_⟩
    · rw [hroom] at h
      cases h
    · rw [hroom] at h
      cases h
    · obtain rfl := Option.some.inj (hrecount.symm.trans h)
      by_cases hold : d.rulesOf link = []
      · exact .inr hold
      · exact .inl (hset'.mp (hset.mpr hold))
    · obtain rfl := Option.some.inj (hrecount.symm.trans h)
      by_contra hne
      cases hset'.mpr hne
  · intro ht
    refine ⟨_, hlink, ?_, by omega⟩
    cases told with
    | true =>
        refine hset.trans ⟨fun hold => ?_, hleft⟩
        exact (ht.someLeft hrecount).resolve_right hold
    | false =>
        rw [ht.noneLeft hrecount]
        exact iff_of_false Bool.false_ne_true (fun hne => hne rfl)

/-- A commit leaves a balanced link balanced exactly when it is timely. -/
theorem isBalanced_view_iff {p : Plan (Link × Rule)}
    (hp : AddsOrDeletes most link p) {x : Link × Rule}
    (hleads : p.Leads t.log (.done x)) (hhonest : ∀ a ∈ t.log, a.IsHonest)
    (hd : d.IsBalanced most link) :
    (t.view d).IsBalanced most link ↔ t.IsTimely most link d := by
  cases hp with
  | adds now c draft => exact isBalanced_view_of_created hleads hhonest hd
  | deletes rule c => exact isBalanced_view_of_deleted hleads hhonest hd

end Transaction

/-! ## Any interleaving -/

namespace Transactions

open Manage

variable {most link : Int} {c : Transactions (Link × Rule)}

/-- Over any interleaving of transactions that add rules to a link and delete
them, the link stays balanced exactly when every commit is timely. -/
theorem isBalanced_run_iff
    (hbegun : ∀ t ∈ c.running,
      ∃ p, AddsOrDeletes most link p ∧ t = some (.begin p))
    (hd : c.committed.IsBalanced most link) (moves : List Move) :
    (∀ before, before <+: moves →
      (c.run before).committed.IsBalanced most link) ↔
    ∀ before i, before ++ [.commit i] <+: moves →
      ∀ t, (c.run before).transaction? i = some t → t.isDone = true →
        t.IsTimely most link (c.run before).committed := by
  have hfrom : c.From (AddsOrDeletes most link) := by
    intro i t ht
    obtain ⟨p, hp, heq⟩ := hbegun (some t)
      (List.mem_of_getElem? (Option.join_eq_some_iff.mp ht))
    cases heq
    exact ⟨⟨p, hp, .refl p⟩, fun a ha => nomatch ha⟩
  constructor
  · intro hall before i hbefore t ht hdone
    obtain ⟨⟨p, hp, hleads⟩, hhonest⟩ := hfrom.run before i t ht
    obtain ⟨plan, log⟩ := t
    cases plan with
    | done x =>
        have hafter := hall _ hbefore
        rw [run_concat, step, ht] at hafter
        have hheld := hall before ((List.prefix_append _ _).trans hbefore)
        exact (Transaction.isBalanced_view_iff hp hleads hhonest hheld).mp hafter
    | stop | ask => cases hdone
  · intro htimely before
    induction before using List.reverseRecOn with
    | nil => exact fun _ => hd
    | append_singleton before m ih =>
        intro hbefore
        have hheld := ih ((List.prefix_append _ _).trans hbefore)
        rw [run_concat]
        rcases committed_step (c.run before) m with hsame | ⟨i, x, log, rfl, ht, hnew⟩
        · rw [hsame]
          exact hheld
        · obtain ⟨⟨p, hp, hleads⟩, hhonest⟩ := hfrom.run before i _ ht
          rw [hnew]
          refine (Transaction.isBalanced_view_iff hp hleads hhonest hheld).mpr ?_
          exact htimely before i hbefore _ ht rfl

/-- A rule that is being added by the owner of a link. -/
def adding (most : Int) : Option (Transaction (Link × Rule)) :=
  some (.begin (createRule most ⟨0⟩ 1 Service.owner Service.elsewhereDraft))

/-- Two rules are added at once to a link that may have one. -/
def twoAdded : Transactions (Link × Rule) :=
  ⟨Service.withLink.store.database, [adding 1, adding 1]⟩

/-- Both look for room before either adds its rule. -/
def bothLookFirst : List Move :=
  [.ask 0 ⟨0⟩, .ask 0 ⟨0⟩, .ask 1 ⟨0⟩, .ask 1 ⟨0⟩,
    .ask 0 ⟨0⟩, .ask 0 ⟨0⟩, .ask 0 ⟨0⟩, .commit 0,
    .ask 1 ⟨0⟩, .ask 1 ⟨0⟩, .ask 1 ⟨0⟩, .commit 1]

/-- A rule is added while the only one is deleted. -/
def addedAndDeleted : Transactions (Link × Rule) :=
  ⟨(Service.withLink.createRule 50 1 Service.owner
      Service.elsewhereDraft).2.store.database,
    [adding 50, some (.begin (deleteRule 1 1 Service.owner))]⟩

/-- The one finds the flag set, and the other clears it. -/
def clearedBetween : List Move :=
  [.ask 0 ⟨0⟩, .ask 0 ⟨0⟩,
    .ask 1 ⟨0⟩, .ask 1 ⟨0⟩, .ask 1 ⟨0⟩, .ask 1 ⟨0⟩, .ask 1 ⟨0⟩, .ask 1 ⟨0⟩,
    .commit 1, .ask 0 ⟨0⟩, .ask 0 ⟨0⟩, .commit 0]

/-- Two rules stand where one may, and a rule stands behind a cleared flag. -/
theorem isBalanced_lost :
    (twoAdded.committed.IsBalanced 1 1 ∧
      (twoAdded.run bothLookFirst).allEnded = true ∧
      ((twoAdded.run bothLookFirst).committed.rulesOf 1).length = 2 ∧
      ¬ (twoAdded.run bothLookFirst).committed.IsBalanced 1 1) ∧
    addedAndDeleted.committed.IsBalanced 50 1 ∧
      (addedAndDeleted.run clearedBetween).allEnded = true ∧
      ((addedAndDeleted.run clearedBetween).committed.rulesOf 1).length = 1 ∧
      ¬ (addedAndDeleted.run clearedBetween).committed.IsBalanced 50 1 := by
  decide +kernel

/-- Of two rules that are added at once, one is not committed in time. -/
theorem isTimely_lost :
    (∀ t ∈ twoAdded.running,
      ∃ p, AddsOrDeletes 1 1 p ∧ t = some (.begin p)) ∧
    twoAdded.committed.IsBalanced 1 1 ∧
    ¬ ∀ before i, before ++ [.commit i] <+: bothLookFirst →
      ∀ t, (twoAdded.run before).transaction? i = some t → t.isDone = true →
        t.IsTimely 1 1 (twoAdded.run before).committed := by
  have hbegun : ∀ t ∈ twoAdded.running,
      ∃ p, AddsOrDeletes 1 1 p ∧ t = some (.begin p) := by
    intro t ht
    refine ⟨_, .adds ⟨0⟩ Service.owner Service.elsewhereDraft, ?_⟩
    simpa [twoAdded, adding] using ht
  have hd : twoAdded.committed.IsBalanced 1 1 := by decide +kernel
  refine ⟨hbegun, hd, fun htimely => ?_⟩
  have hheld := (isBalanced_run_iff hbegun hd bothLookFirst).mpr htimely
    bothLookFirst (List.prefix_refl _)
  have hlost : ¬ (twoAdded.run bothLookFirst).committed.IsBalanced 1 1 := by
    decide +kernel
  exact hlost hheld

end Transactions

end Signpost
