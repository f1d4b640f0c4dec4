import Mathlib
import Signpost.Proofs.CacheTransparency
import Signpost.Proofs.ManagementRuns

/-!
# The flag and the number of rules

A link that started without rules has smart routing switched on exactly as
long as it has a rule, and never more rules than it may have. The flag and the
rules stand in two tables, and three tasks keep them in step: a new rule sets
the flag unless it is set, a rule that goes leads to a recount and clears the
flag with the last one, and neither settings that leave the flag alone nor
changes to a rule touch the one or the other. The limit is looked at in the
transaction that adds the rule. What a task does to another link concerns
neither, as long as no two rules have one number: rules are found by their
numbers, and a rule of another link is not one of these.
-/

namespace Signpost

/-- A link has its flag set exactly when it has a rule, and has no more rules
than it may have. -/
def Database.IsBalanced (most link : Int) (d : Database) : Prop :=
  ∃ l, d.link? link = some l ∧
    (l.isSmartRouting = true ↔ d.rulesOf link ≠ []) ∧
    (d.rulesOf link).length ≤ most

namespace Database

variable {d d' : Database} {most link : Int}

theorem link?_of_map {f : Link → Link} (hf : ∀ x, (f x).id = x.id)
    (hlinks : d'.links = d.links.map f) (id : Int) :
    d'.link? id = (d.link? id).map f := by
  rw [link?, hlinks, List.find?_map, link?]
  refine congrArg (Option.map f) (List.find?_congr fun x _ => ?_)
  show ((f x).id == id) = (x.id == id)
  rw [hf]

theorem link?_modifyLink {id : Int} {f : Link → Link}
    (hlinks : d'.links = (d.modifyLink id f).links) (hf : ∀ x, (f x).id = x.id) :
    d'.link? link = (d.link? link).map fun l => if link = id then f l else l := by
  have hid : ∀ x : Link, (if x.id == id then f x else x).id = x.id := by
    intro x
    split
    · exact hf x
    · rfl
  rw [link?_of_map hid hlinks]
  cases hl : d.link? link with
  | none => rfl
  | some l =>
      have hl := link?_id hl
      rw [Option.map_some, Option.map_some, hl]
      simp only [beq_iff_eq]

theorem rulesOf_append {r : Rule} (hrules : d'.rules = d.rules ++ [r]) :
    d'.rulesOf link =
      d.rulesOf link ++ if r.linkId = link then [r] else [] := by
  rw [rulesOf, hrules, List.filter_append, rulesOf]
  refine congrArg _ ?_
  by_cases hlink : r.linkId = link <;> simp [hlink]

theorem length_rulesOf_modify {id : Int} {f : Rule → Rule}
    (hrules : d'.rules = (d.modifyRule id f).rules)
    (hf : ∀ x, (f x).linkId = x.linkId) :
    (d'.rulesOf link).length = (d.rulesOf link).length := by
  have hlink : ∀ x : Rule,
      (if x.id == id then f x else x).linkId = x.linkId := by
    intro x
    split
    · exact hf x
    · rfl
  rw [rulesOf, hrules, modifyRule, List.filter_map, List.length_map]
  simp only [Function.comp_def, hlink, rulesOf]

instance : Decidable (d.IsBalanced most link) :=
  decidable_of_iff ((d.link? link).any fun l =>
    decide (l.isSmartRouting = true ↔ d.rulesOf link ≠ []) &&
      decide (((d.rulesOf link).length : Int) ≤ most)) (by
    simp only [Option.any_eq_true, Bool.and_eq_true, decide_eq_true_eq]
    rfl)

theorem IsBalanced.congr (h : d.IsBalanced most link)
    (hlink : d'.link? link = d.link? link)
    (hlength : (d'.rulesOf link).length = (d.rulesOf link).length) :
    d'.IsBalanced most link := by
  obtain ⟨l, hl, hflag, hmost⟩ := h
  rw [← List.length_pos_iff] at hflag
  refine ⟨l, hlink.trans hl, ?_, by omega⟩
  rw [← List.length_pos_iff, hlength]
  exact hflag

end Database

namespace Manage.Task

variable {most : Int} {now : Clock} {t : Task} {d d' : Database} {l : Link}
  {link : Int}

/-- A task that gives no value for the flag of a link. -/
def LeavesFlag : Task → Prop
  | updateSettings _ settings => settings.isSmartRouting.toOption = none
  | _ => True

/-- A rule is added, and the flag is set unless it was. -/
theorem Alters.isBalanced_of_created {draft : RuleDraft} {named : Int}
    (h : (createRule named draft).Alters most now d d' l)
    (hl : d.link? l.id = some l) (hd : d.IsBalanced most link) :
    d'.IsBalanced most link := by
  cases h with
  | created hroom hrules hflag =>
      generalize hr : Rule.ofNew _ now _ = r at hrules
      have hlinkId : r.linkId = l.id := by rw [← hr]; rfl
      have hof : ∀ link, d'.rulesOf link =
          d.rulesOf link ++ if l.id = link then [r] else [] := by
        intro link
        rw [Database.rulesOf_append hrules, hlinkId]
      by_cases heq : link = l.id
      · subst heq
        refine ⟨{ l with isSmartRouting := true }, ?_, ?_, ?_⟩
        · cases hset : l.isSmartRouting with
          | true =>
              rw [hset, if_pos rfl] at hflag
              rw [Database.link?, hflag, ← hset]
              exact hl
          | false =>
              rw [hset, if_neg Bool.false_ne_true] at hflag
              rw [Database.link?_modifyLink hflag fun _ => rfl, hl]
              simp
        · rw [hof, if_pos rfl]
          simp
        · rw [hof, if_pos rfl, List.length_append, List.length_singleton]
          omega
      · refine hd.congr ?_ ?_
        · split at hflag
          · rw [Database.link?, hflag, Database.link?]
          · rw [Database.link?_modifyLink hflag fun _ => rfl]
            simp [heq]
        · rw [hof, if_neg (fun hid => heq hid.symm), List.append_nil]

/-- A rule goes, and the flag goes with the last one. -/
theorem Alters.isBalanced_of_deleted {named rule : Int}
    (h : (deleteRule named rule).Alters most now d d' l)
    (hl : d.link? l.id = some l) (hids : (d.rules.map (·.id)).Nodup)
    (hd : d.IsBalanced most link) : d'.IsBalanced most link := by
  cases h with
  | @deleted _ _ r hr hofLink hrules hflag =>
      by_cases heq : link = l.id
      · subst heq
        obtain ⟨x, hx, hset, hmost⟩ := hd
        obtain rfl := Option.some.inj (hl.symm.trans hx)
        have hsub : (d'.rulesOf l.id).Sublist (d.rulesOf l.id) := by
          rw [Database.rulesOf, hrules, Database.rulesOf]
          exact List.filter_sublist.filter _
        have hlength := hsub.length_le
        cases hempty : (d'.rulesOf l.id).isEmpty with
        | true =>
            rw [hempty, if_pos rfl] at hflag
            have hnil := List.isEmpty_iff.mp hempty
            refine ⟨{ l with isSmartRouting := false }, ?_, ?_, by omega⟩
            · rw [Database.link?_modifyLink hflag fun _ => rfl, hl]
              simp
            · simp [hnil]
        | false =>
            rw [hempty, if_neg Bool.false_ne_true] at hflag
            have hsome : d'.rulesOf l.id ≠ [] := by simpa using hempty
            refine ⟨l, ?_, ?_, by omega⟩
            · rw [Database.link?, hflag]
              exact hl
            · have hold : d.rulesOf l.id ≠ [] := fun hnil => by
                rw [hnil] at hsub
                exact hsome (List.sublist_nil.mp hsub)
              exact iff_of_true (hset.mpr hold) hsome
      · refine hd.congr ?_ ?_
        · split at hflag
          · rw [Database.link?_modifyLink hflag fun _ => rfl]
            simp [heq]
          · rw [Database.link?, hflag, Database.link?]
        · have hne : r.linkId ≠ link := fun hid => heq (hid.symm.trans hofLink)
          rw [Database.rulesOf, hrules, Database.rulesOf,
            Rule.filter_of_nodup hids (Database.mem_of_rule? hr) hne]

theorem Alters.nodup (h : t.Alters most now d d' l)
    (hids : (d.rules.map (·.id)).Nodup) : (d'.rules.map (·.id)).Nodup := by
  induction h with
  | created _ hrules _ =>
      rw [hrules]
      exact Rule.nodup_append hids rfl
  | drafted _ _ _ ih => exact ih
  | @updated _ _ changes old _ _ hrules _ =>
      have hid : ∀ r : Rule, (r.withChanges changes now).id = r.id :=
        fun _ => rfl
      have hsame : (d.modifyRule old.id fun r =>
          r.withChanges changes now).rules.map (·.id) = d.rules.map (·.id) :=
        map_key_modify hid (fun r => r.id == old.id) d.rules
      rw [hrules, hsame]
      exact hids
  | deleted _ _ hrules _ =>
      rw [hrules]
      exact hids.sublist (List.filter_sublist.map _)
  | settled hrules _ => exact hrules ▸ hids

/-- What a task that was committed did keeps every link balanced. -/
theorem Alters.isBalanced (h : t.Alters most now d d' l) (ht : t.LeavesFlag)
    (hl : d.link? l.id = some l) (hids : (d.rules.map (·.id)).Nodup)
    (hd : d.IsBalanced most link) : d'.IsBalanced most link := by
  cases h with
  | @created named draft hroom hrules hflag =>
      have h : (createRule named draft).Alters most now d d' l :=
        .created hroom hrules hflag
      exact h.isBalanced_of_created hl hd
  | drafted _ _ h => exact h.isBalanced_of_created hl hd
  | updated _ _ hrules hsame =>
      refine hd.congr ?_ (Database.length_rulesOf_modify hrules fun _ => rfl)
      rw [Database.link?, hsame, Database.link?]
  | @deleted named rule _ hr hof hrules hflag =>
      have h : (deleteRule named rule).Alters most now d d' l :=
        .deleted hr hof hrules hflag
      exact h.isBalanced_of_deleted hl hids hd
  | @settled _ settings hrules hsettled =>
      obtain ⟨x, hx, hset, hmost⟩ := hd
      have hkept : ∀ y : Link, (y.withSettings settings).isSmartRouting =
          y.isSmartRouting := by
        intro y
        rw [Link.withSettings, ht]
        rfl
      refine ⟨if link = l.id then x.withSettings settings else x, ?_, ?_, ?_⟩
      · rw [Database.link?_modifyLink hsettled fun _ => rfl, hx]
        rfl
      · have hflag : (if link = l.id then x.withSettings settings
            else x).isSmartRouting = x.isSmartRouting := by
          split
          · exact hkept x
          · rfl
        rw [hflag, Database.rulesOf, hrules]
        exact hset
      · rw [Database.rulesOf, hrules]
        exact hmost

end Manage.Task

/-! ## Runs -/

namespace Service

open Manage (Task)

/-- A link that started without rules and with its flag not set has the flag
set exactly when it has a rule, and never more rules than it may have, after
every run of tasks on this and other links that give no value for a flag. -/
theorem isBalanced_of_managed {most link : Int} {first s : Service} {l : Link}
    (h : Managed most Task.LeavesFlag first s)
    (hcandid : first.store.IsCandid)
    (hids : (first.store.database.rules.map (·.id)).Nodup)
    (hmost : 0 ≤ most) (hl : first.store.database.link? link = some l)
    (hflag : l.isSmartRouting = false)
    (hrules : first.store.database.rulesOf link = []) :
    s.store.database.IsBalanced most link := by
  have hfirst : first.store.database.IsBalanced most link := by
    refine ⟨l, hl, ?_, ?_⟩
    · rw [hflag, hrules]
      simp
    · rw [hrules]
      exact hmost
  refine (h.database_of (P := fun d => d.IsBalanced most link ∧
    (d.rules.map (·.id)).Nodup) hcandid ⟨hfirst, hids⟩ ?_ ?_).1
  · rintro d d' hlinks hrules ⟨hd, hids⟩
    refine ⟨hd.congr ?_ ?_, hrules ▸ hids⟩
    · rw [Database.link?, hlinks, Database.link?]
    · rw [Database.rulesOf, hrules, Database.rulesOf]
  · rintro now c t d d' l ht hcommits ⟨hd, hids⟩
    have hl : d.link? l.id = some l := by
      rw [Database.link?_id hcommits.found]
      exact hcommits.found
    exact ⟨hcommits.rows.isBalanced ht hl hids hd, hcommits.rows.nodup hids⟩

/-- The link of a new service gets its first rule. -/
theorem isBalanced_withLink :
    Managed 50 Task.LeavesFlag withLink
      (withLink.after 50 owner (.createRule 1 elsewhereDraft)) ∧
    withLink.store.IsCandid ∧
    (withLink.store.database.rules.map (·.id)).Nodup ∧
    (∃ l, withLink.store.database.link? 1 = some l ∧
      l.isSmartRouting = false) ∧
    withLink.store.database.rulesOf 1 = [] ∧
    (withLink.after 50 owner
      (.createRule 1 elsewhereDraft)).store.database.IsBalanced 50 1 ∧
    ((withLink.after 50 owner
      (.createRule 1 elsewhereDraft)).store.database.link? 1).any
        (·.isSmartRouting) = true := by
  have hrun : Managed 50 Task.LeavesFlag withLink
      (withLink.after 50 owner (.createRule 1 elsewhereDraft)) :=
    .task .start trivial owner
  have hcandid : withLink.store.IsCandid := isInitial_withLink.sound.isCandid
  refine ⟨hrun, hcandid, List.nodup_nil, ⟨_, rfl, rfl⟩, rfl, ?_,
    by decide +kernel⟩
  exact isBalanced_of_managed hrun hcandid List.nodup_nil (by decide) rfl rfl rfl

end Service

end Signpost
