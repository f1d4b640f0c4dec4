import Mathlib
import Signpost.Proofs.CacheEntries
import Signpost.Proofs.FirstMatch

/-!
# Rows that can be cached

The tables are fit for the cache when the numbers and the slugs of their rows
are their own and every row comes back from the cache as it was put there; of
a rule this is asked without its count, which may outgrow its place. What may
be done to rows keeps them so: a link or a rule may be changed in place as
long as it keeps its number and its slug, a rule may be added under the next
number or taken away, and counts may grow. Each of these leaves the rows of
other links alone.

No search and no order looks at a count, so the active rules of a link are the
same, their counts aside, before and after matches were added.
-/

namespace Signpost

/-! ## Counts aside -/

/-- An entry without its count. -/
def RuleEntry.uncounted (e : RuleEntry) : RuleEntry :=
  { e with
    matchCount := 0 }

/-- A rule without its count. -/
def Rule.uncounted (r : Rule) : Rule :=
  { r with
    matchCount := 0 }

/-- Nothing else hangs on a count. -/
theorem RuleEntry.IsKept.of_uncounted {e : RuleEntry}
    (h : e.uncounted.IsKept) (hcount : hasPlace e.matchCount = true) :
    e.IsKept :=
  { h with
    matchCount := hcount }

/-- What a search finds hangs on no count. -/
theorem RuleEntry.firstMatch_uncounted (v : Visitor)
    (rules : List RuleEntry) :
    firstMatch v (rules.map uncounted) =
      (firstMatch v rules).map (Option.map uncounted) :=
  firstMatch_map (fun _ _ => rfl) (fun _ _ => rfl) (fun _ _ => rfl)

/-- Changing some rows changes no key that the change keeps. -/
theorem map_key_modify {α κ : Type} {key : α → κ} {f : α → α}
    (hkey : ∀ x, key (f x) = key x) (p : α → Bool) (rows : List α) :
    (rows.map fun x => if p x then f x else x).map key = rows.map key := by
  rw [List.map_map]
  refine List.map_congr_left fun x _ => ?_
  show key (if p x then f x else x) = key x
  split
  · exact hkey x
  · rfl

/-- Changing rows that are filtered out, before as after, changes nothing. -/
theorem filter_modify {α : Type} {p q : α → Bool} {f : α → α} {rows : List α}
    (h : ∀ x ∈ rows, q x = true → p x = false ∧ p (f x) = false) :
    (rows.map fun x => if q x then f x else x).filter p = rows.filter p := by
  induction rows with
  | nil => rfl
  | cons x rest ih =>
      obtain ⟨hx, hrest⟩ := List.forall_mem_cons.mp h
      rw [List.map_cons, List.filter_cons, List.filter_cons, ih hrest]
      split
      · next hq =>
          obtain ⟨hbefore, hafter⟩ := hx hq
          rw [hbefore, hafter]
          rfl
      · rfl

/-! ## Links -/

/-- Links fit for the cache. -/
structure LinksKept (links : List Link) : Prop where
  ids : (links.map (·.id)).Nodup
  slugs : (links.map (·.slug)).Nodup
  entries : ∀ l ∈ links, l.entry.IsKept

namespace LinksKept

variable {links : List Link} {l : Link} {f : Link → Link} {id : Int}

theorem modify (h : LinksKept links) (hid : ∀ x, (f x).id = x.id)
    (hslug : ∀ x, (f x).slug = x.slug)
    (hf : ∀ x ∈ links, (f x).entry.IsKept) :
    LinksKept (links.map fun x => if x.id == id then f x else x) where
  ids := by
    rw [map_key_modify hid fun x => x.id == id]
    exact h.ids
  slugs := by
    rw [map_key_modify hslug fun x => x.id == id]
    exact h.slugs
  entries := by
    intro y hy
    obtain ⟨x, hx, rfl⟩ := List.mem_map.mp hy
    split
    · exact hf x hx
    · exact h.entries x hx

/-- A link that is changed is the only one with its number. -/
theorem mem_modify (h : LinksKept links) (hl : l ∈ links) {x : Link}
    (hx : x ∈ links) (hne : x.slug ≠ l.slug) :
    x ∈ links.map fun y => if y.id == l.id then f y else y := by
  have hid : ¬ x.id = l.id := by
    intro heq
    rw [List.inj_on_of_nodup_map h.ids hx hl heq] at hne
    exact hne rfl
  refine List.mem_map.mpr ⟨x, hx, ?_⟩
  simp [hid]

theorem find?_slug (h : LinksKept links) (hl : l ∈ links) :
    links.find? (·.slug == l.slug) = some l := by
  cases hf : links.find? (·.slug == l.slug) with
  | none => simpa using List.find?_eq_none.mp hf l hl
  | some x =>
      have hslug : x.slug = l.slug := by simpa using List.find?_some hf
      rw [List.inj_on_of_nodup_map h.slugs (List.mem_of_find?_eq_some hf) hl
        hslug]

end LinksKept

/-! ## Rules -/

/-- Rules fit for the cache, their counts aside. -/
structure RulesKept (rules : List Rule) : Prop where
  ids : (rules.map (·.id)).Nodup
  entries : ∀ r ∈ rules, r.entry.uncounted.IsKept

theorem Database.le_nextId {ids : List Int} :
    ∀ id ∈ ids, id < nextId ids := by
  have hfold : ∀ (ids : List Int) (least : Int), least ≤ ids.foldl max least ∧
      ∀ id ∈ ids, id ≤ ids.foldl max least := by
    intro ids
    induction ids with
    | nil => intro least; simp
    | cons x rest ih =>
        intro least
        obtain ⟨hstart, hrest⟩ := ih (max least x)
        rw [List.foldl_cons]
        refine ⟨le_trans (le_max_left _ _) hstart, ?_⟩
        exact List.forall_mem_cons.mpr
          ⟨le_trans (le_max_right _ _) hstart, hrest⟩
  intro id hid
  exact Int.lt_add_one_of_le ((hfold ids 0).2 id hid)

/-- The next number is no rule's. -/
theorem Rule.nodup_append {rules : List Rule} (h : (rules.map (·.id)).Nodup)
    {r : Rule} (hid : r.id = Database.nextId (rules.map (·.id))) :
    ((rules ++ [r]).map (·.id)).Nodup := by
  rw [List.map_append, List.map_singleton, ← List.concat_eq_append]
  refine h.concat fun hmem => ?_
  have hlt := Database.le_nextId r.id hmem
  omega

theorem Rule.ids_of_uncounted {rules rules' : List Rule}
    (heq : rules'.map Rule.uncounted = rules.map Rule.uncounted) :
    rules'.map (·.id) = rules.map (·.id) := by
  have hids : ∀ rules : List Rule,
      (rules.map Rule.uncounted).map (·.id) = rules.map (·.id) := by
    intro rules
    rw [List.map_map]
    rfl
  rw [← hids, heq, hids]

/-- A rule with the number of another link's rule is no rule of this link. -/
theorem Rule.id_ne_of_nodup {rules : List Rule}
    (h : (rules.map (·.id)).Nodup) {r : Rule} (hr : r ∈ rules) {link : Int}
    (hne : r.linkId ≠ link) {x : Rule} (hx : x ∈ rules)
    (hlink : x.linkId = link) : x.id ≠ r.id := by
  intro hid
  rw [List.inj_on_of_nodup_map h hx hr hid] at hlink
  exact hne hlink

/-- Without a rule of another link a link has the rules that it had. -/
theorem Rule.filter_of_nodup {rules : List Rule}
    (h : (rules.map (·.id)).Nodup) {r : Rule} (hr : r ∈ rules) {link : Int}
    (hne : r.linkId ≠ link) :
    (rules.filter (·.id != r.id)).filter (·.linkId == link) =
      rules.filter (·.linkId == link) := by
  rw [List.filter_filter]
  refine List.filter_congr fun x hx => ?_
  by_cases hlink : x.linkId = link
  · simp [hlink, Rule.id_ne_of_nodup h hr hne hx hlink]
  · simp [hlink]

/-- Changing a rule of another link leaves a link the rules that it had. -/
theorem Rule.filter_modify_of_nodup {rules : List Rule}
    (h : (rules.map (·.id)).Nodup) {r : Rule} (hr : r ∈ rules) {link : Int}
    (hne : r.linkId ≠ link) {f : Rule → Rule}
    (hf : ∀ x, (f x).linkId = x.linkId) :
    (rules.map fun x => if x.id == r.id then f x else x).filter
        (·.linkId == link) = rules.filter (·.linkId == link) := by
  refine filter_modify fun x hx hid => ?_
  have hother : x.linkId ≠ link := fun hlink =>
    Rule.id_ne_of_nodup h hr hne hx hlink (by simpa using hid)
  rw [hf]
  simpa using hother

namespace RulesKept

variable {rules rules' : List Rule} {r : Rule} {f : Rule → Rule} {link : Int}

theorem append (h : RulesKept rules) (hr : r.entry.uncounted.IsKept)
    (hid : r.id = Database.nextId (rules.map (·.id))) :
    RulesKept (rules ++ [r]) where
  ids := Rule.nodup_append h.ids hid
  entries := by
    intro x hx
    rcases List.mem_append.mp hx with hx | hx
    · exact h.entries x hx
    · rw [List.mem_singleton.mp hx]
      exact hr

theorem filter (h : RulesKept rules) (keep : Rule → Bool) :
    RulesKept (rules.filter keep) where
  ids := h.ids.sublist (List.filter_sublist.map _)
  entries := fun x hx => h.entries x (List.mem_filter.mp hx).1

theorem modify (h : RulesKept rules) {id : Int} (hid : ∀ x, (f x).id = x.id)
    (hf : ∀ x ∈ rules, (f x).entry.uncounted.IsKept) :
    RulesKept (rules.map fun x => if x.id == id then f x else x) where
  ids := by
    rw [map_key_modify hid fun x => x.id == id]
    exact h.ids
  entries := by
    intro y hy
    obtain ⟨x, hx, rfl⟩ := List.mem_map.mp hy
    split
    · exact hf x hx
    · exact h.entries x hx

/-- Rules that differ in their counts alone are as fit. -/
theorem of_uncounted (h : RulesKept rules)
    (heq : rules'.map Rule.uncounted = rules.map Rule.uncounted) :
    RulesKept rules' where
  ids := by
    rw [Rule.ids_of_uncounted heq]
    exact h.ids
  entries := by
    intro x hx
    have hmem : x.uncounted ∈ rules.map Rule.uncounted :=
      heq ▸ List.mem_map_of_mem hx
    obtain ⟨y, hy, hxy⟩ := List.mem_map.mp hmem
    have hentry : y.entry.uncounted = x.entry.uncounted :=
      congrArg Rule.entry hxy
    exact hentry ▸ h.entries y hy

end RulesKept

/-! ## Tables -/

/-- Tables fit for the cache. -/
structure Database.IsKept (d : Database) : Prop where
  links : LinksKept d.links
  rules : RulesKept d.rules

namespace Database

variable {d : Database}

theorem mem_of_link? {id : Int} {l : Link} (h : d.link? id = some l) :
    l ∈ d.links :=
  List.mem_of_find?_eq_some h

theorem mem_of_rule? {id : Int} {r : Rule} (h : d.rule? id = some r) :
    r ∈ d.rules :=
  List.mem_of_find?_eq_some h

theorem IsKept.linkBySlug?_eq (h : d.IsKept) {l : Link} (hl : l ∈ d.links) :
    d.linkBySlug? l.slug = some l :=
  h.links.find?_slug hl

/-! ## Adding matches -/

/-- Matches are added to counts and to nothing else. -/
theorem addMatches_uncounted (counts : List (Int × Int)) :
    ∀ d : Database, (d.addMatches counts).links = d.links ∧
      (d.addMatches counts).rules.map Rule.uncounted =
        d.rules.map Rule.uncounted := by
  induction counts with
  | nil => exact fun d => ⟨rfl, rfl⟩
  | cons x rest ih =>
      intro d
      obtain ⟨hlinks, hrules⟩ := ih (d.modifyRule x.1 (·.addMatches x.2))
      have hkey : ∀ r : Rule, (r.addMatches x.2).uncounted = r.uncounted :=
        fun _ => rfl
      exact ⟨hlinks, hrules.trans (map_key_modify hkey _ d.rules)⟩

theorem IsKept.addMatches (h : d.IsKept) (counts : List (Int × Int)) :
    (d.addMatches counts).IsKept := by
  obtain ⟨hlinks, hrules⟩ := addMatches_uncounted counts d
  exact ⟨hlinks ▸ h.links, h.rules.of_uncounted hrules⟩

/-- Sorting looks at no count. -/
theorem inOrder_uncounted (rules : List Rule) :
    (inOrder rules).map Rule.uncounted = inOrder (rules.map Rule.uncounted) :=
  List.map_mergeSort fun _ _ _ _ => rfl

/-- The active entries, their counts aside, hang on the rules without theirs. -/
theorem activeEntries_uncounted (d : Database) (link : Int) :
    (d.activeEntries link).map RuleEntry.uncounted =
      (inOrder (((d.rules.map Rule.uncounted).filter
        (·.linkId == link)).filter (·.isActive))).map Rule.entry := by
  rw [List.filter_map, List.filter_map, ← inOrder_uncounted, List.map_map,
    activeEntries, List.map_map]
  rfl

theorem activeEntries_addMatches (counts : List (Int × Int)) (link : Int) :
    ((d.addMatches counts).activeEntries link).map RuleEntry.uncounted =
      (d.activeEntries link).map RuleEntry.uncounted := by
  rw [activeEntries_uncounted, activeEntries_uncounted,
    (addMatches_uncounted counts d).2]

end Database

end Signpost
