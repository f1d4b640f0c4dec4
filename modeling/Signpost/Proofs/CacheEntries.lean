import Mathlib
import Signpost.Proofs.Calendar
import Signpost.Proofs.JsonSettled
import Signpost.Service.Redirection

/-!
# What the cache gives back

What lies under a key is what was put there last, unless it was taken away;
other keys are not touched. A link or a list of rules that comes from rows is
put there as a document and comes back as it was: its texts are well formed,
its numbers have a place in a row, its moments are clock readings of the
calendar, and its conditions were written and read once before. Only a number
in the conditions that is not finite is lost, as null stands in its place.

The keys of links, the keys of rules, and the keys of two links or of the
rules of two links are all different.
-/

namespace Signpost

namespace Cache

variable {c : Cache} {key : String}

/-- The cache after an entry's time has run out. -/
def expire (c : Cache) (key : String) : Cache :=
  { c with entries := c.entries.filter fun (k, _, _) => k != key }

theorem find?_store (k : String) (raw : Raw) (ttl : Option Int)
    (entries : List (String × Raw × Option Int)) :
    (store k raw ttl entries).find? (·.1 == key) =
      if k = key then some (k, raw, ttl)
      else entries.find? (·.1 == key) := by
  induction entries with
  | nil => by_cases h : k = key <;> simp [store, h]
  | cons e rest ih =>
      obtain ⟨k', raw', ttl'⟩ := e
      rw [store]
      split
      · next heq =>
          subst heq
          by_cases h : k' = key <;> simp [h]
      · next hne =>
          rw [List.find?_cons, List.find?_cons, ih]
          by_cases h : k' = key
          · subst h
            simp [Ne.symm hne]
          · simp only [beq_eq_false_iff_ne.mpr h]

theorem find?_filter_key (entries : List (String × Raw × Option Int))
    (keep : String → Bool) :
    (entries.filter fun (k, _, _) => keep k).find? (·.1 == key) =
      if keep key = true then entries.find? (·.1 == key) else none := by
  rw [List.find?_filter]
  split
  · next hkeep =>
      congr 1
      funext ⟨k, raw, ttl⟩
      by_cases h : k = key
      · simp [h, hkeep]
      · simp [h]
  · next hkeep =>
      rw [List.find?_eq_none]
      rintro ⟨k, raw, ttl⟩ - h
      simp only [beq_iff_eq, decide_eq_true_eq] at h
      exact hkeep (h.2 ▸ h.1)

theorem get_eq (h : c.isUp = true) (key : String) :
    c.get key = match c.entries.find? (·.1 == key) with
      | some (_, raw, _) => (raw.read c.decodes).map notNull
      | none => .ok none := by
  rw [get]
  cases c.entries.find? (·.1 == key) with
  | none => rfl
  | some found => exact if_pos h

/-- Under a key lies what was put there last. -/
theorem get_set (h : c.isUp = true) (k : String) (value : Json)
    (ttl : Option Int) :
    (c.set k value ttl).get key =
      if k = key then (Raw.read c.decodes (.text value.write)).map notNull
      else c.get key := by
  have hset : c.set k value ttl =
      { c with
        entries := store k (.text value.write) (ttl.filter (· != 0))
          c.entries } := by
    rw [set, if_pos h]
  have hup : (c.set k value ttl).isUp = true := by
    rw [hset]
    exact h
  rw [get_eq hup, hset]
  by_cases hkey : k = key
  · simp only [find?_store, hkey, if_true]
  · simp only [find?_store, hkey, if_false]
    rw [get_eq h]

theorem get_delete (h : c.isUp = true) (keys : List String) :
    (c.delete keys).get key =
      if key ∈ keys then .ok none else c.get key := by
  have hdelete : c.delete keys =
      { c with
        entries := c.entries.filter fun (k, _, _) => !keys.contains k } := by
    rw [delete, if_pos h]
  have hup : (c.delete keys).isUp = true := by
    rw [hdelete]
    exact h
  rw [get_eq hup, hdelete]
  simp only [find?_filter_key _ fun k => !keys.contains k]
  by_cases hmem : key ∈ keys
  · simp [hmem]
  · simp only [hmem, List.contains_eq_mem, decide_false, Bool.not_false, if_true,
      if_false]
    rw [get_eq h]

theorem get_expire (h : c.isUp = true) (k : String) :
    (c.expire k).get key = if key = k then .ok none else c.get key := by
  have hup : (c.expire k).isUp = true := h
  rw [get_eq hup, expire]
  simp only [find?_filter_key _ fun x => x != k]
  by_cases hkey : key = k
  · simp [hkey]
  · simp only [bne_iff_ne, ne_eq, hkey, not_false_eq_true, if_true, if_false]
    rw [get_eq h]

/-- A cache that is turned off has nothing. -/
theorem get_of_not_isUp (h : c.isUp = false) : c.get key = .ok none := by
  rw [get]
  split
  · rw [h]
    rfl
  · rfl

/-! ## Keys -/

theorem slugKey_inj {a b : String} : slugKey a = slugKey b ↔ a = b := by
  rw [slugKey, slugKey, ← String.toList_inj, String.toList_append,
    String.toList_append, List.append_cancel_left_eq, String.toList_inj]

theorem rulesKey_inj {a b : Int} :
    rulesKey (toString a) = rulesKey (toString b) ↔ a = b := by
  rw [rulesKey, rulesKey, ← String.toList_inj, String.toList_append,
    String.toList_append, List.append_cancel_left_eq, String.toList_inj]
  exact Int.repr_inj

theorem slugKey_ne_rulesKey (slug link : String) :
    slugKey slug ≠ rulesKey link := by
  intro h
  rw [slugKey, rulesKey, ← String.toList_inj, String.toList_append,
    String.toList_append] at h
  cases h

/-! ## Documents -/

/-- A text is handed over as it lies there by every client. -/
theorem read_text (decodes : Bool) (s : String) :
    Raw.read decodes (.text s) =
      (Json.orNull (Json.read s.toList)).mapError .tooDeep := by
  cases decodes <;> rfl

/-- What the cache gives back of a document. -/
theorem read_write {j : Json} (decodes : Bool) (hlegible : j.IsLegible)
    (hheight : j.height ≤ Json.maxLevels) :
    Raw.read decodes (.text j.write) = .ok j.settled := by
  rw [read_text, Json.write, String.toList_ofList,
    Json.read_print hlegible hheight]
  rfl

end Cache

/-! ## Entries -/

/-- A text that is read as it was written. -/
theorem Json.settled_of_isWellFormed {s : String}
    (h : Text.isWellFormed s.toList = true) :
    String.ofList (Text.joinHalves s.toList) = s := by
  rw [Text.joinHalves_of_isWellFormed h, String.ofList_toList]

theorem Json.isExact_of_hasPlace {n : Int} (h : hasPlace n = true) :
    (Json.int n).IsExact := by
  rw [hasPlace, Bool.and_eq_true, decide_eq_true_eq, decide_eq_true_eq,
    numberLimit] at h
  exact Json.isExact_int_of_lt (by omega)

/-- A moment that a row holds. -/
def Moment.IsKept (m : Moment) : Prop :=
  ∃ c : Clock, c.micros < Clock.limit ∧ m = .naive c

theorem Moment.IsKept.read {m : Moment} (h : m.IsKept) :
    Moment.read m.wireText = .ok m := by
  obtain ⟨c, hc, rfl⟩ := h
  exact Moment.read_wireText hc

theorem Moment.IsKept.isWellFormed {m : Moment} (h : m.IsKept) :
    Text.isWellFormed m.wireText.toList = true := by
  obtain ⟨c, -, rfl⟩ := h
  rw [Moment.wireText_naive, String.toList_ofList, Text.isWellFormed,
    List.all_eq_true]
  intro x hx
  have hsmall := Clock.toNat_of_mem_isoText c x hx
  rw [Option.isNone_iff_eq_none, Text.half?, if_neg]
  simp only [Text.halfBase]
  omega

/-- A text or nothing, read as it was written. -/
theorem Json.settled_ofText? {s : Option String}
    (h : ∀ t ∈ s, Text.isWellFormed t.toList = true) :
    (Json.ofText? s).settled = Json.ofText? s := by
  cases s with
  | none => rfl
  | some t =>
      rw [Json.ofText?, Json.settled_str,
        Json.settled_of_isWellFormed (h t rfl)]

/-- An object whose names are well formed and occur once keeps them. -/
theorem Json.settled_named {members : List (String × Json)}
    (hnames : (members.map (·.1)).Nodup)
    (hwell : ∀ m ∈ members, Text.isWellFormed m.1.toList = true) :
    (Json.obj members).settled =
      .obj (members.map fun m => (m.1, m.2.settled)) := by
  have hmember : ∀ m ∈ members, Json.settledMember m = (m.1, m.2.settled) := by
    intro m hm
    rw [Json.settledMember, Json.settled_of_isWellFormed (hwell m hm)]
  rw [Json.settled_obj, List.map_congr_left hmember, Json.ofMembers_of_nodup]
  rw [List.map_map]
  exact hnames

theorem Json.settled_members {members : List (String × Json)}
    (hnames : (members.map (·.1)).Nodup)
    (hmembers : ∀ m ∈ members,
      Text.isWellFormed m.1.toList = true ∧ m.2.settled = m.2) :
    (Json.obj members).settled = .obj members := by
  have hstays : ∀ m ∈ members, (m.1, m.2.settled) = m := fun m hm => by
    rw [(hmembers m hm).2]
  rw [Json.settled_named hnames fun m hm => (hmembers m hm).1,
    List.map_congr_left hstays, List.map_id']

theorem Json.settled_text {s : String}
    (h : Text.isWellFormed s.toList = true) :
    (Json.str s).settled = .str s := by
  rw [settled_str, Json.settled_of_isWellFormed h]

/-- Moments that a row holds are well formed when they are written. -/
theorem Moment.isWellFormed_of_kept {m : Option Moment}
    (h : ∀ x ∈ m, x.IsKept) :
    ∀ t ∈ m.map Moment.wireText, Text.isWellFormed t.toList = true := by
  intro t ht
  obtain ⟨x, hx, rfl⟩ := Option.map_eq_some_iff.mp ht
  exact (h x hx).isWellFormed

/-! ## Fields -/

namespace Check

variable {r : Record} {name : String} {path : List Step}

theorem Record.required_eq {α : Type} {rule : Rule α} {j : Json}
    (h : Json.lookup r.members name = some j) :
    r.required name rule = rule (r.path ++ [.field name]) j := by
  rw [required, h]

theorem Record.optional_eq {α : Type} {rule : Rule α} {a : α} {j : Json}
    (h : Json.lookup r.members name = some j) :
    r.optional name a rule = rule (r.path ++ [.field name]) j := by
  rw [optional, h]

theorem orNull_text (s : Option String) :
    orNull text path (.ofText? s) = .passed s := by
  cases s <;> rfl

/-- A moment that a row holds is read as it was written. -/
theorem orNull_moment {m : Option Moment} (h : ∀ x ∈ m, x.IsKept) :
    orNull moment path (.ofText? (m.map Moment.wireText)) = .passed m := by
  cases m with
  | none => rfl
  | some x =>
      have hread : moment path (.str x.wireText) = .passed x := by
        simp only [moment, (h x rfl).read]
      rw [Option.map_some, Json.ofText?, orNull, hread]
      · rfl
      · intro hnull
        cases hnull

end Check

/-! ## Links -/

/-- A link as rows hold it. -/
structure LinkEntry.IsKept (e : LinkEntry) : Prop where
  id : hasPlace e.id = true
  userId : hasPlace e.userId = true
  slug : Text.isWellFormed e.slug.toList = true
  originalUrl : Text.isWellFormed e.originalUrl.toList = true
  defaultUrl : ∀ t ∈ e.defaultUrl, Text.isWellFormed t.toList = true
  expiresAt : ∀ m ∈ e.expiresAt, m.IsKept

namespace LinkEntry

variable {e : LinkEntry}

theorem IsKept.isExact_toCache (h : e.IsKept) : e.toCache.IsExact := by
  refine ⟨Json.isExact_of_hasPlace h.id, trivial, trivial,
    Json.isExact_of_hasPlace h.userId, ?_, trivial, ?_, trivial⟩
  · cases e.expiresAt <;> trivial
  · cases e.defaultUrl <;> trivial

theorem height_toCache (e : LinkEntry) : e.toCache.height = 2 := by
  rw [toCache, toJsonWith]
  cases e.expiresAt <;> cases e.defaultUrl <;> rfl

theorem IsKept.settled_toCache (h : e.IsKept) :
    e.toCache.settled = e.toCache := by
  refine Json.settled_members (by simp) ?_
  simp only [List.forall_mem_cons, List.not_mem_nil, false_imp_iff,
    implies_true, and_true]
  exact ⟨⟨by decide, rfl⟩, ⟨by decide, Json.settled_text h.slug⟩,
    ⟨by decide, Json.settled_text h.originalUrl⟩, ⟨by decide, rfl⟩,
    ⟨by decide, Json.settled_ofText? (Moment.isWellFormed_of_kept h.expiresAt)⟩,
    ⟨by decide, rfl⟩, ⟨by decide, Json.settled_ofText? h.defaultUrl⟩⟩

theorem IsKept.check_toCache (h : e.IsKept) :
    check [] e.toCache = .passed e := by
  rw [check, toCache, toJsonWith, Check.Source.openRecord,
    Check.Checked.andThen]
  rw [Check.Record.required_eq rfl, Check.Record.required_eq rfl,
    Check.Record.required_eq rfl, Check.Record.required_eq rfl,
    Check.Record.optional_eq rfl, Check.Record.optional_eq rfl,
    Check.Record.optional_eq rfl, Check.orNull_text,
    Check.orNull_moment h.expiresAt]
  rfl

end LinkEntry

/-! ## Rules -/

/-- Conditions as rows hold them: they were written and read before. -/
structure Json.IsStored (j : Json) : Prop where
  legible : j.IsLegible
  settled : j.settled = j

/-- A rule as rows hold it, whatever its conditions are. -/
structure RuleEntry.IsStored (e : RuleEntry) : Prop where
  id : hasPlace e.id = true
  urlId : hasPlace e.urlId = true
  priority : hasPlace e.priority = true
  matchCount : hasPlace e.matchCount = true
  name : Text.isWellFormed e.name.toList = true
  targetUrl : Text.isWellFormed e.targetUrl.toList = true
  conditions : e.conditions.IsStored
  createdAt : ∀ m ∈ e.createdAt, m.IsKept

/-- Conditions as the service writes them: without numbers in double precision,
and below every ceiling. -/
structure Json.IsKept (j : Json) : Prop where
  exact : j.IsExact
  settled : j.settled = j
  height : j.height ≤ 5

/-- A rule as the service writes it. -/
structure RuleEntry.IsKept (e : RuleEntry) : Prop where
  id : hasPlace e.id = true
  urlId : hasPlace e.urlId = true
  priority : hasPlace e.priority = true
  matchCount : hasPlace e.matchCount = true
  name : Text.isWellFormed e.name.toList = true
  targetUrl : Text.isWellFormed e.targetUrl.toList = true
  conditions : e.conditions.IsKept
  createdAt : ∀ m ∈ e.createdAt, m.IsKept

namespace RuleEntry

variable {e : RuleEntry}

theorem IsKept.isStored (h : e.IsKept) : e.IsStored where
  id := h.id
  urlId := h.urlId
  priority := h.priority
  matchCount := h.matchCount
  name := h.name
  targetUrl := h.targetUrl
  conditions := ⟨h.conditions.exact.isLegible, h.conditions.settled⟩
  createdAt := h.createdAt

/-- What passed its check is below every ceiling. -/
theorem IsKept.isTooTall_eq_false (h : e.IsKept) (ceiling : Ceiling) :
    e.isTooTall ceiling = false := by
  have hlow := h.conditions.height.trans ceiling.checked
  simpa [isTooTall] using hlow

/-- A rule as it comes back from the cache, where numbers that are not finite
have no place. -/
def recalled (e : RuleEntry) : RuleEntry :=
  { e with
    conditions := e.conditions.finitized }

theorem IsKept.recalled_eq (h : e.IsKept) : e.recalled = e := by
  rw [recalled, Json.finitized_of_isExact h.conditions.exact]

theorem IsStored.isLegible_toCache (h : e.IsStored) : e.toCache.IsLegible := by
  refine ⟨(Json.isExact_of_hasPlace h.id).isLegible,
    (Json.isExact_of_hasPlace h.urlId).isLegible, trivial, trivial,
    (Json.isExact_of_hasPlace h.priority).isLegible, trivial,
    h.conditions.legible.finitized,
    (Json.isExact_of_hasPlace h.matchCount).isLegible, ?_, trivial⟩
  cases e.createdAt <;> trivial

theorem height_toCache {n : Nat} (hflat : 1 ≤ n) (h : e.conditions.height ≤ n) :
    e.toCache.height ≤ n + 1 := by
  rw [toCache, toJsonWith, Json.height]
  refine Nat.succ_le_succ (Json.heightOfMembers_le_iff.mpr ?_)
  simp only [List.forall_mem_cons, List.not_mem_nil, false_imp_iff,
    implies_true, and_true]
  refine ⟨hflat, hflat, hflat, hflat, hflat, hflat,
    (Json.height_finitized _).trans h, hflat, ?_⟩
  cases e.createdAt <;> exact hflat

theorem IsStored.settled_toCache (h : e.IsStored) :
    e.toCache.settled = e.toCache := by
  refine Json.settled_members (by simp) ?_
  simp only [List.forall_mem_cons, List.not_mem_nil, false_imp_iff,
    implies_true, and_true]
  exact ⟨⟨by decide, rfl⟩, ⟨by decide, rfl⟩,
    ⟨by decide, Json.settled_text h.name⟩,
    ⟨by decide, Json.settled_text h.targetUrl⟩, ⟨by decide, rfl⟩,
    ⟨by decide, rfl⟩,
    ⟨by decide, Json.settled_finitized h.conditions.settled⟩,
    ⟨by decide, rfl⟩,
    ⟨by decide, Json.settled_ofText? (Moment.isWellFormed_of_kept h.createdAt)⟩⟩

theorem IsStored.check_toCache (h : e.IsStored) :
    check [] e.toCache = .passed e.recalled := by
  rw [check, toCache, toJsonWith, Check.Source.openRecord,
    Check.Checked.andThen]
  rw [Check.Record.required_eq rfl, Check.Record.required_eq rfl,
    Check.Record.required_eq rfl, Check.Record.required_eq rfl,
    Check.Record.optional_eq rfl, Check.Record.optional_eq rfl,
    Check.Record.optional_eq rfl, Check.Record.optional_eq rfl,
    Check.Record.optional_eq rfl, Check.orNull_moment h.createdAt]
  rfl

end RuleEntry

/-! ## What the cache holds of links and rules -/

namespace Cache

variable {c : Cache} {slug : String} {link : Int}

/-- A link that is kept is found again, and no other slug's is touched. -/
theorem link?_keepLink (h : c.isUp = true) {e : LinkEntry} (he : e.IsKept)
    (slug' : String) :
    (c.keepLink slug e).link? slug' =
      if slug = slug' then .ok (some e) else c.link? slug' := by
  have hwrite : Raw.read c.decodes (.text e.toCache.write) = .ok e.toCache := by
    rw [read_write _ he.isExact_toCache.isLegible
      (by rw [e.height_toCache]; decide),
      he.settled_toCache]
  rw [link?, keepLink, get_set h]
  simp only [slugKey_inj]
  split
  · rw [hwrite]
    show Except.ok ((LinkEntry.check [] e.toCache).toOption) = _
    rw [he.check_toCache]
    rfl
  · rfl

/-- Keeping a link touches no rules. -/
theorem rules?_keepLink (h : c.isUp = true) (e : LinkEntry) :
    (c.keepLink slug e).rules? link = c.rules? link := by
  rw [rules?, keepLink, get_set h, if_neg (slugKey_ne_rulesKey _ _), rules?]

/-- Rules that come from rows are found again, but for numbers that are not
finite, and no other link's are touched. -/
theorem rules?_keepRules_stored (h : c.isUp = true) {rules : List RuleEntry}
    (hne : rules ≠ []) (hrules : ∀ e ∈ rules, e.IsStored)
    (ceiling : Ceiling) (hshort : ∀ e ∈ rules, e.isTooTall ceiling = false)
    (link' : Int) :
    (c.keepRules link rules).rules? link' =
      if link = link' then .ok (some (rules.map RuleEntry.recalled))
      else c.rules? link' := by
  have hlegible : (Json.arr (rules.map RuleEntry.toCache)).IsLegible := by
    refine Json.itemsLegible_iff.mpr fun j hj => ?_
    obtain ⟨e, he, rfl⟩ := List.mem_map.mp hj
    exact (hrules e he).isLegible_toCache
  have hheight : (Json.arr (rules.map RuleEntry.toCache)).height ≤
      ceiling.height + 2 := by
    rw [Json.height]
    refine Nat.succ_le_succ (Json.heightOfItems_le_iff.mpr fun j hj => ?_)
    obtain ⟨e, he, rfl⟩ := List.mem_map.mp hj
    refine RuleEntry.height_toCache (Nat.le_trans (by decide) ceiling.checked) ?_
    simpa [RuleEntry.isTooTall] using hshort e he
  have hsettled : (rules.map RuleEntry.toCache).map Json.settled =
      rules.map RuleEntry.toCache := by
    rw [List.map_map]
    exact List.map_congr_left fun e he => (hrules e he).settled_toCache
  have hcheck : (rules.map RuleEntry.toCache).map (RuleEntry.check []) =
      (rules.map RuleEntry.recalled).map Check.Checked.passed := by
    rw [List.map_map, List.map_map]
    exact List.map_congr_left fun e he => (hrules e he).check_toCache
  have hwrite : Raw.read c.decodes (.text (Json.write
      (.arr (rules.map RuleEntry.toCache)))) =
      .ok (.arr (rules.map RuleEntry.toCache)) := by
    rw [read_write _ hlegible (hheight.trans ceiling.readable),
      Json.settled_arr, hsettled]
  have hempty : rules.isEmpty = false := by
    simpa [List.isEmpty_eq_false_iff] using hne
  rw [rules?, keepRules, hempty, if_neg Bool.false_ne_true, get_set h]
  simp only [rulesKey_inj]
  split
  · rw [hwrite]
    show Except.ok ((Check.Checked.all ((rules.map RuleEntry.toCache).map
      (RuleEntry.check []))).toOption) = _
    rw [hcheck, Check.Checked.all_eq_passed.mpr rfl]
    rfl
  · rfl

/-- Rules that the service wrote are found again as they are. -/
theorem rules?_keepRules (h : c.isUp = true) {rules : List RuleEntry}
    (hne : rules ≠ []) (hrules : ∀ e ∈ rules, e.IsKept) (link' : Int) :
    (c.keepRules link rules).rules? link' =
      if link = link' then .ok (some rules) else c.rules? link' := by
  have hrecalled : rules.map RuleEntry.recalled = rules.map id :=
    List.map_congr_left fun e he => (hrules e he).recalled_eq
  rw [rules?_keepRules_stored h hne (fun e he => (hrules e he).isStored) .usual
    (fun e he => (hrules e he).isTooTall_eq_false .usual), hrecalled, List.map_id]

/-- Keeping rules touches no link. -/
theorem link?_keepRules (h : c.isUp = true) (rules : List RuleEntry) :
    (c.keepRules link rules).link? slug = c.link? slug := by
  rw [keepRules]
  split
  · rfl
  · rw [link?, get_set h, if_neg (slugKey_ne_rulesKey _ _).symm, link?]

@[simp] theorem isUp_set (key : String) (value : Json) (ttl : Option Int) :
    (c.set key value ttl).isUp = c.isUp := by
  rw [set]
  split <;> rfl

@[simp] theorem isUp_keepLink (e : LinkEntry) :
    (c.keepLink slug e).isUp = c.isUp :=
  isUp_set _ _ _

@[simp] theorem isUp_keepRules (rules : List RuleEntry) :
    (c.keepRules link rules).isUp = c.isUp := by
  rw [keepRules]
  split
  · rfl
  · exact isUp_set _ _ _

@[simp] theorem isUp_delete (keys : List String) :
    (c.delete keys).isUp = c.isUp := by
  rw [delete]
  split <;> rfl

/-- An entry that is taken away leaves the others alone. -/
theorem link?_delete (h : c.isUp = true) (keys : List String) :
    (c.delete keys).link? slug =
      if slugKey slug ∈ keys then .ok none else c.link? slug := by
  rw [link?, get_delete h, link?]
  split <;> rfl

theorem rules?_delete (h : c.isUp = true) (keys : List String) :
    (c.delete keys).rules? link =
      if rulesKey (toString link) ∈ keys then .ok none else c.rules? link := by
  rw [rules?, get_delete h, rules?]
  split <;> rfl

/-- An entry whose time runs out is gone, whichever it is. -/
theorem link?_expire (h : c.isUp = true) (key : String) :
    (c.expire key).link? slug =
      if slugKey slug = key then .ok none else c.link? slug := by
  rw [link?, get_expire h, link?]
  split <;> rfl

theorem rules?_expire (h : c.isUp = true) (key : String) :
    (c.expire key).rules? link =
      if rulesKey (toString link) = key then .ok none else c.rules? link := by
  rw [rules?, get_expire h, rules?]
  split <;> rfl

end Cache

end Signpost
