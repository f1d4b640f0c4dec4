import Mathlib
import Signpost.Proofs.PartialUpdates
import Signpost.Proofs.Redaction

/-!
# Values before a change

An update is recorded with the values that its fields had before, so that it
can be taken back. For the settings of a link the trail has them all. For a
rule it has name, destination, priority and whether it is active, whichever of
these were changed; the conditions that new ones took the place of are not in
it. So an entry has the value before for every field that it has the value
after of exactly when the update gave no conditions, and writing its old values
back restores every field but the conditions.

What is recorded goes through two hands: values under the names of secrets are
redacted, and the rest is written out and read again. No field has such a name,
and texts that a row holds have octets, so both leave the values as they are.
-/

namespace Signpost

/-! ## What the trail keeps of named fields -/

/-- The names of the fields that updates are recorded with. -/
def recordedNames : List String :=
  ["name", "target_url", "priority", "is_active", "conditions",
    "is_smart_routing", "default_url"]

theorem isWellFormed_of_recorded {name : String} (h : name ∈ recordedNames) :
    Text.isWellFormed name.toList = true := by
  have hall : ∀ name ∈ recordedNames, Text.isWellFormed name.toList = true := by
    decide
  exact hall name h

/-- No field has the name of a secret. -/
theorem isSensitive_of_recorded {name : String} (h : name ∈ recordedNames) :
    Audit.isSensitive name = false := by
  have hall : ∀ name ∈ recordedNames, Audit.isSensitive name = false := by
    decide +kernel
  exact hall name h

/-- Fields are recorded under their names with the values that are read of
theirs. -/
theorem Audit.get?_sanitize_settled {members : List (String × Json)}
    (hnodup : (members.map (·.1)).Nodup)
    (hnames : ∀ m ∈ members, m.1 ∈ recordedNames) (name : String) :
    (sanitize members).settled.get? name =
      (Json.lookup members name).map Json.settled := by
  rw [sanitize]
  split
  · next hempty =>
      rw [List.isEmpty_iff.mp hempty]
      rfl
  · have hplain : (members.map fun m =>
        (m.1, if isSensitive m.1 then redacted else m.2)) = members := by
      refine (List.map_congr_left fun m hm => ?_).trans (List.map_id' _)
      rw [isSensitive_of_recorded (hnames m hm)]
      rfl
    rw [hplain, Json.settled_named hnodup fun m hm =>
      isWellFormed_of_recorded (hnames m hm)]
    exact Json.lookup_map (fun _ => Json.settled) members name

/-! ## What an update records -/

/-- The texts of the rows have octets, as all have that the store took. -/
structure Database.HasOctets (d : Database) : Prop where
  rules : ∀ r ∈ d.rules, Text.isWellFormed r.name.toList = true ∧
    Text.isWellFormed r.targetUrl.toList = true
  links : ∀ l ∈ d.links, ∀ t ∈ l.defaultUrl, Text.isWellFormed t.toList = true

namespace Manage

variable {now : Clock} {s s' : Store} {c : Caller}

/-- What is recorded last is the one entry that may be new. -/
theorem record_then_trail {α : Type} {action : Audit.Action} {entityId : Int}
    {before after : List (String × Json)} {a a' : α} {e : AuditEntry}
    (hs : s.IsCandid)
    (h : (do record c action entityId before after; pure a : Plan α).run now s =
      (.ok a', s'))
    (he : s'.database.audit = s.database.audit ++ [e]) :
    e.oldValue = (Audit.sanitize before).settled ∧
      e.newValue = (Audit.sanitize after).settled := by
  obtain ⟨_, s₁, hrecord, hdone⟩ := Plan.run_bind_ok h
  cases hdone
  rw [record, Plan.query, Plan.run] at hrecord
  split at hrecord
  · next _ s₂ hask =>
      cases hrecord
      obtain ⟨-, hrun, -⟩ := hs.ask_ok hask
      have hd := (Prod.mk.inj (Except.ok.inj hrun)).2
      rw [← hd] at he
      obtain rfl := List.singleton_inj.mp (List.append_cancel_left he)
      exact ⟨rfl, rfl⟩
  · next f s₂ hask =>
      obtain ⟨-, hd⟩ := hs.ask_error hask
      split at hrecord
      · cases hrecord
        rw [hd] at he
        exact absurd he (by simp)
      · cases hrecord

/-- The entry of changes to a rule. -/
theorem updateRule_trail {link rule : Int} {changes : RuleChanges} {l : Link}
    {r : Rule} {e : AuditEntry} (hs : s.IsCandid)
    (h : (updateRule link rule c changes).run now s = (.ok (l, r), s'))
    (he : s'.database.audit = s.database.audit ++ [e]) :
    ∃ old, s.database.rule? rule = some old ∧
      e.oldValue = (Audit.sanitize (state old)).settled ∧
      e.newValue = (Audit.sanitize changes.toStorage).settled := by
  obtain ⟨l₀, s₁, hl, h⟩ := Plan.run_bind_ok h
  obtain ⟨hc₁, hd₁, -, -⟩ := ownedLink_ok hs hl
  obtain ⟨old, s₂, hold, h⟩ := Plan.run_bind_ok h
  obtain ⟨hc₂, hd₂, hrule, -⟩ := ruleOf_ok hc₁ hold
  obtain ⟨r₀, s₃, hupdate, h⟩ := Plan.run_bind_ok h
  obtain ⟨hc₃, hrun₃, -⟩ := Plan.run_query_ok (fun _ => rfl) hc₂ hupdate
  have haudit : s₃.database.audit = s.database.audit := by
    rw [Asked.effect_of_run hrun₃, ← hd₁, ← hd₂]
    rfl
  rw [hd₁] at hrule
  exact ⟨old, hrule, record_then_trail hc₃ h (haudit ▸ he)⟩

/-- The entry of settings of a link. -/
theorem updateSettings_trail {link : Int} {given : LinkSettings} {l : Link}
    {e : AuditEntry} (hs : s.IsCandid)
    (h : (updateSettings link c given).run now s = (.ok l, s'))
    (he : s'.database.audit = s.database.audit ++ [e]) :
    ∃ old, s.database.link? link = some old ∧
      e.oldValue = (Audit.sanitize old.settings).settled ∧
      e.newValue = (Audit.sanitize given.changes).settled := by
  obtain ⟨old, s₁, hl, h⟩ := Plan.run_bind_ok h
  obtain ⟨hc₁, hd₁, hlink, -⟩ := ownedLink_ok hs hl
  obtain ⟨l₀, s₂, hupdate, h⟩ := Plan.run_bind_ok h
  obtain ⟨hc₂, hrun₂, -⟩ := Plan.run_query_ok (fun _ => rfl) hc₁ hupdate
  have haudit : s₂.database.audit = s.database.audit := by
    rw [Asked.effect_of_run hrun₂, ← hd₁]
    rfl
  exact ⟨old, hlink, record_then_trail hc₂ h (haudit ▸ he)⟩

end Manage

/-! ## What can be taken back -/

/-- The values before are there for all fields whose values after are. -/
def AuditEntry.Covers (e : AuditEntry) (row : Json) : Prop :=
  ∀ name, (e.newValue.get? name).isSome = true →
    (row.get? name).isSome = true ∧ e.oldValue.get? name = row.get? name

/-- A field of a row when the values before are written back. -/
def AuditEntry.restored (e : AuditEntry) (row : Json) (name : String) :
    Option Json :=
  (e.oldValue.get? name).or (row.get? name)

namespace Manage.Update

/-- The document of the row that is updated. -/
def row? (d : Database) : Update → Option Json
  | rule _ id _ => (d.rule? id).map Rule.toJson
  | settings link _ => (d.link? link).map Link.toJson

def givesConditions : Update → Bool
  | rule _ _ changes => changes.conditions.toOption.isSome
  | settings .. => false

end Manage.Update

/-! ## Fields before and after -/

theorem Json.isSome_lookup {members : List (String × Json)} {name : String} :
    (lookup members name).isSome = true ↔ name ∈ members.map (·.1) := by
  rw [lookup, Option.isSome_map, List.find?_isSome, List.mem_map]
  simp only [beq_iff_eq]

/-- An entry has the fields `old` of a row before and the fields `new` after. -/
structure AuditEntry.Records (e : AuditEntry) (old new : List (String × Json))
    (row : Json) : Prop where
  before : ∀ name, e.oldValue.get? name = (Json.lookup old name).map Json.settled
  after : ∀ name, e.newValue.get? name = (Json.lookup new name).map Json.settled
  found : ∀ name ∈ old.map (·.1),
    (Json.lookup old name).map Json.settled = row.get? name

namespace AuditEntry.Records

variable {e : AuditEntry} {old new : List (String × Json)} {row row' : Json}

/-- Such an entry covers the change when no field comes after and not before. -/
theorem covers_iff_subset (h : e.Records old new row) :
    e.Covers row ↔ ∀ name ∈ new.map (·.1), name ∈ old.map (·.1) := by
  constructor
  · intro hcovers name hname
    have hafter : (e.newValue.get? name).isSome = true := by
      rw [h.after, Option.isSome_map]
      exact Json.isSome_lookup.mpr hname
    obtain ⟨hsome, hsame⟩ := hcovers name hafter
    rw [← hsame, h.before, Option.isSome_map] at hsome
    exact Json.isSome_lookup.mp hsome
  · intro hsub name hsome
    rw [h.after, Option.isSome_map] at hsome
    have hname := hsub name (Json.isSome_lookup.mp hsome)
    rw [h.before, h.found name hname, ← h.found name hname, Option.isSome_map]
    exact ⟨Json.isSome_lookup.mpr hname, rfl⟩

/-- Written back, it gives a field of the row unless the change reached the
field and the entry does not have it. -/
theorem restored_eq (h : e.Records old new row) {name : String}
    (hothers : name ∉ old.map (·.1) → row'.get? name = row.get? name) :
    e.restored row' name = row.get? name := by
  rw [restored, h.before]
  by_cases hname : name ∈ old.map (·.1)
  · have hsome := Json.isSome_lookup.mpr hname
    rw [← h.found name hname, Option.or_of_isSome (by rwa [Option.isSome_map])]
  · have hnone : Json.lookup old name = none := by
      rw [← Option.not_isSome_iff_eq_none, Json.isSome_lookup]
      exact hname
    rw [hnone]
    exact hothers hname

end AuditEntry.Records

/-- A row keeps its fields under all names but some. -/
theorem Json.lookup_congr {members members' : List (String × Json)} {name : String}
    (h : List.Forall₂ (fun m m' => m'.1 = m.1 ∧ (m.1 = name → m'.2 = m.2))
      members members') : lookup members' name = lookup members name := by
  induction h with
  | nil => rfl
  | @cons m m' rest rest' hm _ ih =>
      obtain ⟨hname, hvalue⟩ := hm
      rw [lookup, lookup, List.find?_cons, List.find?_cons, hname]
      cases hfound : m.1 == name with
      | false => exact ih
      | true => exact congrArg some (hvalue (beq_iff_eq.mp hfound))

theorem lookup_state {r : Rule} (hname : Text.isWellFormed r.name.toList = true)
    (htarget : Text.isWellFormed r.targetUrl.toList = true) {name : String}
    (h : name ∈ (Manage.state r).map (·.1)) :
    (Json.lookup (Manage.state r) name).map Json.settled = r.toJson.get? name := by
  simp only [Manage.state, List.map_cons, List.map_nil, List.mem_cons,
    List.not_mem_nil, or_false] at h
  obtain rfl | rfl | rfl | rfl := h
  · exact congrArg some (Json.settled_text hname)
  · exact congrArg some (Json.settled_text htarget)
  · rfl
  · rfl

theorem lookup_settings {l : Link}
    (hurl : ∀ t ∈ l.defaultUrl, Text.isWellFormed t.toList = true)
    {name : String} (h : name ∈ l.settings.map (·.1)) :
    (Json.lookup l.settings name).map Json.settled = l.toJson.get? name := by
  simp only [Link.settings, List.map_cons, List.map_nil, List.mem_cons,
    List.not_mem_nil, or_false] at h
  obtain rfl | rfl := h
  · rfl
  · exact congrArg some (Json.settled_ofText? hurl)

/-- Changes are seen in the fields that the trail has of a rule, in the moment
of the last change, and in the conditions if they give some. -/
theorem get?_withChanges {changes : RuleChanges} {r : Rule} {now : Clock}
    {name : String} (hname : name ∉ (Manage.state r).map (·.1))
    (hmoment : name ≠ "updated_at")
    (hconditions : name = "conditions" → changes.conditions.toOption = none) :
    (r.withChanges changes now).toJson.get? name = r.toJson.get? name := by
  simp only [Manage.state, List.map_cons, List.map_nil, List.mem_cons,
    List.not_mem_nil, or_false, not_or] at hname
  obtain ⟨h₁, h₂, h₃, h₄⟩ := hname
  refine Json.lookup_congr ?_
  simp only [List.forall₂_cons, List.forall₂_nil_left_iff, true_and, and_true]
  refine ⟨fun _ => rfl, fun _ => rfl, fun h => absurd h.symm h₁,
    fun h => absurd h.symm h₂, fun h => absurd h.symm h₃,
    fun h => absurd h.symm h₄, fun h => ?_, fun _ => rfl, fun _ => rfl,
    fun h => absurd h.symm hmoment⟩
  rw [Rule.withChanges, hconditions h.symm]
  rfl

theorem get?_withSettings {given : LinkSettings} {l : Link} {name : String}
    (hname : name ∉ l.settings.map (·.1)) :
    (l.withSettings given).toJson.get? name = l.toJson.get? name := by
  simp only [Link.settings, List.map_cons, List.map_nil, List.mem_cons,
    List.not_mem_nil, or_false, not_or] at hname
  obtain ⟨h₁, h₂⟩ := hname
  refine Json.lookup_congr ?_
  simp only [List.forall₂_cons, List.forall₂_nil_left_iff, true_and, and_true]
  exact ⟨fun _ => rfl, fun _ => rfl, fun _ => rfl, fun _ => rfl, fun _ => rfl,
    fun h => absurd h.symm h₁, fun h => absurd h.symm h₂, fun _ => rfl,
    fun _ => rfl⟩

/-! ## Names of what is given -/

namespace Given

variable {α : Type} {name x : String} {f : α → Json}

theorem mem_named (given : Given α) :
    x ∈ (given.named name f).map (·.1) ↔
      x = name ∧ given.toOption.isSome = true := by
  cases given <;> simp [named, toOption]

theorem named_sublist (given : Given α) :
    ((given.named name f).map (·.1)).Sublist [name] := by
  cases given <;> simp [named]

theorem namedOrNull_sublist (given : Given α) :
    ((given.namedOrNull name f).map (·.1)).Sublist [name] := by
  cases given <;> simp [namedOrNull]

end Given

/-- The names under which changes are recorded. -/
theorem RuleChanges.names_toStorage (changes : RuleChanges) :
    (changes.toStorage.map (·.1)).Sublist
      ["name", "target_url", "priority", "is_active", "conditions"] := by
  simp only [toStorage, List.map_append]
  exact ((((changes.name.named_sublist.append changes.targetUrl.named_sublist).append
    changes.priority.named_sublist).append changes.isActive.named_sublist).append
    changes.conditions.named_sublist)

theorem LinkSettings.names_changes (given : LinkSettings) :
    (given.changes.map (·.1)).Sublist ["is_smart_routing", "default_url"] := by
  simp only [changes, List.map_append]
  exact given.isSmartRouting.named_sublist.append given.defaultUrl.namedOrNull_sublist

/-- Only conditions are recorded after a change and not before it. -/
theorem RuleChanges.names_subset_state (changes : RuleChanges) (r : Rule) :
    (∀ name ∈ changes.toStorage.map (·.1), name ∈ (Manage.state r).map (·.1)) ↔
      changes.conditions.toOption.isSome = false := by
  simp only [toStorage, List.map_append, List.mem_append, Given.mem_named,
    Manage.state, List.map_cons, List.map_nil, List.mem_cons, List.not_mem_nil,
    or_false]
  constructor
  · intro h
    by_contra hsome
    have hname := h "conditions" (.inr ⟨rfl, Bool.eq_true_of_not_eq_false hsome⟩)
    revert hname
    decide
  · rintro hnone name ((((h | h) | h) | h) | h)
    · exact .inl h.1
    · exact .inr (.inl h.1)
    · exact .inr (.inr (.inl h.1))
    · exact .inr (.inr (.inr h.1))
    · rw [hnone] at h
      cases h.2

theorem Audit.get?_of_sublist {members : List (String × Json)} {names : List String}
    (hsub : (members.map (·.1)).Sublist names) (hnodup : names.Nodup)
    (hnames : ∀ name ∈ names, name ∈ recordedNames) (name : String) :
    (sanitize members).settled.get? name =
      (Json.lookup members name).map Json.settled :=
  get?_sanitize_settled (hnodup.sublist hsub)
    (fun _ hm => hnames _ (hsub.subset (List.mem_map_of_mem hm))) name

/-- The entry of changes to a rule has the four fields. -/
theorem AuditEntry.records_state {e : AuditEntry} {r : Rule} {changes : RuleChanges}
    (hname : Text.isWellFormed r.name.toList = true)
    (htarget : Text.isWellFormed r.targetUrl.toList = true)
    (hbefore : e.oldValue = (Audit.sanitize (Manage.state r)).settled)
    (hafter : e.newValue = (Audit.sanitize changes.toStorage).settled) :
    e.Records (Manage.state r) changes.toStorage r.toJson where
  before := by
    rw [hbefore]
    exact Audit.get?_of_sublist (List.Sublist.refl _) (by simp [Manage.state])
      (by simp [Manage.state, recordedNames])
  after := by
    rw [hafter]
    exact Audit.get?_of_sublist changes.names_toStorage (by decide) (by decide)
  found _ hin := lookup_state hname htarget hin

/-- And that of settings the two. -/
theorem AuditEntry.records_settings {e : AuditEntry} {l : Link} {given : LinkSettings}
    (hurl : ∀ t ∈ l.defaultUrl, Text.isWellFormed t.toList = true)
    (hbefore : e.oldValue = (Audit.sanitize l.settings).settled)
    (hafter : e.newValue = (Audit.sanitize given.changes).settled) :
    e.Records l.settings given.changes l.toJson where
  before := by
    rw [hbefore]
    exact Audit.get?_of_sublist (List.Sublist.refl _) (by simp [Link.settings])
      (by simp [Link.settings, recordedNames])
  after := by
    rw [hafter]
    exact Audit.get?_of_sublist given.names_changes (by decide) (by decide)
  found _ hin := lookup_settings hurl hin

/-! ## Entries of updates -/

theorem Database.rule?_of_map {d d' : Database} {g : Rule → Rule}
    (hg : ∀ x, (g x).id = x.id) (hrules : d'.rules = d.rules.map g) (id : Int) :
    d'.rule? id = (d.rule? id).map g := by
  rw [rule?, hrules, List.find?_map, rule?]
  refine congrArg (Option.map g) (List.find?_congr fun x _ => ?_)
  show ((g x).id == id) = (x.id == id)
  rw [hg]

namespace Manage.Update

theorem linkEdit_id (u : Update) (now : Clock) (l : Link) :
    (u.linkEdit now l).id = l.id := by
  cases u with
  | rule => rfl
  | settings link given =>
      rw [linkEdit]
      split <;> rfl

/-- What is recorded of an update covers what it changed exactly when it gives
no conditions. And written back, it restores every field of the row but the
moment of its last change, and but the conditions if there are new ones. -/
theorem covers_iff (u : Update) {c : Caller} {s s' : Service} {e : AuditEntry}
    (hs : s.store.IsCandid) (hd : s.store.database.HasOctets)
    (h : s.update c u = (.ok (), s'))
    (he : s'.store.database.audit = s.store.database.audit ++ [e]) :
    ∃ row row', u.row? s.store.database = some row ∧
      u.row? s'.store.database = some row' ∧
      (e.Covers row ↔ u.givesConditions = false) ∧
      ∀ name, name ≠ "updated_at" →
        (name = "conditions" → u.givesConditions = false) →
        e.restored row' name = row.get? name := by
  obtain ⟨-, hedits⟩ := Service.edits_of_update hs h
  obtain ⟨after, hrun, hafter⟩ := Service.run_of_update hs h
  rw [hafter] at he
  cases u with
  | rule link id changes =>
      obtain ⟨⟨l, r⟩, hrun, -⟩ := Task.run_map_ok hrun
      obtain ⟨old, hfound, hbefore, hafter⟩ := updateRule_trail hs hrun he
      obtain ⟨hname, htarget⟩ := hd.rules old (Database.mem_of_rule? hfound)
      have hrecords := AuditEntry.records_state hname htarget hbefore hafter
      have hfound' : s'.store.database.rule? id =
          some (old.withChanges changes s.now) := by
        rw [Database.rule?_of_map (ignoresCount _ s.now).id hedits.rules, hfound,
          Option.map_some, ruleEdit, if_pos (Database.rule?_id hfound)]
      refine ⟨_, _, by rw [row?, hfound]; rfl, by rw [row?, hfound']; rfl,
        hrecords.covers_iff_subset.trans (changes.names_subset_state old), ?_⟩
      intro name hmoment hconditions
      refine hrecords.restored_eq fun hout => ?_
      exact get?_withChanges hout hmoment fun hc =>
        Option.not_isSome_iff_eq_none.mp (Bool.eq_false_iff.mp (hconditions hc))
  | settings link given =>
      obtain ⟨l, hrun, -⟩ := Task.run_map_ok hrun
      obtain ⟨old, hfound, hbefore, hafter⟩ := updateSettings_trail hs hrun he
      have hurl := hd.links old (Database.mem_of_link? hfound)
      have hrecords := AuditEntry.records_settings hurl hbefore hafter
      have hfound' : s'.store.database.link? link =
          some (old.withSettings given) := by
        rw [Database.link?_of_map (linkEdit_id _ s.now) hedits.links, hfound,
          Option.map_some, linkEdit, if_pos (Database.link?_id hfound)]
      have hcovers : e.Covers old.toJson :=
        hrecords.covers_iff_subset.mpr fun _ hname => given.names_changes.subset hname
      exact ⟨_, _, by rw [row?, hfound]; rfl, by rw [row?, hfound']; rfl,
        iff_of_true hcovers rfl, fun name _ _ => hrecords.restored_eq get?_withSettings⟩

end Manage.Update

namespace Manage

/-- The conditions of the rule make room for others. -/
def newCountry : Update :=
  .rule 1 1 ⟨.unset, .unset, .unset, .unset,
    .value ⟨.all, [.onAttribute .country .equals (.one "FR")]⟩⟩

/-- The entry of a change to the rule. -/
def entryOf (after : List (String × Json)) : AuditEntry :=
  .ofNote 2 ⟨0⟩ ⟨1, .ruleUpdated, 1,
    [("name", .str "sample"), ("target_url", .str "https://t.example.com"),
      ("priority", .int 0), ("is_active", .bool true)], after, ⟨none, none⟩⟩

/-- A new name is recorded with the one before it, and can be taken back. -/
theorem covers_newName :
    ∃ (s' : Service) (e : AuditEntry) (row row' : Json),
      Service.withRule.update Service.owner newName = (.ok (), s') ∧
      s'.store.database.audit = Service.withRule.store.database.audit ++ [e] ∧
      newName.row? Service.withRule.store.database = some row ∧
      newName.row? s'.store.database = some row' ∧
      e.Covers row ∧ row'.get? "name" = some (.str "renamed") ∧
      e.restored row' "name" = some (.str "sample") := by
  have hoctets : Service.withRule.store.database.HasOctets := by
    constructor
    · decide +kernel
    · decide +kernel
  have hok : Service.withRule.update Service.owner newName =
      (.ok (), (Service.withRule.update Service.owner newName).2) := by rfl
  have htrail : (Service.withRule.update Service.owner newName).2.store.database.audit =
      Service.withRule.store.database.audit ++ [entryOf [("name", .str "renamed")]] := by
    rfl
  obtain ⟨row, row', hrow, hrow', hcovers, hrestored⟩ :=
    newName.covers_iff isSound_withRule.isCandid hoctets hok htrail
  refine ⟨_, _, row, row', hok, htrail, hrow, hrow', hcovers.mpr rfl, ?_, ?_⟩
  · cases hrow'
    rfl
  · rw [hrestored "name" (by decide) (by decide)]
    cases hrow
    rfl

/-- New conditions are recorded, and the conditions before them are not. -/
theorem not_covers_newCountry :
    ∃ (s' : Service) (e : AuditEntry) (row : Json),
      Service.withRule.update Service.owner newCountry = (.ok (), s') ∧
      s'.store.database.audit = Service.withRule.store.database.audit ++ [e] ∧
      newCountry.row? Service.withRule.store.database = some row ∧
      (e.newValue.get? "conditions").isSome = true ∧
      e.oldValue.get? "conditions" = none ∧ ¬ e.Covers row := by
  have hok : (Service.withRule.update Service.owner newCountry).1 = .ok () := by rfl
  refine ⟨_, entryOf [("conditions", Conditions.toStorage
      ⟨.all, [.onAttribute .country .equals (.one "FR")]⟩)], _,
    Prod.ext hok rfl, rfl, rfl, rfl, rfl, fun hcovers => ?_⟩
  obtain ⟨-, hsame⟩ := hcovers "conditions" rfl
  cases hsame

end Manage

end Signpost
