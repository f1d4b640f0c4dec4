import Mathlib
import Signpost.Proofs.JsonSettled
import Signpost.Proofs.Fallible
import Signpost.Template

/-!
# What is stored of conditions that passed their check

A checked condition names days of the week by numbers of the week, so its
document is exact: no number in it is too long to be read again. However it
was put together, a document of checked conditions is at most five levels
high. Conditions reach the store in three ways, with a rule, with changes to
one and from a template, and all three give such documents.
-/

namespace Signpost

namespace Check

variable {α : Type} {r : Record} {name : String} {rule : Rule α} {a : α}

/-- A field that has to be there passes where its rule does. -/
theorem Record.of_required (h : r.required name rule = .passed a) :
    ∃ path j, rule path j = .passed a := by
  rw [required] at h
  split at h
  · exact ⟨_, _, h⟩
  · cases h

theorem Record.of_given (h : r.given name rule = .passed (.value a)) :
    ∃ path j, rule path j = .passed a := by
  rw [given, optional] at h
  split at h
  · unfold Given.rule at h
    split at h
    · cases h
    · obtain ⟨a', hrule, ha⟩ := Checked.map_eq_passed.mp h
      cases ha
      exact ⟨_, _, hrule⟩
  · cases h

end Check

namespace Condition

variable {source : Check.Source} {path : List Check.Step} {j : Json}

theorem isExact_of_day {d : Day} (h : day j = .ok d) : d.toJson.IsExact := by
  cases d with
  | numeral s => trivial
  | number n =>
      unfold day at h
      split at h
      · cases h
      · next found i hparse =>
          cases h
          rw [Day.parse] at hparse
          simp only [Except.ok.injEq, Option.ite_none_right_eq_some] at hparse
          exact Json.isExact_int_of_lt (by omega)
      · cases h
      · cases h

theorem isExact_of_daysOperand {days : OneOrMany Day}
    (h : daysOperand j = .ok days) : (days.toJson Day.toJson).IsExact := by
  have hone : ∀ {j : Json}, (day j).map .one = .ok days →
      (days.toJson Day.toJson).IsExact := by
    intro j hj
    obtain ⟨d, hd, rfl⟩ := map_eq_ok_iff.mp hj
    exact isExact_of_day hd
  unfold daysOperand at h
  split at h
  · cases h
  · next items _ =>
      obtain ⟨ds, hds, rfl⟩ := map_eq_ok_iff.mp h
      refine Json.itemsExact_iff.mpr fun x hx => ?_
      obtain ⟨d, hd, rfl⟩ := List.mem_map.mp hx
      exact forall_of_mapM_ok (fun _ _ => isExact_of_day) hds d hd
  · exact hone h

theorem isExact_texts (expected : OneOrMany String) :
    (expected.toJson .str).IsExact := by
  cases expected with
  | one s => trivial
  | many texts =>
      refine Json.itemsExact_iff.mpr fun x hx => ?_
      obtain ⟨s, -, rfl⟩ := List.mem_map.mp hx
      trivial

theorem isExact_timeRange (t : TimeRange) : t.toStorage.IsExact := by
  rw [TimeRange.toStorage]
  cases t.finish <;> cases t.zone <;> exact ⟨trivial, by trivial⟩

theorem isExact_document {c : Condition} (h : c.storedOperand.IsExact) :
    c.toStorage.IsExact :=
  ⟨trivial, trivial, h, trivial⟩

theorem isExact_of_build {kind : Kind} {op : Operator} {c : Condition}
    (h : build kind op j = .ok c) : c.toStorage.IsExact := by
  apply isExact_document
  unfold build at h
  split at h
  · obtain ⟨t, -, rfl⟩ := map_eq_ok_iff.mp h
    exact isExact_timeRange t
  · obtain ⟨days, hdays, rfl⟩ := map_eq_ok_iff.mp h
    exact isExact_of_daysOperand hdays
  · split at h
    all_goals
      obtain ⟨expected, -, rfl⟩ := map_eq_ok_iff.mp h
      exact isExact_texts expected

theorem isExact_of_check {c : Condition}
    (h : check source path j = .passed c) : c.toStorage.IsExact := by
  obtain ⟨r, -, h⟩ := Check.Checked.andThen_eq_passed.mp h
  dsimp only at h
  split at h
  · next k op _ _ =>
      obtain ⟨path, value, h⟩ := Check.Record.of_required h
      obtain ⟨_, hvalue, h⟩ := Check.Checked.andThen_eq_passed.mp h
      cases hvalue
      split at h
      · next c' hbuild =>
          cases h
          exact isExact_of_build hbuild
      · cases h
  · cases h

theorem height_toJson_le {α : Type} {f : α → Json} (hf : ∀ a, (f a).height = 1)
    (x : OneOrMany α) : (x.toJson f).height ≤ 2 := by
  cases x with
  | one a => rw [OneOrMany.toJson, hf]; decide
  | many as =>
      refine Nat.succ_le_succ (Json.heightOfItems_le_iff.mpr fun j hj => ?_)
      obtain ⟨a, -, rfl⟩ := List.mem_map.mp hj
      exact Nat.le_of_eq (hf a)

theorem height_toStorage (c : Condition) : c.toStorage.height ≤ 3 := by
  have hoperand : c.storedOperand.height ≤ 2 := by
    cases c with
    | onAttribute a op expected => exact height_toJson_le (fun _ => rfl) _
    | onTime op t =>
        rw [storedOperand, TimeRange.toStorage]
        cases t.finish <;> cases t.zone <;> exact Nat.le_refl 2
    | onDayOfWeek op days =>
        refine height_toJson_le (fun d => ?_) days
        cases d <;> rfl
  refine Nat.succ_le_succ (Json.heightOfMembers_le_iff.mpr ?_)
  simp only [List.forall_mem_cons, List.not_mem_nil, false_imp_iff,
    implies_true, and_true]
  have hflat : 1 ≤ 2 := by decide
  exact ⟨hflat, hflat, hoperand⟩

end Condition

namespace Conditions

theorem isExact_of_items {c : Conditions}
    (h : ∀ x ∈ c.items, x.toStorage.IsExact) : c.toStorage.IsExact := by
  refine ⟨trivial, Json.itemsExact_iff.mpr fun j hj => ?_, trivial⟩
  obtain ⟨x, hx, rfl⟩ := List.mem_map.mp hj
  exact h x hx

/-- The items of a list that passed its check passed theirs. -/
theorem check_of_itemsRule {source : Check.Source} {path : List Check.Step}
    {j : Json} {items : List Condition}
    (h : itemsRule source path j = .passed items) :
    ∀ x ∈ items, ∃ path j, Condition.check source path j = .passed x := by
  unfold itemsRule at h
  split at h
  · next found =>
      dsimp only at h
      split at h
      · cases h
      · split at h
        · have hresults := Check.Checked.all_eq_passed.mp h
          intro x hx
          have hpassed : .passed x ∈ items.map Check.Checked.passed :=
            List.mem_map_of_mem hx
          rw [← hresults] at hpassed
          obtain ⟨⟨item, i⟩, -, hcheck⟩ := List.mem_map.mp hpassed
          exact ⟨_, _, hcheck⟩
        · cases h
  · cases h

/-- Conditions that passed their check are stored as an exact document. -/
theorem isExact_of_check {source : Check.Source} {path : List Check.Step}
    {j : Json} {c : Conditions} (h : check source path j = .passed c) :
    c.toStorage.IsExact := by
  obtain ⟨r, -, h⟩ := Check.Checked.andThen_eq_passed.mp h
  obtain ⟨_, items, hop, hitems, rfl⟩ := Check.Checked.seq_eq_passed.mp h
  obtain ⟨op, -, rfl⟩ := Check.Checked.map_eq_passed.mp hop
  obtain ⟨path, j, hitems⟩ := Check.Record.of_required hitems
  refine isExact_of_items fun x hx => ?_
  obtain ⟨path, j, hcheck⟩ := check_of_itemsRule hitems x hx
  exact Condition.isExact_of_check hcheck

/-- The document of conditions is never high. -/
theorem height_toStorage (c : Conditions) : c.toStorage.height ≤ 5 := by
  refine Nat.succ_le_succ (Json.heightOfMembers_le_iff.mpr ?_)
  simp only [List.forall_mem_cons, List.not_mem_nil, false_imp_iff,
    implies_true, and_true]
  have hflat : 1 ≤ 4 := by decide
  refine ⟨hflat, Nat.succ_le_succ (Json.heightOfItems_le_iff.mpr ?_)⟩
  intro j hj
  obtain ⟨x, -, rfl⟩ := List.mem_map.mp hj
  exact x.height_toStorage

end Conditions

/-! ## The three ways to the store -/

/-- The conditions of a draft that passed its check. -/
theorem RuleDraft.isExact_of_check {source : Check.Source}
    {path : List Check.Step} {j : Json} {d : RuleDraft}
    (h : check source path j = .passed d) : d.conditions.toStorage.IsExact := by
  obtain ⟨r, -, h⟩ := Check.Checked.andThen_eq_passed.mp h
  simp only [Check.Checked.seq_eq_passed, Check.Checked.map_eq_passed] at h
  obtain ⟨_, c, ⟨_, _, ⟨_, _, ⟨_, _, ⟨_, -, rfl⟩, -, rfl⟩, -, rfl⟩, -, rfl⟩,
    hc, rfl⟩ := h
  obtain ⟨path, j, hcheck⟩ := Check.Record.of_required hc
  exact Conditions.isExact_of_check hcheck

/-- The conditions of changes that passed their check passed theirs. -/
theorem RuleChanges.conditions_of_check {source : Check.Source}
    {path : List Check.Step} {j : Json} {changes : RuleChanges} {c : Conditions}
    (h : check source path j = .passed changes)
    (hc : changes.conditions = .value c) :
    ∃ path j, Conditions.check source path j = .passed c := by
  obtain ⟨r, -, h⟩ := Check.Checked.andThen_eq_passed.mp h
  simp only [Check.Checked.seq_eq_passed, Check.Checked.map_eq_passed] at h
  obtain ⟨_, given, ⟨_, _, ⟨_, _, ⟨_, _, ⟨_, -, rfl⟩, -, rfl⟩, -, rfl⟩, -, rfl⟩,
    hgiven, rfl⟩ := h
  obtain rfl : given = .value c := hc
  exact Check.Record.of_given hgiven

/-- The conditions of changes that passed their check are stored as an exact
document. -/
theorem RuleChanges.isExact_of_check {source : Check.Source}
    {path : List Check.Step} {j : Json} {changes : RuleChanges}
    (h : check source path j = .passed changes) :
    ∀ c ∈ changes.conditions.toOption, c.toStorage.IsExact := by
  cases hc : changes.conditions with
  | value c =>
      rintro _ ⟨⟩
      obtain ⟨path, j, hcheck⟩ := conditions_of_check h hc
      exact Conditions.isExact_of_check hcheck
  | null => exact fun c hc => nomatch hc
  | unset => exact fun c hc => nomatch hc

/-- The conditions of a template. -/
theorem Template.isExact_of_find? {key : String} {t : Template}
    (h : find? key = some t) : t.conditions.toStorage.IsExact := by
  have hall : ∀ t ∈ catalogue, t.conditions.toStorage.IsExact := by
    simp only [catalogue, List.forall_mem_cons, List.not_mem_nil,
      false_imp_iff, implies_true, and_true]
    simp [Conditions.toStorage, Condition.toStorage, Condition.document,
      Condition.storedOperand, Condition.operand, TimeRange.toStorage, compares,
      OneOrMany.toJson, Day.toJson, Json.IsExact, Json.MembersExact,
      Json.ItemsExact]
  exact hall t (List.mem_of_find?_eq_some h)

/-- The conditions of a draft that a template gives are the template's. -/
theorem Template.conditions_of_draft {t : Template} {use : TemplateUse}
    {d : RuleDraft} (h : t.draft use = .passed d) :
    d.conditions = t.conditions := by
  obtain ⟨_, c, hrest, hc, rfl⟩ := Check.Checked.seq_eq_passed.mp h
  simp only [Check.Checked.seq_eq_passed, Check.Checked.map_eq_passed] at hrest
  obtain ⟨_, _, ⟨_, _, ⟨_, _, ⟨_, -, rfl⟩, -, rfl⟩, -, rfl⟩, -, rfl⟩ := hrest
  cases hc
  rfl

end Signpost
