import Signpost.Condition.Stored

/-!
# What can be loaded from storage

Loading is meant to make something of every document. It does, but for two
kinds of them, and this file says which. A text that is nested too deep is not
read at all. And an object whose conditions are a number other than zero, or
true, is neither a checked document nor one whose items could be gone through:
what counts as nothing is taken for an empty list, a text and an object have
their characters and names gone through, but a number has nothing in it.

`load_fails_iff` puts this as one condition on the document, and everything
that reads stored rules takes it from there.
-/

namespace Signpost

namespace Conditions

/-- Checked conditions come from an object that lists them. -/
theorem listed_of_check {source : Check.Source} {path : List Check.Step}
    {j : Json} {c : Conditions} (h : check source path j = .passed c) :
    ∃ members items, j = .obj members ∧
      Json.lookup members "conditions" = some (.arr items) := by
  cases j with
  | obj members =>
      rw [check, Check.Source.openRecord, Check.Checked.andThen,
        Check.Checked.seq_eq_passed] at h
      obtain ⟨-, items, -, hitems, -⟩ := h
      rw [Check.Record.required] at hitems
      split at hitems
      · next j hlookup =>
          cases j with
          | arr items => exact ⟨members, items, rfl, hlookup⟩
          | _ => simp [itemsRule, Check.Checked.fault] at hitems
      · simp [Check.Checked.fault] at hitems
  | _ => simp [check, Check.Source.openRecord, Check.Checked.fault,
      Check.Checked.andThen] at h

end Conditions

namespace StoredConditions

/-- A number other than zero, or true: it says something, and there is nothing
in it to go through. -/
def Unlisted (j : Json) : Prop :=
  j = .bool true ∨ (∃ i, i ≠ 0 ∧ j = .int i) ∨
    ∃ x, x.isZero = false ∧ j = .float x

theorem itemsOf_fails_iff {j : Json} :
    (∃ u, itemsOf j = .error u) ↔ Unlisted j := by
  rw [Unlisted]
  cases j with
  | bool b => cases b <;> simp [itemsOf, Json.isTruthy]
  | int i => by_cases h : i = 0 <;> simp [itemsOf, Json.isTruthy, h]
  | float x => cases h : x.isZero <;> simp [itemsOf, Json.isTruthy, h]
  | str s => by_cases h : s = "" <;> simp [itemsOf, Json.isTruthy, h]
  | octets bytes => cases bytes <;> simp [itemsOf, Json.isTruthy]
  | arr items => cases items <;> simp [itemsOf, Json.isTruthy]
  | obj members => cases members <;> simp [itemsOf, Json.isTruthy]
  | null => simp [itemsOf, Json.isTruthy]

/-- The document that is stored: the one that a text writes, null for a text
that writes none, and any other as it is. -/
def document (j : Json) : Except Json.Nest Json :=
  match j with
  | .str s => Json.orNull (Json.read s.toList)
  | .octets bytes => Json.orNull (Json.readOctets bytes)
  | _ => .ok j

/-- Nothing can be loaded from what is stored: it is a text nested too deep to
be read, or an object with a number or a truth value for its conditions. -/
def Unloads (j : Json) : Prop :=
  (∃ nest, document j = .error nest) ∨
    ∃ members, document j = .ok (.obj members) ∧
      Unlisted ((Json.obj members).getD "conditions")

theorem load_eq (j : Json) :
    load j = match document j with
      | .ok d => loadDocument d
      | .error nest => .error (.tooDeep nest) := by
  cases j <;> rfl

theorem loadDocument_fails_iff {j : Json} :
    (∃ u, loadDocument j = .error u) ↔
      ∃ members, j = .obj members ∧ Unlisted (j.getD "conditions") := by
  cases hc : Conditions.check .document [] j with
  | passed c =>
      obtain ⟨members, items, rfl, hlookup⟩ := Conditions.listed_of_check hc
      simp [loadDocument, hc, Json.getD, Json.get?, hlookup, Unlisted]
  | failed faults =>
      cases j with
      | obj members =>
          rw [← itemsOf_fails_iff]
          cases hi : itemsOf ((Json.obj members).getD "conditions") with
          | error u => simp [loadDocument, hc, hi, bind, Except.bind]
          | ok items => simp [loadDocument, hc, hi, bind, Except.bind]
      | _ => simp [loadDocument, hc]

/-- Loading makes something of every document but these. -/
theorem load_fails_iff {j : Json} : (∃ u, load j = .error u) ↔ Unloads j := by
  rw [load_eq, Unloads]
  cases h : document j with
  | error nest => simp
  | ok d =>
      rw [loadDocument_fails_iff]
      constructor
      · rintro ⟨members, rfl, hu⟩
        exact .inr ⟨members, rfl, hu⟩
      · rintro (⟨nest, hnest⟩ | ⟨members, hd, hu⟩)
        · cases hnest
        · cases hd
          exact ⟨members, rfl, hu⟩

theorem load_ok_of_not_unloads {j : Json} (h : ¬ Unloads j) :
    ∃ c, load j = .ok c := by
  cases hl : load j with
  | ok c => exact ⟨c, rfl⟩
  | error u => exact absurd (load_fails_iff.mp ⟨u, hl⟩) h

end StoredConditions

end Signpost
