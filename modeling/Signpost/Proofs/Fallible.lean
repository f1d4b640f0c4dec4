import Mathlib.Data.List.Forall2

/-!
# Functions that may fail

What is made of the result of such a function is there when the result is. A
function that fails on no item of a list gives a list of results, one for each
item and in the same order. What holds of every result of the function, or
links it to its item, therefore holds along the two lists.
-/

namespace Signpost

variable {α β ε : Type} {f : α → Except ε β}

theorem map_eq_ok_iff {γ : Type} {g : β → γ} {x : Except ε β} {c : γ} :
    x.map g = .ok c ↔ ∃ b, x = .ok b ∧ g b = c := by
  cases x <;> simp [Except.map]

/-- There is no result. -/
def Fails (x : Except ε β) : Prop :=
  ∃ e, x = .error e

theorem not_fails_ok {b : β} : ¬ Fails (.ok b : Except ε β) :=
  fun ⟨_, h⟩ => nomatch h

theorem fails_map {γ : Type} {g : β → γ} {x : Except ε β} :
    Fails (x.map g) ↔ Fails x := by
  cases x <;> simp [Except.map, Fails]

/-- A list is gone through unless the function fails on an item. -/
theorem fails_mapM {as : List α} : Fails (as.mapM f) ↔ ∃ a ∈ as, Fails (f a) := by
  induction as with
  | nil => exact iff_of_false not_fails_ok (fun ⟨_, h, _⟩ => nomatch h)
  | cons a rest ih =>
      rw [List.mapM_cons, List.exists_mem_cons_iff, ← ih]
      cases f a with
      | error e => exact iff_of_true ⟨e, rfl⟩ (.inl ⟨e, rfl⟩)
      | ok b =>
          refine Iff.trans ?_ (or_iff_right not_fails_ok).symm
          cases rest.mapM f with
          | error e => exact iff_of_true ⟨e, rfl⟩ ⟨e, rfl⟩
          | ok bs => exact iff_of_false not_fails_ok not_fails_ok

/-- Each item and its result. -/
theorem forall₂_of_mapM_ok : ∀ {as : List α} {bs : List β},
    as.mapM f = .ok bs → List.Forall₂ (fun a b => f a = .ok b) as bs := by
  intro as
  induction as with
  | nil =>
      intro bs h
      rw [List.mapM_nil] at h
      cases h
      exact .nil
  | cons a rest ih =>
      intro bs h
      rw [List.mapM_cons] at h
      cases ha : f a with
      | error e => rw [ha] at h; cases h
      | ok b =>
          cases hrest : rest.mapM f with
          | error e => rw [ha, hrest] at h; cases h
          | ok more =>
              rw [ha, hrest] at h
              cases h
              exact .cons ha (ih hrest)

theorem mapM_eq_some_iff {g : α → Option β} : ∀ {as : List α} {bs : List β},
    as.mapM g = some bs ↔ List.Forall₂ (fun a b => g a = some b) as bs := by
  intro as
  induction as with
  | nil =>
      intro bs
      rw [List.mapM_nil, List.forall₂_nil_left_iff]
      exact ⟨fun h => (Option.some.inj h).symm, fun h => congrArg some h.symm⟩
  | cons a rest ih =>
      intro bs
      rw [List.mapM_cons, List.forall₂_cons_left_iff]
      constructor
      · intro h
        obtain ⟨b, ha, h⟩ := Option.bind_eq_some_iff.mp h
        obtain ⟨more, hrest, h⟩ := Option.bind_eq_some_iff.mp h
        exact ⟨b, more, ha, ih.mp hrest, (Option.some.inj h).symm⟩
      · rintro ⟨b, more, ha, hrest, rfl⟩
        rw [ha, ih.mpr hrest]
        rfl

theorem exists_of_mapM_eq_some {g : α → Option β} {as : List α} {bs : List β}
    (h : as.mapM g = some bs) : ∀ a ∈ as, ∃ b, g a = some b := by
  have hall : List.Forall₂ (fun a b => (∃ c, g a = some c) ∧ g a = some b) as bs :=
    (mapM_eq_some_iff.mp h).imp fun a b hb => ⟨⟨b, hb⟩, hb⟩
  exact ((List.forall₂_and_left as bs).mp hall).1

theorem mapM_congr_of_mem {g k : α → Option β} {as : List α}
    (h : ∀ a ∈ as, g a = k a) : as.mapM g = as.mapM k := by
  induction as with
  | nil => rfl
  | cons a rest ih =>
      obtain ⟨ha, hrest⟩ := List.forall_mem_cons.mp h
      rw [List.mapM_cons, List.mapM_cons, ha, ih hrest]

/-- What every result is, every item of the list of results is. -/
theorem forall_of_mapM_ok {P : β → Prop} (hf : ∀ a b, f a = .ok b → P b)
    {as : List α} {bs : List β} (h : as.mapM f = .ok bs) : ∀ b ∈ bs, P b := by
  have hall := forall₂_of_mapM_ok h
  clear h
  induction hall with
  | nil => exact fun b hb => nomatch hb
  | cons ha _ ih => exact List.forall_mem_cons.mpr ⟨hf _ _ ha, ih⟩

/-- A list gone through by a function that keeps something of each item keeps
that of the whole list. -/
theorem map_of_mapM_ok {γ : Type} {g : β → γ} {k : α → γ}
    (hf : ∀ a b, f a = .ok b → g b = k a) {as : List α} {bs : List β}
    (h : as.mapM f = .ok bs) : bs.map g = as.map k := by
  have hall := forall₂_of_mapM_ok h
  clear h
  induction hall with
  | nil => rfl
  | cons ha _ ih => rw [List.map_cons, List.map_cons, hf _ _ ha, ih]

end Signpost
