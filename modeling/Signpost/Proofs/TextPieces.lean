import Mathlib
import Signpost.Text.Cut

/-!
# Text in pieces

A text is cut at a character, at its first occurrence, at its last one or at
all of them. The pieces hold the characters of the text but that one, and pieces without it are
found again when they are joined by it.
-/

namespace Signpost.Text

theorem eq_of_cutFirst {d : Char} {s before after : List Char}
    (h : cutFirst d s = some (before, after)) : s = before ++ d :: after := by
  induction s generalizing before with
  | nil => cases h
  | cons c rest ih =>
      rw [cutFirst] at h
      split at h
      · next hc =>
          cases h
          rw [hc]
          rfl
      · obtain ⟨⟨b, a⟩, hrest, hpair⟩ := Option.map_eq_some_iff.mp h
        cases hpair
        rw [ih hrest]
        rfl

theorem cutFirst_append {d : Char} {before : List Char} (after : List Char)
    (h : d ∉ before) : cutFirst d (before ++ d :: after) = some (before, after) := by
  induction before with
  | nil => exact if_pos rfl
  | cons c rest ih =>
      rw [List.mem_cons, not_or] at h
      rw [List.cons_append, cutFirst, if_neg (Ne.symm h.1), ih h.2]
      rfl

theorem cutFirst_of_not_mem {d : Char} {s : List Char} (h : d ∉ s) :
    cutFirst d s = none := by
  cases hcut : cutFirst d s with
  | none => rfl
  | some parts =>
      rw [eq_of_cutFirst hcut] at h
      simp at h

theorem cutLast_of_not_mem {d : Char} {s : List Char} (h : d ∉ s) :
    cutLast d s = none := by
  induction s with
  | nil => rfl
  | cons c rest ih =>
      rw [List.mem_cons, not_or] at h
      rw [cutLast, ih h.2]
      exact if_neg (Ne.symm h.1)

theorem afterLast_of_not_mem {d : Char} {s : List Char} (h : d ∉ s) :
    afterLast d s = s := by
  rw [afterLast, cutLast_of_not_mem h]

theorem afterLast_append {d : Char} (before : List Char) {after : List Char}
    (h : d ∉ after) : afterLast d (before ++ d :: after) = after := by
  have hcut : cutLast d (before ++ d :: after) = some (before, after) := by
    induction before with
    | nil =>
        rw [List.nil_append, cutLast, cutLast_of_not_mem h]
        exact if_pos rfl
    | cons c rest ih => rw [List.cons_append, cutLast, ih]
  rw [afterLast, hcut]

theorem beforeFirst_of_not_mem {d : Char} {s : List Char} (h : d ∉ s) :
    beforeFirst d s = s := by
  rw [beforeFirst, List.takeWhile_eq_self_iff]
  intro c hc
  rw [bne_iff_ne]
  rintro rfl
  exact h hc

theorem beforeFirst_append {d : Char} {before : List Char} (after : List Char)
    (h : d ∉ before) : beforeFirst d (before ++ d :: after) = before := by
  have hself := beforeFirst_of_not_mem h
  rw [beforeFirst, List.takeWhile_eq_self_iff] at hself
  rw [beforeFirst, List.takeWhile_append_of_pos hself, List.takeWhile_cons_of_neg (by simp),
    List.append_nil]

theorem pieces_eq_splitOn (d : Char) (s : List Char) :
    pieces d s = s.splitOn d := by
  induction s with
  | nil => rfl
  | cons c rest ih =>
      rw [pieces, List.splitOn_cons_eq_if_modifyHead, ih]
      by_cases hc : c = d
      · rw [if_pos hc, if_pos (by simp [hc])]
      · rw [if_neg hc, if_neg (by simp [hc])]
        cases hs : rest.splitOn d with
        | nil => exact absurd hs (List.splitOn_ne_nil d rest)
        | cons p more => rfl

theorem pieces_ne_nil (d : Char) (s : List Char) : pieces d s ≠ [] := by
  rw [pieces_eq_splitOn]
  exact List.splitOn_ne_nil d s

theorem pieces_of_not_mem {d : Char} {s : List Char} (h : d ∉ s) :
    pieces d s = [s] := by
  rw [pieces_eq_splitOn]
  exact List.splitOn_eq_singleton h

/-- A delimiter parts the pieces before it from those behind it. -/
theorem pieces_append_cons (d : Char) (s rest : List Char) :
    pieces d (s ++ d :: rest) = pieces d s ++ pieces d rest := by
  simp only [pieces_eq_splitOn, List.splitOn_append_cons_self]

theorem pieces_concat (d : Char) (s : List Char) :
    pieces d (s ++ [d]) = pieces d s ++ [[]] :=
  pieces_append_cons d s []

theorem pieces_append {d : Char} (p rest : List Char) (h : d ∉ p) :
    pieces d (p ++ d :: rest) = p :: pieces d rest := by
  rw [pieces_append_cons, pieces_of_not_mem h]
  rfl

theorem joinWith_cons_cons (separator p q : List Char) (more : List (List Char)) :
    joinWith separator (p :: q :: more) =
      p ++ separator ++ joinWith separator (q :: more) :=
  rfl

theorem mem_joinWith {d c : Char} {ps : List (List Char)} (h : c ∈ joinWith [d] ps) :
    c = d ∨ ∃ p ∈ ps, c ∈ p := by
  induction ps with
  | nil => cases h
  | cons p rest ih =>
      cases rest with
      | nil => exact .inr ⟨p, List.mem_singleton_self p, h⟩
      | cons q more =>
          rw [joinWith_cons_cons, List.mem_append, List.mem_append, List.mem_singleton] at h
          rcases h with (h | h) | h
          · exact .inr ⟨p, List.mem_cons_self, h⟩
          · exact .inl h
          · refine (ih h).imp_right ?_
            rintro ⟨r, hr, hc⟩
            exact ⟨r, List.mem_cons_of_mem _ hr, hc⟩

/-- Pieces without the delimiter are found again when they are joined by it. -/
theorem pieces_joinWith {d : Char} {ps : List (List Char)} (hne : ps ≠ [])
    (h : ∀ p ∈ ps, d ∉ p) : pieces d (joinWith [d] ps) = ps := by
  induction ps with
  | nil => exact absurd rfl hne
  | cons p rest ih =>
      obtain ⟨hp, hrest⟩ := List.forall_mem_cons.mp h
      cases rest with
      | nil => exact pieces_of_not_mem hp
      | cons q more =>
          rw [joinWith, List.append_assoc, List.singleton_append, pieces_append _ _ hp,
            ih (List.cons_ne_nil q more) hrest]
          simp

theorem joinWith_pieces (d : Char) (s : List Char) : joinWith [d] (pieces d s) = s := by
  induction s with
  | nil => rfl
  | cons c rest ih =>
      obtain ⟨p, more, hp⟩ := List.exists_cons_of_ne_nil (pieces_ne_nil d rest)
      rw [pieces, hp]
      rw [hp] at ih
      by_cases hc : c = d
      · rw [if_pos hc, joinWith, ih, hc]
        · rfl
        · exact List.cons_ne_nil p more
      · rw [if_neg hc]
        cases more with
        | nil => exact congrArg (c :: ·) ih
        | cons q others => exact congrArg (c :: ·) ih

/-- Each character of a text is the delimiter or lies in a piece. -/
theorem mem_iff_mem_pieces {d c : Char} : ∀ {s : List Char},
    c ∈ s → c = d ∨ ∃ p ∈ pieces d s, c ∈ p := by
  intro s hc
  induction s with
  | nil => cases hc
  | cons x rest ih =>
      rw [pieces]
      split
      · next hx =>
          rcases List.mem_cons.mp hc with rfl | hc
          · exact .inl hx
          · refine (ih hc).imp_right ?_
            rintro ⟨p, hp, hcp⟩
            exact ⟨p, List.mem_cons_of_mem _ hp, hcp⟩
      · cases hp : pieces d rest with
        | nil => exact absurd hp (pieces_ne_nil d rest)
        | cons first others =>
            rcases List.mem_cons.mp hc with rfl | hc
            · exact .inr ⟨c :: first, by simp, by simp⟩
            · rw [hp] at ih
              refine (ih hc).imp_right ?_
              rintro ⟨p, hmem, hcp⟩
              rcases List.mem_cons.mp hmem with rfl | hmem
              · exact ⟨x :: p, by simp, by simp [hcp]⟩
              · exact ⟨p, by simp [hmem], hcp⟩

/-- A piece holds characters of the text. -/
theorem mem_of_mem_pieces {d c : Char} {p : List Char} : ∀ {s : List Char},
    p ∈ pieces d s → c ∈ p → c ∈ s := by
  intro s hp hc
  induction s generalizing p with
  | nil =>
      rw [List.mem_singleton.mp hp] at hc
      cases hc
  | cons x rest ih =>
      rw [pieces] at hp
      split at hp
      · rcases List.mem_cons.mp hp with rfl | hp
        · cases hc
        · exact List.mem_cons_of_mem _ (ih hp hc)
      · cases hs : pieces d rest with
        | nil => exact absurd hs (pieces_ne_nil d rest)
        | cons first others =>
            rw [hs] at hp ih
            rcases List.mem_cons.mp hp with rfl | hp
            · rcases List.mem_cons.mp hc with rfl | hc
              · exact List.mem_cons_self
              · exact List.mem_cons_of_mem _ (ih List.mem_cons_self hc)
            · exact List.mem_cons_of_mem _
                (ih (List.mem_cons_of_mem _ hp) hc)

end Signpost.Text
