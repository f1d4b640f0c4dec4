import Mathlib
import Signpost.Text.Blank

/-!
# Trimmed text

Trimming takes characters of a class from the ends of a text and nothing else.
What is left is part of the text, a character of another class is never lost,
and nothing is left to trim.
-/

namespace Signpost.Text

variable {drop : Char → Bool} {s : List Char} {c : Char}

theorem trimRightWhere_eq (drop : Char → Bool) (s : List Char) :
    trimRightWhere drop s = s.rdropWhile drop :=
  rfl

theorem trimWhere_eq (drop : Char → Bool) (s : List Char) :
    trimWhere drop s = (s.dropWhile drop).rdropWhile drop :=
  rfl

theorem trimWhere_trimWhere (drop : Char → Bool) (s : List Char) :
    trimWhere drop (trimWhere drop s) = trimWhere drop s := by
  have hleft : (trimWhere drop s).dropWhile drop = trimWhere drop s := by
    rw [trimWhere_eq]
    refine List.dropWhile_eq_self_iff.mpr fun hpos hdrop => ?_
    have hstart := List.rdropWhile_prefix drop (s.dropWhile drop)
    rw [hstart.getElem hpos] at hdrop
    exact List.dropWhile_get_zero_not drop s _ hdrop
  rw [trimWhere_eq drop (trimWhere drop s), hleft, trimWhere_eq,
    List.rdropWhile_idempotent]

theorem trimWhere_of_forall (h : ∀ c ∈ s, drop c = false) : trimWhere drop s = s := by
  rw [trimWhere_eq, List.dropWhile_eq_self_iff.mpr, List.rdropWhile_eq_self_iff.mpr]
  · intro hne
    rw [h _ (List.getLast_mem hne)]
    decide
  · intro hpos
    rw [h _ (List.getElem_mem hpos)]
    decide

theorem trimWhere_concat (h : drop c = true) : trimWhere drop (s ++ [c]) = trimWhere drop s := by
  rw [trimWhere_eq, trimWhere_eq, List.dropWhile_append]
  split
  · next hempty =>
      rw [List.isEmpty_iff.mp hempty, List.dropWhile_cons_of_pos h, List.dropWhile_nil]
  · exact List.rdropWhile_concat_pos _ _ _ h

/-- What stands behind characters of another class is trimmed at its right end
alone. -/
theorem trimWhere_append {front : List Char} (hne : front ≠ [])
    (h : ∀ c ∈ front, drop c = false) (s : List Char) :
    trimWhere drop (front ++ s) = front ++ trimRightWhere drop s := by
  induction s using List.reverseRecOn with
  | nil =>
      rw [List.append_nil, trimWhere_of_forall h]
      exact (List.append_nil front).symm
  | append_singleton s c ih =>
      cases hc : drop c with
      | true =>
          rw [← List.append_assoc, trimWhere_concat hc, ih, trimRightWhere_eq,
            trimRightWhere_eq, List.rdropWhile_concat_pos _ _ _ hc]
      | false =>
          have hlast : ¬ drop c = true := by simp [hc]
          obtain ⟨x, rest, rfl⟩ := List.exists_cons_of_ne_nil hne
          rw [trimWhere_eq, trimRightWhere_eq, List.cons_append,
            List.dropWhile_cons_of_neg (by simp [h x List.mem_cons_self]),
            ← List.cons_append, ← List.append_assoc,
            List.rdropWhile_concat_neg _ _ _ hlast,
            List.rdropWhile_concat_neg _ _ _ hlast, List.append_assoc]

/-! ## Characters that change -/

section Changing

variable {f : Char → List Char} (hfixed : ∀ c, drop c = true → f c = [c])
  (hkept : ∀ c, drop c = false → ∀ d ∈ f c, drop d = false) (hne : ∀ c, f c ≠ [])
include hfixed hkept hne

theorem dropWhile_flatMap (s : List Char) :
    (s.flatMap f).dropWhile drop = (s.dropWhile drop).flatMap f := by
  induction s with
  | nil => rfl
  | cons c rest ih =>
      cases hc : drop c with
      | true =>
          rw [List.flatMap_cons, hfixed c hc, List.singleton_append,
            List.dropWhile_cons_of_pos hc, List.dropWhile_cons_of_pos hc, ih]
      | false =>
          obtain ⟨d, more, hd⟩ := List.exists_cons_of_ne_nil (hne c)
          have hfirst : drop d = false := hkept c hc d (hd ▸ List.mem_cons_self)
          rw [List.dropWhile_cons_of_neg (by simp [hc]), List.flatMap_cons, hd,
            List.cons_append, List.dropWhile_cons_of_neg (by simp [hfirst])]

/-- A class may be trimmed before the characters of a text change or after, if
the class keeps its characters and gets no others. -/
theorem trimWhere_flatMap (s : List Char) :
    trimWhere drop (s.flatMap f) = (trimWhere drop s).flatMap f := by
  -- The right end is the left end of the reversed text, whose characters
  -- change to reversed texts.
  have hleft : ((s.dropWhile drop).reverse.flatMap (List.reverse ∘ f)).dropWhile drop =
      ((s.dropWhile drop).reverse.dropWhile drop).flatMap (List.reverse ∘ f) := by
    refine dropWhile_flatMap (fun c hc => ?_) (fun c hc d hd => ?_) (fun c => ?_) _
    · rw [Function.comp_apply, hfixed c hc, List.reverse_singleton]
    · exact hkept c hc d (List.mem_reverse.mp hd)
    · exact List.reverse_ne_nil_iff.mpr (hne c)
  rw [trimWhere, trimWhere, dropWhile_flatMap hfixed hkept hne, List.reverse_flatMap, hleft,
    List.reverse_flatMap]
  simp [Function.comp_def]

end Changing

/-! ## Characters -/

theorem mem_of_mem_dropWhile (h : c ∈ s.dropWhile drop) : c ∈ s :=
  (List.dropWhile_sublist drop).subset h

theorem mem_of_mem_trimRightWhere (h : c ∈ trimRightWhere drop s) : c ∈ s :=
  List.mem_reverse.mp (mem_of_mem_dropWhile (List.mem_reverse.mp h))

theorem mem_of_mem_trimWhere (h : c ∈ trimWhere drop s) : c ∈ s :=
  mem_of_mem_dropWhile (mem_of_mem_trimRightWhere h)

theorem dropWhile_congr {drop' : Char → Bool} (h : ∀ c ∈ s, drop c = drop' c) :
    s.dropWhile drop = s.dropWhile drop' := by
  induction s with
  | nil => rfl
  | cons c rest ih =>
      obtain ⟨hc, hrest⟩ := List.forall_mem_cons.mp h
      rw [List.dropWhile_cons, List.dropWhile_cons, hc, ih hrest]

/-- Two classes that agree on the characters of a text trim it alike. -/
theorem trimWhere_congr {drop' : Char → Bool} (h : ∀ c ∈ s, drop c = drop' c) :
    trimWhere drop s = trimWhere drop' s := by
  rw [trimWhere, trimWhere, dropWhile_congr h, dropWhile_congr]
  intro c hc
  exact h c (mem_of_mem_dropWhile (List.mem_reverse.mp hc))

theorem mem_dropWhile (drop : Char → Bool) (h : c ∈ s) :
    drop c = true ∨ c ∈ s.dropWhile drop := by
  rw [← List.takeWhile_append_dropWhile (p := drop) (l := s)] at h
  exact (List.mem_append.mp h).imp_left List.mem_takeWhile_imp

theorem mem_trimRightWhere (drop : Char → Bool) (h : c ∈ s) :
    drop c = true ∨ c ∈ trimRightWhere drop s :=
  (mem_dropWhile drop (List.mem_reverse.mpr h)).imp_right List.mem_reverse.mpr

theorem mem_trimWhere (drop : Char → Bool) (h : c ∈ s) :
    drop c = true ∨ c ∈ trimWhere drop s :=
  (mem_dropWhile drop h).elim .inl (mem_trimRightWhere drop)

end Signpost.Text
