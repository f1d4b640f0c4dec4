import Mathlib
import Signpost.Proofs.LowerCase
import Signpost.Proofs.TrimmedText

/-!
# Case and blanks

Blanks have no case. No character becomes a blank in lower or upper case, no
blank becomes anything else, and none hides a cased neighbour from a sigma. So
a text may be trimmed before its case is changed or after. The tables bear this
out: no range of theirs has a blank in it, which is checked range by range.

Lower case after upper case is lower case inside ASCII. Outside it need not be:
a sharp s is two letters once it has been in upper case.
-/

namespace Signpost.Text

/-! ## Blanks in the tables -/

/-- The blanks, as ranges of character numbers. -/
def blankRanges : List (Nat × Nat) :=
  [(0x09, 0x0D), (0x1C, 0x20), (0x85, 0x85), (0xA0, 0xA0), (0x1680, 0x1680),
    (0x2000, 0x200A), (0x2028, 0x2029), (0x202F, 0x202F), (0x205F, 0x205F),
    (0x3000, 0x3000)]

theorem isBlank_eq_inRanges (c : Char) : isBlank c = Case.inRanges blankRanges c.toNat := by
  rw [Bool.eq_iff_iff]
  simp only [isBlank, isSpace, Case.inRanges, blankRanges, List.any_cons, List.any_nil,
    Bool.or_eq_true, Bool.and_eq_true, decide_eq_true_eq, beq_iff_eq, Bool.or_false]
  omega

/-- Whether a range of character numbers has no blank in it. -/
def isBlankless (range : Nat × Nat) : Bool :=
  blankRanges.all fun (first, last) => range.2.blt first || last.blt range.1

/-- Whether a run neither moves a blank nor leads to one. -/
def Case.Run.isBlankless (r : Run) : Bool :=
  Text.isBlankless (r.first, r.last) &&
    Text.isBlankless ((r.first + r.shift).toNat, (r.last + r.shift).toNat)

theorem isBlankless_casedRanges : Case.casedRanges.all isBlankless = true := by
  decide +kernel

theorem isBlankless_ignorableRanges : Case.ignorableRanges.all isBlankless = true := by
  decide +kernel

theorem isBlankless_lowerRuns : Case.lowerRuns.all Case.Run.isBlankless = true := by
  decide +kernel

theorem isBlankless_upperRuns : Case.upperRuns.all Case.Run.isBlankless = true := by
  decide +kernel

theorem isBlankless_upperExpansions :
    (Case.upperExpansions.all fun (n, expansion) =>
      isBlankless (n, n) && expansion.all fun m => isBlankless (m, m)) = true := by
  decide +kernel

theorem isBlank_of_isBlankless (range : Nat × Nat) {c : Char} (h : isBlankless range = true)
    (hfirst : range.1 ≤ c.toNat) (hlast : c.toNat ≤ range.2) : isBlank c = false := by
  rw [isBlank_eq_inRanges, Case.inRanges, List.any_eq_false]
  rintro ⟨first, last⟩ hmem hin
  have hapart := List.all_eq_true.mp h _ hmem
  simp only [Bool.or_eq_true, Nat.blt_eq] at hapart
  simp only [Bool.and_eq_true, decide_eq_true_eq] at hin
  omega

theorem isBlank_ofNat (range : Nat × Nat) {n : Nat} (h : isBlankless range = true)
    (hfirst : range.1 ≤ n) (hlast : n ≤ range.2) : isBlank (Char.ofNat n) = false := by
  by_cases hvalid : n.isValidChar
  · have hn : (Char.ofNat n).toNat = n := by rw [Char.toNat_ofNat, if_pos hvalid]
    rw [← hn] at hfirst hlast
    exact isBlank_of_isBlankless range h hfirst hlast
  · rw [Char.ofNat, dif_neg hvalid]
    rfl

theorem not_inRanges_of_isBlank {ranges : List (Nat × Nat)} {c : Char}
    (h : ranges.all isBlankless = true) (hc : isBlank c = true) :
    Case.inRanges ranges c.toNat = false := by
  rw [Case.inRanges, List.any_eq_false]
  rintro range hmem hin
  rw [Bool.and_eq_true, decide_eq_true_eq, decide_eq_true_eq] at hin
  rw [isBlank_of_isBlankless range (List.all_eq_true.mp h range hmem) hin.1 hin.2] at hc
  cases hc

/-! ## Changes of case -/

/-- A change of characters that leaves blanks alone and makes none. -/
def KeepsBlanks (f : Char → List Char) : Prop :=
  ∀ c, f c = [c] ∨ isBlank c = false ∧ ∀ d ∈ f c, isBlank d = false

theorem KeepsBlanks.fixed {f : Char → List Char} (h : KeepsBlanks f) {c : Char}
    (hc : isBlank c = true) : f c = [c] := by
  refine (h c).resolve_right fun hother => ?_
  rw [hother.1] at hc
  cases hc

theorem KeepsBlanks.eq_of_mem {f : Char → List Char} (h : KeepsBlanks f) {c d : Char}
    (hd : isBlank d = true) (hmem : d ∈ f c) : d = c := by
  rcases h c with hsame | ⟨-, hother⟩
  · rw [hsame] at hmem
    exact List.mem_singleton.mp hmem
  · rw [hother d hmem] at hd
    cases hd

/-- A character that moves from one range without blanks to another. -/
theorem isBlank_of_moved (source target : Nat × Nat) {c : Char} {n : Nat}
    (hsource : isBlankless source = true) (htarget : isBlankless target = true)
    (hc : source.1 ≤ c.toNat ∧ c.toNat ≤ source.2) (hn : target.1 ≤ n ∧ n ≤ target.2) :
    isBlank c = false ∧ ∀ d ∈ [Char.ofNat n], isBlank d = false :=
  ⟨isBlank_of_isBlankless source hsource hc.1 hc.2,
    List.forall_mem_singleton.mpr (isBlank_ofNat target htarget hn.1 hn.2)⟩

theorem keepsBlanks_shifted {runs : List Case.Run}
    (h : runs.all Case.Run.isBlankless = true) :
    KeepsBlanks fun c => [Char.ofNat (Case.shifted runs c.toNat)] := by
  intro c
  cases hfind : runs.find? (·.moves c.toNat) with
  | none =>
      have hsame : Case.shifted runs c.toNat = c.toNat := by rw [Case.shifted, hfind]
      exact .inl (by simp only [hsame, Char.ofNat_toNat])
  | some r =>
      have hled : Case.shifted runs c.toNat = (c.toNat + r.shift).toNat := by
        rw [Case.shifted, hfind]
      have hmoves := List.find?_some hfind
      obtain ⟨hfirst, hlast, -⟩ := Case.Run.moves_iff.mp hmoves
      have hblankless := List.all_eq_true.mp h r (List.mem_of_find?_eq_some hfind)
      rw [Case.Run.isBlankless, Bool.and_eq_true] at hblankless
      simp only [hled]
      exact .inr (isBlank_of_moved _ _ hblankless.1 hblankless.2 ⟨hfirst, hlast⟩
        ⟨by omega, by omega⟩)

theorem keepsBlanks_lowerChar : KeepsBlanks lowerChar := by
  intro c
  rw [lowerChar]
  split
  · split
    · next hcapital =>
        exact .inr (isBlank_of_moved (0x41, 0x5A) (0x61, 0x7A) (by decide) (by decide) hcapital
          ⟨by omega, by omega⟩)
    · exact .inl rfl
  · split
    · next hdotted =>
        have hc : isBlank c = false :=
          isBlank_of_isBlankless (0x130, 0x130) (by decide) hdotted.ge hdotted.le
        refine .inr ⟨hc, List.forall_mem_cons.mpr ⟨by decide, ?_⟩⟩
        rw [List.forall_mem_singleton]
        exact isBlank_ofNat (0x307, 0x307) (by decide) le_rfl le_rfl
    · exact keepsBlanks_shifted isBlankless_lowerRuns c

theorem keepsBlanks_upperChar : KeepsBlanks upperChar := by
  intro c
  rw [upperChar]
  split
  · split
    · next hsmall =>
        exact .inr (isBlank_of_moved (0x61, 0x7A) (0x41, 0x5A) (by decide) (by decide) hsmall
          ⟨by omega, by omega⟩)
    · exact .inl rfl
  · split
    · next n expansion hfind =>
        have hkey := List.find?_some hfind
        have hn : n = c.toNat := beq_iff_eq.mp hkey
        have hblankless := List.all_eq_true.mp isBlankless_upperExpansions _
          (List.mem_of_find?_eq_some hfind)
        rw [Bool.and_eq_true, List.all_eq_true] at hblankless
        refine .inr ⟨isBlank_of_isBlankless _ hblankless.1 hn.le hn.ge, ?_⟩
        rintro d hd
        obtain ⟨m, hm, rfl⟩ := List.mem_map.mp hd
        exact isBlank_ofNat (m, m) (hblankless.2 m hm) le_rfl le_rfl
    · exact keepsBlanks_shifted isBlankless_upperRuns c

theorem upperChar_ne_nil (c : Char) : upperChar c ≠ [] := by
  have hexpansions : (Case.upperExpansions.all fun e => !e.2.isEmpty) = true := by
    decide +kernel
  rw [upperChar]
  split
  · simp
  · split
    · next n expansion hfind =>
        have hne := List.all_eq_true.mp hexpansions _ (List.mem_of_find?_eq_some hfind)
        simpa using hne
    · simp

/-! ## Texts -/

theorem isMark_of_isBlank {c : Char} (h : isBlank c = true) : IsMark c where
  lowered := by
    refine ⟨keepsBlanks_lowerChar.fixed h, fun hsigma => ?_⟩
    rw [isBlank_of_isBlankless (0x3A3, 0x3A3) (by decide) hsigma.ge hsigma.le] at h
    cases h
  alone x hx := (keepsBlanks_lowerChar.eq_of_mem h hx).symm
  uncased := not_inRanges_of_isBlank isBlankless_casedRanges h
  seen := not_inRanges_of_isBlank isBlankless_ignorableRanges h

theorem trim_lower (s : List Char) : trim (lower s) = lower (trim s) :=
  trimWhere_lower (fun _ h => isMark_of_isBlank h) s

theorem trim_upper (s : List Char) : trim (upper s) = upper (trim s) := by
  refine trimWhere_flatMap (fun c hc => keepsBlanks_upperChar.fixed hc)
    (fun c hc d hd => ?_) upperChar_ne_nil s
  by_contra hblank
  rw [Bool.not_eq_false] at hblank
  rw [← keepsBlanks_upperChar.eq_of_mem hblank hd, hblank] at hc
  cases hc

theorem toLower_upperChar {c : Char} (h : c.toNat < 0x80) :
    (upperChar c).map Char.toLower = [c.toLower] := by
  -- All of ASCII is checked, character by character.
  have hall : ∀ n < 0x80, (upperChar (Char.ofNat n)).map Char.toLower =
      [(Char.ofNat n).toLower] := by
    decide +kernel
  simpa using hall c.toNat h

/-- Inside ASCII upper case leaves no trace in lower case. -/
theorem lower_upper_of_ascii {s : List Char} (h : ∀ c ∈ s, c.toNat < 0x80) :
    lower (upper s) = lower s := by
  have hsame : lowerAscii (upper s) = lowerAscii s := by
    induction s with
    | nil => rfl
    | cons c rest ih =>
        obtain ⟨hc, hrest⟩ := List.forall_mem_cons.mp h
        rw [lowerAscii, upper, List.flatMap_cons, List.map_append, toLower_upperChar hc]
        exact congrArg (c.toLower :: ·) (ih hrest)
  rw [← lower_lowerAscii (upper s), hsame, lower_lowerAscii]

end Signpost.Text
