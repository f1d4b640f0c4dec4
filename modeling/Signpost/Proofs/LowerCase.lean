import Mathlib
import Signpost.Text.Blank
import Signpost.Text.Case

/-!
# Lower case

What lower case does with the characters of a text. It brings in no character
below the small letters, so digits, dots and delimiters are those that were
there before. A text in lower case is left alone by it: no run of the table
moves a character to one that a run moves, which is checked for each two runs
from where they begin and end. Capitals of ASCII may be lowered beforehand, and
characters without case may be cut off at the ends before or after, because
neither has a say in what a sigma becomes.
-/

namespace Signpost.Text

/-! ## ASCII -/

/-- What lower case leaves as it is: an ASCII character that is no capital. -/
def IsLow (c : Char) : Prop :=
  c.toNat < 0x80 ∧ ¬ (0x41 ≤ c.toNat ∧ c.toNat ≤ 0x5A)

theorem IsLow.isUpper {c : Char} (h : IsLow c) : c.isUpper = false :=
  decide_eq_false h.2

theorem toNat_ofNat_of_lt {n : Nat} (h : n < 0xD800) : (Char.ofNat n).toNat = n := by
  rw [Char.toNat_ofNat, if_pos (Or.inl h)]

theorem lowerChar_of_isLow {c : Char} (h : IsLow c) : lowerChar c = [c] := by
  obtain ⟨hascii, hcapital⟩ := h
  rw [lowerChar]
  simp only [hascii, hcapital, if_true, if_false]

theorem lowerChar_ne_nil (c : Char) : lowerChar c ≠ [] := by
  rw [lowerChar]
  split
  · simp
  · split <;> simp

/-! ## The table -/

namespace Case

/-- Whether no character that the first run moves is led to one that the second
run moves: they do not meet, or every other character lies between. -/
def Run.avoids (r q : Run) : Bool :=
  let first := (r.first + r.shift).toNat
  let last := (r.last + r.shift).toNat
  last.blt q.first || q.last.blt first ||
    (q.stride.beq 2 && (r.stride.beq 2 || r.first.beq r.last) &&
      ((first - q.first) % 2).beq 1 && q.first.ble first)

/-- Whether a run leads to characters that are small letters or beyond, and
neither the capital sigma nor the dotted capital I. -/
def Run.leadsBeyond (r : Run) : Bool :=
  let first : Int := r.first + r.shift
  let last : Int := r.last + r.shift
  decide ((r.stride = 1 ∨ r.stride = 2) ∧ 0x6B ≤ first ∧
    (last < 0xD800 ∨ 0xE000 ≤ first ∧ last ≤ 0x10FFFF) ∧
    (last < 0x130 ∨ 0x3A3 < first ∨ 0x130 < first ∧ last < 0x3A3))

theorem avoids_lowerRuns :
    (lowerRuns.all fun r => lowerRuns.all r.avoids) = true := by
  decide +kernel

theorem leadsBeyond_lowerRuns : lowerRuns.all Run.leadsBeyond = true := by
  decide +kernel

theorem Run.moves_iff {r : Run} {n : Nat} :
    r.moves n = true ↔ r.first ≤ n ∧ n ≤ r.last ∧ (n - r.first) % r.stride = 0 := by
  simp [Run.moves, and_assoc]

theorem Run.leadsBeyond_iff {r : Run} : r.leadsBeyond = true ↔
    (r.stride = 1 ∨ r.stride = 2) ∧ 0x6B ≤ (r.first : Int) + r.shift ∧
    ((r.last : Int) + r.shift < 0xD800 ∨
      0xE000 ≤ (r.first : Int) + r.shift ∧ (r.last : Int) + r.shift ≤ 0x10FFFF) ∧
    ((r.last : Int) + r.shift < 0x130 ∨ 0x3A3 < (r.first : Int) + r.shift ∨
      0x130 < (r.first : Int) + r.shift ∧ (r.last : Int) + r.shift < 0x3A3) :=
  decide_eq_true_iff

theorem Run.not_moves_of_avoids {r q : Run} {n : Nat} (hr : r.leadsBeyond = true)
    (hq : q.leadsBeyond = true) (h : r.avoids q = true) (hn : r.moves n = true) :
    q.moves (n + r.shift).toNat = false := by
  obtain ⟨hfirst, hlast, hstride⟩ := Run.moves_iff.mp hn
  obtain ⟨hr, hbeyond, -, -⟩ := Run.leadsBeyond_iff.mp hr
  have hq := (Run.leadsBeyond_iff.mp hq).1
  simp only [Run.avoids, Bool.or_eq_true, Bool.and_eq_true, Nat.blt_eq, Nat.ble_eq,
    Nat.beq_eq] at h
  rw [Bool.eq_false_iff, Ne, Run.moves_iff]
  rintro ⟨hfirst', hlast', hstride'⟩
  rcases h with (h | h) | ⟨⟨⟨hq, hr'⟩, hodd⟩, hle⟩
  · omega
  · omega
  · rw [hq] at hstride'
    rcases hr' with hr' | hr'
    · rw [hr'] at hstride
      omega
    · omega

/-- What lower case leads to outside ASCII: a character number that no run
moves, a small letter or beyond. -/
theorem shifted_lowerRuns {c : Char} (h : ¬ c.toNat < 0x80) :
    let m := shifted lowerRuns c.toNat
    m.isValidChar ∧ 0x6B ≤ m ∧ (m = c.toNat ∨ m ≠ 0x130 ∧ m ≠ 0x3A3) ∧
      shifted lowerRuns m = m := by
  have hvalid : c.toNat.isValidChar := c.valid
  generalize c.toNat = n at h hvalid
  have hbeyond := List.all_eq_true.mp leadsBeyond_lowerRuns
  have havoids := List.all_eq_true.mp avoids_lowerRuns
  cases hfind : lowerRuns.find? (·.moves n) with
  | none =>
      have hsame : shifted lowerRuns n = n := by rw [shifted, hfind]
      simp only [hsame]
      exact ⟨hvalid, by omega, .inl trivial, trivial⟩
  | some r =>
      have hr := hbeyond r (List.mem_of_find?_eq_some hfind)
      have hmoves := List.find?_some hfind
      have hled : shifted lowerRuns n = (n + r.shift).toNat := by rw [shifted, hfind]
      have hstays : lowerRuns.find? (·.moves (n + r.shift).toNat) = none := by
        refine List.find?_eq_none.mpr fun q hq => ?_
        have hpair := List.all_eq_true.mp
          (havoids r (List.mem_of_find?_eq_some hfind)) q hq
        rw [Run.not_moves_of_avoids hr (hbeyond q hq) hpair hmoves]
        decide
      obtain ⟨hfirst, hlast, -⟩ := Run.moves_iff.mp hmoves
      obtain ⟨-, hsmall, hscalar, hspecial⟩ := Run.leadsBeyond_iff.mp hr
      simp only [hled]
      refine ⟨?_, by omega, .inr ⟨by omega, by omega⟩, ?_⟩
      · rw [Nat.isValidChar]
        omega
      · rw [shifted, hstays]

end Case

/-! ## Characters -/

/-- What a character outside ASCII is led to. -/
theorem toNat_of_mem_lowerChar {c d : Char} (hascii : ¬ c.toNat < 0x80)
    (hdotted : c.toNat ≠ 0x130) (h : d ∈ lowerChar c) :
    d.toNat = Case.shifted Case.lowerRuns c.toNat := by
  rw [lowerChar, if_neg hascii, if_neg hdotted, List.mem_singleton] at h
  rw [h, Char.toNat_ofNat,
    if_pos (Case.shifted_lowerRuns hascii).1]

/-- A character below the small letters that lower case leads to was there
before. -/
theorem eq_of_mem_lowerChar {c d : Char} (h : d ∈ lowerChar c)
    (hd : d.toNat < 0x61) : d = c ∧ IsLow c := by
  by_cases hascii : c.toNat < 0x80
  · rw [lowerChar, if_pos hascii, List.mem_singleton] at h
    split at h
    · next hcapital =>
        rw [h, toNat_ofNat_of_lt (by omega)] at hd
        omega
    · next hcapital => exact ⟨h, hascii, hcapital⟩
  · by_cases hdotted : c.toNat = 0x130
    · rw [lowerChar, if_neg hascii, if_pos hdotted] at h
      rcases List.mem_cons.mp h with rfl | h
      · exact absurd hd (by decide)
      · rw [List.mem_singleton.mp h] at hd
        exact absurd hd (by decide)
    · have hto := toNat_of_mem_lowerChar hascii hdotted h
      have hbeyond := (Case.shifted_lowerRuns hascii).2.1
      omega

/-- A character that lower case leaves as it is wherever it stands. -/
structure IsLowered (c : Char) : Prop where
  fixed : lowerChar c = [c]
  plain : c.toNat ≠ 0x3A3

theorem IsLow.isLowered {c : Char} (h : IsLow c) : IsLowered c := by
  refine ⟨lowerChar_of_isLow h, ?_⟩
  have hascii := h.1
  omega

theorem isLowered_of_mem_lowerChar {c d : Char} (hsigma : c.toNat ≠ 0x3A3)
    (h : d ∈ lowerChar c) : IsLowered d := by
  by_cases hascii : c.toNat < 0x80
  · rw [lowerChar, if_pos hascii, List.mem_singleton] at h
    refine IsLow.isLowered ?_
    split at h
    · rw [h, IsLow, toNat_ofNat_of_lt (by omega)]
      omega
    · next hcapital =>
        rw [h]
        exact ⟨hascii, hcapital⟩
  · by_cases hdotted : c.toNat = 0x130
    · rw [lowerChar, if_neg hascii, if_pos hdotted] at h
      rcases List.mem_cons.mp h with rfl | h
      · exact IsLow.isLowered ⟨by decide, by decide⟩
      · rw [List.mem_singleton.mp h]
        exact ⟨by decide +kernel, by decide⟩
    · have hto := toNat_of_mem_lowerChar hascii hdotted h
      obtain ⟨-, hbeyond, hspecial, hstays⟩ :=
        Case.shifted_lowerRuns hascii
      rw [← hto] at hbeyond hspecial hstays
      refine ⟨?_, by omega⟩
      by_cases hlow : d.toNat < 0x80
      · exact lowerChar_of_isLow ⟨hlow, by omega⟩
      · rw [lowerChar, if_neg hlow, if_neg (by omega), hstays, Char.ofNat_toNat]

/-! ## Texts -/

/-- What becomes of one character between its neighbours. -/
def lowerAt (before : List Char) (c : Char) (after : List Char) : List Char :=
  if c.toNat = 0x3A3 then
    [Char.ofNat (if Case.facesCased before && !Case.facesCased after
      then 0x3C2 else 0x3C3)]
  else lowerChar c

theorem lowerFrom_cons (before : List Char) (c : Char) (after : List Char) :
    lowerFrom before (c :: after) =
      lowerAt before c after ++ lowerFrom (c :: before) after :=
  rfl

theorem lowerAt_ne_nil (before : List Char) (c : Char) (after : List Char) :
    lowerAt before c after ≠ [] := by
  rw [lowerAt]
  split
  · simp
  · exact lowerChar_ne_nil c

theorem lowerAt_of_isLowered {c : Char} (h : IsLowered c) (before after : List Char) :
    lowerAt before c after = [c] := by
  rw [lowerAt, if_neg h.plain, h.fixed]

theorem eq_of_mem_lowerAt {c d : Char} {before after : List Char}
    (h : d ∈ lowerAt before c after) (hd : d.toNat < 0x61) : d = c ∧ IsLow c := by
  rw [lowerAt] at h
  split at h
  · rw [List.mem_singleton] at h
    split at h
    · rw [h] at hd
      exact absurd hd (by decide)
    · rw [h] at hd
      exact absurd hd (by decide)
  · exact eq_of_mem_lowerChar h hd

theorem isLowered_of_mem_lowerAt {c d : Char} {before after : List Char}
    (h : d ∈ lowerAt before c after) : IsLowered d := by
  rw [lowerAt] at h
  split at h
  · rw [List.mem_singleton] at h
    split at h
    · rw [h]
      exact ⟨by decide +kernel, by decide⟩
    · rw [h]
      exact ⟨by decide +kernel, by decide⟩
  · next hsigma => exact isLowered_of_mem_lowerChar hsigma h

/-- Each character of a lowered text comes from one of the text. -/
theorem mem_lowerFrom {d : Char} {s : List Char} : ∀ {before : List Char},
    d ∈ lowerFrom before s → ∃ c ∈ s, ∃ around after, d ∈ lowerAt around c after := by
  induction s with
  | nil => exact fun h => nomatch h
  | cons c rest ih =>
      intro before h
      rw [lowerFrom_cons] at h
      rcases List.mem_append.mp h with h | h
      · exact ⟨c, List.mem_cons_self, before, rest, h⟩
      · obtain ⟨x, hx, hmem⟩ := ih h
        exact ⟨x, List.mem_cons_of_mem _ hx, hmem⟩

theorem mem_of_mem_lowerFrom {d : Char} {before s : List Char} (hd : d.toNat < 0x61)
    (h : d ∈ lowerFrom before s) : d ∈ s ∧ IsLow d := by
  obtain ⟨c, hc, around, after, hmem⟩ := mem_lowerFrom h
  obtain ⟨rfl, hlow⟩ := eq_of_mem_lowerAt hmem hd
  exact ⟨hc, hlow⟩

theorem mem_of_mem_lower {d : Char} {s : List Char} (hd : d.toNat < 0x61)
    (h : d ∈ lower s) : d ∈ s ∧ IsLow d :=
  mem_of_mem_lowerFrom hd h

theorem isLowered_of_mem_lower {d : Char} {s : List Char} (h : d ∈ lower s) :
    IsLowered d := by
  obtain ⟨c, -, before, after, hmem⟩ := mem_lowerFrom h
  exact isLowered_of_mem_lowerAt hmem

theorem mem_lower {c : Char} {s : List Char} (h : c ∈ s) (hc : IsLowered c) :
    c ∈ lower s := by
  have hfrom : ∀ {s before : List Char}, c ∈ s → c ∈ lowerFrom before s := by
    intro s
    induction s with
    | nil => exact fun h => nomatch h
    | cons x rest ih =>
        intro before h
        rw [lowerFrom_cons]
        rcases List.mem_cons.mp h with rfl | h
        · rw [lowerAt_of_isLowered hc]
          exact List.mem_append_left _ List.mem_cons_self
        · exact List.mem_append_right _ (ih h)
  exact hfrom h

theorem lower_of_isLowered {s : List Char} (h : ∀ c ∈ s, IsLowered c) :
    lower s = s := by
  have hfrom : ∀ {s before : List Char}, (∀ c ∈ s, IsLowered c) →
      lowerFrom before s = s := by
    intro s
    induction s with
    | nil => exact fun _ => rfl
    | cons x rest ih =>
        intro before h
        obtain ⟨hx, hrest⟩ := List.forall_mem_cons.mp h
        rw [lowerFrom_cons, lowerAt_of_isLowered hx, ih hrest]
        rfl
  exact hfrom h

/-- Lower case is reached at once. -/
theorem lower_lower (s : List Char) : lower (lower s) = lower s :=
  lower_of_isLowered fun _ h => isLowered_of_mem_lower h

/-! ## Capitals of ASCII -/

/-- The text with its capitals of ASCII in lower case. -/
def lowerAscii (s : List Char) : List Char :=
  s.map Char.toLower

theorem IsLow.toLower {c : Char} (h : IsLow c) : c.toLower = c :=
  dif_neg h.2

theorem toLower_cases (c : Char) :
    c.toLower = c ∧ IsLow c ∨ c.toLower = c ∧ ¬ c.toNat < 0x80 ∨
      ∃ i < 26, c = Char.ofNat (0x41 + i) := by
  by_cases hcapital : 0x41 ≤ c.toNat ∧ c.toNat ≤ 0x5A
  · refine .inr (.inr ⟨c.toNat - 0x41, by omega, ?_⟩)
    rw [Nat.add_sub_cancel' hcapital.1, Char.ofNat_toNat]
  · have hsame : c.toLower = c := dif_neg hcapital
    by_cases hascii : c.toNat < 0x80
    · exact .inl ⟨hsame, hascii, hcapital⟩
    · exact .inr (.inl ⟨hsame, hascii⟩)

/-- A capital and its small letter are alike but for being capital. -/
theorem toLower_capital : ∀ i < 26, let c := Char.ofNat (0x41 + i)
    IsLow c.toLower ∧ lowerChar c.toLower = lowerChar c ∧
      c.toLower.toNat ≠ 0x3A3 ∧ c.toNat ≠ 0x3A3 ∧
      Case.isCased c.toLower = Case.isCased c ∧
      Case.isIgnorable c.toLower = Case.isIgnorable c := by
  simp only [IsLow]
  decide +kernel

theorem isUpper_toLower (c : Char) : c.toLower.isUpper = false := by
  obtain ⟨hsame, hlow⟩ | ⟨hsame, hascii⟩ | ⟨i, hi, rfl⟩ := toLower_cases c
  · rw [hsame]
    exact hlow.isUpper
  · rw [hsame]
    refine decide_eq_false fun hcapital => hascii ?_
    exact Nat.lt_of_le_of_lt hcapital.2 (by decide)
  · exact (toLower_capital i hi).1.isUpper

theorem isCased_toLower (c : Char) : Case.isCased c.toLower = Case.isCased c := by
  obtain ⟨hsame, -⟩ | ⟨hsame, -⟩ | ⟨i, hi, rfl⟩ := toLower_cases c
  · rw [hsame]
  · rw [hsame]
  · exact (toLower_capital i hi).2.2.2.2.1

theorem isIgnorable_toLower (c : Char) :
    Case.isIgnorable c.toLower = Case.isIgnorable c := by
  obtain ⟨hsame, -⟩ | ⟨hsame, -⟩ | ⟨i, hi, rfl⟩ := toLower_cases c
  · rw [hsame]
  · rw [hsame]
  · exact (toLower_capital i hi).2.2.2.2.2

theorem facesCased_lowerAscii (side : List Char) :
    Case.facesCased (lowerAscii side) = Case.facesCased side := by
  have hsame : Case.isIgnorable ∘ Char.toLower = Case.isIgnorable :=
    funext isIgnorable_toLower
  rw [Case.facesCased, Case.facesCased, lowerAscii, List.dropWhile_map, hsame]
  cases side.dropWhile Case.isIgnorable with
  | nil => rfl
  | cons c rest => exact isCased_toLower c

theorem lowerAt_lowerAscii (before : List Char) (c : Char) (after : List Char) :
    lowerAt (lowerAscii before) c.toLower (lowerAscii after) =
      lowerAt before c after := by
  rw [lowerAt, lowerAt, facesCased_lowerAscii, facesCased_lowerAscii]
  obtain ⟨hsame, -⟩ | ⟨hsame, -⟩ | ⟨i, hi, rfl⟩ := toLower_cases c
  · rw [hsame]
  · rw [hsame]
  · obtain ⟨-, hchar, hsmall, hcapital, -⟩ := toLower_capital i hi
    rw [if_neg hsmall, if_neg hcapital, hchar]

/-- Lower case takes no notice of capitals of ASCII. -/
theorem lower_lowerAscii (s : List Char) : lower (lowerAscii s) = lower s := by
  have hfrom : ∀ before, lowerFrom (lowerAscii before) (lowerAscii s) =
      lowerFrom before s := by
    induction s with
    | nil => exact fun _ => rfl
    | cons c rest ih =>
        intro before
        show lowerFrom (lowerAscii before) (c.toLower :: lowerAscii rest) = _
        rw [lowerFrom_cons, lowerFrom_cons, lowerAt_lowerAscii]
        exact congrArg _ (ih (c :: before))
  exact hfrom []

theorem lowerAt_of_ascii {c : Char} (h : c.toNat < 0x80) (before after : List Char) :
    lowerAt before c after = [c.toLower] := by
  obtain ⟨hsame, hlow⟩ | ⟨-, hascii⟩ | ⟨i, hi, rfl⟩ := toLower_cases c
  · rw [hsame, lowerAt_of_isLowered hlow.isLowered]
  · exact absurd h hascii
  · obtain ⟨hlow, hchar, -, hcapital, -⟩ := toLower_capital i hi
    rw [lowerAt, if_neg hcapital, ← hchar, lowerChar_of_isLow hlow]

/-- Inside ASCII each character is lowered by itself, whatever follows. -/
theorem lower_append_of_ascii {front : List Char} (h : ∀ c ∈ front, c.toNat < 0x80)
    (rest : List Char) :
    lower (front ++ rest) = lowerAscii front ++ lowerFrom front.reverse rest := by
  have hfrom : ∀ before, lowerFrom before (front ++ rest) =
      lowerAscii front ++ lowerFrom (front.reverse ++ before) rest := by
    induction front with
    | nil => exact fun _ => rfl
    | cons c more ih =>
        intro before
        obtain ⟨hc, hmore⟩ := List.forall_mem_cons.mp h
        rw [List.cons_append, lowerFrom_cons, lowerAt_of_ascii hc, ih hmore]
        simp [lowerAscii]
  exact (hfrom []).trans (by rw [List.append_nil])

theorem lower_of_ascii {s : List Char} (h : ∀ c ∈ s, c.toNat < 0x80) :
    lower s = lowerAscii s := by
  have happend := lower_append_of_ascii h []
  rwa [List.append_nil, lowerFrom, List.append_nil] at happend

/-! ## Ends -/

/-- A character that has no case, to which lower case leads from no other, and
that hides no case behind it. -/
structure IsMark (c : Char) : Prop where
  lowered : IsLowered c
  alone : ∀ x, c ∈ lowerChar x → x = c
  uncased : Case.isCased c = false
  seen : Case.isIgnorable c = false

theorem IsMark.eq_of_mem_lowerAt {c d : Char} {before after : List Char} (hd : IsMark d)
    (h : d ∈ lowerAt before c after) : c = d := by
  have hsmall : ∀ n, Case.isCased (Char.ofNat n) = true → d ≠ Char.ofNat n := by
    rintro n hn rfl
    rw [hd.uncased] at hn
    cases hn
  rw [lowerAt] at h
  split at h
  · rw [List.mem_singleton] at h
    split at h
    · exact absurd h (hsmall _ (by decide +kernel))
    · exact absurd h (hsmall _ (by decide +kernel))
  · exact hd.alone c h

section Marks

variable {b : Char} (hb : IsMark b)
include hb

theorem facesCased_concat (side : List Char) :
    Case.facesCased (side ++ [b]) = Case.facesCased side := by
  rw [Case.facesCased, Case.facesCased]
  induction side with
  | nil => simp [hb.seen, hb.uncased]
  | cons c rest ih =>
      by_cases hc : Case.isIgnorable c = true
      · simpa [List.dropWhile_cons, hc] using ih
      · simp [hc]

theorem lowerFrom_concat_before (before s : List Char) :
    lowerFrom (before ++ [b]) s = lowerFrom before s := by
  induction s generalizing before with
  | nil => rfl
  | cons c rest ih =>
      rw [lowerFrom_cons, lowerFrom_cons, lowerAt, lowerAt, facesCased_concat hb,
        ← List.cons_append, ih]

theorem lower_cons_of_isMark (s : List Char) : lower (b :: s) = b :: lower s := by
  rw [lower, lowerFrom_cons, lowerAt_of_isLowered hb.lowered]
  exact congrArg (b :: ·) (lowerFrom_concat_before hb [] s)

theorem lower_concat_of_isMark (s : List Char) : lower (s ++ [b]) = lower s ++ [b] := by
  have hfrom : ∀ before, lowerFrom before (s ++ [b]) = lowerFrom before s ++ [b] := by
    induction s with
    | nil =>
        intro before
        show lowerFrom before [b] = [b]
        rw [lowerFrom_cons, lowerAt_of_isLowered hb.lowered]
        rfl
    | cons c rest ih =>
        intro before
        rw [List.cons_append, lowerFrom_cons, lowerFrom_cons, lowerAt, lowerAt,
          facesCased_concat hb, ih, List.append_assoc]
  exact hfrom []

end Marks

theorem lowerFrom_eq_nil_iff {before s : List Char} : lowerFrom before s = [] ↔ s = [] := by
  cases s with
  | nil => exact iff_of_true rfl rfl
  | cons c rest =>
      rw [lowerFrom_cons, List.append_eq_nil_iff]
      exact iff_of_false (fun h => lowerAt_ne_nil before c rest h.1) (List.cons_ne_nil c rest)

theorem lower_ne_nil {s : List Char} (h : s ≠ []) : lower s ≠ [] :=
  fun hnil => h (lowerFrom_eq_nil_iff.mp hnil)

theorem lowerFrom_concat (before s : List Char) (c : Char) :
    ∃ front, lowerFrom before (s ++ [c]) = front ++ lowerAt (s.reverse ++ before) c [] := by
  induction s generalizing before with
  | nil => exact ⟨[], by simp [lowerFrom_cons, lowerFrom]⟩
  | cons x rest ih =>
      obtain ⟨front, hrest⟩ := ih (x :: before)
      refine ⟨lowerAt before x (rest ++ [c]) ++ front, ?_⟩
      rw [List.cons_append, lowerFrom_cons, hrest, List.append_assoc,
        List.reverse_cons, List.append_assoc]
      rfl

section Dropping

variable {drop : Char → Bool} (hdrop : ∀ c, drop c = true → IsMark c)
include hdrop

/-- What a character becomes is dropped only if the character is. -/
theorem drop_eq_false_of_mem_lowerAt {c d : Char} {before after : List Char}
    (hc : drop c = false) (hd : d ∈ lowerAt before c after) : drop d = false := by
  by_contra hdropped
  rw [Bool.not_eq_false] at hdropped
  rw [← (hdrop d hdropped).eq_of_mem_lowerAt hd, hc] at hdropped
  cases hdropped

theorem dropWhile_lower (s : List Char) :
    (lower s).dropWhile drop = lower (s.dropWhile drop) := by
  induction s with
  | nil => rfl
  | cons c rest ih =>
      cases hc : drop c with
      | true =>
          rw [lower_cons_of_isMark (hdrop c hc), List.dropWhile_cons_of_pos hc,
            List.dropWhile_cons_of_pos hc, ih]
      | false =>
          rw [List.dropWhile_cons_of_neg (by simp [hc])]
          obtain ⟨d, more, hd⟩ := List.exists_cons_of_ne_nil (lowerAt_ne_nil [] c rest)
          have hfirst : drop d = false :=
            drop_eq_false_of_mem_lowerAt hdrop hc (hd ▸ List.mem_cons_self)
          rw [lower, lowerFrom_cons, hd, List.cons_append,
            List.dropWhile_cons_of_neg (by simp [hfirst])]

theorem rdropWhile_lower (s : List Char) :
    (lower s).rdropWhile drop = lower (s.rdropWhile drop) := by
  induction s using List.reverseRecOn with
  | nil => rfl
  | append_singleton s c ih =>
      cases hc : drop c with
      | true =>
          rw [lower_concat_of_isMark (hdrop c hc), List.rdropWhile_concat_pos _ _ _ hc,
            List.rdropWhile_concat_pos _ _ _ hc, ih]
      | false =>
          rw [List.rdropWhile_concat_neg _ _ _ (by simp [hc])]
          obtain ⟨front, hs⟩ := lowerFrom_concat [] s c
          obtain ⟨more, d, hd⟩ := List.eq_nil_or_concat _ |>.resolve_left
            (lowerAt_ne_nil (s.reverse ++ []) c [])
          have hlast : drop d = false :=
            drop_eq_false_of_mem_lowerAt hdrop hc (by rw [hd]; simp)
          rw [lower, hs, hd, List.concat_eq_append, ← List.append_assoc,
            List.rdropWhile_concat_neg _ _ _ (by simp [hlast])]

/-- Marks may be dropped at both ends before or after. -/
theorem trimWhere_lower (s : List Char) :
    trimWhere drop (lower s) = lower (trimWhere drop s) := by
  show ((lower s).dropWhile drop).rdropWhile drop =
    lower ((s.dropWhile drop).rdropWhile drop)
  rw [dropWhile_lower hdrop, rdropWhile_lower hdrop]

end Dropping

theorem trimWhere_lowerAscii {drop : Char → Bool}
    (hdrop : ∀ c, drop c.toLower = drop c) (s : List Char) :
    trimWhere drop (lowerAscii s) = lowerAscii (trimWhere drop s) := by
  have hsame : drop ∘ Char.toLower = drop := funext hdrop
  rw [trimWhere, trimWhere, lowerAscii, lowerAscii, List.dropWhile_map, hsame,
    ← List.map_reverse, List.dropWhile_map, hsame, ← List.map_reverse]

end Signpost.Text
