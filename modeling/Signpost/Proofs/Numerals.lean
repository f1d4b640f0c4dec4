import Mathlib
import Signpost.Proofs.TrimmedText
import Signpost.Text.Numeral

/-!
# Which texts are integers

White space around a numeral has no say in its value. A row of decimal digits,
of whatever script, is an integer unless it is too long. A text with one of the
separators U+001C to U+001F anywhere is none: they are trimmed from texts as
blanks are, but a numeral may not be surrounded by them.
-/

namespace Signpost.Text

/-- The blanks that numbers may not be surrounded by. -/
def isSeparator (c : Char) : Bool :=
  0x1C ≤ c.toNat && c.toNat ≤ 0x1F

theorem isBlank_eq (c : Char) : isBlank c = (isSpace c || isSeparator c) :=
  rfl

theorem not_isSpace_of_isSeparator {c : Char} (h : isSeparator c = true) :
    isSpace c = false := by
  simp only [isSeparator, Bool.and_eq_true, decide_eq_true_eq] at h
  simp [isSpace]
  omega

/-- A text is an integer by what it is without the white space around it. -/
theorem readInteger_congr {s t : List Char} {n : Int}
    (h : trimWhere isSpace s = trimWhere isSpace t) (hs : readInteger s = .ok n) :
    readInteger t = .ok n := by
  rw [readInteger] at hs ⊢
  rw [← h]
  generalize trimWhere isSpace s = inner at hs
  revert hs
  dsimp only
  split
  · exact fun hs => nomatch hs
  · split
    · exact fun hs => nomatch hs
    · split
      · exact fun hs => nomatch hs
      · exact id

/-- A row of decimal digits is gone through to its end. -/
theorem digitRun_of_isDecimal {s : List Char} (h : ∀ c ∈ s, isDecimal c = true) :
    digitRun s = some (s.filterMap decimalValue?, []) := by
  induction s with
  | nil => rw [digitRun, List.filterMap_nil]
  | cons c rest ih =>
      obtain ⟨hc, hrest⟩ := List.forall_mem_cons.mp h
      obtain ⟨d, hd⟩ := Option.isSome_iff_exists.mp hc
      have hplain : rest.head? ≠ some '_' := fun hhead =>
        absurd (hrest _ (List.mem_of_mem_head? hhead)) (by decide)
      rw [digitRun, hd, List.filterMap_cons_some hd]
      dsimp only
      rw [if_neg hplain, ih hrest]
      rfl

theorem mem_of_digitRun {s : List Char} {digits : List Nat}
    (h : digitRun s = some (digits, [])) : ∀ c ∈ s, isDecimal c = true ∨ c = '_' := by
  induction hlength : s.length using Nat.strong_induction_on generalizing s digits with
  | _ n ih =>
      cases s with
      | nil => exact fun c hc => nomatch hc
      | cons c rest =>
          rw [digitRun] at h
          split at h
          · cases h
          · next d hd =>
              have hc : isDecimal c = true := by rw [isDecimal, hd]; rfl
              split at h
              · next hunderscore =>
                  split at h
                  · next e more tail htail =>
                      cases h
                      obtain ⟨after, rfl⟩ := List.head?_eq_some_iff.mp hunderscore
                      exact List.forall_mem_cons.mpr ⟨.inl hc,
                        List.forall_mem_cons.mpr ⟨.inr rfl,
                          ih after.length (by simp [← hlength]) htail rfl⟩⟩
                  · cases h
              · obtain ⟨⟨more, tail⟩, hrest, hpair⟩ := Option.map_eq_some_iff.mp h
                cases hpair
                exact List.forall_mem_cons.mpr ⟨.inl hc,
                  ih rest.length (by simp [← hlength]) hrest rfl⟩

theorem decimalValue?_of_ascii {c : Char} (h : 0x30 ≤ c.toNat ∧ c.toNat ≤ 0x39) :
    decimalValue? c = some (c.toNat - 0x30) := by
  have hzeros : decimalZeros = 0x30 :: decimalZeros.tail := rfl
  rw [decimalValue?, hzeros, List.find?_cons_of_pos]
  · rfl
  · simp only [Bool.and_eq_true, decide_eq_true_eq]
    omega

theorem isDecimal_of_ascii {c : Char} (h : 0x30 ≤ c.toNat ∧ c.toNat ≤ 0x39) :
    isDecimal c = true := by
  rw [isDecimal, decimalValue?_of_ascii h]
  rfl

theorem not_isDecimal_of_isSeparator {c : Char} (h : isSeparator c = true) :
    isDecimal c = false := by
  have hzeros : ∀ start ∈ decimalZeros, 0x1F < start := by decide
  simp only [isSeparator, Bool.and_eq_true, decide_eq_true_eq] at h
  rw [isDecimal, decimalValue?, Option.isSome_map, Option.isSome_eq_false_iff,
    Option.isNone_iff_eq_none, List.find?_eq_none]
  intro start hstart
  have hbeyond := hzeros start hstart
  simp only [Bool.and_eq_true, decide_eq_true_eq]
  omega

theorem not_isSpace_of_isDecimal {c : Char} (h : isDecimal c = true) :
    isSpace c = false := by
  have hzeros : ∀ start ∈ decimalZeros, start = 0x30 ∨
      (0x660 ≤ start ∧ start + 10 ≤ 0x1680) ∨ (0x17E0 ≤ start ∧ start + 10 ≤ 0x2000) ∨
      0xA620 ≤ start := by
    decide
  rw [isDecimal, decimalValue?, Option.isSome_map] at h
  obtain ⟨start, hfound⟩ := Option.isSome_iff_exists.mp h
  have hrange := hzeros start (List.mem_of_find?_eq_some hfound)
  have hwithin := List.find?_some hfound
  simp only [Bool.and_eq_true, decide_eq_true_eq] at hwithin
  simp only [isSpace, Bool.or_eq_false_iff, Bool.and_eq_false_iff, beq_eq_false_iff_ne,
    decide_eq_false_iff_not]
  omega

/-- A row of decimal digits is the integer that its digits write, unless it is
too long. -/
theorem readInteger_of_isDecimal {s : List Char} (hne : s ≠ [])
    (hlength : s.length ≤ maxDigits) (h : ∀ c ∈ s, isDecimal c = true) :
    readInteger s = .ok (digitsValue (s.filterMap decimalValue?)) := by
  have hdigits : (s.filterMap decimalValue?).length = s.length :=
    List.filterMap_length_eq_length.mpr h
  have htrimmed : trimWhere isSpace s = s :=
    trimWhere_of_forall fun c hc => not_isSpace_of_isDecimal (h c hc)
  have hsome : (s.filterMap decimalValue?).isEmpty = false := by
    rw [Bool.eq_false_iff, Ne, List.isEmpty_iff]
    intro hnil
    rw [hnil] at hdigits
    exact hne (List.eq_nil_of_length_eq_zero hdigits.symm)
  rw [readInteger, htrimmed]
  split
  next negative body hsign =>
    have hplain : negative = false ∧ body = s := by
      split at hsign
      · exact absurd (h '-' (by simp)) (by decide)
      · exact absurd (h '+' (by simp)) (by decide)
      · cases hsign
        exact ⟨rfl, rfl⟩
    rw [hplain.1, hplain.2, digitRun_of_isDecimal h]
    dsimp only
    rw [if_neg (by omega), if_neg (by simp [hsome])]
    rfl

/-- An integer is digits behind a sign or none, without the white space around
it. -/
theorem parts_of_readInteger {s : List Char} {n : Int} (h : readInteger s = .ok n) :
    ∃ sign body digits, trimWhere isSpace s = sign ++ body ∧
      (sign = [] ∨ sign = ['-'] ∨ sign = ['+']) ∧ digitRun body = some (digits, []) := by
  rw [readInteger] at h
  split at h
  next negative body hbody =>
    obtain ⟨sign, hinner, hsign⟩ : ∃ sign, trimWhere isSpace s = sign ++ body ∧
        (sign = [] ∨ sign = ['-'] ∨ sign = ['+']) := by
      split at hbody
      · next rest heq => cases hbody; exact ⟨['-'], heq, .inr (.inl rfl)⟩
      · next rest heq => cases hbody; exact ⟨['+'], heq, .inr (.inr rfl)⟩
      · cases hbody; exact ⟨[], rfl, .inl rfl⟩
    split at h
    · cases h
    · next digits tail hrun =>
        split at h
        · cases h
        · split at h
          · cases h
          · next hwhole =>
              rw [Bool.not_eq_true, Bool.or_eq_false_iff, Bool.not_eq_false',
                List.isEmpty_iff] at hwhole
              rw [hwhole.2] at hrun
              exact ⟨sign, body, digits, hinner, hsign, hrun⟩

/-- A text with a separator is no integer. -/
theorem readInteger_of_isSeparator {s : List Char} {c : Char} (hc : c ∈ s)
    (hseparator : isSeparator c = true) (n : Int) : readInteger s ≠ .ok n := by
  intro hread
  obtain ⟨sign, body, digits, hinner, hsign, hrun⟩ := parts_of_readInteger hread
  have hmem := (mem_trimWhere isSpace hc).resolve_left (by
    simp [not_isSpace_of_isSeparator hseparator])
  rw [hinner, List.mem_append] at hmem
  rcases hmem with hmem | hmem
  · have hplain : ∀ d ∈ sign, isSeparator d = false := by
      rcases hsign with rfl | rfl | rfl
      · exact fun d hd => nomatch hd
      · exact List.forall_mem_singleton.mpr (by decide)
      · exact List.forall_mem_singleton.mpr (by decide)
    rw [hplain c hmem] at hseparator
    cases hseparator
  · rcases mem_of_digitRun hrun c hmem with hdecimal | rfl
    · rw [not_isDecimal_of_isSeparator hseparator] at hdecimal
      cases hdecimal
    · exact absurd hseparator (by decide)

end Signpost.Text
