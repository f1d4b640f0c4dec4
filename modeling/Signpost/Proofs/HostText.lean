import Mathlib
import Signpost.Net.Destination
import Signpost.Proofs.LowerCase
import Signpost.Proofs.TextPieces
import Signpost.Proofs.TrimmedText

/-!
# The text of hosts

What becomes of the characters of a host on its way through the check of a
destination: it is put into lower case and loses brackets and a line break at
its ends. A text of small hexadecimal digits, `x` and dots, which is what
addresses are written with, is left as it is by all of this. Capitals of ASCII
may be lowered before the rest, as a browser does.
-/

namespace Signpost.Net

open Text

theorem mem_dropFinalBreak {s : List Char} {c : Char} (h : c ∈ s) (hc : c ≠ '\n') :
    c ∈ dropFinalBreak s := by
  rw [dropFinalBreak]
  split
  · next hlast =>
      rw [← List.dropLast_append_getLast? _ hlast] at h
      rcases List.mem_append.mp h with h | h
      · exact h
      · exact absurd (List.mem_singleton.mp h) hc
  · exact h

theorem dropFinalBreak_of_not_mem {s : List Char} (h : '\n' ∉ s) :
    dropFinalBreak s = s := by
  rw [dropFinalBreak, if_neg]
  exact fun hlast => h (List.mem_of_getLast? hlast)

/-! ## Texts that addresses are written with -/

/-- A character that a browser's numerals are written with, or a dot. -/
def IsAddressChar (c : Char) : Prop :=
  ('0' ≤ c ∧ c ≤ '9') ∨ ('a' ≤ c ∧ c ≤ 'f') ∨ c = 'x' ∨ c = '.'

theorem IsAddressChar.bounds {c : Char} (h : IsAddressChar c) :
    (0x30 ≤ c.toNat ∧ c.toNat ≤ 0x39) ∨ (0x61 ≤ c.toNat ∧ c.toNat ≤ 0x66) ∨
      c.toNat = 0x78 ∨ c.toNat = 0x2E := by
  rcases h with ⟨hlow, hhigh⟩ | ⟨hlow, hhigh⟩ | rfl | rfl
  · exact .inl ⟨hlow, hhigh⟩
  · exact .inr (.inl ⟨hlow, hhigh⟩)
  · exact .inr (.inr (.inl rfl))
  · exact .inr (.inr (.inr rfl))

theorem IsAddressChar.isLow {c : Char} (h : IsAddressChar c) : IsLow c := by
  rcases h.bounds with h | h | h | h
  all_goals exact ⟨by omega, by omega⟩

theorem IsAddressChar.of_toLower {c : Char} (h : IsAddressChar c.toLower) :
    c.toNat < 0x80 ∧ c ≠ '[' ∧ c ≠ ']' := by
  have hcapital : ∀ i < 26, let c := Char.ofNat (0x41 + i)
      c.toNat < 0x80 ∧ c ≠ '[' ∧ c ≠ ']' := by
    decide +kernel
  obtain ⟨hsame, hlow⟩ | ⟨hsame, hascii⟩ | ⟨i, hi, rfl⟩ := toLower_cases c
  · rw [hsame] at h
    refine ⟨hlow.1, ?_, ?_⟩
    all_goals
      rintro rfl
      exact absurd h.bounds (by decide)
  · rw [hsame] at h
    have hbounds := h.bounds
    omega
  · exact hcapital i hi

theorem stripBrackets_of_address {s : List Char} (h : ∀ c ∈ s, IsAddressChar c) :
    stripBrackets s = s := by
  refine trimWhere_of_forall fun c hc => ?_
  have hbounds := (h c hc).bounds
  have hopen : c ≠ '[' := by
    rintro rfl
    revert hbounds
    decide
  have hclose : c ≠ ']' := by
    rintro rfl
    revert hbounds
    decide
  simp [hopen, hclose]

theorem lower_of_address {s : List Char} (h : ∀ c ∈ s, IsAddressChar c) :
    lower s = s :=
  lower_of_isLowered fun c hc => (h c hc).isLow.isLowered

theorem lowerAscii_of_address {s : List Char} (h : ∀ c ∈ s, IsAddressChar c) :
    lowerAscii s = s := by
  rw [lowerAscii, List.map_congr_left fun c hc => (h c hc).isLow.toLower, List.map_id']

/-! ## Brackets -/

theorem isMark_bracket {c : Char} (h : (c == '[' || c == ']') = true) : IsMark c := by
  rw [Bool.or_eq_true, beq_iff_eq, beq_iff_eq] at h
  rcases h with rfl | rfl
  all_goals exact {
    lowered := IsLow.isLowered ⟨by decide, by decide⟩
    alone := fun _ hx => (eq_of_mem_lowerChar hx (by decide)).1.symm
    uncased := by decide +kernel
    seen := by decide +kernel }

theorem bracket_toLower (c : Char) :
    (c.toLower == '[' || c.toLower == ']') = (c == '[' || c == ']') := by
  obtain ⟨hsame, -⟩ | ⟨hsame, -⟩ | ⟨i, hi, rfl⟩ := toLower_cases c
  · rw [hsame]
  · rw [hsame]
  · revert i
    decide +kernel

theorem lower_stripBrackets_lower (s : List Char) :
    lower (stripBrackets (lower s)) = lower (stripBrackets s) := by
  rw [stripBrackets, trimWhere_lower fun _ => isMark_bracket, lower_lower]
  rfl

/-- Lowered as a browser does it or at once, a host is the same one to the
check. -/
theorem lower_stripBrackets (s : List Char) :
    lower (stripBrackets (lowerAscii s)) = lower (stripBrackets (lower s)) := by
  rw [lower_stripBrackets_lower, stripBrackets, trimWhere_lowerAscii bracket_toLower,
    lower_lowerAscii]
  rfl

/-- Of a host that begins with neither a bracket nor anything outside ASCII,
brackets are lost at the right end alone. -/
theorem lower_stripBrackets_append {front : List Char} (hne : front ≠ [])
    (h : ∀ c ∈ front, c.toNat < 0x80 ∧ c ≠ '[' ∧ c ≠ ']') (rest : List Char) :
    lower (stripBrackets (front ++ rest)) = lowerAscii front ++
      lowerFrom front.reverse (trimRightWhere (fun c => c == '[' || c == ']') rest) := by
  rw [stripBrackets, trimWhere_append hne fun c hc => by simp [h c hc]]
  exact lower_append_of_ascii (fun c hc => (h c hc).1) _

theorem isPrivateIp_lowerAscii (s : List Char) :
    isPrivateIp (lowerAscii s) = isPrivateIp s := by
  simp only [isPrivateIp, lower_stripBrackets, lower_stripBrackets_lower]

end Signpost.Net
