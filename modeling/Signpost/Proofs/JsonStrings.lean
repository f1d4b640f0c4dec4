import Mathlib
import Signpost.Json.Printer
import Signpost.Json.Reader

/-!
# Strings that are written and read

A string is written in ASCII, character by character, and read back from the
left. A character that is no half of a surrogate pair comes back as it was,
whatever follows it. A half comes back too, unless the other half of its pair
follows, and then the two come back as one character. So what is read is
`Text.joinHalves` of what was written, and a well-formed text is read as it
was.
-/

namespace Signpost

namespace Text

theorem hexValue?_hexDigit :
    ∀ n : Nat, n < 16 → hexValue? (hexDigit n) = some n := by decide

theorem length_hexDigits (width n : Nat) :
    (hexDigits width n).length = width := by
  induction width generalizing n with
  | zero => rfl
  | succ width ih => rw [hexDigits, List.length_append, ih]; rfl

theorem half?_eq_some_iff {c : Char} {n : Nat} :
    half? c = some n ↔ 0xD800 ≤ n ∧ n ≤ 0xDFFF ∧
      c.toNat = halfBase + (n - 0xD800) := by
  rw [half?]
  split
  · next hrange =>
      rw [Option.some.injEq]
      simp only [halfBase] at hrange ⊢
      omega
  · next hrange =>
      refine iff_of_false (by simp) ?_
      simp only [halfBase] at hrange ⊢
      omega

/-- A character that stands for a half is the one that the half stands as. -/
theorem scalar_of_half? {c : Char} {n : Nat} (h : half? c = some n) :
    scalar n = c := by
  obtain ⟨hlow, hhigh, hc⟩ := half?_eq_some_iff.mp h
  rw [scalar, if_pos ⟨hlow, hhigh⟩, ← hc]
  exact Char.ofNat_toNat c

theorem toNat_not_surrogate (c : Char) :
    ¬ (0xD800 ≤ c.toNat ∧ c.toNat ≤ 0xDFFF) := by
  have h := c.valid
  rw [UInt32.isValidChar, Nat.isValidChar] at h
  show ¬ (0xD800 ≤ c.val.toNat ∧ c.val.toNat ≤ 0xDFFF)
  omega

theorem toNat_lt (c : Char) : c.toNat < 0x110000 := by
  have h := c.valid
  rw [UInt32.isValidChar, Nat.isValidChar] at h
  show c.val.toNat < 0x110000
  omega

theorem scalar_toNat (c : Char) : scalar c.toNat = c := by
  rw [scalar, if_neg (toNat_not_surrogate c)]
  exact Char.ofNat_toNat c

theorem joined?_bounds {high low : Nat} {c : Char}
    (h : joined? high low = some c) :
    (0xD800 ≤ high ∧ high ≤ 0xDBFF) ∧ 0xDC00 ≤ low ∧ low ≤ 0xDFFF := by
  rw [joined?] at h
  split at h
  · next hrange => exact ⟨⟨hrange.1, hrange.2.1⟩, hrange.2.2⟩
  · cases h

theorem joined?_eq_none {high low : Nat}
    (h : ¬ (0xDC00 ≤ low ∧ low ≤ 0xDFFF)) : joined? high low = none := by
  rw [joined?, if_neg fun hrange => h hrange.2.2]

/-- A character beyond the sixteen-bit range comes from its own pair. -/
theorem joined?_of_toNat {c : Char} (hlarge : 0x10000 ≤ c.toNat)
    (hhalf : half? c = none) :
    joined? (0xD800 + (c.toNat - 0x10000) / 1024)
      (0xDC00 + (c.toNat - 0x10000) % 1024) = some c := by
  have hc := toNat_lt c
  have hn : 0x10000 + (0xD800 + (c.toNat - 0x10000) / 1024 - 0xD800) * 1024 +
      (0xDC00 + (c.toNat - 0x10000) % 1024 - 0xDC00) = c.toNat := by omega
  rw [joined?, if_pos (by omega)]
  simp only [hn, Char.ofNat_toNat, hhalf]
  rfl

end Text

namespace Json

open Text

theorem hex4_hexDigits {n : Nat} (h : n < 0x10000) (rest : List Char) :
    hex4 (hexDigits 4 n ++ rest) = some (n, rest) := by
  have hd : ∀ k : Nat, hexValue? (hexDigit (k % 16)) = some (k % 16) :=
    fun k => hexValue?_hexDigit _ (Nat.mod_lt _ (by omega))
  simp only [hexDigits, List.nil_append, List.cons_append, hex4, hd,
    Option.some.injEq, Prod.mk.injEq, and_true]
  omega

/-- What follows the escape of a unit leaves it alone: no further escape, or
one of a unit that makes no pair with it. -/
def Unpaired (high : Nat) (rest : List Char) : Prop :=
  (∀ more, rest ≠ '\\' :: 'u' :: more) ∨
    ∃ low more, rest = escapeUnit low ++ more ∧ low < 0x10000 ∧
      joined? high low = none

theorem length_escape {n : Nat} {rest : List Char} (hrest : rest ≠ []) :
    4 < (hexDigits 4 n ++ rest).length := by
  have hpos : 0 < rest.length := List.length_pos_iff.mpr hrest
  rw [List.length_append, length_hexDigits]
  omega

theorem unicodeEscape_pair {high low : Nat} {c : Char} {more : List Char}
    (hmore : more ≠ []) (h : joined? high low = some c) :
    unicodeEscape (hexDigits 4 high ++ (escapeUnit low ++ more)) =
      .ok (c, 10) := by
  obtain ⟨hhigh, hlow⟩ := joined?_bounds h
  have hlow' : escapeUnit low ++ more ≠ [] := by simp [escapeUnit]
  have hlong := length_escape (n := high) hlow'
  have hmoreLong := length_escape (n := low) hmore
  rw [unicodeEscape, if_neg (by omega), hex4_hexDigits (by omega)]
  simp only [escapeUnit, List.cons_append]
  rw [if_pos ⟨hhigh.1, hhigh.2, hmoreLong⟩, hex4_hexDigits (by omega)]
  simp only [h]

theorem unicodeEscape_alone {high : Nat} {rest : List Char}
    (hsmall : high < 0x10000) (hrest : rest ≠ [])
    (h : Unpaired high rest) :
    unicodeEscape (hexDigits 4 high ++ rest) = .ok (scalar high, 4) := by
  have hlong := length_escape (n := high) hrest
  rw [unicodeEscape, if_neg (by omega), hex4_hexDigits hsmall]
  rcases h with hother | ⟨low, more, rfl, hlow, hnone⟩
  · simp only
  · simp only [escapeUnit, List.cons_append]
    split
    · rw [hex4_hexDigits hlow]
      simp only [hnone]
    · rfl

theorem unicodeEscape_plain {n : Nat} {rest : List Char}
    (hsmall : n < 0x10000) (hrest : rest ≠ [])
    (h : ¬ (0xD800 ≤ n ∧ n ≤ 0xDBFF)) :
    unicodeEscape (hexDigits 4 n ++ rest) = .ok (scalar n, 4) := by
  have hlong := length_escape (n := n) hrest
  rw [unicodeEscape, if_neg (by omega), hex4_hexDigits hsmall]
  simp only
  split
  · rw [if_neg fun hrange => h ⟨hrange.1, hrange.2.1⟩]
  · rfl

/-! ## One character -/

variable {left : Nat} {c : Char} {rest : List Char}

/-- What was read, with a character before it. -/
def precede (c : Char) (found : Except Stop (List Char × List Char)) :
    Except Stop (List Char × List Char) :=
  found.map fun (text, after) => (c :: text, after)

theorem readString_unit {n taken : Nat} {x : Char} (t : List Char)
    (h : unicodeEscape (hexDigits 4 n ++ t) = .ok (x, taken)) :
    readString left (escapeUnit n ++ t) =
      precede x (readString left ((hexDigits 4 n ++ t).drop taken)) := by
  rw [escapeUnit, List.cons_append, List.cons_append, readString, if_neg (by decide),
    if_pos rfl]
  simp only [if_true, h]
  rw [precede]
  cases readString left ((hexDigits 4 n ++ t).drop taken) <;> rfl

theorem readString_pair {high low : Nat} (hrest : rest ≠ [])
    (h : joined? high low = some c) :
    readString left (escapeUnit high ++ (escapeUnit low ++ rest)) =
      precede c (readString left rest) := by
  rw [readString_unit _ (unicodeEscape_pair hrest h)]
  congr 2

theorem readString_single {n : Nat}
    (h : unicodeEscape (hexDigits 4 n ++ rest) = .ok (c, 4)) :
    readString left (escapeUnit n ++ rest) =
      precede c (readString left rest) := by
  rw [readString_unit _ h]
  congr 2

theorem readString_quote :
    readString left ('"' :: rest) = .ok ([], rest) := by
  rw [readString.eq_def]
  rfl

theorem readString_short {e : Char} (he : e ≠ 'u')
    (h : shortEscape? e = some c) :
    readString left ('\\' :: e :: rest) = precede c (readString left rest) := by
  rw [readString, if_neg (by decide), if_pos rfl]
  simp only [if_neg he, h]
  rw [precede]
  cases readString left rest <;> rfl

theorem readString_plain (hquote : c ≠ '"') (hslash : c ≠ '\\')
    (hprints : 0x20 ≤ c.toNat) :
    readString left (c :: rest) = precede c (readString left rest) := by
  rw [readString.eq_def]
  simp only
  rw [if_neg hquote, if_neg hslash, if_neg (by omega), precede]
  cases readString left rest <;> rfl

theorem eq_of_toNat_eq {n : Nat} (h : c.toNat = n) : Char.ofNat n = c := by
  rw [← h]
  exact Char.ofNat_toNat c

/-- A character that is no half comes back whatever follows it. -/
theorem readString_escapeChar (hhalf : half? c = none) (hrest : rest ≠ []) :
    readString left (escapeChar c ++ rest) =
      precede c (readString left rest) := by
  rw [escapeChar]
  split
  · next h => exact readString_short (by decide) (by rw [h]; rfl)
  split
  · next h => exact readString_short (by decide) (by rw [h]; rfl)
  split
  · next h => exact readString_short (by decide) (by rw [h]; rfl)
  split
  · next h => exact readString_short (by decide) (by rw [h]; rfl)
  split
  · next h => exact readString_short (by decide) (by rw [h]; rfl)
  split
  · next h =>
      refine readString_short (by decide) ?_
      rw [← eq_of_toNat_eq h]
      rfl
  split
  · next h =>
      refine readString_short (by decide) ?_
      rw [← eq_of_toNat_eq h]
      rfl
  split
  · next hquote hslash _ _ _ _ _ h =>
      exact readString_plain hquote hslash h.1
  split
  · next h =>
      have hplain := unicodeEscape_plain h hrest fun hhigh =>
        toNat_not_surrogate c ⟨hhigh.1, by omega⟩
      rw [scalar_toNat] at hplain
      exact readString_single hplain
  · next h =>
      rw [hhalf, List.append_assoc]
      exact readString_pair hrest (joined?_of_toNat (by omega) hhalf)

theorem escapeChar_of_half {n : Nat} (h : half? c = some n) :
    escapeChar c = escapeUnit n := by
  obtain ⟨hlow, hhigh, hc⟩ := half?_eq_some_iff.mp h
  simp only [halfBase] at hc
  have hne : ∀ x : Char, x.toNat < 0x10000 → c ≠ x := by
    rintro x hx rfl
    omega
  rw [escapeChar]
  simp only [hne _ (by decide : ('"' : Char).toNat < 0x10000),
    hne _ (by decide : ('\\' : Char).toNat < 0x10000),
    hne _ (by decide : ('\n' : Char).toNat < 0x10000),
    hne _ (by decide : ('\r' : Char).toNat < 0x10000),
    hne _ (by decide : ('\t' : Char).toNat < 0x10000), if_false, h]
  rw [if_neg (by omega), if_neg (by omega), if_neg (by omega),
    if_neg (by omega)]

theorem unpaired_escapeChar {high : Nat} {d : Char}
    (h : (half? d).bind (joined? high) = none) :
    Unpaired high (escapeChar d ++ rest) := by
  cases hd : half? d with
  | some low =>
      rw [hd, Option.bind_some] at h
      have hbounds := half?_eq_some_iff.mp hd
      rw [escapeChar_of_half hd]
      exact .inr ⟨low, rest, rfl, by omega, h⟩
  | none =>
      rw [escapeChar]
      split
      · exact .inl fun more heq => by simp at heq
      split
      · exact .inl fun more heq => by simp at heq
      split
      · exact .inl fun more heq => by simp at heq
      split
      · exact .inl fun more heq => by simp at heq
      split
      · exact .inl fun more heq => by simp at heq
      split
      · exact .inl fun more heq => by simp at heq
      split
      · exact .inl fun more heq => by simp at heq
      split
      · next hslash _ _ _ _ _ _ =>
          exact .inl fun more heq => hslash (by cases heq; rfl)
      split
      · next hn =>
          refine .inr ⟨d.toNat, rest, rfl, hn, joined?_eq_none fun hlow => ?_⟩
          exact toNat_not_surrogate d ⟨by omega, hlow.2⟩
      · rw [hd, List.append_assoc]
        have hvalid := toNat_lt d
        exact .inr ⟨_, _, rfl, by omega, joined?_eq_none (by omega)⟩

/-- A half that the next character does not complete comes back alone. -/
theorem readString_half {high : Nat} (hc : half? c = some high)
    (hrest : rest ≠ []) (h : Unpaired high rest) :
    readString left (escapeChar c ++ rest) =
      precede c (readString left rest) := by
  have hbounds := half?_eq_some_iff.mp hc
  have hsingle := unicodeEscape_alone (by omega) hrest h
  rw [scalar_of_half? hc] at hsingle
  rw [escapeChar_of_half hc, readString_single hsingle]

/-! ## Whole strings -/

/-- What was written between quotes is read up to the closing one. -/
theorem readString_flatMap (left : Nat) (rest : List Char) (s : List Char) :
    readString left (s.flatMap escapeChar ++ '"' :: rest) =
      .ok (joinHalves s, rest) := by
  -- Reader and `joinHalves` take a pair in one step, so the induction is on the
  -- latter and not on the text.
  fun_induction joinHalves s with
  | case1 c d more x hx ih =>
      obtain ⟨high, hc, hx⟩ := Option.bind_eq_some_iff.mp hx
      obtain ⟨low, hd, hx⟩ := Option.bind_eq_some_iff.mp hx
      rw [List.flatMap_cons, List.flatMap_cons, escapeChar_of_half hc,
        escapeChar_of_half hd, List.append_assoc, List.append_assoc,
        readString_pair (by simp) hx, ih]
      rfl
  | case2 c d more hx ih =>
      rw [List.flatMap_cons, List.append_assoc]
      cases hc : half? c with
      | none =>
          rw [readString_escapeChar hc (by simp), ih]
          rfl
      | some high =>
          rw [hc, Option.bind_some] at hx
          have hnext : Unpaired high
              ((d :: more).flatMap escapeChar ++ '"' :: rest) := by
            rw [List.flatMap_cons, List.append_assoc]
            exact unpaired_escapeChar hx
          rw [readString_half hc (by simp) hnext, ih]
          rfl
  | case3 s hs =>
      cases s with
      | nil => rw [List.flatMap_nil, List.nil_append, readString_quote]
      | cons c more =>
          cases more with
          | cons d more => exact absurd rfl (hs c d more)
          | nil =>
              rw [List.flatMap_cons, List.flatMap_nil, List.append_nil]
              cases hc : half? c with
              | none =>
                  rw [readString_escapeChar hc (by simp), readString_quote]
                  rfl
              | some high =>
                  have hnext : Unpaired high ('"' :: rest) :=
                    .inl fun more heq => by simp at heq
                  rw [readString_half hc (by simp) hnext, readString_quote]
                  rfl

end Json

/-! ## Texts that are read as they were written -/

namespace Text

theorem half?_of_joined? {high low : Nat} {c : Char}
    (h : joined? high low = some c) : half? c = none := by
  rw [joined?] at h
  split at h
  · simp only at h
    split at h
    · cases h
    · next hnot =>
        rw [← Option.some.inj h]
        exact Option.not_isSome_iff_eq_none.mp hnot
  · cases h

theorem joinHalves_cons {c : Char} {s : List Char}
    (h : ∀ d ∈ s.head?, (half? c).bind (fun high =>
      (half? d).bind (joined? high)) = none) :
    joinHalves (c :: s) = c :: joinHalves s := by
  cases s with
  | nil => rw [joinHalves, joinHalves] <;> simp
  | cons d rest => rw [joinHalves, h d (by simp)]

theorem joinHalves_of_isWellFormed {s : List Char}
    (h : isWellFormed s = true) : joinHalves s = s := by
  induction s with
  | nil => rw [joinHalves]; simp
  | cons c rest ih =>
      rw [isWellFormed, List.all_cons, Bool.and_eq_true,
        Option.isNone_iff_eq_none] at h
      rw [joinHalves_cons fun d _ => by rw [h.1]; rfl, ih h.2]

/-- Joined halves start with the character that they started with, or with
one that is no half. -/
theorem head?_joinHalves (d : Char) (rest : List Char) :
    ∀ e ∈ (joinHalves (d :: rest)).head?, e = d ∨ half? e = none := by
  cases rest with
  | nil =>
      rw [joinHalves_cons (by simp)]
      simp
  | cons x rest =>
      rw [joinHalves]
      split
      · next c hc =>
          obtain ⟨high, -, hc⟩ := Option.bind_eq_some_iff.mp hc
          obtain ⟨low, -, hc⟩ := Option.bind_eq_some_iff.mp hc
          simp [half?_of_joined? hc]
      · simp

theorem joinHalves_joinHalves (s : List Char) :
    joinHalves (joinHalves s) = joinHalves s := by
  fun_induction joinHalves s with
  | case1 c d more x hx ih =>
      obtain ⟨high, -, hx⟩ := Option.bind_eq_some_iff.mp hx
      obtain ⟨low, -, hx⟩ := Option.bind_eq_some_iff.mp hx
      rw [joinHalves_cons fun e _ => by rw [half?_of_joined? hx]; rfl, ih]
  | case2 c d more hx ih =>
      have hhead : ∀ e ∈ (joinHalves (d :: more)).head?,
          (half? c).bind (fun high => (half? e).bind (joined? high)) =
            none := by
        intro e he
        rcases head?_joinHalves d more e he with rfl | hnone
        · exact hx
        · rw [hnone]
          cases half? c <;> rfl
      rw [joinHalves_cons hhead, ih]
  | case3 s hs =>
      rw [joinHalves]
      exact hs

end Text

end Signpost
