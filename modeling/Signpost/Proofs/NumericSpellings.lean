import Mathlib
import Signpost.Proofs.BrowserHosts

/-!
# Numeric spellings of an address

An IPv4 address may be written in one to four parts with dots between them.
Each part is decimal, octal after a leading zero or hexadecimal after `0x`, in
small letters or capitals. All parts but the last are octets, and the last one
fills the octets that remain. The canonical quad is one of these spellings.

The spellings are given as a grammar here. The numeric reading of a host in
lower case takes just the texts of the grammar, each for the address that it
spells, so a host that is made of such parts and spells nothing has no reading.
-/

namespace Signpost.Net

open Text

/-! ## Case of digits -/

theorem hexValue?_toLower (c : Char) : hexValue? c.toLower = hexValue? c := by
  have hcapital : ∀ i < 26, hexValue? (Char.ofNat (0x41 + i)).toLower =
      hexValue? (Char.ofNat (0x41 + i)) := by
    decide +kernel
  obtain ⟨hsame, -⟩ | ⟨hsame, -⟩ | ⟨i, hi, rfl⟩ := toLower_cases c
  · rw [hsame]
  · rw [hsame]
  · exact hcapital i hi

/-- A character that is no small letter is the lower case of itself alone. -/
theorem toLower_eq_iff {c d : Char} (hd : d.toNat < 0x61) (hlow : IsLow d) :
    c.toLower = d ↔ c = d := by
  have hcapital : ∀ i < 26, 0x61 ≤ (Char.ofNat (0x41 + i)).toLower.toNat ∧
      (Char.ofNat (0x41 + i)).isUpper = true := by
    decide +kernel
  obtain ⟨hsame, -⟩ | ⟨hsame, -⟩ | ⟨i, hi, rfl⟩ := toLower_cases c
  · rw [hsame]
  · rw [hsame]
  · refine iff_of_false ?_ ?_
    · rintro rfl
      have hsmall := (hcapital i hi).1
      omega
    · rintro rfl
      have hupper := (hcapital i hi).2
      rw [hlow.isUpper] at hupper
      cases hupper

theorem toLower_eq_x_iff {c : Char} : c.toLower = 'x' ↔ c = 'x' ∨ c = 'X' := by
  have hcapital : ∀ i < 26, ((Char.ofNat (0x41 + i)).toLower = 'x' ↔
      Char.ofNat (0x41 + i) = 'x' ∨ Char.ofNat (0x41 + i) = 'X') := by
    decide +kernel
  obtain ⟨hsame, hlow⟩ | ⟨hsame, hascii⟩ | ⟨i, hi, rfl⟩ := toLower_cases c
  · rw [hsame, iff_self_or]
    rintro rfl
    exact absurd hlow.isUpper (by decide)
  · rw [hsame, iff_self_or]
    rintro rfl
    exact absurd hascii (by decide)
  · exact hcapital i hi

/-- Lower case keeps a delimiter that is no letter where it is. -/
theorem pieces_lowerAscii {d : Char} (hd : d.toNat < 0x61) (hlow : IsLow d)
    (s : List Char) : pieces d (lowerAscii s) = (pieces d s).map lowerAscii := by
  induction s with
  | nil => rfl
  | cons c rest ih =>
      have hcons : lowerAscii (c :: rest) = c.toLower :: lowerAscii rest := rfl
      rw [hcons, pieces, pieces, ih]
      by_cases hc : c = d
      · rw [if_pos hc, if_pos ((toLower_eq_iff hd hlow).mpr hc)]
        rfl
      · rw [if_neg hc, if_neg fun h => hc ((toLower_eq_iff hd hlow).mp h)]
        cases pieces d rest <;> rfl

theorem lowerAscii_joinWith {d : Char} (hd : d.toLower = d) (ps : List (List Char)) :
    lowerAscii (joinWith [d] ps) = joinWith [d] (ps.map lowerAscii) := by
  induction ps with
  | nil => rfl
  | cons p rest ih =>
      cases rest with
      | nil => rfl
      | cons q more =>
          rw [List.map_cons] at ih
          rw [List.map_cons, List.map_cons, joinWith_cons_cons, joinWith_cons_cons, ← ih]
          simp [lowerAscii, hd]

namespace Ipv4

/-! ## Digits -/

/-- The number that digits of a base write, in small letters or capitals. -/
inductive Digits (base : Nat) : List Char → Nat → Prop
  | one {c : Char} {d : Nat} (hc : hexValue? c = some d) (hd : d < base) :
      Digits base [c] d
  | more {s : List Char} {n : Nat} {c : Char} {d : Nat} (hs : Digits base s n)
      (hc : hexValue? c = some d) (hd : d < base) :
      Digits base (s ++ [c]) (n * base + d)

variable {base n : Nat} {s : List Char}

theorem Digits.ne_nil (h : Digits base s n) : s ≠ [] := by
  cases h <;> simp

theorem Digits.mem (h : Digits base s n) :
    ∀ c ∈ s, ∃ d < base, hexValue? c = some d := by
  induction h with
  | one hc hd => simpa using ⟨_, hd, hc⟩
  | more _ hc hd ih =>
      exact List.forall_mem_append.mpr ⟨ih, by simpa using ⟨_, hd, hc⟩⟩

theorem numeral?_concat (hs : s ≠ []) (c : Char) : numeral? base (s ++ [c]) =
    (numeral? base s).bind fun n => (hexValue? c).bind fun d =>
      if d < base then some (n * base + d) else none := by
  have hne : (s ++ [c]).isEmpty = false := by simp
  have hne' : s.isEmpty = false := by simpa using hs
  rw [numeral?, numeral?, hne, hne', List.foldlM_append]
  simp

theorem numeral?_eq_some_iff : numeral? base s = some n ↔ Digits base s n := by
  constructor
  · intro h
    induction s using List.reverseRecOn generalizing n with
    | nil => cases h
    | append_singleton s c ih =>
        by_cases hs : s = []
        · subst hs
          obtain ⟨d, hd, hlt⟩ : ∃ d, hexValue? c = some d ∧ d < base ∧ d = n := by
            simpa [numeral?, Option.bind_eq_some_iff] using h
          obtain ⟨hlt, rfl⟩ := hlt
          exact .one hd hlt
        · rw [numeral?_concat hs, Option.bind_eq_some_iff] at h
          obtain ⟨m, hm, h⟩ := h
          obtain ⟨d, hd, h⟩ := Option.bind_eq_some_iff.mp h
          obtain ⟨hlt, hsum⟩ := Option.ite_none_right_eq_some.mp h
          cases hsum
          exact .more (ih hm) hd hlt
  · intro h
    induction h with
    | one hc hd => simp [numeral?, hc, hd]
    | more hs hc hd ih =>
        rw [numeral?_concat hs.ne_nil, ih, hc]
        simp [hd]

theorem numeral?_lowerAscii (base : Nat) (s : List Char) :
    numeral? base (lowerAscii s) = numeral? base s := by
  rw [numeral?, numeral?, lowerAscii, List.isEmpty_map, List.foldlM_map]
  simp only [hexValue?_toLower]

/-! ## Parts -/

/-- The number that a part writes. -/
inductive WritesPart : List Char → Nat → Prop
  | zero : WritesPart ['0'] 0
  | decimal {s : List Char} {n : Nat} (hs : Digits 10 s n) (hzero : s.head? ≠ some '0') :
      WritesPart s n
  | octal {s : List Char} {n : Nat} (hs : Digits 8 s n) : WritesPart ('0' :: s) n
  | hex {x : Char} {s : List Char} {n : Nat} (hx : x = 'x' ∨ x = 'X')
      (hs : Digits 16 s n) : WritesPart ('0' :: x :: s) n

theorem numericPart?_hex (digits : List Char) :
    numericPart? ('0' :: 'x' :: digits) = numeral? 16 digits :=
  rfl

theorem numericPart?_octal {c : Char} (hc : c ≠ 'x') (digits : List Char) :
    numericPart? ('0' :: c :: digits) = numeral? 8 (c :: digits) := by
  simp [numericPart?, hc]

theorem numericPart?_decimal {c : Char} (hc : c ≠ '0') (digits : List Char) :
    numericPart? (c :: digits) = numeral? 10 (c :: digits) := by
  simp [numericPart?, hc]

theorem toLower_eq_zero_iff {c : Char} : c.toLower = '0' ↔ c = '0' :=
  toLower_eq_iff (by decide) ⟨by decide, by decide⟩

theorem writesPart_of_numericPart? (h : numericPart? (lowerAscii s) = some n) :
    WritesPart s n := by
  cases s with
  | nil => cases h
  | cons a rest =>
      have hcons : lowerAscii (a :: rest) = a.toLower :: lowerAscii rest := rfl
      by_cases ha : a = '0'
      · subst ha
        cases rest with
        | nil =>
            cases h
            exact .zero
        | cons b digits =>
            have hzero : lowerAscii ('0' :: b :: digits) =
              '0' :: b.toLower :: lowerAscii digits := rfl
            by_cases hb : b = 'x' ∨ b = 'X'
            · rw [hzero, toLower_eq_x_iff.mpr hb, numericPart?_hex,
                numeral?_lowerAscii, numeral?_eq_some_iff] at h
              exact .hex hb h
            · rw [hzero, numericPart?_octal fun hx => hb (toLower_eq_x_iff.mp hx)] at h
              exact .octal (numeral?_eq_some_iff.mp
                ((numeral?_lowerAscii 8 (b :: digits)).symm.trans h))
      · rw [hcons, numericPart?_decimal fun hx => ha (toLower_eq_zero_iff.mp hx)] at h
        exact .decimal (numeral?_eq_some_iff.mp
          ((numeral?_lowerAscii 10 (a :: rest)).symm.trans h)) (by simpa using ha)

theorem WritesPart.numericPart? (h : WritesPart s n) :
    numericPart? (lowerAscii s) = some n := by
  cases h with
  | zero => rfl
  | decimal hs hzero =>
      obtain ⟨a, rest, rfl⟩ := List.exists_cons_of_ne_nil hs.ne_nil
      have ha : a ≠ '0' := by simpa using hzero
      have hcons : lowerAscii (a :: rest) = a.toLower :: lowerAscii rest := rfl
      rw [hcons, numericPart?_decimal fun hx => ha (toLower_eq_zero_iff.mp hx), ← hcons,
        numeral?_lowerAscii]
      exact numeral?_eq_some_iff.mpr hs
  | octal hs =>
      obtain ⟨b, digits, rfl⟩ := List.exists_cons_of_ne_nil hs.ne_nil
      obtain ⟨d, -, hd⟩ := hs.mem b List.mem_cons_self
      have hb : b.toLower ≠ 'x' := by
        intro hx
        rw [← hexValue?_toLower, hx] at hd
        cases hd
      have hcons : lowerAscii ('0' :: b :: digits) =
        '0' :: b.toLower :: lowerAscii digits := rfl
      rw [hcons, numericPart?_octal hb]
      exact (numeral?_lowerAscii 8 (b :: digits)).trans (numeral?_eq_some_iff.mpr hs)
  | @hex x digits _ hx hs =>
      have hcons : lowerAscii ('0' :: x :: digits) =
        '0' :: x.toLower :: lowerAscii digits := rfl
      rw [hcons, toLower_eq_x_iff.mpr hx, numericPart?_hex, numeral?_lowerAscii]
      exact numeral?_eq_some_iff.mpr hs

/-- A part in lower case is read as the number that it writes. -/
theorem numericPart?_lowerAscii_iff :
    Ipv4.numericPart? (lowerAscii s) = some n ↔ WritesPart s n :=
  ⟨writesPart_of_numericPart?, WritesPart.numericPart?⟩

theorem WritesPart.dot_not_mem (h : WritesPart s n) : '.' ∉ s := by
  have hdigits : ∀ {base : Nat} {s : List Char} {n : Nat}, Digits base s n → '.' ∉ s := by
    intro base s n hs hmem
    obtain ⟨d, -, hd⟩ := hs.mem _ hmem
    cases hd
  cases h with
  | zero => decide
  | decimal hs => exact hdigits hs
  | octal hs => simpa using hdigits hs
  | hex hx hs =>
      have hdot := hdigits hs
      rcases hx with rfl | rfl
      all_goals simpa using hdot

/-! ## Addresses -/

/-- The number that parts write together in so many octets: each is an octet,
but the last fills those that remain. -/
inductive Fills : Nat → List Nat → Nat → Prop
  | last {octets n : Nat} (hn : n < 256 ^ (octets + 1)) : Fills (octets + 1) [n] n
  | octet {octets m n : Nat} {rest : List Nat} (hm : m < 256)
      (hrest : Fills octets rest n) :
      Fills (octets + 1) (m :: rest) (m * 256 ^ octets + n)

theorem Fills.ne_nil {octets n : Nat} {parts : List Nat} (h : Fills octets parts n) :
    parts ≠ [] := by
  cases h <;> simp

theorem joinParts?_eq_some_iff (octets : Nat) (hoctets : 0 < octets) {n : Nat}
    {parts : List Nat} : joinParts? (8 * octets) parts = some n ↔ Fills octets parts n := by
  have hpow : ∀ k : Nat, 1 <<< (8 * k) = 256 ^ k := fun k => by
    rw [Nat.one_shiftLeft, Nat.pow_mul]
  induction parts generalizing octets n with
  | nil => exact iff_of_false (fun h => by cases h) fun h => h.ne_nil rfl
  | cons m rest ih =>
      obtain ⟨k, rfl⟩ := Nat.exists_eq_succ_of_ne_zero hoctets.ne'
      cases rest with
      | nil =>
          rw [joinParts?, hpow]
          constructor
          · intro h
            obtain ⟨hlt, heq⟩ := Option.ite_none_right_eq_some.mp h
            cases heq
            exact .last hlt
          · intro h
            cases h with
            | last hn => exact if_pos hn
            | octet hm hrest => exact absurd rfl hrest.ne_nil
      | cons l more =>
          have hshift : 8 * (k + 1) - 8 = 8 * k := by omega
          rw [joinParts?, hshift]
          · constructor
            · intro h
              obtain ⟨⟨hm, hk⟩, h⟩ := Option.ite_none_right_eq_some.mp h
              obtain ⟨low, hlow, heq⟩ := Option.bind_eq_some_iff.mp h
              cases heq
              rw [Nat.shiftLeft_eq, Nat.pow_mul]
              exact .octet hm ((ih _ (by omega)).mp hlow)
            · intro h
              cases h with
              | octet hm hrest =>
                  have hk : 0 < k := by
                    cases hrest <;> omega
                  rw [if_pos ⟨hm, by omega⟩, (ih _ hk).mpr hrest, Nat.shiftLeft_eq,
                    Nat.pow_mul]
                  rfl
          · exact fun h => by cases h

/-- A text of numeric parts that writes an address. -/
def IsNumeral (a : Ipv4) (s : List Char) : Prop :=
  ∃ parts values, s = joinWith ['.'] parts ∧ List.Forall₂ WritesPart parts values ∧
    Fills 4 values a.val

theorem ofNat?_eq_some_iff {a : Ipv4} : ofNat? n = some a ↔ a.val = n := by
  rw [ofNat?]
  split
  · next h =>
      rw [Option.some.injEq]
      constructor
      · rintro rfl
        rfl
      · rintro rfl
        rfl
  · next h => exact iff_of_false (fun h => nomatch h) fun ha => h (ha ▸ a.lt)

/-- The numeric reading takes the texts that write an address. -/
theorem ofNumeric?_lowerAscii_iff {a : Ipv4} :
    ofNumeric? (lowerAscii s) = some a ↔ a.IsNumeral s := by
  have hread : ∀ {parts : List (List Char)} {values : List Nat},
      (parts.map lowerAscii).mapM Ipv4.numericPart? = some values ↔
        List.Forall₂ WritesPart parts values := by
    intro parts values
    rw [mapM_eq_some_iff, List.forall₂_map_left_iff]
    simp only [numericPart?_lowerAscii_iff]
  have hpieces := pieces_lowerAscii (d := '.') (by decide) ⟨by decide, by decide⟩ s
  constructor
  · intro h
    obtain ⟨values, hvalues, h⟩ := Option.bind_eq_some_iff.mp h
    obtain ⟨m, hm, h⟩ := Option.bind_eq_some_iff.mp h
    rw [hpieces, hread] at hvalues
    rw [ofNat?_eq_some_iff] at h
    exact ⟨pieces '.' s, values, (joinWith_pieces '.' s).symm, hvalues,
      h ▸ (joinParts?_eq_some_iff 4 (by decide)).mp hm⟩
  · rintro ⟨parts, values, rfl, hparts, hfills⟩
    have hne : parts ≠ [] := by
      rintro rfl
      cases hparts
      exact hfills.ne_nil rfl
    have hdots : ∀ p ∈ parts, '.' ∉ p :=
      ((List.forall₂_and_left parts values).mp
        (hparts.imp fun p m hp => ⟨hp.dot_not_mem, hp⟩)).1
    rw [pieces_joinWith hne hdots] at hpieces
    show ((pieces '.' _).mapM Ipv4.numericPart?).bind
      (fun parts => (joinParts? 32 parts).bind ofNat?) = some a
    rw [hpieces, hread.mpr hparts, Option.bind_some,
      (joinParts?_eq_some_iff 4 (by decide)).mpr hfills, Option.bind_some,
      ofNat?_eq_some_iff]

/-! ## Canonical quads -/

/-- Each octet in decimal is one of a canonical quad. -/
theorem octets_canonical :
    ((List.range 256).all fun n => octet? (Nat.toDigits 10 n) == some n) = true := by
  decide +kernel

theorem octet?_toDigits (h : n < 256) : octet? (Nat.toDigits 10 n) = some n := by
  simpa using List.all_eq_true.mp octets_canonical n (List.mem_range.mpr h)

theorem ofDotted?_dotted (a : Ipv4) : ofDotted? a.dotted = some a := by
  rw [ofDotted?, Browser.pieces_dotted]
  simp only [List.map_cons, List.map_nil, octet?_toDigits (octet_lt a _)]
  exact ofNat?_eq_some_iff.mpr (Browser.quad_octets a).symm

theorem lowerAscii_dotted (a : Ipv4) : lowerAscii a.dotted = a.dotted :=
  lowerAscii_of_address (isAddressChar_of_ofDotted? (ofDotted?_dotted a))

/-- The canonical quad is a numeric spelling. -/
theorem isNumeral_dotted (a : Ipv4) : a.IsNumeral a.dotted := by
  rw [← ofNumeric?_lowerAscii_iff, lowerAscii_dotted]
  exact ofNumeric?_of_ofDotted? (ofDotted?_dotted a)

/-! ## Hosts -/

/-- A text in the form of a numeric part, whether it writes a number or not. -/
def IsPartText (p : List Char) : Prop :=
  (p ≠ [] ∧ ∀ c ∈ p, '0' ≤ c ∧ c ≤ '9') ∨
    ∃ x digits, p = '0' :: x :: digits ∧ (x = 'x' ∨ x = 'X') ∧ digits ≠ [] ∧
      ∀ c ∈ digits, ∃ d, hexValue? c = some d

/-- A host of one to four numeric parts. -/
def IsNumericText (host : List Char) : Prop :=
  ∃ parts, host = joinWith ['.'] parts ∧ parts ≠ [] ∧ parts.length ≤ 4 ∧
    ∀ p ∈ parts, IsPartText p

theorem IsPartText.lowered {p : List Char} (h : IsPartText p) :
    isNumericPart (lowerAscii p) = true ∧ ∀ c ∈ lowerAscii p, IsAddressChar c ∧ c ≠ '.' := by
  obtain ⟨hne, hdigits⟩ | ⟨x, digits, rfl, hx, hne, hdigits⟩ := h
  · have haddress : ∀ c ∈ p, IsAddressChar c := fun c hc => .inl (hdigits c hc)
    rw [lowerAscii_of_address haddress]
    refine ⟨?_, fun c hc => ⟨haddress c hc, ?_⟩⟩
    · unfold isNumericPart
      split
      · next digits => exact absurd (hdigits 'x' (by simp)) (by decide)
      · rw [Bool.and_eq_true, List.all_eq_true]
        exact ⟨by simpa using hne, fun c hc => isDecimal_of_ascii (hdigits c hc)⟩
    · rintro rfl
      exact absurd (hdigits _ hc) (by decide)
  · have hlow : ∀ c ∈ lowerAscii digits, ∃ d, hexValue? c = some d := by
      intro c hc
      obtain ⟨y, hy, rfl⟩ := List.mem_map.mp hc
      rw [hexValue?_toLower]
      exact hdigits y hy
    have hsmall : ∀ c ∈ lowerAscii digits, c.isUpper = false := by
      intro c hc
      obtain ⟨y, -, rfl⟩ := List.mem_map.mp hc
      exact isUpper_toLower y
    have hcons : lowerAscii ('0' :: x :: digits) =
      '0' :: x.toLower :: lowerAscii digits := rfl
    rw [hcons, toLower_eq_x_iff.mpr hx, isNumericPart, Bool.and_eq_true, List.all_eq_true]
    refine ⟨⟨by simpa [lowerAscii] using hne, fun c hc => ?_⟩, ?_⟩
    · obtain ⟨d, hd⟩ := hlow c hc
      rw [hd, hsmall c hc]
      rfl
    · refine List.forall_mem_cons.mpr ⟨⟨.inl (by decide), by decide⟩,
        List.forall_mem_cons.mpr ⟨⟨.inr (.inr (.inl rfl)), by decide⟩, fun c hc => ?_⟩⟩
      obtain ⟨d, hd⟩ := hlow c hc
      refine ⟨isAddressChar_of_hexValue? hd (hsmall c hc), ?_⟩
      rintro rfl
      cases hd

/-- A numeric spelling is judged by the address that it writes. -/
theorem IsNumeral.isPrivateIp_eq {a : Ipv4} (h : a.IsNumeral s) :
    isPrivateIp s = a.isNonPublic := by
  have hread := ofNumeric?_lowerAscii_iff.mpr h
  have hsmall : ∀ c ∈ lowerAscii s, c.isUpper = false := by
    intro c hc
    obtain ⟨x, -, rfl⟩ := List.mem_map.mp hc
    exact isUpper_toLower x
  rw [← isPrivateIp_lowerAscii, isPrivateIp_of_address
    (isAddressChar_of_ofNumeric? hread hsmall), isNumericHost_of_ofNumeric? hread hsmall,
    hread]
  rfl

/-- A host of numeric parts that writes no address is taken for an internal
one. -/
theorem IsNumericText.isPrivateIp_eq (h : IsNumericText s)
    (hnone : ∀ a : Ipv4, ¬ a.IsNumeral s) : isPrivateIp s = true := by
  obtain ⟨parts, rfl, hne, hlength, hparts⟩ := h
  have hread : ofNumeric? (lowerAscii (joinWith ['.'] parts)) = none := by
    rw [Option.eq_none_iff_forall_ne_some]
    exact fun a ha => hnone a (ofNumeric?_lowerAscii_iff.mp ha)
  have hdots : ∀ p ∈ parts, '.' ∉ p := fun p hp hmem =>
    ((hparts p hp).lowered.2 '.' (List.mem_map_of_mem hmem)).2 rfl
  have hpieces := pieces_lowerAscii (d := '.') (by decide) ⟨by decide, by decide⟩
    (joinWith ['.'] parts)
  rw [pieces_joinWith hne hdots] at hpieces
  have haddress : ∀ c ∈ lowerAscii (joinWith ['.'] parts), IsAddressChar c := by
    intro c hc
    obtain rfl | ⟨p, hp, hin⟩ := mem_iff_mem_pieces (d := '.') hc
    · exact .inr (.inr (.inr rfl))
    · rw [hpieces] at hp
      obtain ⟨part, hpart, rfl⟩ := List.mem_map.mp hp
      exact ((hparts part hpart).lowered.2 c hin).1
  have hnumeric : isNumericHost (lowerAscii (joinWith ['.'] parts)) = true := by
    rw [isNumericHost, hpieces, Bool.and_eq_true, decide_eq_true_eq, List.length_map,
      List.all_map, List.all_eq_true]
    exact ⟨hlength, fun p hp => (hparts p hp).lowered.1⟩
  rw [← isPrivateIp_lowerAscii, isPrivateIp_of_address haddress, hnumeric, hread]
  rfl

end Ipv4

end Signpost.Net
