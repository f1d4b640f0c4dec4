import Mathlib
import Signpost.Proofs.Fallible
import Signpost.Proofs.HostText
import Signpost.Proofs.Numerals

/-!
# Hosts that are read as numbers

A host without a colon is no IPv6 address and maps no IPv4 one, so whether it
is an address outside the public ranges comes down to its numeric reading: a
canonical dotted quad is one of the numeric hosts, and its numeric reading is
the address that it writes. A text that the numeric reading takes, and that
holds no capital, has one to four parts in the form of a numeric host.
-/

namespace Signpost.Net

open Text

/-! ## No colon, no IPv6 address -/

theorem zeroGroups?_of_not_mem {n : Nat} {s : List Char} (h : ':' ∉ s) :
    zeroGroups? (n + 1) s = none := by
  rw [zeroGroups?]
  split
  · next rest hrest =>
      have hmem : ':' ∈ s.dropWhile (· == '0') := by
        rw [hrest]
        exact List.mem_cons_self
      exact absurd (mem_of_mem_dropWhile hmem) h
  · rfl

theorem mappedTail?_of_not_mem {s : List Char} (h : ':' ∉ s) :
    mappedTail? s = none := by
  have hzeros : zeroGroups? 5 s = none := zeroGroups?_of_not_mem h
  cases s with
  | nil => rfl
  | cons c rest =>
      have hc : c ≠ ':' := fun hc => h (by simp [hc])
      simp [mappedTail?, hc, hzeros]

theorem Ipv6.ofText?_of_not_mem {s : List Char} (h : ':' ∉ s) :
    Ipv6.ofText? s = none := by
  have haddress : ∀ address, dropScope? s = some address → ':' ∉ address := by
    intro address hdrop
    rw [dropScope?] at hdrop
    split at hdrop
    · cases hdrop
      exact h
    · next scope hcut =>
        split at hdrop
        · cases hdrop
        · cases hdrop
          rw [eq_of_cutFirst hcut] at h
          exact fun hmem => h (List.mem_append_left _ hmem)
  rw [ofText?]
  split
  · rfl
  · cases hdrop : dropScope? s with
    | none => rfl
    | some address =>
        show ((ofPieces? (pieces ':' address)).bind ofNat?) = none
        rw [pieces_of_not_mem (haddress address hdrop)]
        rfl

namespace Ipv4

/-! ## Numerals -/

theorem digits_of_numeral? {base n : Nat} {s : List Char}
    (h : numeral? base s = some n) :
    s ≠ [] ∧ ∀ c ∈ s, ∃ d < base, hexValue? c = some d := by
  rw [numeral?] at h
  split at h
  · cases h
  · next hempty =>
      refine ⟨fun hs => hempty (by simp [hs]), ?_⟩
      clear hempty
      revert h
      generalize 0 = start
      induction s generalizing start with
      | nil => exact fun _ c hc => nomatch hc
      | cons x rest ih =>
          intro h
          rw [List.foldlM_cons] at h
          obtain ⟨next, hstep, hrest⟩ := Option.bind_eq_some_iff.mp h
          obtain ⟨d, hd, hstep⟩ := Option.bind_eq_some_iff.mp hstep
          split at hstep
          · next hlt =>
              exact List.forall_mem_cons.mpr ⟨⟨d, hlt, hd⟩, ih next hrest⟩
          · cases hstep

theorem bounds_of_hexValue? {c : Char} {d : Nat} (h : hexValue? c = some d)
    (hd : d < 10) : 0x30 ≤ c.toNat ∧ c.toNat ≤ 0x39 := by
  rw [hexValue?] at h
  split at h
  · assumption
  · split at h
    · cases h
      omega
    · split at h
      · cases h
        omega
      · cases h

theorem isAddressChar_of_hexValue? {c : Char} {d : Nat} (h : hexValue? c = some d)
    (hsmall : c.isUpper = false) : IsAddressChar c := by
  have hcapital : ¬ (0x41 ≤ c.toNat ∧ c.toNat ≤ 0x5A) := of_decide_eq_false hsmall
  rw [hexValue?] at h
  split at h
  · next hrange => exact .inl hrange
  · split at h
    · next hrange => exact .inr (.inl hrange)
    · split at h
      · omega
      · cases h

/-! ## Parts -/

/-- A part that has a number is digits after `0x`, or digits of a base up to
ten. -/
theorem digits_of_numericPart? {p : List Char} {n : Nat}
    (h : numericPart? p = some n) :
    (∃ digits, p = '0' :: 'x' :: digits ∧ digits ≠ [] ∧
      ∀ c ∈ digits, ∃ d, hexValue? c = some d) ∨
    (p ≠ [] ∧ ∀ c ∈ p, ∃ d < 10, hexValue? c = some d) := by
  unfold numericPart? at h
  split at h
  · next digits =>
      obtain ⟨hne, hdigits⟩ := digits_of_numeral? h
      exact .inl ⟨digits, rfl, hne, fun c hc => by
        obtain ⟨d, -, hd⟩ := hdigits c hc
        exact ⟨d, hd⟩⟩
  · refine .inr ⟨by simp, fun c hc => ?_⟩
    rw [List.mem_singleton.mp hc]
    exact ⟨0, by decide, rfl⟩
  · next digits _ _ =>
      obtain ⟨-, hdigits⟩ := digits_of_numeral? h
      refine .inr ⟨by simp, List.forall_mem_cons.mpr ⟨⟨0, by decide, rfl⟩, ?_⟩⟩
      intro c hc
      obtain ⟨d, hlt, hd⟩ := hdigits c hc
      exact ⟨d, by omega, hd⟩
  · exact .inr (digits_of_numeral? h)

theorem isAddressChar_of_numericPart? {p : List Char} {n : Nat}
    (h : numericPart? p = some n) (hsmall : ∀ c ∈ p, c.isUpper = false) :
    ∀ c ∈ p, IsAddressChar c := by
  obtain ⟨digits, rfl, -, hdigits⟩ | ⟨-, hdigits⟩ := digits_of_numericPart? h
  · refine List.forall_mem_cons.mpr ⟨.inl (by decide), List.forall_mem_cons.mpr
      ⟨.inr (.inr (.inl rfl)), fun c hc => ?_⟩⟩
    obtain ⟨d, hd⟩ := hdigits c hc
    exact isAddressChar_of_hexValue? hd (hsmall c (by simp [hc]))
  · intro c hc
    obtain ⟨d, -, hd⟩ := hdigits c hc
    exact isAddressChar_of_hexValue? hd (hsmall c hc)

theorem isNumericPart_of_numericPart? {p : List Char} {n : Nat}
    (h : numericPart? p = some n) (hsmall : ∀ c ∈ p, c.isUpper = false) :
    isNumericPart p = true := by
  obtain ⟨digits, rfl, hne, hdigits⟩ | ⟨hne, hdigits⟩ := digits_of_numericPart? h
  · rw [isNumericPart, Bool.and_eq_true, List.all_eq_true]
    refine ⟨by simpa using hne, fun c hc => ?_⟩
    obtain ⟨d, hd⟩ := hdigits c hc
    rw [hd, hsmall c (by simp [hc])]
    rfl
  · have hdecimal : ∀ c ∈ p, isDecimal c = true := fun c hc => by
      obtain ⟨d, hlt, hd⟩ := hdigits c hc
      exact isDecimal_of_ascii (bounds_of_hexValue? hd hlt)
    unfold isNumericPart
    split
    · next digits => exact absurd (hdecimal 'x' (by simp)) (by decide)
    · rw [Bool.and_eq_true, List.all_eq_true]
      exact ⟨by simpa using hne, hdecimal⟩

/-! ## Hosts -/

theorem length_of_joinParts? {bits n : Nat} {parts : List Nat} (hbits : 0 < bits)
    (h : joinParts? bits parts = some n) : 8 * parts.length ≤ bits + 7 := by
  induction parts generalizing bits n with
  | nil => simp
  | cons m rest ih =>
      cases rest with
      | nil =>
          simp only [List.length_singleton]
          omega
      | cons k more =>
          rw [joinParts?] at h
          · split at h
            · next hm =>
                obtain ⟨low, hlow, -⟩ := Option.bind_eq_some_iff.mp h
                have hle := ih (by omega) hlow
                simp only [List.length_cons] at hle ⊢
                omega
            · cases h
          · simp

theorem isNumericHost_of_ofNumeric? {s : List Char} {a : Ipv4}
    (h : ofNumeric? s = some a) (hsmall : ∀ c ∈ s, c.isUpper = false) :
    isNumericHost s = true := by
  obtain ⟨parts, hparts, h⟩ := Option.bind_eq_some_iff.mp h
  obtain ⟨n, hn, -⟩ := Option.bind_eq_some_iff.mp h
  have hall := mapM_eq_some_iff.mp hparts
  have hlength := length_of_joinParts? (by decide) hn
  rw [isNumericHost, Bool.and_eq_true, decide_eq_true_eq, List.all_eq_true]
  refine ⟨by rw [hall.length_eq]; omega, fun p hp => ?_⟩
  obtain ⟨m, hm⟩ := exists_of_mapM_eq_some hparts p hp
  exact isNumericPart_of_numericPart? hm fun c hc =>
    hsmall c (mem_of_mem_pieces hp hc)

theorem isNumericHost_of_percent {s : List Char} (h : '%' ∈ s) :
    isNumericHost s = false := by
  have hpart : ∀ p : List Char, '%' ∈ p → isNumericPart p = false := by
    intro p hp
    by_contra hnumeric
    rw [Bool.not_eq_false] at hnumeric
    unfold isNumericPart at hnumeric
    split at hnumeric
    · next digits =>
        have hdigit : '%' ∈ digits := by simpa using hp
        have hall := (Bool.and_eq_true_iff.mp hnumeric).2
        exact absurd (List.all_eq_true.mp hall _ hdigit) (by decide)
    · have hall := (Bool.and_eq_true_iff.mp hnumeric).2
      exact absurd (List.all_eq_true.mp hall _ hp) (by decide)
  obtain hdot | ⟨p, hp, hin⟩ := mem_iff_mem_pieces (d := '.') h
  · exact absurd hdot (by decide)
  · rw [isNumericHost, Bool.and_eq_false_iff, List.all_eq_false]
    exact .inr ⟨p, hp, by rw [hpart p hin]; decide⟩

theorem isAddressChar_of_ofNumeric? {s : List Char} {a : Ipv4}
    (h : ofNumeric? s = some a) (hsmall : ∀ c ∈ s, c.isUpper = false) :
    ∀ c ∈ s, IsAddressChar c := by
  obtain ⟨parts, hparts, -⟩ := Option.bind_eq_some_iff.mp h
  intro c hc
  obtain rfl | ⟨p, hp, hin⟩ := mem_iff_mem_pieces (d := '.') hc
  · exact .inr (.inr (.inr rfl))
  · obtain ⟨n, hn⟩ := exists_of_mapM_eq_some hparts p hp
    exact isAddressChar_of_numericPart? hn
      (fun x hx => hsmall x (mem_of_mem_pieces hp hx)) c hin

/-! ## Canonical quads -/

theorem digits_of_octet? {p : List Char} {n : Nat} (h : octet? p = some n) :
    ∀ c ∈ p, ∃ d < 10, hexValue? c = some d := by
  obtain ⟨m, hm, -⟩ := Option.bind_eq_some_iff.mp h
  exact (digits_of_numeral? hm).2

/-- An octet is the number of its part. -/
theorem numericPart?_of_octet? {p : List Char} {n : Nat} (h : octet? p = some n) :
    numericPart? p = some n ∧ n < 256 := by
  obtain ⟨m, hm, h⟩ := Option.bind_eq_some_iff.mp h
  split at h
  · next hform =>
      cases h
      obtain ⟨-, hle, hzero⟩ := hform
      refine ⟨?_, by omega⟩
      unfold numericPart?
      split
      · simp at hzero
      · rw [← hm]
        rfl
      · next digits _ hne =>
          simp at hzero
          exact absurd hzero hne
      · exact hm
  · cases h

theorem joinParts?_octets {k l m n : Nat} (hk : k < 256) (hl : l < 256)
    (hm : m < 256) (hn : n < 256) :
    joinParts? 32 [k, l, m, n] = some (quad k l m n) := by
  have hsum : (k <<< 24) + ((l <<< 16) + ((m <<< 8) + n)) = quad k l m n := by
    simp only [Nat.shiftLeft_eq, quad]
    omega
  simp [joinParts?, hk, hl, hm, hn, hsum]

theorem octets_of_ofDotted? {s : List Char} {a : Ipv4} (h : ofDotted? s = some a) :
    ∃ k l m n, (pieces '.' s).mapM octet? = some [k, l, m, n] ∧
      joinParts? 32 [k, l, m, n] = some (quad k l m n) ∧
      ofNat? (quad k l m n) = some a := by
  rw [ofDotted?] at h
  split at h
  · next p q r t hpieces =>
      obtain ⟨k, hk, h⟩ := Option.bind_eq_some_iff.mp h
      obtain ⟨l, hl, h⟩ := Option.bind_eq_some_iff.mp h
      obtain ⟨m, hm, h⟩ := Option.bind_eq_some_iff.mp h
      obtain ⟨n, hn, h⟩ := Option.bind_eq_some_iff.mp h
      refine ⟨k, l, m, n, ?_, ?_, h⟩
      · rw [hpieces, mapM_eq_some_iff]
        exact .cons hk (.cons hl (.cons hm (.cons hn .nil)))
      · exact joinParts?_octets (numericPart?_of_octet? hk).2
          (numericPart?_of_octet? hl).2 (numericPart?_of_octet? hm).2
          (numericPart?_of_octet? hn).2
  · cases h

/-- A canonical quad is read alike as a numeric host. -/
theorem ofNumeric?_of_ofDotted? {s : List Char} {a : Ipv4}
    (h : ofDotted? s = some a) : ofNumeric? s = some a := by
  obtain ⟨k, l, m, n, hoctets, hjoined, ha⟩ := octets_of_ofDotted? h
  have hall := mapM_eq_some_iff.mp hoctets
  have hparts : (pieces '.' s).mapM numericPart? = some [k, l, m, n] :=
    mapM_eq_some_iff.mpr (hall.imp fun p x hx => (numericPart?_of_octet? hx).1)
  show ((pieces '.' s).mapM numericPart?).bind
    (fun parts => (joinParts? 32 parts).bind ofNat?) = some a
  rw [hparts, Option.bind_some, hjoined]
  exact ha

theorem isAddressChar_of_ofDotted? {s : List Char} {a : Ipv4}
    (h : ofDotted? s = some a) : ∀ c ∈ s, IsAddressChar c := by
  obtain ⟨k, l, m, n, hoctets, -, -⟩ := octets_of_ofDotted? h
  intro c hc
  rcases mem_iff_mem_pieces (d := '.') hc with rfl | ⟨p, hp, hcp⟩
  · exact .inr (.inr (.inr rfl))
  · obtain ⟨x, hx⟩ := exists_of_mapM_eq_some hoctets p hp
    obtain ⟨d, hlt, hd⟩ := digits_of_octet? hx c hcp
    exact .inl (bounds_of_hexValue? hd hlt)

end Ipv4

/-- Whether a host without a colon is an address outside the public ranges. -/
theorem isPrivateIp_of_not_mem {host : List Char} (h : ':' ∉ host) :
    isPrivateIp host =
      let numeric := dropFinalBreak (lower (stripBrackets host))
      (Ipv4.isNumericHost numeric &&
        (Ipv4.ofNumeric? numeric).all (·.isNonPublic)) := by
  have hcolon : ':' ∉ lower (stripBrackets host) := fun hmem =>
    h (mem_of_mem_trimWhere (mem_of_mem_lower (by decide) hmem).1)
  rw [isPrivateIp, mappedTail?_of_not_mem hcolon]
  dsimp only [Option.getD_none]
  cases hdotted : Ipv4.ofDotted? (lower (stripBrackets host)) with
  | none =>
      rw [Ipv6.ofText?_of_not_mem hcolon]
      dsimp only
      split
      · next hnumeric =>
          rw [hnumeric]
          cases Ipv4.ofNumeric? _ <;> rfl
      · next hnumeric => simp [hnumeric]
  | some a =>
      have hread := Ipv4.ofNumeric?_of_ofDotted? hdotted
      have haddress := Ipv4.isAddressChar_of_ofDotted? hdotted
      have hbreak : '\n' ∉ lower (stripBrackets host) := fun hmem =>
        absurd (haddress _ hmem).bounds (by decide)
      have hnumeric := Ipv4.isNumericHost_of_ofNumeric? hread
        fun c hc => (haddress c hc).isLow.isUpper
      rw [dropFinalBreak_of_not_mem hbreak, hnumeric, hread]
      rfl

theorem isPrivateIp_of_address {host : List Char} (h : ∀ c ∈ host, IsAddressChar c) :
    isPrivateIp host = (Ipv4.isNumericHost host &&
      (Ipv4.ofNumeric? host).all (·.isNonPublic)) := by
  have hcolon : ':' ∉ host := fun hmem => absurd (h _ hmem).bounds (by decide)
  have hbreak : '\n' ∉ host := fun hmem => absurd (h _ hmem).bounds (by decide)
  rw [isPrivateIp_of_not_mem hcolon]
  dsimp only
  rw [stripBrackets_of_address h, lower_of_address h, dropFinalBreak_of_not_mem hbreak]

end Signpost.Net
