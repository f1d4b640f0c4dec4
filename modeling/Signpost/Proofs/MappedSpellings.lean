import Mathlib
import Signpost.Proofs.NumericSpellings

/-!
# Spellings of a mapped address

An IPv6 address is written as eight groups of up to four hexadecimal digits with
colons between them. One run of zero groups may be left out as `::`, and the
last two groups may be written as a dotted quad. A scope may follow after `%`.

The address that maps an IPv4 address is read in two ways. A text that ends in
a dotted quad after `::ffff:`, or after the five groups of zeros in full, is cut
down to the quad; any other goes through the reading of IPv6 addresses. Both
come to the IPv4 address, since a spelling that ends in a quad ends in the one
of that address.
-/

namespace Signpost.Net

open Text

namespace Ipv6

variable {p q : List Char} {ps qs : List (List Char)} {n : Nat} {ns ms : List Nat}

/-! ## The grammar -/

/-- A group and its number. -/
def IsGroup (p : List Char) (n : Nat) : Prop :=
  p.length ≤ 4 ∧ Ipv4.Digits 16 p n

/-- The groups that pieces write; a dotted quad at the end stands for two. -/
inductive WritesGroups : List (List Char) → List Nat → Prop
  | nil : WritesGroups [] []
  | quad (a : Ipv4) : WritesGroups [a.dotted] [a.val / 0x10000, a.val % 0x10000]
  | group {p : List Char} {n : Nat} {ps : List (List Char)} {ns : List Nat}
      (hp : IsGroup p n) (hps : WritesGroups ps ns) : WritesGroups (p :: ps) (n :: ns)

/-- The eight groups that a text writes, all of them or with a run of zeros left
out. -/
inductive Writes : List Char → List Nat → Prop
  | full {ps : List (List Char)} {ns : List Nat} (hps : WritesGroups ps ns)
      (hlength : ns.length = 8) : Writes (joinWith [':'] ps) ns
  | short {ps qs : List (List Char)} {ns ms : List Nat} (hps : List.Forall₂ IsGroup ps ns)
      (hqs : WritesGroups qs ms) (hlength : ns.length + ms.length ≤ 7) :
      Writes (joinWith [':'] ps ++ ':' :: ':' :: joinWith [':'] qs)
        (ns ++ List.replicate (8 - ns.length - ms.length) 0 ++ ms)

/-! ## Reading the groups -/

namespace IsGroup

theorem not_mem (h : IsGroup p n) {c : Char} (hc : hexValue? c = none) : c ∉ p := by
  intro hmem
  obtain ⟨d, -, hd⟩ := h.2.mem c hmem
  rw [hc] at hd
  cases hd

theorem group? (h : IsGroup p n) : group? p = some n := by
  rw [Ipv6.group?, if_pos h.1]
  exact Ipv4.numeral?_eq_some_iff.mpr h.2

theorem groups?_singleton (h : IsGroup p n) : groups? [p] = some [n] := by
  have hdot : p.contains '.' = false := by
    simpa using h.not_mem (c := '.') (by decide)
  rw [groups?, hdot, h.group?]
  rfl

end IsGroup

theorem dot_mem_dotted (a : Ipv4) : '.' ∈ a.dotted := by
  by_contra hdot
  have hpieces := Browser.pieces_dotted a
  rw [pieces_of_not_mem hdot] at hpieces
  simpa using congrArg List.length hpieces

theorem not_mem_dotted (a : Ipv4) {c : Char} (hc : ¬ IsAddressChar c) : c ∉ a.dotted :=
  fun hmem => hc (Ipv4.isAddressChar_of_ofDotted? (Ipv4.ofDotted?_dotted a) c hmem)

theorem WritesGroups.groups? (h : WritesGroups ps ns) : groups? ps = some ns := by
  induction h with
  | nil => rfl
  | quad a =>
      have hdot : a.dotted.contains '.' = true := by simpa using dot_mem_dotted a
      rw [Ipv6.groups?, hdot, if_pos rfl, Ipv4.ofDotted?_dotted]
      simp [Nat.shiftRight_eq_div_pow]
  | @group p n ps ns hp hps ih =>
      cases ps with
      | nil =>
          cases hps
          exact hp.groups?_singleton
      | cons q more =>
          rw [Ipv6.groups?, hp.group?, ih]
          · rfl
          · exact fun h => nomatch h

theorem writesGroups_of_forall₂ (h : List.Forall₂ IsGroup ps ns) : WritesGroups ps ns := by
  induction h with
  | nil => exact .nil
  | cons hp _ ih => exact .group hp ih

/-- The pieces of spelt groups hold no colon and are not empty. -/
theorem WritesGroups.pieces (h : WritesGroups ps ns) : ∀ p ∈ ps, ':' ∉ p ∧ p ≠ [] := by
  induction h with
  | nil => exact List.forall_mem_nil _
  | quad a =>
      intro p hp
      rw [List.mem_singleton.mp hp]
      refine ⟨not_mem_dotted a fun h => absurd h.bounds (by decide), fun hnil => ?_⟩
      have hdot := dot_mem_dotted a
      rw [hnil] at hdot
      cases hdot
  | group hp _ ih =>
      exact List.forall_mem_cons.mpr ⟨⟨hp.not_mem (by decide), hp.2.ne_nil⟩, ih⟩

/-! ## Reading the address -/

theorem gap?_eq_none (h : ∀ p ∈ ps, p ≠ []) : gap? ps = none := by
  induction ps with
  | nil => rfl
  | cons p rest ih =>
      obtain ⟨hp, hrest⟩ := List.forall_mem_cons.mp h
      rw [gap?, if_neg (by simpa using hp), ih hrest]
      rfl

theorem gap?_append (h : ∀ p ∈ ps, p ≠ []) (rest : List (List Char)) :
    gap? (ps ++ [] :: rest) = some (ps, rest) := by
  induction ps with
  | nil => rfl
  | cons p more ih =>
      obtain ⟨hp, hmore⟩ := List.forall_mem_cons.mp h
      rw [List.cons_append, gap?, if_neg (by simpa using hp), ih hmore]
      rfl

/-- What stands on one side of `::` are the pieces of its groups, or one empty
piece. -/
theorem WritesGroups.pieces_joinWith (h : WritesGroups ps ns) :
    Text.pieces ':' (joinWith [':'] ps) = if ps = [] then [[]] else ps := by
  split
  · next hnil =>
      rw [hnil]
      rfl
  · next hne => exact Text.pieces_joinWith hne fun p hp => (h.pieces p hp).1

theorem WritesGroups.side? (h : WritesGroups ps ns) :
    side? (Text.pieces ':' (joinWith [':'] ps)) = some ns := by
  rw [h.pieces_joinWith]
  split
  · next hnil =>
      subst hnil
      cases h
      rfl
  · rw [Ipv6.side?, if_neg, h.groups?]
    rintro rfl
    exact (h.pieces [] List.mem_cons_self).2 rfl

theorem WritesGroups.length_le (h : WritesGroups ps ns) : ns.length ≤ ps.length + 1 := by
  induction h with
  | nil => simp
  | quad a => simp
  | group _ _ ih =>
      simp only [List.length_cons]
      omega

theorem ofPieces?_of_groups (hps : WritesGroups ps ns) (hlength : ns.length = 8) :
    ofPieces? ps = some (ofGroups ns) := by
  have hle := hps.length_le
  match ps, hps, hle with
  | [], _, hle | [_], _, hle =>
      rw [hlength] at hle
      exact absurd hle (by simp)
  | first :: second :: rest, hps, _ =>
      obtain ⟨front, last, hrest⟩ := List.eq_nil_or_concat (second :: rest) |>.resolve_left
        (List.cons_ne_nil second rest)
      rw [List.concat_eq_append] at hrest
      have hgap : gap? front = none := gap?_eq_none fun p hp =>
        (hps.pieces p (by simp [hrest, hp])).2
      rw [ofPieces?, hrest, List.getLast?_concat, List.dropLast_concat]
      dsimp only
      rw [hgap, ← hrest, hps.groups?]
      simp [hlength]

theorem ofPieces?_of_sides {first last : List Char} {before after : List (List Char)}
    (hbefore : ∀ p ∈ before, p ≠ []) (hdots : ∀ p ∈ first :: before, '.' ∉ p)
    (hhigh : side? (first :: before) = some ns) (hlow : side? (after ++ [last]) = some ms)
    (hlength : ns.length + ms.length ≤ 7) :
    ofPieces? (first :: before ++ [] :: (after ++ [last])) =
      some (ofGroups (ns ++ List.replicate (8 - ns.length - ms.length) 0 ++ ms)) := by
  have hrest : before ++ [] :: (after ++ [last]) = (before ++ [] :: after) ++ [last] := by
    simp
  have hany : (first :: before).any (·.contains '.') = false := by
    rw [List.any_eq_false]
    exact fun p hp => by simpa using hdots p hp
  rw [List.cons_append, hrest, ofPieces?, List.getLast?_concat, List.dropLast_concat]
  dsimp only
  rw [gap?_append hbefore]
  dsimp only
  rw [hhigh, hlow, hany]
  simp [hlength]

theorem pieces_gap (high low : List Char) :
    Text.pieces ':' (high ++ ':' :: ':' :: low) =
      Text.pieces ':' high ++ [] :: Text.pieces ':' low :=
  pieces_append_cons ':' high (':' :: low)

/-- A text is read as the groups that it writes. -/
theorem Writes.ofPieces? {s : List Char} (h : Writes s ns) :
    ofPieces? (Text.pieces ':' s) = some (ofGroups ns) := by
  cases h with
  | @full ps ns hps hlength =>
      have hne : ps ≠ [] := by
        rintro rfl
        cases hps
        cases hlength
      rw [hps.pieces_joinWith, if_neg hne]
      exact ofPieces?_of_groups hps hlength
  | @short ps qs ns ms hps hqs hlength =>
      have hgroups := writesGroups_of_forall₂ hps
      have hdots : ∀ p ∈ ps, '.' ∉ p := ((List.forall₂_and_left ps ns).mp
        (hps.imp fun p n hp => ⟨hp.not_mem (by decide), hp⟩)).1
      have hhigh := hgroups.side?
      have hlow := hqs.side?
      have hpieces := hgroups.pieces_joinWith
      obtain ⟨first, before, hfirst⟩ := List.exists_cons_of_ne_nil
        (pieces_ne_nil ':' (joinWith [':'] ps))
      obtain ⟨after, last, hlast⟩ := List.eq_nil_or_concat _ |>.resolve_left
        (pieces_ne_nil ':' (joinWith [':'] qs))
      rw [List.concat_eq_append] at hlast
      rw [hfirst] at hhigh hpieces
      rw [hlast] at hlow
      rw [pieces_gap, hfirst, hlast]
      -- To the left of the gap there are groups, or nothing at all.
      split at hpieces
      · cases hpieces
        exact ofPieces?_of_sides (List.forall_mem_nil _) (by simp) hhigh hlow hlength
      · subst hpieces
        exact ofPieces?_of_sides (fun p hp => (hgroups.pieces p (by simp [hp])).2) hdots
          hhigh hlow hlength

/-! ## Characters and case -/

/-- Addresses are spelt with hexadecimal digits, dots and colons. -/
theorem WritesGroups.mem (h : WritesGroups ps ns) :
    ∀ p ∈ ps, ∀ c ∈ p, IsAddressChar c.toLower := by
  induction h with
  | nil => exact List.forall_mem_nil _
  | quad a =>
      intro p hp c hc
      rw [List.mem_singleton.mp hp] at hc
      have haddress := Ipv4.isAddressChar_of_ofDotted? (Ipv4.ofDotted?_dotted a) c hc
      rwa [haddress.isLow.toLower]
  | group hp _ ih =>
      refine List.forall_mem_cons.mpr ⟨fun c hc => ?_, ih⟩
      obtain ⟨d, -, hd⟩ := hp.2.mem c hc
      rw [← hexValue?_toLower] at hd
      exact Ipv4.isAddressChar_of_hexValue? hd (isUpper_toLower c)

theorem Writes.mem {s : List Char} (h : Writes s ns) :
    ∀ c ∈ s, IsAddressChar c.toLower ∨ c = ':' := by
  have hjoin : ∀ {ps : List (List Char)} {ns : List Nat}, WritesGroups ps ns →
      ∀ c ∈ joinWith [':'] ps, IsAddressChar c.toLower ∨ c = ':' := by
    intro ps ns hps c hc
    obtain rfl | ⟨p, hp, hin⟩ := mem_joinWith hc
    · exact .inr rfl
    · exact .inl (hps.mem p hp c hin)
  cases h with
  | full hps => exact hjoin hps
  | short hps hqs =>
      refine List.forall_mem_append.mpr ⟨hjoin (writesGroups_of_forall₂ hps), ?_⟩
      exact List.forall_mem_cons.mpr ⟨.inr rfl, List.forall_mem_cons.mpr ⟨.inr rfl, hjoin hqs⟩⟩

theorem IsGroup.lowerAscii (h : IsGroup p n) : IsGroup (lowerAscii p) n := by
  refine ⟨by simpa [Text.lowerAscii] using h.1, ?_⟩
  rw [← Ipv4.numeral?_eq_some_iff, Ipv4.numeral?_lowerAscii]
  exact Ipv4.numeral?_eq_some_iff.mpr h.2

theorem WritesGroups.lowerAscii (h : WritesGroups ps ns) :
    WritesGroups (ps.map lowerAscii) ns := by
  induction h with
  | nil => exact .nil
  | quad a =>
      rw [List.map_singleton, Ipv4.lowerAscii_dotted]
      exact .quad a
  | group hp _ ih => exact .group hp.lowerAscii ih

/-- A spelling in lower case writes the same groups. -/
theorem Writes.lowerAscii {s : List Char} (h : Writes s ns) : Writes (lowerAscii s) ns := by
  cases h with
  | full hps hlength =>
      rw [lowerAscii_joinWith (by decide)]
      exact .full hps.lowerAscii hlength
  | @short ps qs ns ms hps hqs hlength =>
      have hsplit : Text.lowerAscii (joinWith [':'] ps ++ ':' :: ':' :: joinWith [':'] qs) =
          joinWith [':'] (ps.map Text.lowerAscii) ++
            ':' :: ':' :: joinWith [':'] (qs.map Text.lowerAscii) := by
        rw [← lowerAscii_joinWith (by decide), ← lowerAscii_joinWith (by decide)]
        exact List.map_append
      rw [hsplit]
      exact .short (List.forall₂_map_left_iff.mpr (hps.imp fun _ _ hp => hp.lowerAscii))
        hqs.lowerAscii hlength

/-! ## Mapped addresses -/

/-- The address `::ffff:a` of an IPv4 address. -/
def ofIpv4 (a : Ipv4) : Ipv6 where
  val := 0xFFFF00000000 + a.val
  lt := by
    have hlt := a.lt
    simp only [Nat.one_shiftLeft] at hlt ⊢
    omega

/-- Its groups. -/
def mappedGroups (a : Ipv4) : List Nat :=
  [0, 0, 0, 0, 0, 0xFFFF, a.val / 0x10000, a.val % 0x10000]

theorem mapped?_ofIpv4 (a : Ipv4) : (ofIpv4 a).mapped? = some a := by
  have hlt : a.val < 2 ^ 32 := a.lt
  have hhigh : (0xFFFF00000000 + a.val) >>> 32 = 0xFFFF := by
    rw [Nat.shiftRight_eq_div_pow]
    omega
  have hlow : (0xFFFF00000000 + a.val) % 0x100000000 = a.val := by omega
  rw [mapped?, ofIpv4]
  dsimp only
  rw [if_pos hhigh, hlow]
  exact Ipv4.ofNat?_eq_some_iff.mpr rfl

theorem ofNat?_mappedGroups (a : Ipv4) :
    ofNat? (ofGroups (mappedGroups a)) = some (ofIpv4 a) := by
  have hlt : a.val < 2 ^ 32 := a.lt
  have hval : ofGroups (mappedGroups a) = (ofIpv4 a).val := by
    simp only [ofGroups, mappedGroups, ofIpv4, List.foldl_cons, List.foldl_nil,
      Nat.shiftLeft_eq]
    omega
  rw [hval]
  exact dif_pos (ofIpv4 a).lt

end Ipv6
end Signpost.Net
