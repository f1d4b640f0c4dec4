import Mathlib
import Signpost.Proofs.MappedSpellings

/-!
# The address decides, not its spelling

A host is judged by the address that it writes, whether as a canonical quad, in
numeric parts, or as the IPv6 address that maps it. What is in the way of that
are the places where one reading could take a text from another: a mapped text
that is cut down to its quad, and a scope, which the check of a host may not
see as it was written.

Brackets at the ends of a host are taken for those around an address. So a
scope that is made of brackets alone is lost, and what is left of the text is
no address any more.
-/

namespace Signpost.Net

open Text

/-! ## Texts that are cut down to their quad -/

theorem zeroGroups?_eq_some {n : Nat} {s rest : List Char} (h : zeroGroups? n s = some rest) :
    ∃ head, s = head ++ rest ∧ ∀ c ∈ head, c ∈ ['0', ':', 'f'] := by
  induction n generalizing s with
  | zero =>
      cases h
      exact ⟨[], rfl, List.forall_mem_nil _⟩
  | succ n ih =>
      rw [zeroGroups?] at h
      split at h
      · next after hafter =>
          split at h
          · obtain ⟨head, rfl, hhead⟩ := ih h
            refine ⟨s.takeWhile (· == '0') ++ ':' :: head, ?_, ?_⟩
            · rw [List.append_assoc, List.cons_append, ← hafter,
                List.takeWhile_append_dropWhile]
            · refine List.forall_mem_append.mpr ⟨fun c hc => ?_,
                List.forall_mem_cons.mpr ⟨by decide, hhead⟩⟩
              have hzero := List.mem_takeWhile_imp hc
              rw [beq_iff_eq] at hzero
              rw [hzero]
              decide
          · cases h
      · cases h

/-- A text that is cut down ends in its quad after a colon, with nothing but
zeros, colons and `f` before. -/
theorem mappedTail?_eq_some {s q : List Char} (h : mappedTail? s = some q) :
    ∃ head rest, s = head ++ ':' :: rest ∧ (∀ c ∈ head, c ∈ ['0', ':', 'f']) ∧
      q = dropFinalBreak rest ∧ isDottedDigits q = true := by
  unfold mappedTail? at h
  dsimp only at h
  split at h
  · next rest hafter =>
      obtain ⟨hdigits, hq⟩ := Option.ite_none_right_eq_some.mp h
      cases hq
      have hzeros : ∃ before, s = before ++ ['f', 'f', 'f', 'f'] ++ ':' :: rest ∧
          ∀ c ∈ before, c ∈ ['0', ':', 'f'] := by
        split at hafter
        · cases hafter
          exact ⟨[':', ':'], rfl, by simp⟩
        · obtain ⟨before, rfl, hbefore⟩ := zeroGroups?_eq_some hafter
          exact ⟨before, by simp, hbefore⟩
      obtain ⟨before, hs, hbefore⟩ := hzeros
      exact ⟨_, rest, hs, List.forall_mem_append.mpr ⟨hbefore, by simp⟩, rfl, hdigits⟩
  · cases h

theorem dot_mem_of_isDottedDigits {q : List Char} (h : isDottedDigits q = true) : '.' ∈ q := by
  by_contra hdot
  rw [isDottedDigits, pieces_of_not_mem hdot] at h
  cases h

theorem mem_of_isDottedDigits {q : List Char} (h : isDottedDigits q = true) :
    ∀ c ∈ q, c = '.' ∨ isDecimal c = true := by
  rw [isDottedDigits, Bool.and_eq_true, List.all_eq_true] at h
  intro c hc
  refine (mem_iff_mem_pieces (d := '.') hc).imp_right ?_
  rintro ⟨p, hp, hin⟩
  have hdigits := h.2 p hp
  rw [Bool.and_eq_true, List.all_eq_true] at hdigits
  exact hdigits.2 c hin

theorem mappedTail?_of_percent {s : List Char} (h : '%' ∈ s) : mappedTail? s = none := by
  cases hcut : mappedTail? s with
  | none => rfl
  | some q =>
      obtain ⟨head, rest, rfl, hhead, rfl, hdigits⟩ := mappedTail?_eq_some hcut
      rcases List.mem_append.mp h with hmem | hmem
      · exact absurd (hhead _ hmem) (by decide)
      · have hrest : '%' ∈ rest := (List.mem_cons.mp hmem).resolve_left (by decide)
        rcases mem_of_isDottedDigits hdigits _ (mem_dropFinalBreak hrest (by decide))
          with hc | hc
        · exact absurd hc (by decide)
        · exact absurd hc (by decide)

namespace Ipv6

variable {ps : List (List Char)} {ns : List Nat} {s : List Char} {a : Ipv4}

/-- A last piece with a dot is the quad of the last two groups. -/
theorem WritesGroups.getLast? (h : WritesGroups ps ns) {q : List Char}
    (hq : ps.getLast? = some q) (hdot : '.' ∈ q) :
    ∃ (b : Ipv4) (front : List Nat), q = b.dotted ∧
      ns = front ++ [b.val / 0x10000, b.val % 0x10000] := by
  induction h with
  | nil => cases hq
  | quad b =>
      cases hq
      exact ⟨b, [], rfl, rfl⟩
  | @group p n ps ns hp hps ih =>
      cases ps with
      | nil =>
          cases hq
          exact absurd hdot (hp.not_mem (by decide))
      | cons r more =>
          rw [List.getLast?_cons_cons] at hq
          obtain ⟨b, front, rfl, rfl⟩ := ih hq
          exact ⟨b, n :: front, rfl, rfl⟩

/-- A text that ends in a quad writes that quad's address last. -/
theorem Writes.quad_of_colon (h : Writes s ns) {head q : List Char}
    (hs : s = head ++ ':' :: q) (hcolon : ':' ∉ q) (hdot : '.' ∈ q) :
    ∃ (b : Ipv4) (front : List Nat), q = b.dotted ∧
      ns = front ++ [b.val / 0x10000, b.val % 0x10000] := by
  have hlast : (pieces ':' s).getLast? = some q := by
    rw [hs, pieces_append_cons, pieces_of_not_mem hcolon, List.getLast?_concat]
  cases h with
  | full hps hlength =>
      rw [hps.pieces_joinWith] at hlast
      split at hlast
      · cases hlast
        cases hdot
      · exact hps.getLast? hlast hdot
  | @short ps qs ns ms hps hqs hlength =>
      obtain ⟨first, rest, hfirst⟩ := List.exists_cons_of_ne_nil
        (pieces_ne_nil ':' (joinWith [':'] qs))
      rw [pieces_gap, hfirst, List.getLast?_append_cons, List.getLast?_cons_cons, ← hfirst,
        hqs.pieces_joinWith] at hlast
      split at hlast
      · cases hlast
        cases hdot
      · obtain ⟨b, front, rfl, rfl⟩ := hqs.getLast? hlast hdot
        exact ⟨b, _ ++ front, rfl, (List.append_assoc _ _ _).symm⟩

/-- A spelling has no character that ends an address or a text. -/
theorem Writes.not_mem (h : Writes s ns) : '%' ∉ s ∧ '/' ∉ s ∧ '\n' ∉ s := by
  have hout : ∀ c : Char, ¬ IsAddressChar c.toLower → c ≠ ':' → c ∉ s :=
    fun c hc hcolon hmem => (h.mem c hmem).elim hc hcolon
  exact ⟨hout _ (fun hc => absurd hc.bounds (by decide)) (by decide),
    hout _ (fun hc => absurd hc.bounds (by decide)) (by decide),
    hout _ (fun hc => absurd hc.bounds (by decide)) (by decide)⟩

/-- A spelling of a mapped address is cut down to the quad of that address, if
it is cut down. -/
theorem Writes.mappedTail? (h : Writes s (mappedGroups a)) {q : List Char}
    (hq : mappedTail? s = some q) : q = a.dotted := by
  obtain ⟨head, rest, hs, -, hrest, hdigits⟩ := mappedTail?_eq_some hq
  have hsame : q = rest := by
    rw [hrest]
    exact dropFinalBreak_of_not_mem fun hmem => h.not_mem.2.2 (by simp [hs, hmem])
  subst hsame
  have hcolon : ':' ∉ q := fun hmem => by
    rcases mem_of_isDottedDigits hdigits _ hmem with hc | hc
    · exact absurd hc (by decide)
    · exact absurd hc (by decide)
  obtain ⟨b, front, rfl, hgroups⟩ := h.quad_of_colon hs hcolon
    (dot_mem_of_isDottedDigits hdigits)
  have hfront : mappedGroups a = [0, 0, 0, 0, 0, 0xFFFF] ++
    [a.val / 0x10000, a.val % 0x10000] := rfl
  rw [hfront] at hgroups
  have htail := (List.append_inj' hgroups rfl).2
  simp only [List.cons.injEq, and_true] at htail
  have hval : b.val = a.val := by omega
  cases a
  cases b
  cases hval
  rfl

/-! ## Reading mapped addresses -/

theorem ofText?_of_slash {text : List Char} (hslash : '/' ∉ text) :
    ofText? text = (dropScope? text).bind fun address =>
      (Ipv6.ofPieces? (pieces ':' address)).bind ofNat? := by
  have hslash : text.contains '/' = false := by simpa using hslash
  rw [Ipv6.ofText?, hslash]
  rfl

/-- A spelling is read as the address that it writes. -/
theorem Writes.ofText? (h : Writes s (mappedGroups a)) : ofText? s = some (ofIpv4 a) := by
  obtain ⟨hpercent, hslash, -⟩ := h.not_mem
  have hscope : dropScope? s = some s := by
    rw [dropScope?, cutFirst_of_not_mem hpercent]
  rw [ofText?_of_slash hslash, hscope, Option.bind_some, h.ofPieces?, Option.bind_some,
    ofNat?_mappedGroups]

/-- With a scope, too, unless the scope is empty. -/
theorem Writes.ofText?_scoped (h : Writes s (mappedGroups a)) {scope : List Char}
    (hpercent : '%' ∉ scope) (hslash : '/' ∉ scope) :
    Ipv6.ofText? (s ++ '%' :: scope) = if scope = [] then none else some (ofIpv4 a) := by
  obtain ⟨hsPercent, hsSlash, -⟩ := h.not_mem
  have hnoSlash : '/' ∉ s ++ '%' :: scope := by simp [hsSlash, hslash]
  have honce : scope.contains '%' = false := by simpa using hpercent
  have hscope : dropScope? (s ++ '%' :: scope) = if scope = [] then none else some s := by
    rw [dropScope?, cutFirst_append _ hsPercent]
    dsimp only
    rw [honce, Bool.or_false]
    simp only [List.isEmpty_iff]
  rw [ofText?_of_slash hnoSlash, hscope]
  split
  · rfl
  · rw [Option.bind_some, h.ofPieces?, Option.bind_some, ofNat?_mappedGroups]

theorem Writes.colon_mem (h : Writes s ns) : ':' ∈ s := by
  cases h with
  | @full ps ns hps hlength =>
      by_contra hcolon
      have hle := hps.length_le
      have hpieces := hps.pieces_joinWith
      rw [pieces_of_not_mem hcolon] at hpieces
      have hcount := congrArg List.length hpieces
      split at hcount
      · next hnil =>
          rw [hnil, List.length_nil] at hle
          omega
      · rw [List.length_singleton] at hcount
        omega
  | short => simp

theorem Writes.ne_nil (h : Writes s ns) : s ≠ [] :=
  List.ne_nil_of_mem h.colon_mem

/-- A scope that an address may have. -/
structure IsScope (scope : List Char) : Prop where
  ne_nil : scope ≠ []
  percent : '%' ∉ scope
  slash : '/' ∉ scope

end Ipv6

/-! ## What the check sees -/

theorem Ipv4.ofDotted?_of_colon {s : List Char} (h : ':' ∈ s) : ofDotted? s = none := by
  cases hread : ofDotted? s with
  | none => rfl
  | some a => exact absurd (isAddressChar_of_ofDotted? hread _ h).bounds (by decide)

/-- A text that is read as a mapped address, whole or by its quad, is judged by
that address. -/
theorem isPrivateIp_of_ofText? {host : List Char} {a : Ipv4}
    (hcolon : ':' ∈ lower (stripBrackets host))
    (htail : ∀ q, mappedTail? (lower (stripBrackets host)) = some q → q = a.dotted)
    (hread : Ipv6.ofText? (lower (stripBrackets host)) = some (Ipv6.ofIpv4 a)) :
    isPrivateIp host = a.isNonPublic := by
  rw [isPrivateIp]
  dsimp only
  cases hcut : mappedTail? (lower (stripBrackets host)) with
  | none =>
      rw [Option.getD_none, Ipv4.ofDotted?_of_colon hcolon, hread]
      dsimp only
      rw [Ipv6.mapped?_ofIpv4]
  | some q =>
      rw [Option.getD_some, htail q hcut, Ipv4.ofDotted?_dotted]

/-- A text with a scope that is not read as an address is no private one. -/
theorem isPrivateIp_of_unread {host : List Char}
    (hcolon : ':' ∈ lower (stripBrackets host)) (hpercent : '%' ∈ lower (stripBrackets host))
    (hread : Ipv6.ofText? (lower (stripBrackets host)) = none) : isPrivateIp host = false := by
  have hnumeric : Ipv4.isNumericHost (dropFinalBreak (lower (stripBrackets host))) = false :=
    Ipv4.isNumericHost_of_percent (mem_dropFinalBreak hpercent (by decide))
  rw [isPrivateIp, mappedTail?_of_percent hpercent]
  dsimp only [Option.getD_none]
  rw [Ipv4.ofDotted?_of_colon hcolon, hread, hnumeric]
  rfl

theorem Ipv6.Writes.front {s : List Char} {ns : List Nat} (h : Ipv6.Writes s ns) :
    ∀ c ∈ s, c.toNat < 0x80 ∧ c ≠ '[' ∧ c ≠ ']' :=
  fun c hc => (h.mem c hc).elim IsAddressChar.of_toLower (by rintro rfl; decide)

/-- A spelling of a mapped address is judged by the address that is mapped. -/
theorem isPrivateIp_of_writes {s : List Char} {a : Ipv4}
    (h : Ipv6.Writes s (Ipv6.mappedGroups a)) : isPrivateIp s = a.isNonPublic := by
  have hlow := h.lowerAscii
  have hstripped : lower (stripBrackets s) = lowerAscii s := by
    have happend := lower_stripBrackets_append h.ne_nil h.front []
    rwa [List.append_nil, trimRightWhere_eq, List.rdropWhile_nil, lowerFrom,
      List.append_nil] at happend
  refine isPrivateIp_of_ofText? ?_ ?_ ?_
  · rw [hstripped]
    exact hlow.colon_mem
  · rw [hstripped]
    exact fun q hq => hlow.mappedTail? hq
  · rw [hstripped]
    exact hlow.ofText?

/-- Whether some character of a text is no bracket. -/
def isUnbracketed (s : List Char) : Bool :=
  s.any fun c => !(c == '[' || c == ']')

/-- What the check sees of a scope: its brackets at the end are lost. -/
theorem lower_stripBrackets_scoped {s : List Char} {ns : List Nat} (h : Ipv6.Writes s ns)
    (scope : List Char) : ∃ seen : List Char,
    lower (stripBrackets (s ++ '%' :: scope)) = lowerAscii s ++ '%' :: seen ∧
      (seen = [] ↔ isUnbracketed scope = false) ∧
      ∀ c ∈ seen, c.toNat < 0x61 → c ∈ scope := by
  have hfront : ∀ c ∈ s ++ ['%'], c.toNat < 0x80 ∧ c ≠ '[' ∧ c ≠ ']' :=
    List.forall_mem_append.mpr ⟨h.front, by simp⟩
  have happend := lower_stripBrackets_append (by simp) hfront scope
  refine ⟨lowerFrom (s ++ ['%']).reverse
    (trimRightWhere (fun c => c == '[' || c == ']') scope), ?_, ?_, fun c hc hlow => ?_⟩
  · rw [List.append_assoc] at happend
    rw [← List.singleton_append, happend, lowerAscii, List.map_append, List.append_assoc]
    rfl
  · rw [lowerFrom_eq_nil_iff, trimRightWhere_eq, List.rdropWhile_eq_nil_iff, isUnbracketed,
      List.any_eq_false]
    simp [or_iff_not_imp_left]
  · exact mem_of_mem_trimRightWhere (mem_of_mem_lowerFrom hlow hc).1

/-- With a scope, too, unless the scope is made of brackets alone. -/
theorem isPrivateIp_of_scoped {s scope : List Char} {a : Ipv4}
    (h : Ipv6.Writes s (Ipv6.mappedGroups a)) (hscope : Ipv6.IsScope scope) :
    isPrivateIp (s ++ '%' :: scope) = (isUnbracketed scope && a.isNonPublic) := by
  obtain ⟨seen, hstripped, hnil, hseen⟩ := lower_stripBrackets_scoped h scope
  have hpercent : '%' ∈ lower (stripBrackets (s ++ '%' :: scope)) := by
    rw [hstripped]
    simp
  have hcolon : ':' ∈ lower (stripBrackets (s ++ '%' :: scope)) := by
    rw [hstripped]
    exact List.mem_append_left _ h.lowerAscii.colon_mem
  have hread := h.lowerAscii.ofText?_scoped
    (fun hmem => hscope.percent (hseen _ hmem (by decide)))
    (fun hmem => hscope.slash (hseen _ hmem (by decide)))
  rw [← hstripped] at hread
  cases hbrackets : isUnbracketed scope with
  | false =>
      rw [if_pos (hnil.mpr hbrackets)] at hread
      exact isPrivateIp_of_unread hcolon hpercent hread
  | true =>
      rw [if_neg fun hempty => by simp [hnil.mp hempty] at hbrackets] at hread
      refine isPrivateIp_of_ofText? hcolon (fun q hq => ?_) hread
      rw [mappedTail?_of_percent hpercent] at hq
      cases hq

/-- The address decides: each spelling of an IPv4 address is judged as its
canonical quad is, in numeric parts and as an IPv6 address that maps it. A scope
behind the latter changes nothing unless it is made of brackets alone. And a
host of numeric parts that writes no address counts as internal. -/
theorem isPrivateIp_of_spelling (a : Ipv4) :
    isPrivateIp a.dotted = a.isNonPublic ∧
      (∀ s, a.IsNumeral s → isPrivateIp s = isPrivateIp a.dotted) ∧
      (∀ s, Ipv6.Writes s (Ipv6.mappedGroups a) → isPrivateIp s = isPrivateIp a.dotted ∧
        ∀ scope, Ipv6.IsScope scope → isPrivateIp (s ++ '%' :: scope) =
          (isUnbracketed scope && isPrivateIp a.dotted)) ∧
      ∀ host, Ipv4.IsNumericText host → (∀ b : Ipv4, ¬ b.IsNumeral host) →
        isPrivateIp host = true := by
  have hquad : isPrivateIp a.dotted = a.isNonPublic := a.isNumeral_dotted.isPrivateIp_eq
  rw [hquad]
  refine ⟨rfl, fun s hs => hs.isPrivateIp_eq, fun s hs => ⟨isPrivateIp_of_writes hs, ?_⟩,
    fun host hhost hnone => hhost.isPrivateIp_eq hnone⟩
  exact fun scope hscope => isPrivateIp_of_scoped hs hscope

/-- The loopback address. -/
def Ipv4.loopback : Ipv4 :=
  ⟨0x7F000001, by decide⟩

/-- Spellings of the loopback address, and a host with an octet that is too
large, which spells none. -/
theorem loopback_spellings_private :
    (Ipv4.loopback.IsNumeral "0X7F.1".toList ∧ isPrivateIp "0X7F.1".toList = true) ∧
      (Ipv6.Writes "0::FFFF:7f00:1".toList (Ipv6.mappedGroups Ipv4.loopback) ∧
        isPrivateIp "0::FFFF:7f00:1".toList = true) ∧
      (Ipv6.IsScope "eth0]".toList ∧
        isPrivateIp ("0::FFFF:7f00:1".toList ++ '%' :: "eth0]".toList) = true) ∧
      Ipv4.IsNumericText "1.2.3.256".toList ∧
        (∀ b : Ipv4, ¬ b.IsNumeral "1.2.3.256".toList) ∧
        isPrivateIp "1.2.3.256".toList = true := by
  obtain ⟨hquad, hnumeral, hmapped, hnone⟩ := isPrivateIp_of_spelling Ipv4.loopback
  have hprivate : isPrivateIp Ipv4.loopback.dotted = true := by
    rw [hquad]
    decide +kernel
  rw [hprivate] at hnumeral hmapped
  have hnumeral' : Ipv4.loopback.IsNumeral "0X7F.1".toList :=
    Ipv4.ofNumeric?_lowerAscii_iff.mp (by decide +kernel)
  have hgroup : ∀ {p : List Char} {n : Nat}, p.length ≤ 4 → Ipv4.numeral? 16 p = some n →
      Ipv6.IsGroup p n := fun hlength hread =>
    ⟨hlength, Ipv4.numeral?_eq_some_iff.mp hread⟩
  have hwrites : Ipv6.Writes "0::FFFF:7f00:1".toList (Ipv6.mappedGroups Ipv4.loopback) :=
    @Ipv6.Writes.short [['0']] ["FFFF".toList, "7f00".toList, ['1']] _ _
      (.cons (hgroup (n := 0) (by decide) (by decide +kernel)) .nil)
      (.group (hgroup (n := 0xFFFF) (by decide) (by decide +kernel))
        (.group (hgroup (n := 0x7F00) (by decide) (by decide +kernel))
          (.group (hgroup (n := 1) (by decide) (by decide +kernel)) .nil)))
      (by decide)
  have hscope : Ipv6.IsScope "eth0]".toList := ⟨by decide, by decide, by decide⟩
  have htext : Ipv4.IsNumericText "1.2.3.256".toList := by
    refine ⟨[['1'], ['2'], ['3'], "256".toList], rfl, by decide, by decide, fun p hp => .inl ?_⟩
    fin_cases hp
    all_goals simp
  have hlarge : ∀ b : Ipv4, ¬ b.IsNumeral "1.2.3.256".toList := by
    intro b hb
    have hread : Ipv4.ofNumeric? (lowerAscii "1.2.3.256".toList) = none := by decide +kernel
    rw [Ipv4.ofNumeric?_lowerAscii_iff.mpr hb] at hread
    cases hread
  exact ⟨⟨hnumeral', hnumeral _ hnumeral'⟩, ⟨hwrites, (hmapped _ hwrites).1⟩,
    ⟨hscope, ((hmapped _ hwrites).2 _ hscope).trans (by decide)⟩, htext, hlarge,
    hnone _ htext hlarge⟩

/-- A bracket is a scope that the reading of IPv6 addresses takes, and with it a
spelling of the loopback address passes for public. -/
theorem bracket_scope_not_private :
    Ipv6.Writes "::ffff:127.0.0.1".toList (Ipv6.mappedGroups Ipv4.loopback) ∧
      Ipv6.IsScope [']'] ∧
      Ipv6.ofText? "::ffff:127.0.0.1%]".toList = some (Ipv6.ofIpv4 Ipv4.loopback) ∧
      isPrivateIp Ipv4.loopback.dotted = true ∧
      isPrivateIp "::ffff:127.0.0.1%]".toList = false := by
  have hgroup : Ipv6.IsGroup "ffff".toList 0xFFFF :=
    ⟨by decide, Ipv4.numeral?_eq_some_iff.mp (by decide +kernel)⟩
  have hquad : Ipv4.loopback.dotted = "127.0.0.1".toList := by decide +kernel
  refine ⟨?_, ⟨by decide, by decide, by decide⟩, by decide +kernel, by decide +kernel,
    by decide +kernel⟩
  have hwrites : Ipv6.Writes _ (Ipv6.mappedGroups Ipv4.loopback) :=
    @Ipv6.Writes.short [] _ _ _ .nil (.group hgroup (.quad Ipv4.loopback)) (by decide)
  rwa [hquad] at hwrites

end Signpost.Net
