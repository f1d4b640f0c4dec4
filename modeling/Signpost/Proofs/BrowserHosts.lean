import Mathlib
import Signpost.Proofs.NumericHosts

/-!
# The host that a browser goes to

A browser reads more spellings of a host than the text of it shows. It decodes
percent escapes, lowers the capitals of ASCII, and takes a name whose last
label is a number for an address: one to four parts, each decimal, octal or
hexadecimal, where `0x` alone is zero. An address between brackets is taken as
it stands.

The check of destinations looks at the text. Where what the browser goes to is
internal, the check sees it but for two spellings: a name with an escape is not
decoded, and a numeral that has a bare `0x` among its parts is not taken for
one. `isSafeUrl_eq_false_iff` says that these two are all.
-/

namespace Signpost.Net

open Text

/-! ## The browser's reading -/

/-- The scheme and the authority of a text, well formed or not. -/
def Url.ofText (url : String) : Url :=
  let (scheme, rest) := Url.splitScheme (Url.clean (trim url.toList))
  ⟨scheme, Url.authorityOf rest⟩

/-- An http or https URL. -/
def Url.IsWeb (u : Url) : Prop :=
  u.scheme = "http".toList ∨ u.scheme = "https".toList

/-- The host of a URL as it is written. -/
def Url.hostText (u : Url) : List Char :=
  let hostAndPort := afterLast '@' u.authority
  match cutFirst '[' hostAndPort with
  | some (_, bracketed) => beforeFirst ']' bracketed
  | none => beforeFirst ':' hostAndPort

/-- The octet of an address that begins at a bit. -/
def Ipv4.octet (a : Ipv4) (bit : Nat) : Nat :=
  a.val / 2 ^ bit % 256

theorem Ipv4.octet_lt (a : Ipv4) (bit : Nat) : a.octet bit < 256 :=
  Nat.mod_lt _ (by decide)

/-- The canonical quad of an address. -/
def Ipv4.dotted (a : Ipv4) : List Char :=
  joinWith ['.'] ([24, 16, 8, 0].map fun bit => Nat.toDigits 10 (a.octet bit))

namespace Browser

/-- The labels of a name; an empty one at its end is dropped. -/
def labels (name : List Char) : List (List Char) :=
  let all := pieces '.' name
  if all.getLast? = some [] then all.dropLast else all

/-- Whether a label is a number: digits, or hexadecimal digits after `0x`, which
may be none. -/
def isNumber : List Char → Bool
  | '0' :: 'x' :: digits => digits.all fun c => (hexValue? c).isSome
  | label => !label.isEmpty && label.all fun c => '0' ≤ c && c ≤ '9'

/-- Whether a name is taken for an address. -/
def endsInNumber (name : List Char) : Bool :=
  ((labels name).getLast?.map isNumber).getD false

/-- The number of a part: `0x` alone is zero. -/
def number? (part : List Char) : Option Nat :=
  if part = ['0', 'x'] then some 0 else Ipv4.numericPart? part

/-- The address that a name stands for. -/
def address? (name : List Char) : Option Ipv4 := do
  let parts ← (labels name).mapM number?
  let n ← Ipv4.joinParts? 32 parts
  Ipv4.ofNat? n

/-- The host that a browser goes to, none where it goes nowhere. -/
def host? (u : Url) : Option (List Char) :=
  if ':' ∈ u.hostText then some u.host
  else
    let name := lowerAscii (percentDecode u.hostText)
    if endsInNumber name then (address? name).map Ipv4.dotted else some name

end Browser

/-- Whether a host is internal by its name alone. -/
def isInternalName (hostname : List Char) : Bool :=
  let host := trimRightWhere (· == '.') (lower (stripBrackets hostname))
  host == "localhost".toList || ".localhost".toList.isSuffixOf host ||
    internalSuffixes.any (fun suffix => suffix.toList.isSuffixOf host) ||
    internalPatterns.any (fun pattern => occursIn pattern.toList host)

/-- The spellings of an internal host that the check does not see. -/
structure Browser.Unseen (u : Url) : Prop where
  formed : Url.isAuthority u.authority = true
  unnamed : isInternalName u.host = false
  bare : ':' ∉ u.hostText
  spelt : '%' ∈ u.hostText ∨
    endsInNumber (lowerAscii u.hostText) = true ∧
      ['0', 'x'] ∈ labels (lowerAscii u.hostText)

/-! ## The parts of a URL -/

theorem Url.split?_eq (url : String) :
    Url.split? (trim url.toList) =
      if Url.isAuthority (Url.ofText url).authority then some (Url.ofText url)
      else none :=
  rfl

theorem Url.host_eq (u : Url) : u.host = Url.lowerHost u.hostText := by
  rw [Url.host, Url.hostText]
  cases cutFirst '[' (afterLast '@' u.authority) <;> rfl

theorem Url.lowerHost_of_not_mem {s : List Char} (h : '%' ∉ s) :
    Url.lowerHost s = lower s := by
  rw [Url.lowerHost]
  split
  · next host scope hcut =>
      rw [eq_of_cutFirst hcut] at h
      simp at h
  · rfl

theorem Url.mem_of_mem_lowerHost {s : List Char} {c : Char} (hc : c.toNat < 0x61)
    (h : c ∈ Url.lowerHost s) : c ∈ s := by
  rw [Url.lowerHost] at h
  split at h
  · next host scope hcut =>
      rw [eq_of_cutFirst hcut]
      rcases List.mem_append.mp h with h | h
      · exact List.mem_append_left _ (mem_of_mem_lower hc h).1
      · exact List.mem_append_right _ h
  · exact (mem_of_mem_lower hc h).1

theorem Url.percent_mem_lowerHost {s : List Char} (h : '%' ∈ s) :
    '%' ∈ Url.lowerHost s := by
  rw [Url.lowerHost]
  split
  · simp
  · exact mem_lower h (IsLow.isLowered ⟨by decide, by decide⟩)

theorem percentDecode_of_not_mem {s : List Char} (h : '%' ∉ s) :
    percentDecode s = s := by
  induction s with
  | nil => rw [percentDecode]
  | cons c rest ih =>
      have hc : c ≠ '%' := fun hc => h (by simp [hc])
      have hnone : (escapedOctets (c :: rest)).1 = [] := by
        unfold escapedOctets
        split
        · next heq => exact absurd (List.cons.inj heq).1 hc
        · rfl
      rw [percentDecode, if_pos hnone, ih fun hmem => h (List.mem_cons_of_mem _ hmem)]

/-! ## Names and addresses -/

theorem isInternalHost_eq (hostname : List Char) :
    isInternalHost hostname = (isInternalName hostname || isPrivateIp
      (trimRightWhere (· == '.') (lower (stripBrackets hostname)))) := by
  rw [isInternalHost, isInternalName]
  simp only [Bool.or_assoc, Bool.or_comm, Bool.or_left_comm]

/-- The check of a host does not see whether capitals of ASCII alone were
lowered. -/
theorem isInternalHost_lowerAscii (s : List Char) :
    isInternalHost (lowerAscii s) = isInternalHost (lower s) := by
  simp only [isInternalHost, lower_stripBrackets]

theorem percent_mem_lower {s : List Char} (h : '%' ∈ s) :
    '%' ∈ lower (stripBrackets s) := by
  have hstripped := mem_trimWhere (fun c => c == '[' || c == ']') h
  exact mem_lower (hstripped.resolve_left (by decide))
    (IsLow.isLowered ⟨by decide, by decide⟩)

/-- A text without a colon that holds an escape is no address. -/
theorem isPrivateIp_of_percent {s : List Char} (hcolon : ':' ∉ s) (h : '%' ∈ s) :
    isPrivateIp s = false := by
  have hmem : '%' ∈ dropFinalBreak (lower (stripBrackets s)) :=
    mem_dropFinalBreak (percent_mem_lower h) (by decide)
  rw [isPrivateIp_of_not_mem hcolon]
  dsimp only
  rw [Ipv4.isNumericHost_of_percent hmem, Bool.false_and]

theorem mem_of_occursIn {part s : List Char} {c : Char} (h : occursIn part s = true)
    (hc : c ∈ part) : c ∈ s := by
  induction s with
  | nil =>
      rw [occursIn, List.isEmpty_iff] at h
      rwa [h] at hc
  | cons x rest ih =>
      rw [occursIn, Bool.or_eq_true, List.isPrefixOf_iff_prefix] at h
      rcases h with h | h
      · exact h.subset hc
      · exact List.mem_cons_of_mem _ (ih h)

/-- A text that addresses are written with holds no part of an internal name. -/
theorem isInternalName_of_address {s : List Char} (h : ∀ c ∈ s, IsAddressChar c) :
    isInternalName s = false := by
  have hl : 'l' ∉ trimRightWhere (· == '.') s := fun hmem =>
    absurd (h _ (mem_of_mem_trimRightWhere hmem)).bounds (by decide)
  have hm : 'm' ∉ trimRightWhere (· == '.') s := fun hmem =>
    absurd (h _ (mem_of_mem_trimRightWhere hmem)).bounds (by decide)
  rw [isInternalName, stripBrackets_of_address h, lower_of_address h]
  generalize trimRightWhere (· == '.') s = host at hl hm
  have hforeign : ∀ part : List Char, 'l' ∈ part ∨ 'm' ∈ part → ¬ part ⊆ host := by
    rintro part (hpart | hpart) hsub
    · exact hl (hsub hpart)
    · exact hm (hsub hpart)
  have hexact : host ≠ "localhost".toList := by
    rintro rfl
    exact hforeign _ (by decide) (List.Subset.refl _)
  have hsuffix : ∀ part : List Char, 'l' ∈ part ∨ 'm' ∈ part →
      part.isSuffixOf host = false := by
    intro part hpart
    rw [Bool.eq_false_iff, Ne, List.isSuffixOf_iff_suffix]
    exact fun hends => hforeign part hpart hends.subset
  have hoccurs : ∀ part : List Char, 'l' ∈ part ∨ 'm' ∈ part →
      occursIn part host = false := by
    intro part hpart
    rw [Bool.eq_false_iff]
    exact fun hin => hforeign part hpart fun _ hc => mem_of_occursIn hin hc
  have hsuffixes : ∀ part ∈ internalSuffixes, 'l' ∈ part.toList ∨ 'm' ∈ part.toList := by
    decide
  have hpatterns : ∀ part ∈ internalPatterns, 'l' ∈ part.toList ∨ 'm' ∈ part.toList := by
    decide
  simp only [Bool.or_eq_false_iff, beq_eq_false_iff_ne, List.any_eq_false]
  exact ⟨⟨⟨hexact, hsuffix _ (by decide)⟩, fun part hpart => by
    simp [hsuffix _ (hsuffixes part hpart)]⟩, fun part hpart => by
    simp [hoccurs _ (hpatterns part hpart)]⟩

namespace Browser

/-! ## Labels -/

theorem getLast?_pieces_concat {d c : Char} (s : List Char) (hc : c ≠ d) :
    ∃ p, (pieces d (s ++ [c])).getLast? = some (p ++ [c]) := by
  induction s with
  | nil => exact ⟨[], by simp [pieces, hc]⟩
  | cons x rest ih =>
      obtain ⟨p, hp⟩ := ih
      rw [List.cons_append, pieces]
      split
      · exact ⟨p, by simp [List.getLast?_cons, hp]⟩
      · cases hs : pieces d (rest ++ [c]) with
        | nil => exact absurd hs (pieces_ne_nil d _)
        | cons first others =>
            rw [hs] at hp
            cases others with
            | nil =>
                rw [List.getLast?_singleton, Option.some.injEq] at hp
                exact ⟨x :: p, by simp [hp]⟩
            | cons second more => exact ⟨p, by simpa using hp⟩

theorem trimRightWhere_of_getLast? {s : List Char}
    (h : (pieces '.' s).getLast? ≠ some []) :
    trimRightWhere (· == '.') s = s := by
  rw [trimRightWhere_eq]
  induction s using List.reverseRecOn with
  | nil => rfl
  | append_singleton s c _ =>
      by_cases hc : c = '.'
      · rw [hc, pieces_concat] at h
        exact absurd (List.getLast?_concat) h
      · exact List.rdropWhile_concat_neg _ _ _ (by simpa using hc)

/-- Where a name is taken for an address, its labels are the pieces that are
left of it without the dots at its end. -/
theorem pieces_of_endsInNumber {name : List Char} (h : endsInNumber name = true) :
    pieces '.' (trimRightWhere (· == '.') name) = labels name := by
  have hlast : (labels name).getLast? ≠ some [] := by
    intro hnil
    rw [endsInNumber, hnil] at h
    cases h
  by_cases hdot : (pieces '.' name).getLast? = some []
  · induction name using List.reverseRecOn with
    | nil => cases h
    | append_singleton s c _ =>
        by_cases hc : c = '.'
        · have hlabels : labels (s ++ [c]) = pieces '.' s := by
            rw [labels, if_pos hdot, hc, pieces_concat, List.dropLast_concat]
          rw [hlabels] at hlast ⊢
          rw [hc, trimRightWhere_eq, List.rdropWhile_concat_pos _ _ _ (by rfl),
            ← trimRightWhere_eq, trimRightWhere_of_getLast? hlast]
        · obtain ⟨p, hp⟩ := getLast?_pieces_concat s hc
          rw [hp] at hdot
          simp at hdot
  · rw [trimRightWhere_of_getLast? hdot, labels, if_neg hdot]

theorem mem_labels {name p : List Char} (h : p ∈ pieces '.' name) :
    p = [] ∨ p ∈ labels name := by
  rw [labels]
  split
  · next hlast =>
      rw [← List.dropLast_append_getLast? _ hlast] at h
      exact (List.mem_append.mp h).symm.imp_left List.mem_singleton.mp
  · exact .inr h

/-! ## Addresses -/

theorem isAddressChar_of_number? {p : List Char} {n : Nat} (h : number? p = some n)
    (hsmall : ∀ c ∈ p, c.isUpper = false) : ∀ c ∈ p, IsAddressChar c := by
  rw [number?] at h
  split at h
  · next hbare =>
      rw [hbare]
      exact List.forall_mem_cons.mpr ⟨.inl (by decide), List.forall_mem_cons.mpr
        ⟨.inr (.inr (.inl rfl)), fun c hc => nomatch hc⟩⟩
  · exact Ipv4.isAddressChar_of_numericPart? h hsmall

theorem isAddressChar_of_address? {name : List Char} {a : Ipv4}
    (h : address? name = some a) (hsmall : ∀ c ∈ name, c.isUpper = false) :
    ∀ c ∈ name, IsAddressChar c := by
  obtain ⟨parts, hparts, -⟩ := Option.bind_eq_some_iff.mp h
  intro c hc
  obtain rfl | ⟨p, hp, hin⟩ := mem_iff_mem_pieces (d := '.') hc
  · exact .inr (.inr (.inr rfl))
  · obtain rfl | hlabel := mem_labels hp
    · cases hin
    · obtain ⟨n, hn⟩ := exists_of_mapM_eq_some hparts p hlabel
      exact isAddressChar_of_number? hn
        (fun x hx => hsmall x (mem_of_mem_pieces hp hx)) c hin

/-- A name that is taken for an address is seen to be one, unless a part of it
is a bare `0x`. -/
theorem isInternalHost_of_address? {name : List Char} {a : Ipv4}
    (h : address? name = some a) (hends : endsInNumber name = true)
    (hsmall : ∀ c ∈ name, c.isUpper = false) :
    isInternalHost name =
      (decide (['0', 'x'] ∉ labels name) && a.isNonPublic) := by
  have haddress := isAddressChar_of_address? h hsmall
  rw [isInternalHost_eq, isInternalName_of_address haddress, Bool.false_or,
    stripBrackets_of_address haddress, lower_of_address haddress]
  have htrimmed : ∀ c ∈ trimRightWhere (· == '.') name, IsAddressChar c :=
    fun c hc => haddress c (mem_of_mem_trimRightWhere hc)
  have hpieces := pieces_of_endsInNumber hends
  generalize trimRightWhere (· == '.') name = host at htrimmed hpieces
  rw [isPrivateIp_of_address htrimmed]
  by_cases hbare : ['0', 'x'] ∈ labels name
  · have hnumeric : Ipv4.isNumericHost host = false := by
      rw [Ipv4.isNumericHost, hpieces, Bool.and_eq_false_iff, List.all_eq_false]
      exact .inr ⟨_, hbare, by decide⟩
    rw [hnumeric]
    simp [hbare]
  · obtain ⟨parts, hparts, hrest⟩ := Option.bind_eq_some_iff.mp h
    have hread : Ipv4.ofNumeric? host = some a := by
      have hsame : (labels name).mapM Ipv4.numericPart? = some parts := by
        rw [← hparts]
        refine mapM_congr_of_mem fun p hp => ?_
        rw [number?, if_neg]
        rintro rfl
        exact hbare hp
      rw [Ipv4.ofNumeric?, hpieces, hsame]
      exact hrest
    rw [hread, Ipv4.isNumericHost_of_ofNumeric? hread
      fun c hc => (htrimmed c hc).isLow.isUpper]
    simp [hbare]

/-- An octet in decimal is a part with its number. -/
theorem octets_read : ((List.range 256).all fun n =>
    let p := Nat.toDigits 10 n
    Ipv4.numericPart? p == some n && isNumber p &&
      p.all fun c => '0' ≤ c && c ≤ '9') = true := by
  decide +kernel

theorem numericPart?_toDigits {n : Nat} (h : n < 256) :
    Ipv4.numericPart? (Nat.toDigits 10 n) = some n ∧
      isNumber (Nat.toDigits 10 n) = true ∧
      ∀ c ∈ Nat.toDigits 10 n, '0' ≤ c ∧ c ≤ '9' := by
  have hread := List.all_eq_true.mp octets_read n (List.mem_range.mpr h)
  simpa [and_assoc] using hread

theorem quad_octets (a : Ipv4) :
    Ipv4.quad (a.octet 24) (a.octet 16) (a.octet 8) (a.octet 0) = a.val := by
  have hlt : a.val < 2 ^ 32 := a.lt
  simp only [Ipv4.quad, Ipv4.octet]
  omega

theorem pieces_dotted (a : Ipv4) :
    pieces '.' a.dotted = [24, 16, 8, 0].map fun bit => Nat.toDigits 10 (a.octet bit) := by
  refine pieces_joinWith (List.cons_ne_nil _ _) fun p hp hmem => ?_
  obtain ⟨bit, -, rfl⟩ := List.mem_map.mp hp
  have hoctet := numericPart?_toDigits (a.octet_lt bit)
  exact absurd (hoctet.2.2 _ hmem) (by decide)

theorem labels_dotted (a : Ipv4) :
    labels a.dotted = [24, 16, 8, 0].map fun bit => Nat.toDigits 10 (a.octet bit) := by
  rw [labels, pieces_dotted, if_neg]
  exact fun h => absurd (Option.some.inj h) Nat.toDigits_ne_nil

theorem address?_dotted (a : Ipv4) : address? a.dotted = some a := by
  have hparts : (labels a.dotted).mapM number? =
      some ([24, 16, 8, 0].map a.octet) := by
    rw [labels_dotted, mapM_eq_some_iff, List.forall₂_map_left_iff,
      List.forall₂_map_right_iff, List.forall₂_same]
    intro bit _
    obtain ⟨hread, -, hdigits⟩ := numericPart?_toDigits (a.octet_lt bit)
    rw [number?, if_neg, hread]
    intro hbare
    rw [hbare] at hdigits
    exact absurd (hdigits 'x' (by simp)) (by decide)
  show ((labels a.dotted).mapM number?).bind
    (fun parts => (Ipv4.joinParts? 32 parts).bind Ipv4.ofNat?) = some a
  rw [hparts, Option.bind_some, List.map_cons, List.map_cons, List.map_cons,
    List.map_singleton, Ipv4.joinParts?_octets (a.octet_lt 24) (a.octet_lt 16)
      (a.octet_lt 8) (a.octet_lt 0),
    Option.bind_some, quad_octets]
  exact dif_pos a.lt

theorem endsInNumber_dotted (a : Ipv4) : endsInNumber a.dotted = true := by
  have hlast := numericPart?_toDigits (a.octet_lt 0)
  rw [endsInNumber, labels_dotted]
  exact hlast.2.1

/-- A canonical quad is internal when its address is not public. -/
theorem isInternalHost_dotted (a : Ipv4) : isInternalHost a.dotted = a.isNonPublic := by
  have hdigits : ∀ p ∈ labels a.dotted, ∀ c ∈ p, '0' ≤ c ∧ c ≤ '9' := by
    intro p hp
    rw [labels_dotted] at hp
    obtain ⟨bit, -, rfl⟩ := List.mem_map.mp hp
    exact (numericPart?_toDigits (a.octet_lt bit)).2.2
  have hbare : ['0', 'x'] ∉ labels a.dotted := fun hmem =>
    absurd (hdigits _ hmem 'x' (by simp)) (by decide)
  have hsmall : ∀ c ∈ a.dotted, c.isUpper = false := by
    intro c hc
    obtain rfl | ⟨p, hp, hin⟩ := mem_iff_mem_pieces (d := '.') hc
    · decide
    · obtain rfl | hlabel := mem_labels hp
      · cases hin
      · exact (IsAddressChar.isLow (.inl (hdigits p hlabel c hin))).isUpper
  rw [isInternalHost_of_address? (address?_dotted a) (endsInNumber_dotted a) hsmall]
  simp [hbare]

end Browser

/-! ## What the check does not see -/

theorem isInternalName_lowerAscii (s : List Char) :
    isInternalName (lowerAscii s) = isInternalName (lower s) := by
  simp only [isInternalName, lower_stripBrackets]

theorem Url.lowerHost_ne_nil {s : List Char} (h : s ≠ []) : Url.lowerHost s ≠ [] := by
  rw [Url.lowerHost]
  split
  · simp
  · exact lower_ne_nil h

/-- Where a host without a colon holds an escape, only its name is looked at. -/
theorem isInternalHost_of_percent {u : Url} (hcolon : ':' ∉ u.hostText)
    (h : '%' ∈ u.hostText) : isInternalHost u.host = isInternalName u.host := by
  have hpercent : '%' ∈ u.host := by
    rw [Url.host_eq]
    exact Url.percent_mem_lowerHost h
  have hbare : ':' ∉ u.host := by
    rw [Url.host_eq]
    exact fun hmem => hcolon (Url.mem_of_mem_lowerHost (by decide) hmem)
  have htrimmed := mem_trimRightWhere (· == '.') (percent_mem_lower hpercent)
  rw [isInternalHost_eq, isPrivateIp_of_percent ?_ (htrimmed.resolve_left (by decide)),
    Bool.or_false]
  intro hmem
  have hin := mem_of_mem_lower (by decide) (mem_of_mem_trimRightWhere hmem)
  exact hbare (mem_of_mem_trimWhere hin.1)

namespace Browser

/-- Where a browser goes to an internal host, the check takes it for a public
one exactly when it is spelt in one of the two ways. -/
theorem isInternalHost_eq_false_iff {u : Url} {host : List Char}
    (hformed : Url.isAuthority u.authority = true) (hread : host? u = some host)
    (hinternal : isInternalHost host = true) :
    isInternalHost u.host = false ↔ Unseen u := by
  rw [host?] at hread
  split at hread
  · next hcolon =>
      cases hread
      rw [hinternal]
      exact ⟨fun h => (nomatch h), fun h => absurd hcolon h.bare⟩
  · next hcolon =>
      by_cases hpercent : '%' ∈ u.hostText
      · rw [isInternalHost_of_percent hcolon hpercent]
        exact ⟨fun h => ⟨hformed, h, hcolon, .inl hpercent⟩, Unseen.unnamed⟩
      · rw [percentDecode_of_not_mem hpercent] at hread
        have hhost : u.host = lower u.hostText := by
          rw [Url.host_eq, Url.lowerHost_of_not_mem hpercent]
        rw [hhost, ← isInternalHost_lowerAscii]
        dsimp only at hread
        split at hread
        · next hends =>
            obtain ⟨a, ha, rfl⟩ := Option.map_eq_some_iff.mp hread
            have hsmall : ∀ c ∈ lowerAscii u.hostText, c.isUpper = false := by
              intro c hc
              obtain ⟨x, -, rfl⟩ := List.mem_map.mp hc
              exact isUpper_toLower x
            have hname := isInternalName_of_address (isAddressChar_of_address? ha hsmall)
            rw [isInternalHost_dotted] at hinternal
            rw [isInternalHost_of_address? ha hends hsmall, hinternal, Bool.and_true,
              decide_eq_false_iff_not, not_not]
            refine ⟨fun h => ⟨hformed, ?_, hcolon, .inr ⟨hends, h⟩⟩, fun h => ?_⟩
            · rwa [hhost, ← isInternalName_lowerAscii]
            · exact (h.spelt.resolve_left hpercent).2
        · next hends =>
            cases hread
            rw [hinternal]
            exact ⟨fun h => (nomatch h), fun h =>
              absurd (h.spelt.resolve_left hpercent).1 hends⟩

theorem Unseen.host_ne_nil {u : Url} (h : Unseen u) : u.host ≠ [] := by
  rw [Url.host_eq]
  refine Url.lowerHost_ne_nil fun hnil => ?_
  have hspelt := h.spelt
  rw [hnil] at hspelt
  revert hspelt
  decide

end Browser

theorem validateTarget_of_not_isSafeUrl {url : String} (h : isSafeUrl url = false) :
    ∃ bad, validateTarget url = .error bad := by
  rw [validateTarget]
  have htrimmed : isSafeUrl (String.ofList (trim url.toList)) = false := by
    rw [isSafeUrl, String.toList_ofList, trim, trim, trimWhere_trimWhere]
    exact h
  split
  · exact ⟨_, rfl⟩
  · rw [htrimmed]
    exact ⟨_, rfl⟩

/-- A URL that a browser follows to an internal host is refused unless the host
is spelt with an escape or with a bare `0x`. -/
theorem isSafeUrl_eq_false_iff {url : String} {host : List Char}
    (hweb : (Url.ofText url).IsWeb) (hread : Browser.host? (Url.ofText url) = some host)
    (hinternal : isInternalHost host = true) :
    (isSafeUrl url = false ↔ ¬ Browser.Unseen (Url.ofText url)) ∧
      (isSafeUrl url = false → ∃ bad, validateTarget url = .error bad) := by
  refine ⟨?_, validateTarget_of_not_isSafeUrl⟩
  rw [isSafeUrl, Url.split?_eq]
  by_cases hformed : Url.isAuthority (Url.ofText url).authority = true
  · have hscheme : ((Url.ofText url).scheme == "http".toList ||
        (Url.ofText url).scheme == "https".toList) = true := by
      simpa [Url.IsWeb] using hweb
    rw [if_pos hformed, ← Browser.isInternalHost_eq_false_iff hformed hread hinternal]
    dsimp only
    rw [hscheme, Bool.true_and]
    constructor
    · intro hrefused hhost
      have hne := (Browser.isInternalHost_eq_false_iff hformed hread hinternal).mp
        hhost |>.host_ne_nil
      rw [hhost, Bool.not_false, Bool.and_true, Bool.not_eq_false',
        List.isEmpty_iff] at hrefused
      exact hne hrefused
    · intro hhost
      rw [Bool.not_eq_false] at hhost
      rw [hhost, Bool.not_true, Bool.and_false]
  · rw [if_neg hformed]
    exact ⟨fun _ h => hformed h.formed, fun _ => rfl⟩

/-- The loopback network in an octal spelling is refused. -/
theorem octal_loopback_refused :
    let url := "http://0177.1:8000/"
    Browser.host? (Url.ofText url) = some "127.0.0.1".toList ∧
      isInternalHost "127.0.0.1".toList = true ∧
      isSafeUrl url = false ∧ ∃ bad, validateTarget url = .error bad := by
  have hread : Browser.host? (Url.ofText "http://0177.1:8000/") =
      some "127.0.0.1".toList := by
    decide +kernel
  have hinternal : isInternalHost "127.0.0.1".toList = true := by
    decide +kernel
  have hrefused := isSafeUrl_eq_false_iff (.inl (by decide +kernel)) hread hinternal
  have hseen : ¬ Browser.Unseen (Url.ofText "http://0177.1:8000/") := by
    intro h
    have hspelt := h.spelt
    revert hspelt
    decide +kernel
  exact ⟨hread, hinternal, hrefused.1.mpr hseen, hrefused.2 (hrefused.1.mpr hseen)⟩

/-- An escape and a bare `0x` lead a browser past the check. -/
theorem escaped_and_bare_hosts_accepted :
    (∃ host, Browser.host? (Url.ofText "http://%6cocalhost/") = some host ∧
      isInternalHost host = true ∧ isSafeUrl "http://%6cocalhost/" = true ∧
      validateTarget "http://%6cocalhost/" = .ok "http://%6cocalhost/") ∧
    (∃ host, Browser.host? (Url.ofText "http://127.0x/") = some host ∧
      isInternalHost host = true ∧ isSafeUrl "http://127.0x/" = true ∧
      validateTarget "http://127.0x/" = .ok "http://127.0x/") := by
  refine ⟨⟨"localhost".toList, ?_⟩, "127.0.0.0".toList, ?_⟩
  all_goals exact ⟨by decide +kernel, by decide +kernel, by decide +kernel,
    by decide +kernel⟩

end Signpost.Net
