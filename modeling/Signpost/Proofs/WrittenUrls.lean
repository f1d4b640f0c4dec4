import Mathlib
import Signpost.Proofs.BrowserHosts
import Signpost.Proofs.CaseAndBlanks

/-!
# The parts that a URL is written with

An http or https URL is written as its scheme, a user or none, the host, a port
or none, and a tail: path, query and fragment. Each of them is found again
where it stands. The tail begins with the first of the characters that end an
authority, so nothing in it counts; the host begins after the last `@`, so a
user may hold that character and colons as well; and the host ends at the first
colon, since a port holds none.

So a URL is safe by its host alone, in whatever capitals the host is written
and however many dots follow it.
-/

namespace Signpost.Net

open Text

/-! ## Characters of an authority -/

/-- Characters whose compatibility form holds a delimiter, as ranges. -/
def hidingRanges : List (Nat × Nat) :=
  [(0x2047, 0x2049), (0x2100, 0x2101), (0x2105, 0x2106), (0x2A74, 0x2A74),
    (0xFE13, 0xFE13), (0xFE16, 0xFE16), (0xFE55, 0xFE56), (0xFE5F, 0xFE5F),
    (0xFE6B, 0xFE6B), (0xFF03, 0xFF03), (0xFF0F, 0xFF0F), (0xFF1A, 0xFF1A),
    (0xFF1F, 0xFF20)]

/-- The characters that end an authority, and brackets, as ranges. -/
def breakRanges : List (Nat × Nat) :=
  [(0x23, 0x23), (0x2F, 0x2F), (0x3F, 0x3F), (0x5B, 0x5B), (0x5D, 0x5D)]

theorem hidesDelimiter_eq_inRanges (c : Char) :
    Url.hidesDelimiter c = Case.inRanges hidingRanges c.toNat := by
  rw [Bool.eq_iff_iff]
  simp only [Url.hidesDelimiter, Case.inRanges, hidingRanges, List.any_cons,
    List.any_nil, Bool.or_eq_true, Bool.and_eq_true, decide_eq_true_eq, beq_iff_eq,
    Bool.or_false]
  omega

/-- A character that an authority may hold, and that is no blank. -/
structure IsPlain (c : Char) : Prop where
  seen : isBlank c = false
  inside : Case.inRanges breakRanges c.toNat = false
  itself : Url.hidesDelimiter c = false

namespace IsPlain

variable {c : Char}

theorem endsAuthority (h : IsPlain c) : Url.endsAuthority c = false := by
  by_contra hends
  rw [Bool.not_eq_false, Url.endsAuthority] at hends
  simp only [Bool.or_eq_true, beq_iff_eq] at hends
  obtain ⟨-, hinside, -⟩ := h
  rcases hends with (rfl | rfl) | rfl
  all_goals exact absurd hinside (by decide)

theorem ne_bracket (h : IsPlain c) : c ≠ '[' ∧ c ≠ ']' := by
  obtain ⟨-, hinside, -⟩ := h
  constructor
  · rintro rfl
    exact absurd hinside (by decide)
  · rintro rfl
    exact absurd hinside (by decide)

end IsPlain

/-- A visible character of ASCII that neither ends an authority nor is a
bracket. -/
def IsUserChar (c : Char) : Prop :=
  (0x21 ≤ c.toNat ∧ c.toNat ≤ 0x7E) ∧ c ∉ ['/', '?', '#', '[', ']']

/-- A visible character of ASCII that means nothing in an authority or in a
host. -/
def IsHostChar (c : Char) : Prop :=
  (0x21 ≤ c.toNat ∧ c.toNat ≤ 0x7E) ∧
    c ∉ ['/', '?', '#', '@', ':', '[', ']', '%']

theorem IsHostChar.isUserChar {c : Char} (h : IsHostChar c) : IsUserChar c := by
  refine ⟨h.1, fun hmem => h.2 ?_⟩
  simp only [List.mem_cons, List.not_mem_nil, or_false] at hmem ⊢
  tauto

theorem IsUserChar.isPlain {c : Char} (h : IsUserChar c) : IsPlain c := by
  -- Visible ASCII is checked character by character.
  have hall : ∀ n < 0x7F, 0x21 ≤ n → Char.ofNat n ∉ ['/', '?', '#', '[', ']'] →
      isBlank (Char.ofNat n) = false ∧
        Case.inRanges breakRanges (Char.ofNat n).toNat = false ∧
        Url.hidesDelimiter (Char.ofNat n) = false := by
    decide +kernel
  obtain ⟨⟨hlow, hhigh⟩, hmem⟩ := h
  have hc := hall c.toNat (by omega) hlow (by rwa [Char.ofNat_toNat])
  rw [Char.ofNat_toNat] at hc
  exact ⟨hc.1, hc.2.1, hc.2.2⟩

/-- A host character is one in capitals too. -/
theorem isHostChar_toLower {c : Char} : IsHostChar c.toLower ↔ IsHostChar c := by
  have hcapital : ∀ i < 26, IsHostChar (Char.ofNat (0x41 + i)).toLower ∧
      IsHostChar (Char.ofNat (0x41 + i)) := by
    simp only [IsHostChar]
    decide +kernel
  obtain ⟨hsame, -⟩ | ⟨hsame, -⟩ | ⟨i, hi, rfl⟩ := toLower_cases c
  · rw [hsame]
  · rw [hsame]
  · exact iff_of_true (hcapital i hi).1 (hcapital i hi).2

/-! ## Digits of ports -/

/-- The digits of every script, as ranges. -/
def digitRanges : List (Nat × Nat) :=
  decimalZeros.map (fun start => (start, start + 9)) ++ looseDigitRanges

theorem isDigit_eq_inRanges (c : Char) :
    isDigit c = Case.inRanges digitRanges c.toNat := by
  rw [Case.inRanges, digitRanges, List.any_append, List.any_map, isDigit, isDecimal,
    decimalValue?, Option.isSome_map, List.isSome_find?]
  congr 2
  funext start
  rw [Function.comp_apply]
  congr 1
  rw [decide_eq_decide]
  omega

/-- Whether no number lies in ranges of both kinds. -/
def areApart (these those : List (Nat × Nat)) : Bool :=
  these.all fun x => those.all fun y => x.2.blt y.1 || y.2.blt x.1

theorem not_inRanges_of_areApart {these those : List (Nat × Nat)} {n : Nat}
    (h : areApart these those = true) (hin : Case.inRanges these n = true) :
    Case.inRanges those n = false := by
  obtain ⟨x, hx, hwithin⟩ := List.any_eq_true.mp hin
  rw [Case.inRanges, List.any_eq_false]
  intro y hy hy'
  have hapart := List.all_eq_true.mp (List.all_eq_true.mp h x hx) y hy
  simp only [Bool.or_eq_true, Nat.blt_eq] at hapart
  simp only [Bool.and_eq_true, decide_eq_true_eq] at hwithin hy'
  omega

theorem areApart_digitRanges : areApart digitRanges
    (blankRanges ++ breakRanges ++ hidingRanges ++ [(0x40, 0x40)]) = true := by
  decide +kernel

theorem isPlain_of_isDigit {c : Char} (h : isDigit c = true) :
    IsPlain c ∧ c ≠ '@' := by
  rw [isDigit_eq_inRanges] at h
  have hout := not_inRanges_of_areApart areApart_digitRanges h
  simp only [Case.inRanges, List.any_append, Bool.or_eq_false_iff] at hout
  obtain ⟨⟨⟨hblank, hbreak⟩, hhiding⟩, hat⟩ := hout
  refine ⟨⟨?_, hbreak, ?_⟩, ?_⟩
  · rwa [isBlank_eq_inRanges]
  · rwa [hidesDelimiter_eq_inRanges]
  · rintro rfl
    exact absurd hat (by decide)

/-! ## Blanks around a URL -/

theorem bounds_of_isAlpha {c : Char} (h : c.isAlpha = true) :
    (0x41 ≤ c.toNat ∧ c.toNat ≤ 0x5A) ∨ (0x61 ≤ c.toNat ∧ c.toNat ≤ 0x7A) := by
  rw [Char.isAlpha, Bool.or_eq_true] at h
  refine h.imp of_decide_eq_true fun hsmall => ?_
  rw [Char.isLower, Bool.and_eq_true] at hsmall
  exact hsmall.imp of_decide_eq_true of_decide_eq_true

theorem isBlank_of_isAlpha {c : Char} (h : c.isAlpha = true) : isBlank c = false := by
  have hbounds := bounds_of_isAlpha h
  simp only [isBlank, isSpace, Bool.or_eq_false_iff, Bool.and_eq_false_iff,
    beq_eq_false_iff_ne, decide_eq_false_iff_not]
  omega

theorem isBlank_of_endsAuthority {c : Char} (h : Url.endsAuthority c = true) :
    isBlank c = false := by
  simp only [Url.endsAuthority, Bool.or_eq_true, beq_iff_eq] at h
  rcases h with (rfl | rfl) | rfl
  all_goals decide

/-- Only what stands behind the last visible character is trimmed, and line
breaks and tabs are dropped from there alone. -/
theorem clean_trim_append {first : Char} {more : List Char} (halpha : first.isAlpha = true)
    (h : ∀ c ∈ first :: more, isBlank c = false) (rest : List Char) :
    Url.clean (trim (first :: more ++ rest)) = first :: more ++
      (trimRightWhere isBlank rest).filter
        fun c => !(c == '\t' || c == '\r' || c == '\n') := by
  have hkept : ∀ c ∈ first :: more, (!(c == '\t' || c == '\r' || c == '\n')) = true := by
    intro c hc
    have hblank := h c hc
    simp only [Bool.not_eq_true', Bool.or_eq_false_iff, beq_eq_false_iff_ne]
    refine ⟨⟨?_, ?_⟩, ?_⟩
    all_goals
      rintro rfl
      exact absurd hblank (by decide)
  have hhead : ¬ first.toNat ≤ 0x20 := by
    have hbounds := bounds_of_isAlpha halpha
    omega
  rw [trim, trimWhere_append (List.cons_ne_nil first more) h, Url.clean, List.cons_append,
    List.dropWhile_cons_of_neg (by simpa using hhead), ← List.cons_append,
    List.filter_append, List.filter_eq_self.mpr hkept]

/-! ## Hosts in other spellings -/

theorem isInternalHost_lower (s : List Char) :
    isInternalHost (lower s) = isInternalHost s := by
  simp only [isInternalHost, lower_stripBrackets_lower]

/-- Dots behind a host are trimmed before it is looked at. -/
theorem isInternalHost_dots {s : List Char} (h : ∀ c ∈ s, IsHostChar c) (dots : Nat) :
    isInternalHost (s ++ List.replicate dots '.') = isInternalHost s := by
  have hread : ∀ {s : List Char}, (∀ c ∈ s, IsHostChar c) →
      lower (stripBrackets s) = lowerAscii s := by
    intro s h
    have hbare : stripBrackets s = s := trimWhere_of_forall fun c hc => by
      have hbracket := (h c hc).isUserChar.isPlain.ne_bracket
      simp [hbracket.1, hbracket.2]
    rw [hbare, lower_of_ascii fun c hc => by have hc := (h c hc).1; omega]
  have hdots : ∀ c ∈ s ++ List.replicate dots '.', IsHostChar c := by
    refine List.forall_mem_append.mpr ⟨h, fun c hc => ?_⟩
    rw [List.eq_of_mem_replicate hc]
    exact ⟨by decide, by decide⟩
  have htrimmed : trimRightWhere (· == '.') (lowerAscii (s ++ List.replicate dots '.')) =
      trimRightWhere (· == '.') (lowerAscii s) := by
    induction dots with
    | zero => rw [List.replicate_zero, List.append_nil]
    | succ n ih =>
        rw [← ih fun c hc => hdots c (by simp at hc ⊢; tauto), List.replicate_succ',
          ← List.append_assoc, lowerAscii, List.map_append, List.map_singleton,
          trimRightWhere_eq]
        exact List.rdropWhile_concat_pos _ _ _ (by decide)
  simp only [isInternalHost, hread h, hread hdots, htrimmed]

/-! ## Written URLs -/

/-- The parts of a URL. The tail is all that follows the authority. -/
structure WrittenUrl where
  scheme : List Char
  user : Option (List Char)
  host : List Char
  port : Option (List Char)
  tail : List Char

namespace WrittenUrl

/-- The user, with the `@` that follows. -/
def userInfo (u : WrittenUrl) : List Char :=
  (u.user.map (· ++ ['@'])).getD []

/-- The host, and the port with the colon before it. -/
def hostAndPort (u : WrittenUrl) : List Char :=
  u.host ++ (u.port.map (':' :: ·)).getD []

def authority (u : WrittenUrl) : List Char :=
  u.userInfo ++ u.hostAndPort

/-- All that stands before the tail. -/
def front (u : WrittenUrl) : List Char :=
  u.scheme ++ ':' :: '/' :: '/' :: u.authority

def text (u : WrittenUrl) : String :=
  .ofList (u.front ++ u.tail)

/-- The same URL with another host. -/
def withHost (u : WrittenUrl) (host : List Char) : WrittenUrl :=
  { u with host := host }

/-- An http or https URL with a host of ASCII. -/
structure IsWeb (u : WrittenUrl) : Prop where
  scheme : lowerAscii u.scheme = "http".toList ∨ lowerAscii u.scheme = "https".toList
  user : ∀ user ∈ u.user, ∀ c ∈ user, IsUserChar c
  host_ne_nil : u.host ≠ []
  host : ∀ c ∈ u.host, IsHostChar c
  port : ∀ port ∈ u.port, ∀ c ∈ port, isDigit c = true
  tail : ∀ c ∈ u.tail.head?, Url.endsAuthority c = true

namespace IsWeb

variable {u : WrittenUrl}

theorem isAlpha (h : u.IsWeb) : ∀ c ∈ u.scheme, c.isAlpha = true := by
  intro c hc
  have hmem : c.toLower ∈ lowerAscii u.scheme := List.mem_map_of_mem hc
  have hletter : c.toLower ∈ ['h', 't', 'p', 's'] := by
    rcases h.scheme with hscheme | hscheme
    all_goals
      rw [hscheme] at hmem
      simp at hmem ⊢
      tauto
  have hletters : ∀ d ∈ ['h', 't', 'p', 's'], d.isAlpha = true := by simp [Char.isAlpha, Char.isLower]
  rw [← Char.isAlpha_toLower_eq_isAlpha]
  exact hletters _ hletter

theorem lower_scheme (h : u.IsWeb) :
    lower u.scheme = "http".toList ∨ lower u.scheme = "https".toList := by
  rw [← lower_lowerAscii]
  rcases h.scheme with hscheme | hscheme
  · rw [hscheme]
    exact .inl (by decide +kernel)
  · rw [hscheme]
    exact .inr (by decide +kernel)

theorem scheme_ne_nil (h : u.IsWeb) : u.scheme ≠ [] := by
  intro hnil
  have hscheme := h.scheme
  rw [hnil] at hscheme
  revert hscheme
  decide

theorem isPlain_host (h : u.IsWeb) : ∀ c ∈ u.host, IsPlain c :=
  fun c hc => (h.host c hc).isUserChar.isPlain

theorem isPlain_hostAndPort (h : u.IsWeb) :
    ∀ c ∈ u.hostAndPort, IsPlain c ∧ c ≠ '@' := by
  have hhost : ∀ c ∈ u.host, IsPlain c ∧ c ≠ '@' := by
    refine fun c hc => ⟨h.isPlain_host c hc, ?_⟩
    rintro rfl
    exact (h.host _ hc).2 (by decide)
  rw [hostAndPort]
  cases hport : u.port with
  | none => simpa using hhost
  | some port =>
      refine List.forall_mem_append.mpr ⟨hhost, List.forall_mem_cons.mpr ⟨?_, ?_⟩⟩
      · exact ⟨⟨by decide, by decide, by decide⟩, by decide⟩
      · exact fun c hc => isPlain_of_isDigit (h.port port hport c hc)

theorem isPlain_authority (h : u.IsWeb) : ∀ c ∈ u.authority, IsPlain c := by
  refine List.forall_mem_append.mpr ⟨?_, fun c hc => (h.isPlain_hostAndPort c hc).1⟩
  rw [userInfo]
  cases huser : u.user with
  | none => exact List.forall_mem_nil _
  | some user =>
      refine List.forall_mem_append.mpr ⟨fun c hc => (h.user user huser c hc).isPlain, ?_⟩
      intro c hc
      rw [List.mem_singleton.mp hc]
      exact ⟨by decide, by decide, by decide⟩

/-! ### The parts are found again -/

theorem isAuthority (h : u.IsWeb) : Url.isAuthority u.authority = true := by
  have hopen : '[' ∉ u.authority := fun hmem => (h.isPlain_authority _ hmem).ne_bracket.1 rfl
  have hclose : ']' ∉ u.authority := fun hmem =>
    (h.isPlain_authority _ hmem).ne_bracket.2 rfl
  have hhidden : u.authority.any Url.hidesDelimiter = false := by
    rw [List.any_eq_false]
    exact fun c hc => by simp [(h.isPlain_authority c hc).itself]
  simp [Url.isAuthority, hopen, hclose, hhidden]

/-- The host begins after the last `@` and ends before the first colon. -/
theorem hostText (h : u.IsWeb) (scheme : List Char) :
    Url.hostText ⟨scheme, u.authority⟩ = u.host := by
  have hat : '@' ∉ u.hostAndPort := fun hmem => (h.isPlain_hostAndPort _ hmem).2 rfl
  have hopen : '[' ∉ u.hostAndPort := fun hmem =>
    (h.isPlain_hostAndPort _ hmem).1.ne_bracket.1 rfl
  have hcolon : ':' ∉ u.host := fun hmem => (h.host _ hmem).2 (by decide)
  have hafter : afterLast '@' u.authority = u.hostAndPort := by
    rw [authority, userInfo]
    cases u.user with
    | none => exact afterLast_of_not_mem hat
    | some user =>
        rw [Option.map_some, Option.getD_some, List.append_assoc, List.singleton_append]
        exact afterLast_append user hat
  have hbefore : beforeFirst ':' u.hostAndPort = u.host := by
    rw [hostAndPort]
    cases u.port with
    | none =>
        rw [Option.map_none, Option.getD_none, List.append_nil]
        exact beforeFirst_of_not_mem hcolon
    | some port => exact beforeFirst_append port hcolon
  rw [Url.hostText]
  dsimp only
  rw [hafter, cutFirst_of_not_mem hopen]
  exact hbefore

/-- What stands before the tail begins with a letter and holds no blank. -/
theorem front_seen (h : u.IsWeb) :
    (∃ first rest, u.front = first :: rest ∧ first.isAlpha = true) ∧
      ∀ c ∈ u.front, isBlank c = false := by
  constructor
  · obtain ⟨first, rest, hscheme⟩ := List.exists_cons_of_ne_nil h.scheme_ne_nil
    rw [front, hscheme]
    exact ⟨first, _, rfl, h.isAlpha first (by simp [hscheme])⟩
  · refine List.forall_mem_append.mpr ⟨fun c hc => isBlank_of_isAlpha (h.isAlpha c hc), ?_⟩
    refine List.forall_mem_cons.mpr ⟨by decide, List.forall_mem_cons.mpr ⟨by decide,
      List.forall_mem_cons.mpr ⟨by decide, ?_⟩⟩⟩
    exact fun c hc => (h.isPlain_authority c hc).seen

/-- Trimming and cleaning change nothing before the tail, and the tail keeps
the character that it begins with. -/
theorem clean_text (h : u.IsWeb) : ∃ tail : List Char,
    Url.clean (trim u.text.toList) = u.front ++ tail ∧
      ∀ c ∈ tail.head?, Url.endsAuthority c = true := by
  obtain ⟨⟨first, more, hfirst, halpha⟩, hseen⟩ := h.front_seen
  rw [hfirst] at hseen ⊢
  rw [text, hfirst, String.toList_ofList]
  cases htail : u.tail with
  | nil =>
      refine ⟨[], ?_, fun c hc => nomatch hc⟩
      rw [clean_trim_append halpha hseen]
      rfl
  | cons c rest =>
      -- The first character of the tail is no blank, so it stays in its place.
      have hends : Url.endsAuthority c = true := h.tail c (by simp [htail])
      have hblank : isBlank c = false := isBlank_of_endsAuthority hends
      have hall : ∀ x ∈ first :: (more ++ [c]), isBlank x = false := by
        rw [← List.cons_append]
        exact List.forall_mem_append.mpr ⟨hseen, by simpa using hblank⟩
      have hclean := clean_trim_append halpha hall rest
      simp only [List.cons_append, List.append_assoc, List.nil_append] at hclean ⊢
      exact ⟨c :: _, hclean, fun x hx => by cases hx; exact hends⟩

/-- Of a written URL the scheme and the authority are read. -/
theorem ofText_text (h : u.IsWeb) :
    Url.ofText u.text = ⟨lower u.scheme, u.authority⟩ := by
  obtain ⟨tail, hclean, htail⟩ := h.clean_text
  obtain ⟨first, rest, hscheme⟩ := List.exists_cons_of_ne_nil h.scheme_ne_nil
  have hcolon : ':' ∉ u.scheme := fun hmem => absurd (h.isAlpha _ hmem) (by decide)
  have hcut : cutFirst ':' (u.front ++ tail) =
      some (u.scheme, '/' :: '/' :: (u.authority ++ tail)) := by
    rw [front, List.append_assoc]
    exact cutFirst_append _ hcolon
  have hchars : (first.isAlpha && (first :: rest).all Url.isSchemeChar) = true := by
    rw [Bool.and_eq_true, List.all_eq_true, ← hscheme]
    refine ⟨h.isAlpha first (by simp [hscheme]), fun c hc => ?_⟩
    simp [Url.isSchemeChar, Char.isAlphanum, h.isAlpha c hc]
  have hinside : ∀ c ∈ u.authority, (! Url.endsAuthority c) = true := fun c hc => by
    simp [(h.isPlain_authority c hc).endsAuthority]
  have hauthority : (u.authority ++ tail).takeWhile (! Url.endsAuthority ·) =
      u.authority := by
    rw [List.takeWhile_append_of_pos hinside]
    cases tail with
    | nil => exact List.append_nil _
    | cons c more =>
        rw [List.takeWhile_cons_of_neg (by simp [htail c rfl]), List.append_nil]
  rw [Url.ofText, hclean, Url.splitScheme, hcut, hscheme]
  dsimp only
  rw [if_pos hchars, Url.authorityOf, hauthority]

theorem host_ofText (h : u.IsWeb) : (Url.ofText u.text).host = lower u.host := by
  have hpercent : '%' ∉ u.host := fun hmem => (h.host _ hmem).2 (by decide)
  rw [h.ofText_text, Url.host_eq, h.hostText, Url.lowerHost_of_not_mem hpercent]

/-- A written URL is safe when its host is not internal. -/
theorem isSafeUrl_eq (h : u.IsWeb) : isSafeUrl u.text = !isInternalHost u.host := by
  have hscheme : ((Url.ofText u.text).scheme == "http".toList ||
      (Url.ofText u.text).scheme == "https".toList) = true := by
    rw [h.ofText_text]
    simpa using h.lower_scheme
  have hne : (Url.ofText u.text).host.isEmpty = false := by
    rw [h.host_ofText, List.isEmpty_eq_false_iff]
    exact lower_ne_nil h.host_ne_nil
  rw [isSafeUrl, Url.split?_eq, if_pos (by rw [h.ofText_text]; exact h.isAuthority)]
  dsimp only
  rw [hscheme, hne, h.host_ofText, isInternalHost_lower]
  rfl

/-! ### Other spellings of the host -/

/-- The host may be written in other capitals and with dots behind it. -/
theorem withHost (h : u.IsWeb) {name : List Char}
    (hname : lowerAscii name = lowerAscii u.host) (dots : Nat) :
    (u.withHost (name ++ List.replicate dots '.')).IsWeb where
  scheme := h.scheme
  user := h.user
  host_ne_nil := by
    intro hnil
    have hempty := (List.append_eq_nil_iff.mp hnil).1
    rw [hempty] at hname
    exact h.host_ne_nil (List.map_eq_nil_iff.mp hname.symm)
  host := by
    intro c hc
    rcases List.mem_append.mp hc with hc | hc
    · have hlow : c.toLower ∈ lowerAscii u.host := hname ▸ List.mem_map_of_mem hc
      obtain ⟨d, hd, hsame⟩ := List.mem_map.mp hlow
      rw [← isHostChar_toLower, ← hsame, isHostChar_toLower]
      exact h.host d hd
    · rw [List.eq_of_mem_replicate hc]
      exact ⟨by decide, by decide⟩
  port := h.port
  tail := h.tail

end IsWeb

end WrittenUrl

/-- A URL is safe by its host alone: whatever the scheme's case, the user, the
port and the tail are, the URL is safe when the host is not internal; and it is
as safe with the host in other capitals and with dots behind it. -/
theorem isSafeUrl_text {u : WrittenUrl} (h : u.IsWeb) :
    isSafeUrl u.text = !isInternalHost u.host ∧
      ∀ (name : List Char) (dots : Nat), lowerAscii name = lowerAscii u.host →
        isSafeUrl (u.withHost (name ++ List.replicate dots '.')).text =
          isSafeUrl u.text := by
  refine ⟨h.isSafeUrl_eq, fun name dots hname => ?_⟩
  rw [(h.withHost hname dots).isSafeUrl_eq, h.isSafeUrl_eq]
  have hhost : ∀ c ∈ name, IsHostChar c := fun c hc =>
    (h.withHost hname dots).host c (List.mem_append_left _ hc)
  have hsame : isInternalHost (u.withHost (name ++ List.replicate dots '.')).host =
      isInternalHost u.host := by
    rw [WrittenUrl.withHost]
    dsimp only
    rw [isInternalHost_dots hhost, ← isInternalHost_lower name, ← lower_lowerAscii, hname,
      lower_lowerAscii, isInternalHost_lower]
  rw [hsame]

/-- A loopback address is seen behind a user with an `@`, in other capitals and
with dots behind it. -/
theorem loopback_host_seen :
    let u : WrittenUrl := ⟨"hTTpS".toList, some "a:b@c".toList, "0x7F.1".toList,
      some "8080".toList, "?to=@x.com".toList⟩
    u.IsWeb ∧ isSafeUrl u.text = false ∧
      lowerAscii "0X7f.1".toList = lowerAscii u.host ∧
      isSafeUrl (u.withHost ("0X7f.1".toList ++ List.replicate 2 '.')).text = false := by
  intro u
  have hweb : u.IsWeb :=
    { scheme := .inr (by decide +kernel)
      user := by simp [u, IsUserChar]
      host_ne_nil := by simp [u]
      host := by simp [u, IsHostChar]
      port := fun _ hport => by
        cases hport
        exact List.all_eq_true.mp (by decide +kernel)
      tail := by simp [u, Url.endsAuthority] }
  have hinternal : isInternalHost u.host = true := by decide +kernel
  have hname : lowerAscii "0X7f.1".toList = lowerAscii u.host := by decide +kernel
  have hread := isSafeUrl_text hweb
  have hrefused : isSafeUrl u.text = false := by
    rw [hread.1, hinternal]
    rfl
  exact ⟨hweb, hrefused, hname, (hread.2 _ 2 hname).trans hrefused⟩

end Signpost.Net
