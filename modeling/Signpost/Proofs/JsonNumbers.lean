import Mathlib
import Signpost.Json.Printer
import Signpost.Json.Reader
import Signpost.Proofs.Rounding

/-!
# Numbers that are written and read

A number is written as a numeral: a sign, a whole part, and perhaps a fraction
and an exponent. The reader takes a numeral apart into just these parts, as
long as nothing behind it could be one of them, and so it reads an integer as
it was and any other number as the decimal that the parts write.

A number of the format is written in one of three layouts. Whichever it is,
the parts write the same decimal but for zeros at its end, and that is rounded
to the number again.
-/

namespace Signpost

namespace Json

/-- What may stand behind a value: nothing, or the end of a part. -/
def Follows (rest : List Char) : Prop :=
  ∀ c ∈ rest.head?, c = ',' ∨ c = ']' ∨ c = '\x7d'

/-! ## Digits -/

theorem isAsciiDigit_eq (c : Char) : isAsciiDigit c = c.isDigit := by
  rw [isAsciiDigit, Char.isDigit]
  rfl

theorem naturalOf_toDigits (n : Nat) : naturalOf (Nat.toDigits 10 n) = n :=
  Nat.ofDigitChars_toDigits (by omega) (by omega)

theorem isAsciiDigit_of_mem_toDigits {n : Nat} {c : Char}
    (h : c ∈ Nat.toDigits 10 n) : isAsciiDigit c = true := by
  rw [isAsciiDigit_eq]
  exact Nat.isDigit_of_mem_toDigits (by omega) (by omega) h

theorem isAsciiDigit_of_mem_zeros {n : Nat} {c : Char}
    (h : c ∈ List.replicate n '0') : isAsciiDigit c = true := by
  rw [List.eq_of_mem_replicate h]
  rfl

theorem naturalOf_append_zeros (digits : List Char) (n : Nat) :
    naturalOf (digits ++ List.replicate n '0') = naturalOf digits * 10 ^ n := by
  induction n with
  | zero => simp
  | succ n ih =>
      rw [List.replicate_succ', ← List.append_assoc, naturalOf,
        List.foldl_append, ← naturalOf, ih]
      show 10 * (naturalOf digits * 10 ^ n) + 0 = _
      ring

theorem naturalOf_zeros_append (n : Nat) (digits : List Char) :
    naturalOf (List.replicate n '0' ++ digits) = naturalOf digits := by
  induction n with
  | zero => rfl
  | succ n ih =>
      rw [List.replicate_succ, List.cons_append, ← ih]
      rfl

theorem span_digits {digits rest : List Char}
    (hdigits : ∀ c ∈ digits, isAsciiDigit c = true)
    (hrest : ∀ c ∈ rest.head?, isAsciiDigit c = false) :
    (digits ++ rest).takeWhile isAsciiDigit = digits ∧
      (digits ++ rest).dropWhile isAsciiDigit = rest := by
  rw [List.takeWhile_append_of_pos hdigits, List.dropWhile_append_of_pos hdigits]
  cases rest with
  | nil => simp
  | cons c more => simp [hrest c (by simp)]

/-- A numeral other than zero starts with another digit. -/
theorem toDigits_head {n : Nat} (h : n ≠ 0) :
    ∃ c more, Nat.toDigits 10 n = c :: more ∧ c ≠ '0' := by
  induction n using Nat.strongRecOn with
  | ind n ih =>
      by_cases hsmall : n < 10
      · refine ⟨n.digitChar, [], Nat.toDigits_of_lt_base hsmall, ?_⟩
        simpa using h
      · obtain ⟨c, more, heq, hc⟩ := ih (n / 10) (by omega) (by omega)
        refine ⟨c, more ++ [(n % 10).digitChar], ?_, hc⟩
        rw [Nat.toDigits_of_base_le (by omega) (by omega), heq]
        rfl

/-! ## Numerals -/

/-- A numeral by its parts. -/
structure Numeral where
  negative : Bool
  whole : List Char
  fraction : List Char
  exponent : Option Int

namespace Numeral

def exponentText : Option Int → List Char
  | none => []
  | some e => 'e' :: Binary64.exponentText e

def fractionText (digits : List Char) : List Char :=
  if digits.isEmpty then [] else '.' :: digits

/-- The text of a numeral after its sign. -/
def body (n : Numeral) : List Char :=
  n.whole ++ (fractionText n.fraction ++ exponentText n.exponent)

def text (n : Numeral) : List Char :=
  (if n.negative then ['-'] else []) ++ n.body

/-- The decimal that a numeral writes, its sign aside. -/
def decimal (n : Numeral) : Binary64.Decimal :=
  ⟨naturalOf (n.whole ++ n.fraction), n.exponent.getD 0 - n.fraction.length⟩

/-- A numeral as the reader admits it. -/
structure IsProper (n : Numeral) : Prop where
  whole : ∀ c ∈ n.whole, isAsciiDigit c = true
  head : n.whole = ['0'] ∨ ∃ c more, n.whole = c :: more ∧ c ≠ '0'
  fraction : ∀ c ∈ n.fraction, isAsciiDigit c = true

/-- What may stand behind a numeral. -/
def Ends (rest : List Char) : Prop :=
  ∀ c ∈ rest.head?, isAsciiDigit c = false ∧ c ≠ '.' ∧ c ≠ 'e' ∧ c ≠ 'E'

variable {n : Numeral} {rest : List Char}

theorem ends_of_follows (h : Follows rest) : Ends rest := by
  intro c hc
  rcases h c hc with rfl | rfl | rfl <;> decide

theorem Ends.noDigit (h : Ends rest) :
    ∀ c ∈ rest.head?, isAsciiDigit c = false :=
  fun c hc => (h c hc).1

theorem integerDigits_append {whole : List Char}
    (hdigits : ∀ c ∈ whole, isAsciiDigit c = true)
    (hhead : whole = ['0'] ∨ ∃ c more, whole = c :: more ∧ c ≠ '0')
    (hrest : ∀ c ∈ rest.head?, isAsciiDigit c = false) :
    integerDigits (whole ++ rest) = (whole, rest) := by
  rcases hhead with rfl | ⟨c, more, rfl, hc⟩
  · rfl
  · obtain ⟨htake, hdrop⟩ := span_digits hdigits hrest
    rw [integerDigits, htake, hdrop]
    intro more' hzero
    exact hc (List.cons.inj hzero).1

theorem fractionDigits_append {digits : List Char}
    (hdigits : ∀ c ∈ digits, isAsciiDigit c = true)
    (hrest : ∀ c ∈ rest.head?, isAsciiDigit c = false ∧ c ≠ '.') :
    fractionDigits (fractionText digits ++ rest) = (digits, rest) := by
  cases digits with
  | nil =>
      cases rest with
      | nil => rfl
      | cons c more =>
          show fractionDigits (c :: more) = _
          rw [fractionDigits]
          rintro more' heq
          exact (hrest c rfl).2 (List.cons.inj heq).1
  | cons d digits =>
      obtain ⟨htake, hdrop⟩ := span_digits hdigits fun c hc => (hrest c hc).1
      show fractionDigits ('.' :: ((d :: digits) ++ rest)) = _
      rw [fractionDigits, htake, hdrop]
      rfl

theorem exponentText_eq (e : Int) : ∃ digits,
    digits ≠ [] ∧ (∀ c ∈ digits, isAsciiDigit c = true) ∧
      naturalOf digits = e.natAbs ∧
      Binary64.exponentText e = (if e < 0 then '-' else '+') :: digits := by
  have hdigits : ∀ c ∈ Binary64.digitsOf e.natAbs, isAsciiDigit c = true :=
    fun c hc => isAsciiDigit_of_mem_toDigits (n := e.natAbs) hc
  refine ⟨_, ?_, ?_, ?_, rfl⟩
  · split
    · exact List.cons_ne_nil _ _
    · exact Nat.toDigits_ne_nil
  · split
    · exact List.forall_mem_cons.mpr ⟨rfl, hdigits⟩
    · exact hdigits
  · split
    · exact (naturalOf_zeros_append 1 _).trans (naturalOf_toDigits _)
    · exact naturalOf_toDigits _

theorem exponentPart_append {exponent : Option Int} (hrest : Ends rest) :
    exponentPart (exponentText exponent ++ rest) = (exponent, rest) := by
  cases exponent with
  | none =>
      cases rest with
      | nil => rfl
      | cons c more =>
          obtain ⟨-, -, he, hE⟩ := hrest c rfl
          exact if_neg (by simp [he, hE])
  | some e =>
      obtain ⟨digits, hne, hdigits, hvalue, htext⟩ := exponentText_eq e
      obtain ⟨htake, hdrop⟩ := span_digits hdigits hrest.noDigit
      have hrun : ¬ ((digits ++ rest).takeWhile isAsciiDigit).isEmpty := by
        rw [htake]
        simpa using hne
      show exponentPart ('e' :: (Binary64.exponentText e ++ rest)) = _
      rw [htext, List.cons_append]
      by_cases hneg : e < 0
      · have hread : exponentPart ('e' :: '-' :: (digits ++ rest)) =
            (some (-(naturalOf ((digits ++ rest).takeWhile isAsciiDigit) : Int)),
              (digits ++ rest).dropWhile isAsciiDigit) := if_neg hrun
        rw [if_pos hneg, hread, htake, hdrop, hvalue,
          Int.ofNat_natAbs_of_nonpos hneg.le, neg_neg]
      · have hread : exponentPart ('e' :: '+' :: (digits ++ rest)) =
            (some (naturalOf ((digits ++ rest).takeWhile isAsciiDigit) : Int),
              (digits ++ rest).dropWhile isAsciiDigit) := if_neg hrun
        rw [if_neg hneg, hread, htake, hdrop, hvalue,
          Int.natAbs_of_nonneg (Int.not_lt.mp hneg)]

theorem Ends.behindFraction (hrest : Ends rest) (exponent : Option Int) :
    ∀ c ∈ (exponentText exponent ++ rest).head?,
      isAsciiDigit c = false ∧ c ≠ '.' := by
  cases exponent with
  | none => exact fun c hc => ⟨(hrest c hc).1, (hrest c hc).2.1⟩
  | some e =>
      intro c hc
      cases hc
      decide

/-- The reader takes a numeral apart into its parts. -/
theorem readNumber_text (h : n.IsProper) (hrest : Ends rest) :
    readNumber (n.text ++ rest) =
      if n.fraction.isEmpty && n.exponent.isNone then
        if n.whole.length > Text.maxDigits then
          .error (.longInteger n.whole.length)
        else .ok (.int (if n.negative then -(naturalOf n.whole : Int)
          else naturalOf n.whole), rest)
      else .ok (.float (Binary64.ofDecimal n.negative n.decimal), rest) := by
  obtain ⟨negative, whole, fraction, exponent⟩ := n
  obtain ⟨hwhole, hhead, hfraction⟩ := h
  dsimp only at hwhole hhead hfraction
  -- From the end on, what stands behind a part is not taken for more of it.
  have htail := hrest.behindFraction exponent
  have hexponent : exponentPart (exponentText exponent ++ rest) =
      (exponent, rest) := exponentPart_append hrest
  have hfractionDigits := fractionDigits_append hfraction htail
  have hbehind : ∀ c ∈ (fractionText fraction ++
      (exponentText exponent ++ rest)).head?, isAsciiDigit c = false := by
    cases fraction with
    | nil => exact fun c hc => (htail c hc).1
    | cons d more =>
        intro c hc
        cases hc
        rfl
  have hinteger := integerDigits_append hwhole hhead hbehind
  have hne : whole.isEmpty = false := by
    rcases hhead with rfl | ⟨c, more, rfl, -⟩ <;> rfl
  have hbody : ∀ negative : Bool,
      (⟨negative, whole, fraction, exponent⟩ : Numeral).text ++ rest =
        (if negative then ['-'] else []) ++ (whole ++
          (fractionText fraction ++ (exponentText exponent ++ rest))) := by
    intro negative
    simp [text, body]
  cases negative with
  | true =>
      rw [hbody]
      show readNumber ('-' :: (whole ++ _)) = _
      rw [readNumber]
      simp only [hinteger, hne, hfractionDigits, hexponent]
      rfl
  | false =>
      rw [hbody]
      show readNumber (whole ++ _) = _
      rw [readNumber]
      · simp only [hinteger, hne, hfractionDigits, hexponent]
        rfl
      · intro more heq
        rcases hhead with rfl | ⟨c, digits, rfl, -⟩
        · cases heq
        · cases heq
          cases hwhole '-' (by simp)

theorem IsProper.text_cons (h : n.IsProper) :
    ∃ c more, isAsciiDigit c = true ∧
      (n.text = c :: more ∨ n.text = '-' :: c :: more) := by
  obtain ⟨c, more, hcons⟩ : ∃ c more, n.whole = c :: more := by
    rcases h.head with hzero | ⟨c, more, hcons, -⟩
    · exact ⟨_, _, hzero⟩
    · exact ⟨c, more, hcons⟩
  have hbody : n.body = c :: (more ++ (fractionText n.fraction ++
      exponentText n.exponent)) := by
    rw [body, hcons]
    rfl
  refine ⟨c, more ++ (fractionText n.fraction ++ exponentText n.exponent),
    h.whole c (by simp [hcons]), ?_⟩
  rw [text, hbody]
  cases n.negative with
  | true => exact .inr rfl
  | false => exact .inl rfl

end Numeral

/-- A text that a document is written as, and that is read as a number. -/
def IsNumber (text : List Char) (j : Json) : Prop :=
  ∃ n : Numeral, n.IsProper ∧ text = n.text ∧
    ∀ rest, Follows rest → readNumber (n.text ++ rest) = .ok (j, rest)

namespace IsNumber

variable {text : List Char} {j : Json}

/-- A number starts with nothing that starts something else. -/
theorem cons (h : IsNumber text j) :
    ∃ c more, text = c :: more ∧ isGap c = false ∧
      c ∉ [']', '"', '[', '{', Char.ofNat 0xFEFF] := by
  obtain ⟨n, hproper, rfl, -⟩ := h
  obtain ⟨c, more, hc, hcons | hcons⟩ := hproper.text_cons
  · refine ⟨c, more, hcons, ?_, fun hmem => ?_⟩
    · cases hgap : isGap c with
      | false => rfl
      | true =>
          simp only [isGap, Bool.or_eq_true, beq_iff_eq] at hgap
          rcases hgap with ((rfl | rfl) | rfl) | rfl <;> cases hc
    · have hmarks : ∀ x ∈ [']', '"', '[', '{', Char.ofNat 0xFEFF],
          isAsciiDigit x = false := by
        simp only [List.forall_mem_cons]
        exact ⟨rfl, rfl, rfl, rfl, rfl, nofun⟩
      rw [hmarks c hmem] at hc
      cases hc
  · exact ⟨'-', c :: more, hcons, by decide, by decide⟩

theorem readNumber (h : IsNumber text j) {rest : List Char}
    (hrest : Follows rest) : readNumber (text ++ rest) = .ok (j, rest) := by
  obtain ⟨n, -, rfl, hread⟩ := h
  exact hread rest hrest

theorem readWord? (h : IsNumber text j) (rest : List Char) :
    readWord? (text ++ rest) = none := by
  have hdigit : ∀ c tail, isAsciiDigit c = true →
      Json.readWord? (c :: tail) = none ∧
        Json.readWord? ('-' :: c :: tail) = none := by
    intro c tail hc
    have hne : ∀ x : Char, isAsciiDigit x = false → ¬ x = c := by
      rintro x hx rfl
      rw [hx] at hc
      cases hc
    simp (disch := decide) [Json.readWord?, words, hne]
  obtain ⟨n, hproper, rfl, -⟩ := h
  obtain ⟨c, more, hc, hcons | hcons⟩ := hproper.text_cons
  · rw [hcons]
    exact (hdigit c (more ++ rest) hc).1
  · rw [hcons]
    exact (hdigit c (more ++ rest) hc).2

end IsNumber

/-! ## Integers -/

def intNumeral (i : Int) : Numeral :=
  ⟨decide (i < 0), Nat.toDigits 10 i.natAbs, [], none⟩

theorem intNumeral_isProper (i : Int) : (intNumeral i).IsProper where
  whole := fun _ hc => isAsciiDigit_of_mem_toDigits (n := i.natAbs) hc
  head := by
    by_cases h : i.natAbs = 0
    · refine .inl ?_
      rw [intNumeral, h]
      rfl
    · exact .inr (toDigits_head h)
  fraction := fun _ hc => by cases hc

theorem intText_eq (i : Int) : intText i = (intNumeral i).text := by
  simp [intText, intNumeral, Numeral.text, Numeral.body, Numeral.fractionText,
    Numeral.exponentText]

/-- An integer that is not too long is read as it was written. -/
theorem isNumber_int {i : Int}
    (h : (Nat.toDigits 10 i.natAbs).length ≤ Text.maxDigits) :
    IsNumber (intText i) (.int i) := by
  refine ⟨intNumeral i, intNumeral_isProper i, intText_eq i, ?_⟩
  intro rest hrest
  have hshort : ¬ (Nat.toDigits 10 i.natAbs).length > Text.maxDigits :=
    Nat.not_lt.mpr h
  rw [Numeral.readNumber_text (intNumeral_isProper i)
    (Numeral.ends_of_follows hrest)]
  simp only [intNumeral, List.isEmpty_nil, Option.isNone_none, Bool.and_self,
    if_true, if_neg hshort, naturalOf_toDigits, decide_eq_true_eq]
  congr 3
  split <;> omega

/-! ## Numbers in double precision -/

section

variable {coef : Nat} {d : Binary64.Decimal}

/-- The digits of a natural without the zeros at their end. -/
def keptDigits (coef : Nat) : List Char :=
  (Binary64.digitsOf coef).rdropWhile (· == '0')

theorem digitsOf_eq_kept (coef : Nat) :
    ∃ zeros, Binary64.digitsOf coef =
      keptDigits coef ++ List.replicate zeros '0' := by
  refine ⟨((Binary64.digitsOf coef).rtakeWhile (· == '0')).length, ?_⟩
  have hzeros : (Binary64.digitsOf coef).rtakeWhile (· == '0') =
      List.replicate _ '0' := List.eq_replicate_of_mem fun c hc => by
    simpa using List.mem_rtakeWhile_imp hc
  rw [← hzeros, keptDigits, List.rdropWhile_append_rtakeWhile]

theorem isAsciiDigit_of_mem_kept {c : Char} (h : c ∈ keptDigits coef) :
    isAsciiDigit c = true :=
  isAsciiDigit_of_mem_toDigits (n := coef)
    ((List.rdropWhile_prefix _ _).subset h)

theorem keptDigits_cons (h : coef ≠ 0) :
    ∃ c more, keptDigits coef = c :: more ∧ c ≠ '0' := by
  obtain ⟨zeros, hsplit⟩ := digitsOf_eq_kept coef
  obtain ⟨c, more, hdigits, hc⟩ := toDigits_head h
  rw [Binary64.digitsOf, hdigits] at hsplit
  cases hkept : keptDigits coef with
  | nil =>
      rw [hkept, List.nil_append] at hsplit
      have hmem : c ∈ List.replicate zeros '0' := hsplit ▸ List.mem_cons_self
      exact absurd (List.eq_of_mem_replicate hmem) hc
  | cons x rest =>
      rw [hkept, List.cons_append] at hsplit
      exact ⟨x, rest, rfl, (List.cons.inj hsplit).1 ▸ hc⟩

/-- Where the point of a decimal stands, counted from its first digit. -/
def point (d : Binary64.Decimal) : Int :=
  d.exp + (Binary64.digitsOf d.coef).length

/-- The zeros that are dropped go to the exponent. -/
theorem value_kept (d : Binary64.Decimal) {zeros : Nat} {exp : Int}
    (h : exp + zeros = point d - (keptDigits d.coef).length) :
    (⟨naturalOf (keptDigits d.coef) * 10 ^ zeros, exp⟩ :
      Binary64.Decimal).value = d.value := by
  obtain ⟨dropped, hsplit⟩ := digitsOf_eq_kept d.coef
  have hcoef : d.coef = naturalOf (keptDigits d.coef) * 10 ^ dropped := by
    rw [← naturalOf_append_zeros, ← hsplit]
    exact (naturalOf_toDigits d.coef).symm
  have hlength : (Binary64.digitsOf d.coef).length =
      (keptDigits d.coef).length + dropped := by
    rw [hsplit, List.length_append, List.length_replicate]
  have hexp : (zeros : Int) + exp = dropped + d.exp := by
    rw [point] at h
    omega
  have hten : (10 : ℚ) ≠ 0 := by norm_num
  rw [Binary64.Decimal.value, Binary64.Decimal.value]
  conv_rhs => rw [hcoef]
  push_cast
  rw [mul_assoc, mul_assoc, ← zpow_natCast, ← zpow_natCast, ← zpow_add₀ hten,
    ← zpow_add₀ hten, hexp]

/-- The numeral of a decimal: without an exponent when its point stands near
its digits. -/
def decimalNumeral (negative : Bool) (d : Binary64.Decimal) : Numeral :=
  let kept := keptDigits d.coef
  let places := (point d).toNat
  if d.coef = 0 then ⟨negative, ['0'], ['0'], none⟩
  else if -4 < point d ∧ point d ≤ 0 then
    ⟨negative, ['0'], List.replicate (-point d).toNat '0' ++ kept, none⟩
  else if 0 < point d ∧ point d ≤ 16 then
    ⟨negative, kept.take places ++ List.replicate (places - kept.length) '0',
      if (kept.drop places).isEmpty then ['0'] else kept.drop places, none⟩
  else ⟨negative, kept.take 1, kept.drop 1, some (point d - 1)⟩

theorem body_decimalNumeral (negative : Bool) (d : Binary64.Decimal) :
    (decimalNumeral negative d).body = d.text := by
  have htext : d.text =
      if d.coef = 0 then ['0', '.', '0']
      else if -4 < point d ∧ point d ≤ 0 then
        ['0', '.'] ++ List.replicate (-point d).toNat '0' ++ keptDigits d.coef
      else if 0 < point d ∧ point d ≤ 16 then
        (keptDigits d.coef).take (point d).toNat ++
          List.replicate ((point d).toNat - (keptDigits d.coef).length) '0' ++
          ['.'] ++ (if ((keptDigits d.coef).drop (point d).toNat).isEmpty then
            ['0'] else (keptDigits d.coef).drop (point d).toNat)
      else
        (keptDigits d.coef).take 1 ++
          (if ((keptDigits d.coef).drop 1).isEmpty then []
            else '.' :: (keptDigits d.coef).drop 1) ++ 'e' ::
          Binary64.exponentText (point d - 1) := rfl
  rw [htext, decimalNumeral]
  split
  · rfl
  · next hcoef =>
      obtain ⟨c, more, hkept, -⟩ := keptDigits_cons hcoef
      split
      · simp [Numeral.body, Numeral.fractionText, Numeral.exponentText, hkept]
      · split
        · have hfraction : ∀ digits : List Char, Numeral.fractionText
              (if digits.isEmpty then ['0'] else digits) =
              '.' :: (if digits.isEmpty then ['0'] else digits) := by
            intro digits
            cases digits <;> rfl
          simp only [Numeral.body, hfraction, Numeral.exponentText,
            List.append_assoc, List.append_nil, List.singleton_append]
        · simp only [Numeral.body, Numeral.fractionText, Numeral.exponentText,
            List.append_assoc]

theorem decimalNumeral_negative (negative : Bool) (d : Binary64.Decimal) :
    (decimalNumeral negative d).negative = negative := by
  rw [decimalNumeral]
  split_ifs <;> rfl

theorem decimalNumeral_isProper (negative : Bool) (d : Binary64.Decimal) :
    (decimalNumeral negative d).IsProper := by
  have hkept : ∀ c ∈ keptDigits d.coef, isAsciiDigit c = true :=
    fun c hc => isAsciiDigit_of_mem_kept hc
  have hzero : ∀ c ∈ ['0'], isAsciiDigit c = true :=
    List.forall_mem_singleton.mpr rfl
  rw [decimalNumeral]
  split
  · exact ⟨hzero, .inl rfl, hzero⟩
  · next hcoef =>
      obtain ⟨c, more, hcons, hc⟩ := keptDigits_cons hcoef
      split
      · refine ⟨hzero, .inl rfl, fun x hx => ?_⟩
        rcases List.mem_append.mp hx with hx | hx
        · exact isAsciiDigit_of_mem_zeros hx
        · exact hkept x hx
      · split
        · next hpoint =>
            obtain ⟨n, hn⟩ : ∃ n, (point d).toNat = n + 1 :=
              ⟨(point d).toNat - 1, by omega⟩
            refine ⟨fun x hx => ?_, .inr ⟨c, _, by rw [hcons, hn]; rfl, hc⟩,
              fun x hx => ?_⟩
            · rcases List.mem_append.mp hx with hx | hx
              · exact hkept x (List.mem_of_mem_take hx)
              · exact isAsciiDigit_of_mem_zeros hx
            · dsimp only at hx
              split at hx
              · exact hzero x hx
              · exact hkept x (List.mem_of_mem_drop hx)
        · exact ⟨fun x hx => hkept x (List.mem_of_mem_take hx),
            .inr ⟨c, _, by rw [hcons]; rfl, hc⟩,
            fun x hx => hkept x (List.mem_of_mem_drop hx)⟩

/-- Parts that write what is kept of a decimal's digits. -/
theorem value_parts {n : Numeral} (zeros : Nat)
    (hdigits : naturalOf (n.whole ++ n.fraction) =
      naturalOf (keptDigits d.coef) * 10 ^ zeros)
    (hpoint : n.exponent.getD 0 - n.fraction.length + zeros =
      point d - (keptDigits d.coef).length) :
    n.decimal.value = d.value := by
  rw [Numeral.decimal, hdigits]
  exact value_kept d hpoint

theorem value_positional {negative : Bool} (h : 0 < point d) :
    (⟨negative, (keptDigits d.coef).take (point d).toNat ++
      List.replicate ((point d).toNat - (keptDigits d.coef).length) '0',
      if ((keptDigits d.coef).drop (point d).toNat).isEmpty then ['0']
      else (keptDigits d.coef).drop (point d).toNat, none⟩ :
        Numeral).decimal.value = d.value := by
  -- Zeros fill up to the point, or else the point splits the digits.
  by_cases hshort : (keptDigits d.coef).length ≤ (point d).toNat
  · rw [List.drop_eq_nil_of_le hshort, List.take_of_length_le hshort]
    refine value_parts ((point d).toNat - (keptDigits d.coef).length + 1)
      ?_ ?_
    · rw [← naturalOf_append_zeros, List.replicate_succ', ← List.append_assoc]
      rfl
    · show (0 : Int) - 1 + _ = _
      omega
  · have hmore : ((keptDigits d.coef).drop (point d).toNat).isEmpty = false := by
      simpa using hshort
    have hzeros : (point d).toNat - (keptDigits d.coef).length = 0 := by omega
    rw [hmore, hzeros, List.replicate_zero, List.append_nil]
    refine value_parts 0 ?_ ?_
    · simp
    · simp only [Bool.false_eq_true, if_false, List.length_drop,
        Option.getD_none]
      omega

/-- However a decimal is laid out, it keeps its value. -/
theorem value_decimalNumeral (negative : Bool) (d : Binary64.Decimal) :
    (decimalNumeral negative d).decimal.value = d.value := by
  rw [decimalNumeral]
  split
  · next hcoef =>
      rw [Binary64.Decimal.value_eq_zero_iff.mpr hcoef,
        Binary64.Decimal.value_eq_zero_iff]
      rfl
  · next hcoef =>
      split
      · refine value_parts 0 ?_ ?_
        · rw [← List.append_assoc, Nat.pow_zero, Nat.mul_one]
          exact naturalOf_zeros_append (_ + 1) _
        · simp only [List.length_append, List.length_replicate,
            Option.getD_none]
          omega
      · split
        · next hpoint => exact value_positional hpoint.1
        · obtain ⟨c, more, hcons, -⟩ := keptDigits_cons hcoef
          refine value_parts 0 ?_ ?_
          · dsimp only
            rw [List.take_append_drop, Nat.pow_zero, Nat.mul_one]
          · simp only [List.length_drop, Option.getD_some, hcons,
              List.length_cons]
            omega

/-- A decimal is never written as an integer. -/
theorem decimalNumeral_broken (negative : Bool) (d : Binary64.Decimal) :
    ((decimalNumeral negative d).fraction.isEmpty &&
      (decimalNumeral negative d).exponent.isNone) = false := by
  rw [decimalNumeral]
  split
  · rfl
  · next hcoef =>
      obtain ⟨c, more, hcons, hc⟩ := keptDigits_cons hcoef
      split
      · simp [hcons]
      · split
        · dsimp only
          split <;> simp_all
        · simp

/-- A decimal is read as what it is rounded to. -/
theorem isNumber_decimal (negative : Bool) (d : Binary64.Decimal) :
    IsNumber ((if negative then ['-'] else []) ++ d.text)
      (.float (Binary64.ofDecimal negative d)) := by
  have hproper := decimalNumeral_isProper negative d
  refine ⟨decimalNumeral negative d, hproper, ?_, fun rest hrest => ?_⟩
  · rw [Numeral.text, body_decimalNumeral, decimalNumeral_negative]
  · rw [Numeral.readNumber_text hproper (Numeral.ends_of_follows hrest),
      decimalNumeral_broken, if_neg Bool.false_ne_true,
      decimalNumeral_negative,
      Binary64.ofDecimal_congr (value_decimalNumeral negative d)]

/-- A finite number is read as it was written. -/
theorem isNumber_finite {negative : Bool} {mant : Nat} {exp : Int}
    (h : Binary64.Canonical mant exp) :
    IsNumber (Binary64.textWith "NaN" "Infinity"
      (.finite negative mant exp h)) (.float (.finite negative mant exp h)) := by
  rw [Binary64.textWith]
  by_cases hmant : mant = 0
  · subst hmant
    have hexp : exp = -1074 := h.2.2.2.resolve_left (by decide)
    subst hexp
    rw [if_pos rfl]
    exact isNumber_decimal negative ⟨0, 0⟩
  · rw [if_neg hmant, ← Binary64.ofDecimal_shortest_signed negative h]
    exact isNumber_decimal negative _

end

end Json

end Signpost
