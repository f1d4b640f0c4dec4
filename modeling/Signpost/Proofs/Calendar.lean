import Mathlib
import Signpost.Calendar.Moment

/-!
# Clock readings that are written and read

A day has one year, one month and one day of the month, and these have one
day. The year is guessed from the mean length of a year, which is off by one
at most; the month is searched from the last one down. Every part of a reading
of years 1 to 9999 then fits into its digits, so a reading can be told from
its text.
-/

namespace Signpost

namespace Date

variable {year month : Nat}

/-- The days of a year. -/
def daysOfYear (year : Nat) : Nat :=
  if isLeap year then 366 else 365

theorem daysInMonth_le (year month : Nat) : daysInMonth year month ≤ 31 := by
  unfold daysInMonth
  split
  · split <;> omega
  all_goals omega

theorem isLeap_iff : isLeap year = true ↔
    year % 4 = 0 ∧ (year % 100 ≠ 0 ∨ year % 400 = 0) := by
  simp [isLeap]

theorem daysBeforeYear_succ (h : 1 ≤ year) :
    daysBeforeYear (year + 1) = daysBeforeYear year + daysOfYear year := by
  obtain ⟨y, rfl⟩ : ∃ y, year = y + 1 := ⟨year - 1, by omega⟩
  have h4 : (y + 1) / 4 = y / 4 + if (y + 1) % 4 = 0 then 1 else 0 := by
    split <;> omega
  have h100 : (y + 1) / 100 =
      y / 100 + if (y + 1) % 100 = 0 then 1 else 0 := by
    split <;> omega
  have h400 : (y + 1) / 400 =
      y / 400 + if (y + 1) % 400 = 0 then 1 else 0 := by
    split <;> omega
  have hcentury : (y + 1) % 100 = 0 → (y + 1) % 4 = 0 := by omega
  have hcycle : (y + 1) % 400 = 0 → (y + 1) % 100 = 0 := by omega
  have hless : y / 100 ≤ y := Nat.div_le_self y 100
  simp only [daysBeforeYear, Nat.add_sub_cancel, daysOfYear, isLeap_iff, h4,
    h100, h400]
  generalize y / 4 = a at *
  generalize y / 100 = b at *
  generalize y / 400 = c at *
  by_cases h4 : (y + 1) % 4 = 0
  · by_cases h100 : (y + 1) % 100 = 0
    · by_cases h400 : (y + 1) % 400 = 0
      · simp [h4, h100, h400]
        omega
      · simp [h4, h100, h400]
        omega
    · have h400 : ¬ (y + 1) % 400 = 0 := fun h => h100 (hcycle h)
      simp [h4, h100, h400]
      omega
  · have h100 : ¬ (y + 1) % 100 = 0 := fun h => h4 (hcentury h)
    have h400 : ¬ (y + 1) % 400 = 0 := fun h => h100 (hcycle h)
    simp [h4, h100, h400]
    omega

theorem daysBeforeMonth_all :
    daysBeforeMonth year 13 = daysOfYear year := by
  simp only [daysBeforeMonth, daysInMonth, daysOfYear]
  split <;> rfl

theorem daysBeforeMonth_succ (year month : Nat) :
    daysBeforeMonth year (month + 2) =
      daysBeforeMonth year (month + 1) + daysInMonth year (month + 1) := by
  rw [daysBeforeMonth]
  simp

theorem monthOf_succ (year n month : Nat) :
    monthOf year n (month + 2) =
      if daysBeforeMonth year (month + 2) ≤ n then
        (month + 2, n - daysBeforeMonth year (month + 2) + 1)
      else monthOf year n (month + 1) := by
  rw [monthOf]
  simp

/-- The month and the day of the month in which a day of a year falls. -/
theorem monthOf_spec {n : Nat} (h : n < daysBeforeMonth year (month + 2)) :
    (1 ≤ (monthOf year n (month + 1)).1 ∧
      (monthOf year n (month + 1)).1 ≤ month + 1) ∧
    (1 ≤ (monthOf year n (month + 1)).2 ∧
      (monthOf year n (month + 1)).2 ≤
        daysInMonth year (monthOf year n (month + 1)).1) ∧
    daysBeforeMonth year (monthOf year n (month + 1)).1 +
      ((monthOf year n (month + 1)).2 - 1) = n := by
  induction month with
  | zero =>
      rw [monthOf]
      simp only [daysBeforeMonth, daysInMonth] at h ⊢
      omega
  | succ month ih =>
      have hall : daysBeforeMonth year (month + 3) =
          daysBeforeMonth year (month + 2) + daysInMonth year (month + 2) :=
        daysBeforeMonth_succ year (month + 1)
      replace h : n < daysBeforeMonth year (month + 3) := h
      rw [show month + 1 + 1 = month + 2 from rfl, monthOf_succ]
      split
      · next hle =>
          simp only
          omega
      · next hlt =>
          have hspec := ih (by omega)
          omega

/-- The year in which a day falls. -/
theorem ofDay_year (n : Nat) :
    1 ≤ (ofDay n).year ∧ daysBeforeYear (ofDay n).year ≤ n ∧
      n < daysBeforeYear ((ofDay n).year + 1) := by
  simp only [ofDay]
  split
  · next h =>
      simp only [daysBeforeYear] at h ⊢
      omega
  · next h =>
      split
      · next h' =>
          simp only [daysBeforeYear] at h h' ⊢
          omega
      · next h' =>
          simp only [daysBeforeYear] at h h' ⊢
          omega

/-- A day falls on a date, and that date is the day. -/
theorem ofDay_spec (n : Nat) :
    (1 ≤ (ofDay n).month ∧ (ofDay n).month ≤ 12) ∧
    (1 ≤ (ofDay n).dayOfMonth ∧
      (ofDay n).dayOfMonth ≤ daysInMonth (ofDay n).year (ofDay n).month) ∧
    (ofDay n).day = n := by
  obtain ⟨hyear, hfirst, hlast⟩ := ofDay_year n
  rw [daysBeforeYear_succ hyear] at hlast
  have hmonth : ofDay n = ⟨(ofDay n).year,
      (monthOf (ofDay n).year (n - daysBeforeYear (ofDay n).year) 12).1,
      (monthOf (ofDay n).year (n - daysBeforeYear (ofDay n).year) 12).2⟩ := rfl
  generalize (ofDay n).year = year at *
  have hspec : n - daysBeforeYear year < daysBeforeMonth year 13 := by
    rw [daysBeforeMonth_all]
    omega
  have hspec := monthOf_spec hspec
  simp only [Nat.reduceAdd] at hspec
  rw [hmonth, day]
  simp only
  omega

theorem ofDay_year_le {n : Nat} (h : n < 3652059) : (ofDay n).year ≤ 9999 := by
  obtain ⟨hyear, hfirst, -⟩ := ofDay_year n
  rw [daysBeforeYear] at hfirst
  omega

end Date

/-! ## Texts of clock readings -/

namespace Clock

theorem length_padded {width n : Nat} (hwidth : 0 < width)
    (h : n < 10 ^ width) : (padded width n).length = width := by
  have hlength := (Nat.length_toDigits_le_iff (by omega : 1 < 10) hwidth).mpr h
  rw [padded, List.length_append, List.length_replicate]
  omega

theorem isAsciiDigit_of_mem_padded {width n : Nat} {c : Char}
    (h : c ∈ padded width n) : Json.isAsciiDigit c = true := by
  rw [padded, List.mem_append, List.mem_replicate] at h
  rcases h with ⟨-, rfl⟩ | hc
  · rfl
  · have := Nat.isDigit_of_mem_toDigits (by omega) (by omega) hc
    exact this

theorem naturalOf_padded (width n : Nat) :
    Json.naturalOf (padded width n) = n := by
  rw [padded]
  show Nat.ofDigitChars 10 (_ ++ Nat.toDigits 10 n) 0 = n
  rw [Nat.ofDigitChars_append, Nat.ofDigitChars_replicate_zero, Nat.mul_zero,
    Nat.ofDigitChars_toDigits (by omega) (by omega)]

end Clock

namespace Moment

open Clock

theorem number?_padded (width n : Nat) :
    number? (padded width n) = some n := by
  have hsome : padded width n ≠ [] := by
    rw [padded]
    simp
  have hdigits : (padded width n).all Json.isAsciiDigit = true :=
    List.all_eq_true.mpr fun c hc => isAsciiDigit_of_mem_padded hc
  rw [number?, naturalOf_padded, hdigits]
  simp [hsome]

theorem padded_two {n : Nat} (h : n < 100) :
    ∃ a b, padded 2 n = [a, b] ∧ number? [a, b] = some n := by
  obtain ⟨a, b, heq⟩ := List.length_eq_two.mp (length_padded (by omega) h)
  exact ⟨a, b, heq, by rw [← heq, number?_padded]⟩

theorem padded_four {n : Nat} (h : n < 10000) :
    ∃ a b c d, padded 4 n = [a, b, c, d] ∧ number? [a, b, c, d] = some n := by
  have hlength : (padded 4 n).length = 4 := length_padded (by omega) h
  have hvalue := number?_padded 4 n
  match padded 4 n, hlength, hvalue with
  | [a, b, c, d], _, hvalue => exact ⟨a, b, c, d, rfl, hvalue⟩

theorem readDate_padded {year month day : Nat} (rest : List Char)
    (hyear : year < 10000) (hmonth : 1 ≤ month ∧ month ≤ 12)
    (hday : 1 ≤ day ∧ day ≤ Date.daysInMonth year month) :
    readDate (padded 4 year ++ '-' :: (padded 2 month ++
      '-' :: (padded 2 day ++ rest))) = .ok (⟨year, month, day⟩, rest) := by
  have hless := Date.daysInMonth_le year month
  obtain ⟨y1, y2, y3, y4, hy, hyear⟩ := padded_four hyear
  obtain ⟨m1, m2, hm, hmonth'⟩ := padded_two (n := month) (by omega)
  obtain ⟨d1, d2, hd, hday'⟩ := padded_two (n := day) (by omega)
  rw [hy, hm, hd]
  simp only [List.cons_append, List.nil_append, readDate, hyear, hmonth',
    hday', ne_eq, not_true_eq_false, if_false]
  rw [if_neg (by omega), if_neg (by omega)]

/-- The fraction of a second, if there is one. -/
def fractionText (fraction : Nat) : List Char :=
  if fraction = 0 then [] else '.' :: padded 6 fraction

theorem fractionMicros_padded {fraction : Nat} (h : fraction < 1000000) :
    fractionMicros (padded 6 fraction) = fraction := by
  have hlength : (padded 6 fraction).length = 6 :=
    length_padded (by omega) h
  rw [fractionMicros, List.take_append_of_le_length (by omega),
    List.take_of_length_le (by omega), naturalOf_padded]

theorem readTime?_padded {seconds fraction : Nat}
    (hseconds : seconds < 86400) (hfraction : fraction < 1000000) :
    readTime? (padded 2 (seconds / 3600) ++ ':' ::
      (padded 2 (seconds / 60 % 60) ++ ':' ::
        (padded 2 (seconds % 60) ++ fractionText fraction))) =
      some (seconds * 1000000 + fraction, []) := by
  obtain ⟨h1, h2, hh, hours⟩ := padded_two (n := seconds / 3600) (by omega)
  obtain ⟨m1, m2, hm, minutes⟩ :=
    padded_two (n := seconds / 60 % 60) (by omega)
  obtain ⟨s1, s2, hs, secs⟩ := padded_two (n := seconds % 60) (by omega)
  rw [hh, hm, hs]
  simp only [List.cons_append, List.nil_append, readTime?, hours, minutes,
    secs, bind, Option.bind, minuteMicros]
  rw [if_neg (by omega), if_neg (by omega), fractionText]
  by_cases hzero : fraction = 0
  · simp only [hzero, if_true, Option.some.injEq, Prod.mk.injEq, and_true]
    omega
  · have hdigits : ∀ c ∈ padded 6 fraction, Json.isAsciiDigit c = true :=
      fun c hc => isAsciiDigit_of_mem_padded hc
    have hsome : (padded 6 fraction).isEmpty = false := by
      rw [List.isEmpty_eq_false_iff, padded]
      simp
    simp only [hzero, if_false, true_or, if_true,
      List.takeWhile_eq_self_iff.mpr hdigits,
      List.dropWhile_eq_nil_iff.mpr hdigits, hsome, Bool.false_eq_true,
      fractionMicros_padded hfraction, Option.some.injEq, Prod.mk.injEq,
      and_true]
    omega

/-- Octets of ASCII characters are those characters. -/
theorem octets_of_ascii {s : List Char} (h : ∀ c ∈ s, c.toNat < 0x80) :
    (Text.encodeUtf8 s).map (fun b => Char.ofNat b.toNat) = s := by
  induction s with
  | nil => rfl
  | cons c rest ih =>
      have hc := h c (by simp)
      have hbyte : (UInt8.ofNat c.toNat).toNat = c.toNat := by
        rw [UInt8.toNat_ofNat']
        omega
      have hencode : Text.Utf8.encodeChar c = [UInt8.ofNat c.toNat] := by
        rw [Text.Utf8.encodeChar, if_pos hc]
      rw [Text.encodeUtf8, List.flatMap_cons, hencode, List.map_append,
        ← Text.encodeUtf8, ih fun x hx => h x (by simp [hx])]
      simp [hbyte, Char.ofNat_toNat]

end Moment

namespace Clock

/-- The parts of a reading's text. -/
theorem isoText_eq (c : Clock) :
    c.isoText = padded 4 (Date.ofDay c.day).year ++ '-' ::
      (padded 2 (Date.ofDay c.day).month ++ '-' ::
        (padded 2 (Date.ofDay c.day).dayOfMonth ++ 'T' ::
          (padded 2 (c.micros % dayMicros / 1000000 / 3600) ++ ':' ::
            (padded 2 (c.micros % dayMicros / 1000000 / 60 % 60) ++ ':' ::
              (padded 2 (c.micros % dayMicros / 1000000 % 60) ++
                Moment.fractionText (c.micros % dayMicros % 1000000)))))) := by
  rw [isoText, Moment.fractionText]
  simp only [List.append_assoc, List.cons_append]

theorem toNat_of_mem_padded {width n : Nat} {c : Char}
    (h : c ∈ padded width n) : c.toNat < 0x80 := by
  have hdigit := isAsciiDigit_of_mem_padded h
  rw [Json.isAsciiDigit, Bool.and_eq_true, decide_eq_true_eq,
    decide_eq_true_eq] at hdigit
  have hle : c.toNat ≤ '9'.toNat := hdigit.2
  exact Nat.lt_of_le_of_lt hle (by decide)

theorem toNat_of_mem_isoText (c : Clock) :
    ∀ x ∈ c.isoText, x.toNat < 0x80 := by
  intro x hx
  rw [isoText_eq, Moment.fractionText] at hx
  simp only [List.mem_append, List.mem_cons] at hx
  split at hx
  · rcases hx with h | rfl | h | rfl | h | rfl | h | rfl | h | rfl | h | h
    all_goals first | exact toNat_of_mem_padded h | decide | cases h
  · rw [List.mem_cons] at hx
    rcases hx with h | rfl | h | rfl | h | rfl | h | rfl | h | rfl | h | rfl | h
    all_goals first | exact toNat_of_mem_padded h | decide

end Clock

namespace Moment

open Clock

theorem wireText_naive (c : Clock) :
    (naive c).wireText = String.ofList c.isoText := by
  rw [wireText, if_neg (by simp [naive]), isoText]
  simp [naive]

/-- A reading of years 1 to 9999 is read as it was written. -/
theorem read_wireText {c : Clock} (h : c.micros < Clock.limit) :
    read (naive c).wireText = .ok (naive c) := by
  obtain ⟨hmonth, hday, hofDay⟩ := Date.ofDay_spec c.day
  have hfirst := (Date.ofDay_year c.day).1
  have hyear := Date.ofDay_year_le (n := c.day) (by
    rw [Clock.limit] at h
    exact Nat.div_lt_of_lt_mul (by rwa [Nat.mul_comm] at h))
  have hrest : c.micros % dayMicros < dayMicros :=
    Nat.mod_lt _ (by decide)
  have hsize : dayMicros = 86400 * 1000000 := rfl
  have htime : c.micros % dayMicros / 1000000 * 1000000 +
      c.micros % dayMicros % 1000000 = c.micros % dayMicros :=
    Nat.div_add_mod' _ _
  have hclock : Clock.ofDate (Date.ofDay c.day) (c.micros % dayMicros) = c := by
    rw [Clock.ofDate, hofDay, Clock.day, Nat.div_add_mod']
  rw [wireText_naive, read, readOctets, String.toList_ofList,
    octets_of_ascii (toNat_of_mem_isoText c), isoText_eq]
  simp only
  rw [readDate_padded _ (by omega) hmonth hday]
  simp only [afterDate?, true_or, if_true]
  rw [readTime?_padded (by omega) (Nat.mod_lt _ (by omega)), htime]
  simp only [bind, Option.bind, readOffset?]
  rw [if_neg (by omega), hclock]
  rfl

end Moment

end Signpost
