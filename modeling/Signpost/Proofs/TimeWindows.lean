import Mathlib
import Signpost.Proofs.ConditionsReread
import Signpost.Proofs.FailClosed
import Signpost.Proofs.LocalTimes
import Signpost.Proofs.Numerals
import Signpost.Proofs.TextPieces

/-!
# Time windows go round the clock

A condition on the time of day names a stretch of it by the texts of one or two
clocks. The texts are read as integers around a colon, which for a clock that
passed its check are the hour and the minute that its digits write.

A stretch that starts later than it ends runs past midnight. The evaluator
treats it as a case of its own, but it is none on a clock face: counted in
minutes from the start and going round at midnight, a time lies in the stretch
when it comes no later than the end. `Condition.holds_onTime_iff` is that rule,
with the strict rules for before and after beside it, at the local time of the
instant.
-/

namespace Signpost

/-! ## The texts of clocks -/

theorem Text.readInteger_of_ascii {digits : List Char} (hne : digits ≠ [])
    (hlength : digits.length ≤ maxDigits)
    (h : ∀ c ∈ digits, Json.isAsciiDigit c = true) :
    readInteger digits = .ok (Json.naturalOf digits) := by
  have hvalue : ∀ c ∈ digits, decimalValue? c = some (c.toNat - 0x30) := by
    intro c hc
    have hdigit := h c hc
    rw [Json.isAsciiDigit, Bool.and_eq_true] at hdigit
    exact decimalValue?_of_ascii ⟨of_decide_eq_true hdigit.1, of_decide_eq_true hdigit.2⟩
  have hdecimal : ∀ c ∈ digits, isDecimal c = true := by
    intro c hc
    rw [isDecimal, hvalue c hc]
    rfl
  have hvalues : digits.filterMap decimalValue? = digits.map fun c => c.toNat - 0x30 := by
    rw [List.filterMap_congr hvalue]
    exact congrFun List.filterMap_eq_map digits
  rw [readInteger_of_isDecimal hne hlength hdecimal, hvalues, digitsValue, List.foldl_map]
  rfl

namespace TimeRange

/-- Minutes since midnight of a clock's text: the hour that stands before the
colon and the two digits of the minute behind it. -/
def clockMinutes (s : String) : Nat :=
  60 * Json.naturalOf (s.toList.takeWhile (· != ':')) +
    Json.naturalOf (((s.toList.dropWhile (· != ':')).drop 1).take 2)

theorem naturalOf_of_isHour {digits : List Char} (h : isHour digits = true) :
    Json.naturalOf digits < 24 := by
  unfold isHour at h
  split at h
  · next a =>
      rw [Json.isAsciiDigit, Bool.and_eq_true] at h
      have hnine : a.toNat ≤ 0x39 := of_decide_eq_true h.2
      simp only [Json.naturalOf, List.foldl_cons, List.foldl_nil, Char.reduceToNat]
      omega
  · next a b =>
      simp only [Json.isAsciiDigit, Bool.or_eq_true, Bool.and_eq_true, beq_iff_eq,
        decide_eq_true_eq] at h
      simp only [Json.naturalOf, List.foldl_cons, List.foldl_nil, Char.reduceToNat]
      rcases h with ⟨rfl | rfl, -, hnine⟩ | ⟨⟨rfl, -⟩, hthree⟩
      · have hnine : b.toNat ≤ 0x39 := hnine
        simp only [Char.reduceToNat]
        omega
      · have hnine : b.toNat ≤ 0x39 := hnine
        simp only [Char.reduceToNat]
        omega
      · have hthree : b.toNat ≤ 0x33 := hthree
        simp only [Char.reduceToNat]
        omega
  · cases h

theorem naturalOf_of_isMinute {digits : List Char} (h : isMinute digits = true) :
    Json.naturalOf digits < 60 := by
  unfold isMinute at h
  split at h
  · next a b =>
      simp only [Json.isAsciiDigit, Bool.and_eq_true, decide_eq_true_eq] at h
      have hfive : a.toNat ≤ 0x35 := h.1.2
      have hnine : b.toNat ≤ 0x39 := h.2.2
      simp only [Json.naturalOf, List.foldl_cons, List.foldl_nil, Char.reduceToNat]
      omega
  · cases h

theorem length_of_isMinute {digits : List Char} (h : isMinute digits = true) :
    digits.length = 2 := by
  unfold isMinute at h
  split at h
  · rfl
  · cases h

/-- Digits before a colon, and what is behind it, are found again. -/
theorem IsShort.cut_colon {digits : List Char} (h : IsShort digits) (rest : List Char) :
    (digits ++ ':' :: rest).takeWhile (· != ':') = digits ∧
      ((digits ++ ':' :: rest).dropWhile (· != ':')).drop 1 = rest := by
  have hplain : ∀ c ∈ digits, (c != ':') = true := fun c hc => by
    have hdigit := h.digit c hc
    rw [bne_iff_ne]
    rintro rfl
    cases hdigit
  rw [List.takeWhile_append_of_pos hplain, List.dropWhile_append_of_pos hplain,
    List.takeWhile_cons_of_neg (by decide), List.dropWhile_cons_of_neg (by decide),
    List.append_nil]
  exact ⟨rfl, rfl⟩

theorem clockMinutes_of_parts {s : String} {hours minutes tail : List Char}
    (h : s.toList = hours ++ ':' :: (minutes ++ tail)) (hh : isHour hours = true)
    (hm : isMinute minutes = true) :
    clockMinutes s = 60 * Json.naturalOf hours + Json.naturalOf minutes := by
  obtain ⟨htake, hdrop⟩ := (isShort_of_isHour hh).cut_colon (minutes ++ tail)
  rw [clockMinutes, h, htake, hdrop, ← length_of_isMinute hm, List.take_left]

theorem clockMinutes_lt {s : String} (h : isClock s = true) : clockMinutes s < 1440 := by
  obtain ⟨hours, minutes, tail, heq, hh, hm, -⟩ := parts_of_isClock h
  have hhour := naturalOf_of_isHour hh
  have hminute := naturalOf_of_isMinute hm
  rw [clockMinutes_of_parts heq hh hm]
  omega

end TimeRange

namespace Evaluation

theorem readInteger_of_isShort {digits : List Char} (h : TimeRange.IsShort digits) :
    Text.readInteger digits = .ok (Json.naturalOf digits) :=
  Text.readInteger_of_ascii h.ne (h.length.trans (by decide)) h.digit

/-- A clock that passed its check is read as its minutes since midnight, with a
line break behind it or without. -/
theorem minutesOf_of_isClock {s : String} (h : TimeRange.isClock s = true) :
    minutesOf (.str s) = .ok (TimeRange.clockMinutes s) := by
  obtain ⟨hours, minutes, tail, heq, hh, hm, htail⟩ := TimeRange.parts_of_isClock h
  have hhour := TimeRange.isShort_of_isHour hh
  have hminute := TimeRange.isShort_of_isMinute hm
  have hplain : ∀ digits, TimeRange.IsShort digits → ':' ∉ digits := fun digits hshort hc =>
    absurd (hshort.digit _ hc) (by decide)
  have hcut : Text.pieces ':' s.toList = [hours, minutes ++ tail] := by
    rw [heq, Text.pieces_append _ _ (hplain hours hhour), Text.pieces_of_not_mem]
    rw [List.mem_append]
    rintro (hc | hc)
    · exact hplain minutes hminute hc
    · rcases htail with rfl | rfl
      · cases hc
      · exact absurd (List.mem_singleton.mp hc) (by decide)
  have hbroken : Text.readInteger (minutes ++ tail) = .ok (Json.naturalOf minutes) := by
    refine Text.readInteger_congr ?_ (readInteger_of_isShort hminute)
    rcases htail with rfl | rfl
    · rw [List.append_nil]
    · exact (Text.trimWhere_concat (by decide)).symm
  rw [minutesOf, hcut]
  dsimp only
  rw [readInteger_of_isShort hhour, hbroken]
  dsimp only
  rw [TimeRange.clockMinutes_of_parts heq hh hm]
  exact congrArg Except.ok (by omega)

end Evaluation

/-! ## Windows -/

theorem Clock.minuteOfDay_lt (c : Clock) : c.minuteOfDay < 1440 := by
  have hday : c.micros % dayMicros < dayMicros := Nat.mod_lt _ (by decide)
  simp only [dayMicros, minuteMicros] at hday
  simp only [minuteOfDay, dayMicros, minuteMicros]
  omega

/-- Whether a minute of the day lies in the stretch from one to another, which
runs past midnight where it has to. -/
def IsWithin (start finish now : Nat) : Prop :=
  ((now : Int) - start) % 1440 ≤ ((finish : Int) - start) % 1440

instance (start finish now : Nat) : Decidable (IsWithin start finish now) :=
  inferInstanceAs (Decidable (_ ≤ _))

theorem isWithin_iff {start finish now : Nat} (hstart : start < 1440)
    (hfinish : finish < 1440) (hnow : now < 1440) :
    IsWithin start finish now ↔
      if start ≤ finish then start ≤ now ∧ now ≤ finish else start ≤ now ∨ now ≤ finish := by
  rw [IsWithin]
  split <;> omega

/-- Whether an operator admits a minute of the day for a range. -/
def TimeRange.Admits (t : TimeRange) (op : Operator) (now : Nat) : Prop :=
  match op with
  | .between => ∃ finish ∈ t.finish, IsWithin (clockMinutes t.start) (clockMinutes finish) now
  | .before => now < clockMinutes t.start
  | .after => clockMinutes t.start < now
  | _ => False

namespace Evaluation

variable {v : Visitor} {op : Operator} {t : TimeRange}

/-- A range that passed its check is satisfied at the local times that its
operator admits. -/
theorem evaluateTime_iff (h : t.IsProper) :
    evaluateTime v op t.toJson = .ok true ↔
      ∃ clock, localClock v (.ofText? t.zone) = .ok clock ∧ t.Admits op clock.minuteOfDay := by
  have hstart : t.toJson.getD "start" = .str t.start := rfl
  have hfinish : t.toJson.getD "end" = .ofText? t.finish := rfl
  have hzone : t.toJson.getD "timezone" = .ofText? t.zone := rfl
  rw [evaluateTime_holds_iff, TimeSlips, hstart, hfinish, hzone, minutesOf_of_isClock h.start]
  refine exists_congr fun clock => ?_
  simp only [Except.ok.injEq, exists_and_left, exists_eq_left']
  refine and_congr_right fun _ => ?_
  cases op with
  | between =>
      rw [TimeRange.Admits]
      cases hs : t.finish with
      | none => exact iff_of_false (by rintro ⟨_, ⟨⟩, -⟩) (by simp)
      | some s =>
          have hclock := h.finish s hs
          rw [Json.ofText?, minutesOf_of_isClock hclock]
          simp only [Except.ok.injEq, exists_eq_left', Option.mem_some_iff, Nat.cast_le]
          exact (isWithin_iff (TimeRange.clockMinutes_lt h.start)
            (TimeRange.clockMinutes_lt hclock) clock.minuteOfDay_lt).symm
  | before => exact Nat.cast_lt
  | after => exact Nat.cast_lt
  | _ => exact Iff.rfl

end Evaluation

/-! ## Conditions on the time of day -/

namespace Condition

variable {source : Check.Source} {path : List Check.Step} {j : Json}
  {op : Operator} {t : TimeRange} {v : Visitor} {m : Moment} {z : Zone} {clock : Clock}

/-- A condition on the time of day holds where its operator admits the minute
that the clock of the zone shows at the instant. Visitors who go by one zone at
one instant are alike to it, where clocks show the same. -/
theorem holds_onTime_iff (h : check source path j = .passed (.onTime op t))
    (htime : v.time = some m) (hz : (v.zoneFor? t.zone).bind Zone.resolve? = some z)
    (hlocal : v.clocks.IsLocalTime z m.instant clock) :
    ((StoredCondition.checked (.onTime op t)).holds v = true ↔
        t.Admits op clock.minuteOfDay) ∧
      ∀ v' : Visitor, v'.clocks = v.clocks → v'.zone = v.zone →
        v'.time.map Moment.instant = some m.instant →
        (StoredCondition.checked (.onTime op t)).holds v' =
          (StoredCondition.checked (.onTime op t)).holds v := by
  have hholds : ∀ u : Visitor, (StoredCondition.checked (.onTime op t)).holds u = true ↔
      ∃ clock, Evaluation.localClock u (.ofText? t.zone) = .ok clock ∧
        t.Admits op clock.minuteOfDay := fun u =>
    StoredCondition.checked_holds_iff.trans
      (Evaluation.evaluateTime_iff (isProper_of_check h))
  constructor
  · have hclock := (Evaluation.localClock_eq_ok_iff htime hz).mpr hlocal
    rw [hholds, hclock]
    simp
  · intro v' hclocks hzone hinstant
    have hsame : v'.time.map Moment.instant = v.time.map Moment.instant := by
      rw [hinstant, htime, Option.map_some]
    rw [Bool.eq_iff_iff, hholds, hholds, Evaluation.localClock_congr hclocks hzone hsame]

/-- Half past six in the morning, five hours behind universal time, is half past
midnight in Apia and lies in a window from ten in the evening to six. -/
theorem holds_overnight :
    let t : TimeRange := ⟨"22:00", some "6:00", some "Pacific/Apia"⟩
    let m : Moment := ⟨.ofDate ⟨2024, 1, 10⟩ (390 * Clock.minuteMicros), some (-300)⟩
    let v : Visitor := ⟨fun _ => .absent, some m, .text "Europe/Paris", .recorded⟩
    check .document [] (.obj [("type", .str "time"), ("operator", .str "between"),
      ("value", .obj [("start", .str "22:00"), ("end", .str "6:00"),
        ("timezone", .str "Pacific/Apia")])]) = .passed (.onTime .between t) ∧
      (StoredCondition.checked (.onTime .between t)).holds v = true := by
  intro t m v
  have hcheck : check .document [] (.obj [("type", .str "time"),
      ("operator", .str "between"), ("value", .obj [("start", .str "22:00"),
        ("end", .str "6:00"), ("timezone", .str "Pacific/Apia")])]) =
      .passed (.onTime .between t) := by
    rfl
  obtain ⟨z, hz, hoffset⟩ : ∃ z, (v.zoneFor? t.zone).bind Zone.resolve? = some z ∧
      v.clocks.offset z ⟨m.instant.toNat⟩ = 780 :=
    ⟨_, by rfl, by decide +kernel⟩
  let clock : Clock := .ofDate ⟨2024, 1, 11⟩ (30 * Clock.minuteMicros)
  have hlocal : v.clocks.IsLocalTime z m.instant clock := by
    refine ⟨by decide +kernel, ?_, by decide +kernel⟩
    rw [hoffset]
    decide +kernel
  refine ⟨hcheck, (holds_onTime_iff hcheck rfl hz hlocal).1.mpr ?_⟩
  exact ⟨"6:00", rfl, by decide +kernel⟩

end Condition

end Signpost
