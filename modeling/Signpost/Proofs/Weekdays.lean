import Mathlib
import Signpost.Proofs.Evaluability

/-!
# Days of the week

A condition on the day of the week names days by numbers or by numerals of any
script. The check and the evaluator read a numeral each in its own way, the one
trimmed and the other as it stands, and agree on the number wherever both read
one. The day that is looked for is that of the local date.

They do not agree on which numerals can be read. The separators U+001C to
U+001F are trimmed like blanks, but are no white space around a number. So a
condition that names a day with a separator is accepted and holds of nobody,
whatever its operator. `Condition.holds_onDayOfWeek_iff` is the whole rule.
-/

namespace Signpost

/-- The number that the check finds for a day. -/
def Day.IsNumbered (d : Day) (n : Int) : Prop :=
  Day.parse d.toJson = .ok (some n)

instance (d : Day) (n : Int) : Decidable (d.IsNumbered n) :=
  inferInstanceAs (Decidable (_ = _))

/-- Whether an operator admits a day of the week for the days that are named. -/
def OneOrMany.AdmitsDay (days : OneOrMany Day) (op : Operator) (today : Int) : Prop :=
  match op with
  | .isIn | .equals => ∃ d ∈ days.toList, d.IsNumbered today
  | .notIn | .notEquals => ¬ ∃ d ∈ days.toList, d.IsNumbered today
  | _ => False

namespace Evaluation

variable {v : Visitor} {op : Operator}

/-- What days are read as are the numbers that the check found. -/
theorem mem_of_mapM_dayNumber {ds : List Day} {numbers : List Int} {today : Int}
    (h : ∀ d ∈ ds, d.IsProper) (hread : (ds.map Day.toJson).mapM dayNumber = .ok numbers) :
    today ∈ numbers ↔ ∃ d ∈ ds, d.IsNumbered today := by
  -- Each day beside the number that the evaluator reads it as.
  have hall := List.forall₂_map_left_iff.mp (forall₂_of_mapM_ok hread)
  clear hread
  induction hall with
  | nil => exact iff_of_false (by simp) (by simp)
  | @cons d n ds numbers hd _ ih =>
      obtain ⟨⟨k, hk⟩, hrest⟩ := List.forall_mem_cons.mp h
      have hplain : ¬ d.IsSeparated := by
        rw [← fails_dayNumber_iff ⟨k, hk⟩, hd]
        exact not_fails_ok
      have hsame : n = k := by
        rw [dayNumber_of_parse hk hplain] at hd
        exact (Except.ok.inj hd).symm
      have hfirst : today = n ↔ d.IsNumbered today := by
        rw [Day.IsNumbered, hk, hsame]
        simp [eq_comm]
      rw [List.mem_cons, List.exists_mem_cons_iff]
      exact or_congr hfirst (ih hrest)

/-- Days that passed their check are satisfied on the weekdays that the
operator admits, unless one has a separator in it. -/
theorem evaluateDay_iff {days : OneOrMany Day} (h : ∀ d ∈ days.toList, d.IsProper) :
    evaluateDay v op (days.toJson Day.toJson) = .ok true ↔
      ∃ clock, localClock v .null = .ok clock ∧ days.AdmitsDay op clock.weekday ∧
        ∀ d ∈ days.toList, ¬ d.IsSeparated := by
  have hreadable := fails_mapM_dayNumber_iff h
  rw [evaluateDay_holds_iff, DaySlips, candidates_days]
  refine exists_congr fun clock => ?_
  rw [exists_and_left]
  refine and_congr_right fun _ => ?_
  cases hread : (days.toList.map Day.toJson).mapM dayNumber with
  | error e =>
      obtain ⟨d, hd, hseparated⟩ := hreadable.mp ⟨e, hread⟩
      exact iff_of_false (by simp) fun hholds => hholds.2 d hd hseparated
  | ok numbers =>
      have hplain : ∀ d ∈ days.toList, ¬ d.IsSeparated := by
        intro d hd hseparated
        have hfails := hreadable.mpr ⟨d, hd, hseparated⟩
        rw [hread] at hfails
        exact not_fails_ok hfails
      have hmem : (clock.weekday : Int) ∈ numbers ↔
          ∃ d ∈ days.toList, d.IsNumbered clock.weekday :=
        mem_of_mapM_dayNumber h hread
      rw [and_iff_left hplain]
      simp only [Except.ok.injEq, exists_eq_left']
      cases op with
      | isIn | equals => exact hmem
      | notIn | notEquals => exact not_congr hmem
      | _ => exact Iff.rfl

end Evaluation

namespace Condition

variable {source : Check.Source} {path : List Check.Step} {j : Json}
  {op : Operator} {days : OneOrMany Day} {v : Visitor} {m : Moment} {z : Zone} {clock : Clock}

/-- A condition on the day of the week holds where its operator admits the
weekday of the local date, and no day that it names has a separator in it. -/
theorem holds_onDayOfWeek_iff (h : check source path j = .passed (.onDayOfWeek op days))
    (htime : v.time = some m) (hz : (v.zoneFor? none).bind Zone.resolve? = some z)
    (hlocal : v.clocks.IsLocalTime z m.instant clock) :
    (StoredCondition.checked (.onDayOfWeek op days)).holds v = true ↔
      days.AdmitsDay op clock.weekday ∧ ∀ d ∈ days.toList, ¬ d.IsSeparated := by
  have hclock : Evaluation.localClock v .null = .ok clock :=
    (Evaluation.localClock_eq_ok_iff htime hz).mpr hlocal
  refine StoredCondition.checked_holds_iff.trans ?_
  refine (Evaluation.evaluateDay_iff (isProper_of_check h)).trans ?_
  rw [hclock]
  simp [operator]

set_option maxRecDepth 8000 in
/-- Eight in the evening of a Wednesday, in universal time, is a Thursday in
Apia, which a numeral of another script names. -/
theorem holds_on_thursday :
    let days : OneOrMany Day := .many [.number 0, .numeral " \u0664"]
    let m : Moment := .universal (.ofDate ⟨2024, 1, 10⟩ (1200 * Clock.minuteMicros))
    let v : Visitor := ⟨fun _ => .absent, some m, .text "Pacific/Apia", .recorded⟩
    check .document [] (.obj [("type", .str "day_of_week"), ("operator", .str "in"),
      ("value", .arr [.int 0, .str " \u0664"])]) = .passed (.onDayOfWeek .isIn days) ∧
      (StoredCondition.checked (.onDayOfWeek .isIn days)).holds v = true := by
  intro days m v
  have hcheck : check .document [] (.obj [("type", .str "day_of_week"),
      ("operator", .str "in"), ("value", .arr [.int 0, .str " \u0664"])]) =
      .passed (.onDayOfWeek .isIn days) := by
    cbv
  obtain ⟨z, hz, hoffset⟩ : ∃ z, (v.zoneFor? none).bind Zone.resolve? = some z ∧
      v.clocks.offset z ⟨m.instant.toNat⟩ = 780 :=
    ⟨_, by rfl, by decide +kernel⟩
  let clock : Clock := .ofDate ⟨2024, 1, 11⟩ (540 * Clock.minuteMicros)
  have hlocal : v.clocks.IsLocalTime z m.instant clock := by
    refine ⟨by decide +kernel, ?_, by decide +kernel⟩
    rw [hoffset]
    decide +kernel
  refine ⟨hcheck, (holds_onDayOfWeek_iff hcheck rfl hz hlocal).mpr ⟨?_, ?_⟩⟩
  · exact ⟨.numeral " \u0664", by decide, by decide +kernel⟩
  · have hspaced : " \u0664".toList.any Text.isSeparator = false := by decide +kernel
    rintro d hd ⟨s, rfl, c, hc, hseparator⟩
    obtain rfl : s = " \u0664" := by simpa [days, OneOrMany.toList] using hd
    exact List.any_eq_false.mp hspaced c hc hseparator

/-- On a Wednesday a condition that names Wednesday behind a separator is
accepted and does not hold. -/
theorem not_holds_on_separated_wednesday :
    let days : OneOrMany Day := .one (.numeral "\x1c3")
    let clock : Clock := .ofDate ⟨2024, 1, 10⟩ 0
    let v : Visitor := ⟨fun _ => .absent, some (.universal clock), .absent, .recorded⟩
    check .document [] (.obj [("type", .str "day_of_week"), ("operator", .str "equals"),
        ("value", .str "\x1c3")]) = .passed (.onDayOfWeek .equals days) ∧
      (v.zoneFor? none).bind Zone.resolve? = some Zone.universal ∧
      v.clocks.IsLocalTime .universal (Moment.universal clock).instant clock ∧
      days.AdmitsDay .equals clock.weekday ∧
      (StoredCondition.checked (.onDayOfWeek .equals days)).holds v = false := by
  intro days clock v
  have hlocal : v.clocks.IsLocalTime .universal (Moment.universal clock).instant clock :=
    ⟨by decide +kernel, by decide +kernel, by decide +kernel⟩
  exact ⟨by cbv, by rfl, hlocal, ⟨_, List.mem_singleton_self _, by cbv⟩, by decide +kernel⟩

end Condition

end Signpost
