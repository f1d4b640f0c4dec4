import Mathlib
import Signpost.Proofs.LenientLoading
import Signpost.Proofs.TimeWindows

/-!
# The texts of clocks

A clock is written with one or two digits for an hour of the day, a colon and
two digits for a minute of the hour. The check of a time range goes over the
digits one by one, and what it lets pass as a start or as an end are the clocks
in writing, but not these alone: it takes the end of a text to come before a
line break as well, so a clock with one line break behind it passes too.
Nothing else does, whatever else the range is made of.

The evaluator reads the same texts in another way, as two integers around a
colon. White space around an integer has no say in it, so the line break does
not matter there, and every text that passes is read as the minutes from
midnight to the clock that it writes.
-/

namespace Signpost

/-! ## Members that are put in place -/

namespace Json

theorem lookup_cons (n : String) (v : Json) (rest : List (String × Json))
    (name : String) :
    lookup ((n, v) :: rest) name = if n = name then some v else lookup rest name := by
  rw [lookup, List.find?_cons]
  by_cases h : n = name
  · simp [h]
  · rw [if_neg h, beq_eq_false_iff_ne.mpr h, lookup]

/-- What was put in place is found under its name, and all else as before. -/
theorem lookup_put (name : String) (value : Json) (members : List (String × Json))
    (other : String) :
    lookup (put name value members) other =
      if name = other then some value else lookup members other := by
  induction members with
  | nil => exact lookup_cons name value [] other
  | cons m rest ih =>
      obtain ⟨n, v⟩ := m
      rw [put]
      split
      · next hn =>
          rw [lookup_cons, lookup_cons, hn]
          split <;> rfl
      · next hn =>
          rw [lookup_cons, lookup_cons, ih]
          by_cases h : n = other
          · rw [if_pos h, if_pos h, if_neg fun hname => hn (h.trans hname.symm)]
          · rw [if_neg h, if_neg h]

/-- Members under other names are the same when one is put in place. -/
theorem filter_put {p : String → Bool} {name : String} (value : Json)
    (h : p name = false) (members : List (String × Json)) :
    (put name value members).filter (fun m => p m.1) =
      members.filter fun m => p m.1 := by
  induction members with
  | nil => simp [put, h]
  | cons m rest ih =>
      obtain ⟨n, v⟩ := m
      rw [put]
      split
      · next hn => simp [hn, h]
      · rw [List.filter_cons, List.filter_cons, ih]

end Json

/-- Two records agree on a field that has the same value in both. -/
theorem Check.Record.optional_congr {α : Type} {path : List Check.Step}
    {members members' : List (String × Json)} {whole whole' : Json} {name : String}
    (h : Json.lookup members name = Json.lookup members' name)
    (fallback : α) (rule : Check.Rule α) :
    optional ⟨path, members, whole⟩ name fallback rule =
      optional ⟨path, members', whole'⟩ name fallback rule := by
  rw [optional, optional, h]

namespace TimeRange

/-! ## Clocks in writing -/

/-- A clock in writing: ASCII digits, one or two for an hour of the day and two
for a minute of the hour. -/
structure ClockText where
  hours : List Char
  minutes : List Char
  hours_short : IsShort hours
  minutes_short : IsShort minutes
  minutes_length : minutes.length = 2
  hour_lt : Json.naturalOf hours < 24
  minute_lt : Json.naturalOf minutes < 60

namespace ClockText

def text (c : ClockText) : List Char :=
  c.hours ++ ':' :: c.minutes

/-- Minutes from midnight to the clock. -/
def minuteOfDay (c : ClockText) : Nat :=
  60 * Json.naturalOf c.hours + Json.naturalOf c.minutes

theorem minuteOfDay_lt (c : ClockText) : c.minuteOfDay < 1440 := by
  have hhour := c.hour_lt
  have hminute := c.minute_lt
  rw [minuteOfDay]
  omega

end ClockText

/-! ## What the check takes for a clock -/

theorem isAsciiDigit_iff {c : Char} :
    Json.isAsciiDigit c = true ↔ 0x30 ≤ c.toNat ∧ c.toNat ≤ 0x39 := by
  rw [Json.isAsciiDigit, Bool.and_eq_true, decide_eq_true_eq, decide_eq_true_eq]
  exact Iff.rfl

theorem naturalOf_pair (a b : Char) :
    Json.naturalOf [a, b] = 10 * (a.toNat - 0x30) + (b.toNat - 0x30) := by
  simp [Json.naturalOf]

theorem isHour_iff {digits : List Char} :
    isHour digits = true ↔ IsShort digits ∧ Json.naturalOf digits < 24 := by
  constructor
  · exact fun h => ⟨isShort_of_isHour h, naturalOf_of_isHour h⟩
  · rintro ⟨hshort, hbound⟩
    match digits with
    | [] => exact absurd rfl hshort.ne
    | [a] => exact hshort.digit a (by simp)
    | [a, b] =>
        have ha := isAsciiDigit_iff.mp (hshort.digit a (by simp))
        have hdigit := hshort.digit b (by simp)
        have hb := isAsciiDigit_iff.mp hdigit
        rw [naturalOf_pair] at hbound
        simp only [isHour, Bool.or_eq_true, Bool.and_eq_true, beq_iff_eq,
          decide_eq_true_eq, ← Char.toNat_inj, hdigit, and_true, Char.reduceToNat]
        show (a.toNat = 0x30 ∨ a.toNat = 0x31) ∨
          (a.toNat = 0x32 ∧ 0x30 ≤ b.toNat) ∧ b.toNat ≤ 0x33
        omega
    | _ :: _ :: _ :: _ => exact absurd hshort.length (by simp)

theorem isMinute_iff {digits : List Char} :
    isMinute digits = true ↔
      IsShort digits ∧ digits.length = 2 ∧ Json.naturalOf digits < 60 := by
  constructor
  · exact fun h => ⟨isShort_of_isMinute h, length_of_isMinute h, naturalOf_of_isMinute h⟩
  · rintro ⟨hshort, hlength, hbound⟩
    obtain ⟨a, b, rfl⟩ := List.length_eq_two.mp hlength
    have ha := isAsciiDigit_iff.mp (hshort.digit a (by simp))
    rw [naturalOf_pair] at hbound
    simp only [isMinute, Bool.and_eq_true, decide_eq_true_eq,
      hshort.digit b (by simp), and_true]
    show 0x30 ≤ a.toNat ∧ a.toNat ≤ 0x35
    omega

namespace ClockText

variable {c : ClockText}

/-- The clock in writing that an hour and a minute make, as the check knows
them. -/
def ofParts {hours minutes : List Char} (hh : isHour hours = true)
    (hm : isMinute minutes = true) : ClockText where
  hours := hours
  minutes := minutes
  hours_short := isShort_of_isHour hh
  minutes_short := isShort_of_isMinute hm
  minutes_length := length_of_isMinute hm
  hour_lt := naturalOf_of_isHour hh
  minute_lt := naturalOf_of_isMinute hm

theorem isHour_hours (c : ClockText) : isHour c.hours = true :=
  isHour_iff.mpr ⟨c.hours_short, c.hour_lt⟩

theorem isMinute_minutes (c : ClockText) : isMinute c.minutes = true :=
  isMinute_iff.mpr ⟨c.minutes_short, c.minutes_length, c.minute_lt⟩

theorem isAsciiDigit_of_getLast? {d : Char} (h : c.text.getLast? = some d) :
    Json.isAsciiDigit d = true := by
  have hlast : c.text.getLast? = c.minutes.getLast? := by
    obtain ⟨a, b, hpair⟩ := List.length_eq_two.mp c.minutes_length
    rw [text, hpair]
    simp
  rw [hlast] at h
  exact c.minutes_short.digit d (List.mem_of_getLast? h)

theorem getLast?_text_ne (c : ClockText) : c.text.getLast? ≠ some '\n' := fun h =>
  absurd (isAsciiDigit_of_getLast? h) (by decide)

end ClockText

/-- The check lets pass the clocks in writing, with a line break behind them or
without. -/
theorem isClock_iff {s : String} :
    isClock s = true ↔
      ∃ c : ClockText, s.toList = c.text ∨ s.toList = c.text ++ ['\n'] := by
  constructor
  · intro h
    obtain ⟨hours, minutes, tail, heq, hh, hm, htail⟩ := parts_of_isClock h
    refine ⟨.ofParts hh hm, ?_⟩
    rcases htail with rfl | rfl
    · exact .inl (heq.trans (by rw [List.append_nil]; rfl))
    · exact .inr (heq.trans (List.append_assoc hours (':' :: minutes) ['\n']).symm)
  · rintro ⟨c, h⟩
    have hbody : (if s.toList.getLast? = some '\n' then s.toList.dropLast
        else s.toList) = c.text := by
      rcases h with h | h
      · rw [h, if_neg c.getLast?_text_ne]
      · rw [h, List.getLast?_concat, if_pos rfl, List.dropLast_concat]
    obtain ⟨htake, hdrop⟩ := c.hours_short.cut_colon c.minutes
    rw [isClock, hbody, ClockText.text, htake, hdrop, c.isHour_hours, c.isMinute_minutes]
    rfl

/-! ## A clock in the place of another -/

def partNames : List String := ["start", "end", "timezone"]

/-- A document passes by its start, its end, its zone and the names that it has. -/
theorem check_obj_passed {path : List Check.Step} {members : List (String × Json)}
    {t : TimeRange} :
    check path (.obj members) = .passed t ↔
      (∃ j, Json.lookup members "start" = some j ∧
        clockRule "Start" (path ++ [.field "start"]) j = .passed t.start) ∧
      Check.Record.optional ⟨path, members, .obj members⟩ "end" none
        (Check.orNull (clockRule "End")) = .passed t.finish ∧
      Check.Record.optional ⟨path, members, .obj members⟩ "timezone" none
        (Check.orNull zoneRule) = .passed t.zone ∧
      members.filter (fun m => !partNames.contains m.1) = [] := by
  let r : Check.Record := ⟨path, members, .obj members⟩
  have hothers : r.forbidOthers partNames = .passed () ↔
      members.filter (fun m => !partNames.contains m.1) = [] := by
    rw [Check.Record.forbidOthers]
    split
    · next hnone => exact iff_of_true rfl hnone
    · next hsome => exact iff_of_false (fun h => by cases h) hsome
  have hrequired : r.required "start" (clockRule "Start") = .passed t.start ↔ _ :=
    Check.Record.required_passed
  rw [← hrequired, ← hothers]
  show (_ <*> _ : Check.Checked TimeRange) = _ ↔ _
  simp only [Check.Checked.seq_eq_passed, Check.Checked.map_eq_passed]
  constructor
  · rintro ⟨_, _, ⟨_, zone, ⟨_, finish, ⟨start, hstart, rfl⟩, hfinish, rfl⟩, hzone, rfl⟩,
      hothers, rfl⟩
    exact ⟨hstart, hfinish, hzone, hothers⟩
  · rintro ⟨hstart, hfinish, hzone, hothers⟩
    exact ⟨_, _, ⟨_, _, ⟨_, _, ⟨_, hstart, rfl⟩, hfinish, rfl⟩, hzone, rfl⟩, hothers, rfl⟩

section Replaced

variable {path : List Check.Step} {members : List (String × Json)} {t r : TimeRange}

theorem clockRule_str {side s s' : String} :
    clockRule side path (.str s) = .passed s' ↔ isClock s = true ∧ s' = s := by
  rw [clockRule_passed]
  show Check.Checked.passed s = _ ∧ _ ↔ _
  rw [Check.Checked.passed.injEq]
  constructor
  · rintro ⟨rfl, h⟩
    exact ⟨h, rfl⟩
  · rintro ⟨h, rfl⟩
    exact ⟨rfl, h⟩

/-- A part that is put in place is none of the members that a range may not
have. -/
theorem filter_put_part {name : String} (hname : partNames.contains name = true)
    (value : Json) (members : List (String × Json)) :
    (Json.put name value members).filter (fun m => !partNames.contains m.1) =
      members.filter fun m => !partNames.contains m.1 :=
  Json.filter_put (p := fun n => !partNames.contains n) value (by rw [hname]; rfl) members

theorem check_put_start (h : check path (.obj members) = .passed t) (s : String) :
    check path (.obj (Json.put "start" (.str s) members)) = .passed r ↔
      isClock s = true ∧ r = { t with start := s } := by
  obtain ⟨-, hfinish, hzone, hothers⟩ := check_obj_passed.mp h
  have hlookup := Json.lookup_put "start" (.str s) members
  rw [check_obj_passed, filter_put_part rfl, hlookup, if_pos rfl,
    Check.Record.optional_congr ((hlookup "end").trans (if_neg (by decide))) none,
    Check.Record.optional_congr ((hlookup "timezone").trans (if_neg (by decide))) none,
    hfinish, hzone, hothers]
  simp only [Option.some.injEq, exists_eq_left', clockRule_str,
    Check.Checked.passed.injEq, and_true]
  obtain ⟨start, finish, zone⟩ := r
  simp only [mk.injEq]
  tauto

theorem optional_text_passed {whole : Json} {name side s : String} {found : Option String}
    (h : Json.lookup members name = some (.str s)) :
    Check.Record.optional ⟨path, members, whole⟩ name none
        (Check.orNull (clockRule side)) = .passed found ↔
      isClock s = true ∧ found = some s := by
  rw [Check.Record.optional, h]
  show some <$> clockRule side _ (.str s) = _ ↔ _
  rw [Check.Checked.map_eq_passed]
  simp only [clockRule_str]
  constructor
  · rintro ⟨_, ⟨hclock, rfl⟩, rfl⟩
    exact ⟨hclock, rfl⟩
  · rintro ⟨hclock, rfl⟩
    exact ⟨s, ⟨hclock, rfl⟩, rfl⟩

theorem check_put_end (h : check path (.obj members) = .passed t) (s : String) :
    check path (.obj (Json.put "end" (.str s) members)) = .passed r ↔
      isClock s = true ∧ r = { t with finish := some s } := by
  obtain ⟨⟨j, hj, hstart⟩, -, hzone, hothers⟩ := check_obj_passed.mp h
  have hlookup := Json.lookup_put "end" (.str s) members
  rw [check_obj_passed, filter_put_part rfl, hlookup, if_neg (by decide),
    optional_text_passed ((hlookup "end").trans (if_pos rfl)),
    Check.Record.optional_congr ((hlookup "timezone").trans (if_neg (by decide))) none,
    hzone, hothers]
  simp only [hj, Option.some.injEq, exists_eq_left', hstart,
    Check.Checked.passed.injEq, and_true]
  obtain ⟨start, finish, zone⟩ := r
  simp only [mk.injEq]
  tauto

/-- What a clock that is read comes to: the minutes from midnight to the clock
in writing. -/
theorem ClockText.clockMinutes_eq {c : ClockText} {s : String}
    (h : s.toList = c.text ∨ s.toList = c.text ++ ['\n']) :
    clockMinutes s = c.minuteOfDay := by
  obtain ⟨tail, htail⟩ : ∃ tail, s.toList = c.hours ++ ':' :: (c.minutes ++ tail) := by
    rcases h with h | h
    · exact ⟨[], by rw [h, text, List.append_nil]⟩
    · exact ⟨['\n'], by rw [h, text, List.append_assoc, List.cons_append]⟩
  exact clockMinutes_of_parts htail c.isHour_hours c.isMinute_minutes

/-- In the place of the start or of the end of a range that passes, a text
passes when it is a clock in writing or one with a line break behind it. Such a
text is read as the minutes from midnight to the clock. -/
theorem check_clock_iff (h : check path (.obj members) = .passed t) (s : String) :
    ((∃ r, check path (.obj (Json.put "start" (.str s) members)) = .passed r) ↔
        ∃ c : ClockText, s.toList = c.text ∨ s.toList = c.text ++ ['\n']) ∧
      ((∃ r, check path (.obj (Json.put "end" (.str s) members)) = .passed r) ↔
        ∃ c : ClockText, s.toList = c.text ∨ s.toList = c.text ++ ['\n']) ∧
      ∀ c : ClockText, s.toList = c.text ∨ s.toList = c.text ++ ['\n'] →
        Evaluation.minutesOf (.str s) = .ok c.minuteOfDay ∧ c.minuteOfDay ≤ 1439 := by
  refine ⟨?_, ?_, fun c hc => ?_⟩
  · simp only [check_put_start h, exists_and_left, exists_eq, and_true]
    exact isClock_iff
  · simp only [check_put_end h, exists_and_left, exists_eq, and_true]
    exact isClock_iff
  · rw [Evaluation.minutesOf_of_isClock (isClock_iff.mpr ⟨c, hc⟩), c.clockMinutes_eq hc]
    exact ⟨rfl, Nat.le_of_lt_succ c.minuteOfDay_lt⟩

/-- Five past six, with a line break behind it. -/
def brokenClock : String := "6:05\n"

/-- A night that ends at five past six passes with the line break, and its end
is read as minute 365. -/
theorem check_brokenClock :
    (∃ r, check [] (.obj (Json.put "end" (.str brokenClock) [("start", .str "22:00")])) =
        .passed r) ∧
      Evaluation.minutesOf (.str brokenClock) = .ok 365 := by
  let c : ClockText :=
    .ofParts (by rfl : isHour ['6'] = true) (by rfl : isMinute ['0', '5'] = true)
  have hc : brokenClock.toList = c.text ∨ brokenClock.toList = c.text ++ ['\n'] :=
    .inr (by decide)
  have hnight : check [] (.obj [("start", .str "22:00")]) =
      .passed ⟨"22:00", none, none⟩ := by
    rfl
  obtain ⟨-, hend, hread⟩ := check_clock_iff hnight brokenClock
  exact ⟨hend.mpr ⟨c, hc⟩, (hread c hc).1⟩

/-- With the line break it is no clock in writing, and passes as a start. -/
theorem not_clockText_brokenClock :
    check [] (.obj [("start", .str brokenClock)]) =
        .passed ⟨brokenClock, none, none⟩ ∧
      ¬ ∃ c : ClockText, brokenClock.toList = c.text := by
  refine ⟨by rfl, ?_⟩
  rintro ⟨c, hc⟩
  exact c.getLast?_text_ne (hc ▸ by decide)

end Replaced

end TimeRange

end Signpost
