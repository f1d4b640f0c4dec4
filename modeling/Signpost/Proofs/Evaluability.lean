import Mathlib
import Signpost.Proofs.TimeWindows
import Signpost.Visit

/-!
# Which checked conditions can be evaluated

A condition that passed its check is meant to be one that can be evaluated:
whether it holds differs from visit to visit, but that can be told for each.
The check and the evaluator were not written together, though, and there are
three cases in which it cannot. A list of texts passes for every operator on an
attribute, but only membership looks into lists. A numeral of a day is trimmed
before it is checked, of separators as of spaces, and read as an integer
untrimmed. And the clock of a zone may lie outside years 1 to 9999 when
universal time does not.

`Condition.Falters` puts these together, and `Condition.evaluate_fails_iff`
says that there are no others.
-/

namespace Signpost

/-! ## When a condition cannot be evaluated -/

/-- The operators that compare a text with one other text. -/
def Operator.comparesOne : Operator → Bool
  | equals | notEquals | contains | notContains | startsWith | endsWith => true
  | _ => false

/-- Whether the clock of a zone lies outside years 1 to 9999 at a reading of
universal time. -/
def Zone.Clocks.IsOff (k : Clocks) (z : Zone) (now : Clock) : Prop :=
  let moved : Int := now.micros + k.offset z now * Clock.minuteMicros
  moved < 0 ∨ Clock.limit ≤ moved

namespace Visit

/-- The name of the zone that counts for a condition, which may name one. -/
def zoneName (visit : Visit) (named : Option String) : String :=
  named.getD (visit.zone?.getD Visitor.defaultZone)

/-- Whether the zone that counts has no clock at the moment of the visit. -/
def IsOff (visit : Visit) (clocks : Zone.Clocks) (now : Clock)
    (named : Option String) : Prop :=
  ∃ z, Zone.resolve? (visit.zoneName named) = some z ∧ clocks.IsOff z now

end Visit

/-- A numeral that has a separator in it. -/
def Day.IsSeparated (d : Day) : Prop :=
  ∃ s, d = .numeral s ∧ ∃ c ∈ s.toList, Text.isSeparator c = true

/-- When a condition cannot be evaluated for a visit: it compares an attribute
of the visit with a list, it needs a clock that is off, or it names a day with
a separator. -/
def Condition.Falters (visit : Visit) (now : Clock) (facts : Visit.Facts) :
    Condition → Prop
  | onAttribute a op expected =>
    (visit.visitor now facts).signal a ≠ .absent ∧ op.comparesOne = true ∧
      ∃ texts, expected = .many texts
  | onTime op t => ¬ (op = .between ∧ t.finish = none) ∧ visit.IsOff facts.clocks now t.zone
  | onDayOfWeek _ days =>
    visit.IsOff facts.clocks now none ∨ ∃ d ∈ days.toList, d.IsSeparated

namespace Evaluation

variable {v : Visitor} {op : Operator}

/-! ## Texts -/

theorem fails_normalize_iff {expected : OneOrMany String} :
    Fails (normalize (expected.toJson .str)) ↔ ∃ texts, expected = .many texts := by
  cases expected with
  | one s => exact iff_of_false not_fails_ok (by simp)
  | many texts => exact iff_of_true ⟨_, rfl⟩ ⟨texts, rfl⟩

theorem candidates_toJson {α : Type} {f : α → Json} (hf : ∀ a items, f a ≠ .arr items)
    (operand : OneOrMany α) : candidates (operand.toJson f) = operand.toList.map f := by
  cases operand with
  | one a =>
      rw [OneOrMany.toJson, OneOrMany.toList, candidates]
      · rfl
      · exact hf a
  | many as => rfl

/-- Membership can be told of any texts, all else only of one. -/
theorem fails_compareText_iff {actual : List Char} {expected : OneOrMany String} :
    Fails (compareText actual op (expected.toJson .str)) ↔
      op.comparesOne = true ∧ ∃ texts, expected = .many texts := by
  have hcandidates : candidates (expected.toJson .str) = expected.toList.map .str :=
    candidates_toJson (fun _ _ => Json.noConfusion) expected
  cases op with
  | isIn | notIn =>
      refine iff_of_false ?_ (by simp [Operator.comparesOne])
      rw [compareText, hcandidates]
      split
      · exact not_fails_ok
      · rw [isAmong_texts]
        exact not_fails_ok
  | between | before | after =>
      exact iff_of_false not_fails_ok (by simp [Operator.comparesOne])
  | equals | notEquals | contains | notContains | startsWith | endsWith =>
      rw [compareText, fails_map, fails_normalize_iff]
      exact (and_iff_right rfl).symm

theorem fails_evaluateAttribute_iff {a : Attribute} {expected : OneOrMany String}
    (h : v.signal a ≠ .unreadable) :
    Fails (evaluateAttribute v a op (expected.toJson .str)) ↔
      v.signal a ≠ .absent ∧ op.comparesOne = true ∧ ∃ texts, expected = .many texts := by
  rw [evaluateAttribute]
  cases hsignal : v.signal a with
  | unreadable => exact absurd hsignal h
  | absent => exact iff_of_false not_fails_ok (by simp)
  | text s =>
      rw [fails_compareText_iff]
      simp

/-! ## Clocks -/

theorem isTruthy_finish_eq_false_iff {t : TimeRange} (h : t.IsProper) :
    (Json.ofText? t.finish).isTruthy = false ↔ t.finish = none := by
  cases hs : t.finish with
  | none => exact iff_of_true rfl rfl
  | some s =>
      refine iff_of_false ?_ (by simp)
      rw [Json.ofText?, isTruthy_of_minutesOf (minutesOf_of_isClock (h.finish s hs))]
      decide

theorem fails_localClock_of_resolve? {override : Json} {m : Moment} {name : String} {z : Zone}
    (htime : v.time = some m) (hname : Visitor.zoneName override (some v) = .str name)
    (hz : Zone.resolve? name = some z) :
    Fails (localClock v override) ↔ v.clocks.reading? z m = none := by
  rw [localClock_of_resolve? htime hname hz]
  cases v.clocks.reading? z m with
  | none => exact iff_of_true ⟨_, rfl⟩ rfl
  | some clock => exact iff_of_false not_fails_ok (by simp)

/-- A range that passed its check needs a clock, unless it is looked for between
a start and no end, and nothing else. -/
theorem fails_evaluateTime_iff {t : TimeRange} (h : t.IsProper) :
    Fails (evaluateTime v op t.toJson) ↔
      ¬ (op = .between ∧ t.finish = none) ∧ Fails (localClock v (.ofText? t.zone)) := by
  have hfirst := minutesOf_of_isClock h.start
  have hstart : t.toJson.getD "start" = .str t.start := rfl
  have hfinish : t.toJson.getD "end" = .ofText? t.finish := rfl
  have hzone : t.toJson.getD "timezone" = .ofText? t.zone := rfl
  simp only [evaluateTime, hstart, hfinish, hzone, isTruthy_of_minutesOf hfirst,
    Bool.not_true, Bool.false_eq_true, if_false, Bool.not_eq_true',
    isTruthy_finish_eq_false_iff h, hfirst]
  by_cases hclosed : op = .between ∧ t.finish = none
  · rw [if_pos hclosed]
    exact iff_of_false not_fails_ok fun h => h.1 hclosed
  · rw [if_neg hclosed]
    refine Iff.trans ?_ (and_iff_right hclosed).symm
    cases localClock v (.ofText? t.zone) with
    | error e => exact iff_of_true ⟨e, rfl⟩ ⟨e, rfl⟩
    | ok clock =>
        refine iff_of_false ?_ not_fails_ok
        cases op with
        | between =>
            cases hs : t.finish with
            | none => exact absurd ⟨rfl, hs⟩ hclosed
            | some s =>
                simp only [bind, Except.bind, Json.ofText?,
                  minutesOf_of_isClock (h.finish s hs)]
                split <;> exact not_fails_ok
        | _ => exact not_fails_ok

/-! ## Days -/

theorem readInteger_of_parse {s : String} {n : Int} (h : Day.parse (.str s) = .ok (some n)) :
    Text.readInteger (Text.trim s.toList) = .ok n := by
  simp only [Day.parse] at h
  split at h
  · cases hread : Text.readInteger (Text.trim s.toList) with
    | error e => rw [hread] at h; cases h
    | ok m =>
        rw [hread] at h
        have hwithin : (if 0 ≤ m ∧ m ≤ 6 then some m else none) = some n := Except.ok.inj h
        exact congrArg Except.ok
          (Option.some.inj (Option.ite_none_right_eq_some.mp hwithin).2)
  · cases h

theorem dayNumber_numeral (s : String) :
    dayNumber (Day.numeral s).toJson =
      match Text.readInteger s.toList with
      | .ok n => .ok n
      | .error _ => .error .notNumber := by
  have hplain : (plainText? (.str s)).map Text.readInteger =
      some (Text.readInteger s.toList) := rfl
  rw [Day.toJson, dayNumber, hplain]
  · cases Text.readInteger s.toList <;> rfl
  all_goals exact fun _ => Json.noConfusion

/-- A day that passed its check is read as the number that the check found,
unless it has a separator in it. -/
theorem dayNumber_of_parse {d : Day} {n : Int} (h : Day.parse d.toJson = .ok (some n))
    (hplain : ¬ d.IsSeparated) : dayNumber d.toJson = .ok n := by
  cases d with
  | number i =>
      have hwithin : (if 0 ≤ i ∧ i ≤ 6 then some i else none) = some n := Except.ok.inj h
      exact congrArg Except.ok
        (Option.some.inj (Option.ite_none_right_eq_some.mp hwithin).2)
  | numeral s =>
      have hspaced : ∀ c ∈ s.toList, Text.isSeparator c = false := by
        intro c hc
        by_contra hseparator
        exact hplain ⟨s, rfl, c, hc, by simpa using hseparator⟩
      have hblank : Text.trim s.toList = Text.trimWhere Text.isSpace s.toList := by
        refine Text.trimWhere_congr fun c hc => ?_
        rw [Text.isBlank_eq, hspaced c hc, Bool.or_false]
      have hread : Text.readInteger s.toList = .ok n := by
        refine Text.readInteger_congr ?_ (readInteger_of_parse h)
        rw [hblank, Text.trimWhere_trimWhere]
      rw [dayNumber_numeral, hread]

/-- A day that passed its check can be read unless it has a separator in it. -/
theorem fails_dayNumber_iff {d : Day} (h : d.IsProper) :
    Fails (dayNumber d.toJson) ↔ d.IsSeparated := by
  obtain ⟨n, hn⟩ := h
  constructor
  · intro hfails
    by_contra hplain
    rw [dayNumber_of_parse hn hplain] at hfails
    exact not_fails_ok hfails
  · rintro ⟨s, rfl, c, hc, hseparator⟩
    rw [dayNumber_numeral]
    cases hread : Text.readInteger s.toList with
    | error e => exact ⟨_, rfl⟩
    | ok k => exact absurd hread (Text.readInteger_of_isSeparator hc hseparator k)

theorem fails_mapM_dayNumber_iff {ds : List Day} (h : ∀ d ∈ ds, d.IsProper) :
    Fails ((ds.map Day.toJson).mapM dayNumber) ↔ ∃ d ∈ ds, d.IsSeparated := by
  simp only [fails_mapM, List.mem_map, exists_exists_and_eq_and]
  exact exists_congr fun d => and_congr_right fun hd => fails_dayNumber_iff (h d hd)

theorem candidates_days (days : OneOrMany Day) :
    candidates (days.toJson Day.toJson) = days.toList.map Day.toJson :=
  candidates_toJson (fun d _ hd => by cases d <;> cases hd) days

/-- Days that passed their check need a clock and that each can be read. -/
theorem fails_evaluateDay_iff {days : OneOrMany Day} (h : ∀ d ∈ days.toList, d.IsProper) :
    Fails (evaluateDay v op (days.toJson Day.toJson)) ↔
      Fails (localClock v .null) ∨ ∃ d ∈ days.toList, d.IsSeparated := by
  rw [evaluateDay, candidates_days, ← fails_mapM_dayNumber_iff h]
  cases localClock v .null with
  | error e => exact iff_of_true ⟨e, rfl⟩ (.inl ⟨e, rfl⟩)
  | ok clock =>
      refine Iff.trans ?_ (or_iff_right not_fails_ok).symm
      cases (days.toList.map Day.toJson).mapM dayNumber with
      | error e => exact iff_of_true ⟨e, rfl⟩ ⟨e, rfl⟩
      | ok numbers => cases op <;> exact iff_of_false not_fails_ok not_fails_ok

end Evaluation

/-! ## The clock of a visit -/

theorem Zone.Clocks.reading?_eq_none_iff {k : Clocks} {z : Zone} {now : Clock}
    (hnow : now.micros < Clock.limit) :
    k.reading? z (.universal now) = none ↔ k.IsOff z now := by
  have hutc : (Moment.universal now).utc = some now := by
    rw [Moment.utc, Clock.shift, if_pos]
    · simp [Moment.universal]
    · simp [Moment.universal, hnow]
  rw [reading?, hutc, Option.bind_eq_bind, Option.bind_some, Clock.shift, IsOff]
  generalize (now.micros : Int) + k.offset z now * Clock.minuteMicros = moved
  by_cases hmoved : 0 ≤ moved ∧ moved < Clock.limit
  · rw [if_pos hmoved]
    exact iff_of_false (by simp) (by omega)
  · rw [if_neg hmoved]
    exact iff_of_true rfl (by omega)

namespace Visit

variable {visit : Visit} {now : Clock} {facts : Facts}
  {named : Option String}

theorem isName_of_zone? {s : String} (h : visit.zone? = some s) : Zone.isName s = true := by
  rw [zone?, Option.filter_eq_some_iff, Bool.and_eq_true] at h
  exact h.2.2

/-- The zone that counts is one that names are checked for. -/
theorem isName_zoneName (visit : Visit) (h : ∀ s ∈ named, Zone.isName s = true) :
    Zone.isName (visit.zoneName named) = true := by
  rw [zoneName]
  cases named with
  | some s => exact h s rfl
  | none =>
      cases hz : visit.zone? with
      | some s => exact isName_of_zone? hz
      | none => decide +kernel

theorem visitor_zoneName (h : ∀ s ∈ named, Zone.isName s = true) :
    Visitor.zoneName (.ofText? named) (some (visit.visitor now facts)) =
      .str (visit.zoneName named) := by
  have hne := Zone.ne_empty_of_isName (isName_zoneName visit h)
  cases named with
  | some s =>
      have hs : (Json.str s).isTruthy = true := by
        rw [Json.isTruthy, bne_iff_ne]
        exact hne
      rw [Visitor.zoneName, Json.ofText?, hs]
      rfl
  | none =>
      show (if visit.zoneName none = "" then _ else _) = _
      rw [if_neg hne]
      rfl

/-- The clock of the zone that counts is there unless it is off. -/
theorem fails_localClock_iff (hnow : now.micros < Clock.limit)
    (h : ∀ s ∈ named, Zone.isName s = true) :
    Fails (Evaluation.localClock (visit.visitor now facts) (.ofText? named)) ↔
      visit.IsOff facts.clocks now named := by
  obtain ⟨z, hz⟩ := Zone.resolve?_of_isName (isName_zoneName visit h)
  have hoff : visit.IsOff facts.clocks now named ↔ facts.clocks.IsOff z now := by
    rw [IsOff, hz]
    simp
  rw [hoff, ← Zone.Clocks.reading?_eq_none_iff hnow]
  exact Evaluation.fails_localClock_of_resolve? rfl (visitor_zoneName h) hz

theorem signal_ne_unreadable (a : Attribute) :
    (visit.visitor now facts).signal a ≠ .unreadable := by
  have hgiven : ∀ known, Signal.ofText? known ≠ .unreadable := by
    intro known
    cases known <;> exact Signal.noConfusion
  exact hgiven _

end Visit

/-! ## Conditions -/

namespace Condition

variable {visit : Visit} {now : Clock} {facts : Visit.Facts}
  {source : Check.Source} {path : List Check.Step} {j : Json} {c : Condition}

/-- A condition that passed its check can be evaluated for a visit except in the
cases told. -/
theorem evaluate_fails_iff (hnow : now.micros < Clock.limit)
    (h : check source path j = .passed c) :
    (∃ why, c.evaluate (visit.visitor now facts) = .error why) ↔
      c.Falters visit now facts := by
  have hproper := isProper_of_check h
  show Fails _ ↔ _
  cases c with
  | onTime op t =>
      show Fails (Evaluation.evaluateTime _ op t.toJson) ↔ _
      rw [Evaluation.fails_evaluateTime_iff hproper,
        Visit.fails_localClock_iff hnow hproper.zone, Falters]
  | onDayOfWeek op days =>
      have hclock : Fails (Evaluation.localClock (visit.visitor now facts) (.ofText? none)) ↔
          visit.IsOff facts.clocks now none :=
        Visit.fails_localClock_iff hnow (by simp)
      show Fails (Evaluation.evaluateDay _ op (days.toJson Day.toJson)) ↔ _
      rw [Evaluation.fails_evaluateDay_iff hproper, Falters]
      exact or_congr_left hclock
  | onAttribute a op expected =>
      show Fails (Evaluation.evaluateAttribute _ a op (expected.toJson .str)) ↔ _
      rw [Evaluation.fails_evaluateAttribute_iff (Visit.signal_ne_unreadable a), Falters]

/-- Whether a country is none of a list cannot be told by inequality, while
whether it is early can. -/
theorem evaluate_fails_of_listed_country :
    let visitor := Visit.visitor ⟨[("cf-ipcountry", "TW")], ""⟩ ⟨0⟩
      ⟨fun _ => .unknown, .recorded⟩
    (∃ why, (onAttribute .country .notEquals (.many ["US"])).evaluate visitor =
        .error why) ∧
      ¬ ∃ why, (onTime .before ⟨"09:00", none, none⟩).evaluate visitor = .error why := by
  intro visitor
  have hlisted : check .document [] (.obj [("type", .str "country"),
      ("operator", .str "not_equals"), ("value", .arr [.str "US"])]) =
      .passed (onAttribute .country .notEquals (.many ["US"])) := by rfl
  have hwindow : check .document [] (.obj [("type", .str "time"),
      ("operator", .str "before"), ("value", .obj [("start", .str "09:00")])]) =
      .passed (onTime .before ⟨"09:00", none, none⟩) := by rfl
  have hnow : (⟨0⟩ : Clock).micros < Clock.limit := by decide
  constructor
  · exact (evaluate_fails_iff hnow hlisted).mpr ⟨by decide, rfl, _, rfl⟩
  · rw [evaluate_fails_iff hnow hwindow]
    rintro ⟨-, z, hz, hoff⟩
    have huniversal : z = Zone.universal := by
      cases hz
      rfl
    rw [huniversal, Zone.Clocks.IsOff, Zone.Clocks.offset_universal] at hoff
    rcases hoff with hoff | hoff
    · exact absurd hoff (by decide)
    · exact absurd hoff (by decide)

/-- A day with a separator before it passes the check and cannot be read. -/
theorem evaluate_fails_of_separated_day :
    let day : Json := .obj [("type", .str "day_of_week"), ("operator", .str "equals"),
      ("value", .str "\x1c3")]
    let c := onDayOfWeek .equals (.one (.numeral "\x1c3"))
    check .document [] day = .passed c ∧
      c.evaluate (Visit.visitor ⟨[], ""⟩ ⟨0⟩ ⟨fun _ => .unknown, .recorded⟩) =
        .error .notNumber := by
  intro day c
  constructor
  · cbv
  · cbv

end Condition

end Signpost
