import Mathlib
import Signpost.Proofs.FirstMatch

/-!
# Rejected conditions that hold nevertheless

A condition that the checks refuse is loaded as it was found, and is meant to
hold of nobody. Mostly it does: what names no kind or no operator cannot be
evaluated, and neither can most operands of the wrong form. But the evaluator
does not look at an operand before it needs it, and it is not as strict as the
checks. So a visitor who lacks the attribute satisfies a negated operator
whatever the operand is; null is read as the empty text; a list is looked at
only up to the candidate that is found; clocks and days are any numbers at
all; and fields that no time range has are passed over.

`Slips` says for each kind and operator when a visitor satisfies an operand of
the wrong form, and `holds_of_rejected_iff` that a rejected condition holds of
just those visitors.
-/

namespace Signpost

namespace Evaluation

variable {v : Visitor} {op : Operator} {value : Json} {actual : List Char}

/-- A candidate that is looked at and passed over. -/
def IsOther (actual : List Char) (candidate : Json) : Prop :=
  ∃ text, normalize candidate = .ok text ∧ text ≠ actual

/-- When a text satisfies an operand that is no text, no list of texts, or an
empty one for an operator that admits none. -/
def TextSlips (actual : List Char) (op : Operator) (value : Json) : Prop :=
  match op with
  | .equals => value = .null ∧ actual = []
  | .notEquals => value = .null ∧ actual ≠ []
  | .contains | .startsWith | .endsWith => value = .null
  | .isIn => ∃ before c after, candidates value = before ++ c :: after ∧
      (∀ b ∈ before, IsOther actual b) ∧ normalize c = .ok actual
  | .notIn => candidates value ≠ [] ∧ ∀ c ∈ candidates value, IsOther actual c
  | _ => False

/-- When the clock satisfies a range whose start, and end where it counts, can
be read as minutes. -/
def TimeSlips (v : Visitor) (op : Operator) (range : Json) : Prop :=
  ∃ (clock : Clock) (first : Int),
    localClock v (range.getD "timezone") = .ok clock ∧
    minutesOf (range.getD "start") = .ok first ∧
    match op with
    | .before => clock.minuteOfDay < first
    | .after => first < clock.minuteOfDay
    | .between => ∃ last, minutesOf (range.getD "end") = .ok last ∧
        if first ≤ last then
          first ≤ clock.minuteOfDay ∧ clock.minuteOfDay ≤ last
        else first ≤ clock.minuteOfDay ∨ clock.minuteOfDay ≤ last
    | _ => False

/-- When the day satisfies days that can all be read as numbers. -/
def DaySlips (v : Visitor) (op : Operator) (value : Json) : Prop :=
  ∃ (clock : Clock) (days : List Int), localClock v .null = .ok clock ∧
    (candidates value).mapM dayNumber = .ok days ∧
    match op with
    | .isIn | .equals => (clock.weekday : Int) ∈ days
    | .notIn | .notEquals => (clock.weekday : Int) ∉ days
    | _ => False

/-- When a visitor satisfies an operand of the wrong form. -/
def Slips (v : Visitor) (kind : Kind) (op : Operator) (value : Json) : Prop :=
  match kind with
  | .time => TimeSlips v op value
  | .dayOfWeek => DaySlips v op value
  | .ofAttribute a =>
    match v.signal a with
    | .absent => op.isNegated = true
    | .unreadable => False
    | .text s => TextSlips (foldText (prepare a s.toList)) op value

/-! ## Texts -/

theorem isAmong_eq_true_iff : ∀ {items : List Json},
    isAmong actual items = .ok true ↔
      ∃ before c after, items = before ++ c :: after ∧
        (∀ b ∈ before, IsOther actual b) ∧ normalize c = .ok actual := by
  intro items
  induction items with
  | nil => simp [isAmong]
  | cons c rest ih =>
      rw [isAmong]
      cases hc : normalize c with
      | error e =>
          refine iff_of_false (by simp [bind, Except.bind]) ?_
          rintro ⟨before, x, after, heq, hbefore, hx⟩
          cases before with
          | nil =>
              cases heq
              rw [hc] at hx
              cases hx
          | cons b more =>
              cases heq
              obtain ⟨text, htext, -⟩ := hbefore c (by simp)
              rw [hc] at htext
              cases htext
      | ok text =>
          by_cases heq : text = actual
          · refine iff_of_true (by simp [bind, Except.bind, heq]) ?_
            exact ⟨[], c, rest, rfl, by simp, by rw [hc, heq]⟩
          · simp only [bind, Except.bind, heq, if_false, ih]
            constructor
            · rintro ⟨before, x, after, rfl, hbefore, hx⟩
              refine ⟨c :: before, x, after, rfl, fun b hb => ?_, hx⟩
              rcases List.mem_cons.mp hb with rfl | hb
              · exact ⟨text, hc, heq⟩
              · exact hbefore b hb
            · rintro ⟨before, x, after, hsplit, hbefore, hx⟩
              cases before with
              | nil =>
                  cases hsplit
                  rw [hc] at hx
                  cases hx
                  exact absurd rfl heq
              | cons b more =>
                  cases hsplit
                  exact ⟨more, x, after, rfl,
                    fun y hy => hbefore y (by simp [hy]), hx⟩

theorem isAmong_eq_false_iff : ∀ {items : List Json},
    isAmong actual items = .ok false ↔ ∀ c ∈ items, IsOther actual c := by
  intro items
  induction items with
  | nil => simp [isAmong]
  | cons c rest ih =>
      rw [isAmong, List.forall_mem_cons]
      cases hc : normalize c with
      | error e => simp [bind, Except.bind, IsOther, hc]
      | ok text =>
          by_cases heq : text = actual
          · simp [bind, Except.bind, IsOther, hc, heq]
          · simp [bind, Except.bind, IsOther, hc, heq, ih]

/-- Among texts every candidate can be compared. -/
theorem isAmong_texts {texts : List String} :
    isAmong actual (texts.map .str) = .ok (texts.any fun x => actual == foldText x.toList) := by
  induction texts with
  | nil => rfl
  | cons x rest ih =>
      show (if foldText x.toList = actual then .ok true else isAmong actual (rest.map .str)) = _
      by_cases heq : actual = foldText x.toList
      · rw [if_pos heq.symm, List.any_cons, beq_iff_eq.mpr heq, Bool.true_or]
      · rw [if_neg (Ne.symm heq), ih, List.any_cons, beq_eq_false_iff_ne.mpr heq, Bool.false_or]

theorem compareText_isIn_iff :
    compareText actual .isIn value = .ok true ↔
      TextSlips actual .isIn value := by
  rw [TextSlips, ← isAmong_eq_true_iff, compareText]
  cases hc : candidates value with
  | nil => simp [isAmong]
  | cons c rest => cases isAmong actual (c :: rest) <;> simp [Except.map]

theorem compareText_notIn_iff :
    compareText actual .notIn value = .ok true ↔
      TextSlips actual .notIn value := by
  rw [TextSlips, ← isAmong_eq_false_iff, compareText]
  cases hc : candidates value with
  | nil => simp
  | cons c rest => cases isAmong actual (c :: rest) <;> simp [Except.map]

/-- Of what is no text, only null can be compared with one. -/
theorem normalize_of_not_text (h : ∀ s, value ≠ .str s) {text : List Char} :
    normalize value = .ok text ↔ value = .null ∧ text = [] := by
  cases value with
  | str s => exact absurd rfl (h s)
  | null =>
      rw [normalize, Except.ok.injEq]
      exact ⟨fun h => ⟨rfl, h.symm⟩, fun h => h.2.symm⟩
  | _ => simp [normalize]

theorem occursIn_nil (s : List Char) : Text.occursIn [] s = true := by
  cases s <;> rfl

theorem compareText_holds_iff (h : ∀ s, value ≠ .str s) :
    compareText actual op value = .ok true ↔ TextSlips actual op value := by
  have hmap : ∀ f : List Char → Bool,
      (normalize value).map f = .ok true ↔ value = .null ∧ f [] = true := by
    intro f
    cases hn : normalize value with
    | error e =>
        refine iff_of_false (by simp [Except.map]) fun hnull => ?_
        rw [(normalize_of_not_text h).mpr ⟨hnull.1, rfl⟩] at hn
        cases hn
    | ok text =>
        obtain ⟨hnull, rfl⟩ := (normalize_of_not_text h).mp hn
        simp [Except.map, hnull]
  cases op with
  | isIn => exact compareText_isIn_iff
  | notIn => exact compareText_notIn_iff
  | equals => rw [compareText, hmap, TextSlips]; simp
  | notEquals => rw [compareText, hmap, TextSlips]; simp
  | contains => rw [compareText, hmap, TextSlips]; simp [occursIn_nil]
  | notContains => rw [compareText, hmap]; simp [TextSlips, occursIn_nil]
  | startsWith => rw [compareText, hmap, TextSlips]; simp
  | endsWith => rw [compareText, hmap, TextSlips]; simp
  | between => simp [compareText, TextSlips]
  | before => simp [compareText, TextSlips]
  | after => simp [compareText, TextSlips]

/-! ## Clocks -/

theorem isTruthy_of_minutesOf {clock : Json} {n : Int}
    (h : minutesOf clock = .ok n) : clock.isTruthy = true := by
  cases clock with
  | str s =>
      by_cases hs : s = ""
      · subst hs
        cases h
      · simpa [Json.isTruthy] using hs
  | _ => cases h

theorem evaluateTime_holds_iff {range : Json} :
    evaluateTime v op range = .ok true ↔ TimeSlips v op range := by
  rw [evaluateTime, TimeSlips]
  by_cases hstart : (range.getD "start").isTruthy = true
  · by_cases hend : op = .between ∧ (range.getD "end").isTruthy = false
    · obtain ⟨rfl, hfinish⟩ := hend
      refine iff_of_false (by simp [hstart, hfinish]) ?_
      rintro ⟨-, -, -, -, last, hlast, -⟩
      rw [isTruthy_of_minutesOf hlast] at hfinish
      cases hfinish
    · simp only [hstart, Bool.not_true, Bool.false_eq_true, if_false,
        Bool.not_eq_true', hend]
      cases localClock v (range.getD "timezone") with
      | error e => simp [bind, Except.bind]
      | ok clock =>
          cases minutesOf (range.getD "start") with
          | error e => simp [bind, Except.bind]
          | ok first =>
              cases op with
              | between =>
                  cases minutesOf (range.getD "end") with
                  | error e => simp [bind, Except.bind]
                  | ok last =>
                      by_cases hle : first ≤ last
                      · simp [bind, Except.bind, hle]
                      · simp [bind, Except.bind, hle]
              | _ => simp [bind, Except.bind]
  · refine iff_of_false (by simp [hstart]) ?_
    rintro ⟨_, _, -, hfirst, -⟩
    exact hstart (isTruthy_of_minutesOf hfirst)

theorem evaluateDay_holds_iff :
    evaluateDay v op value = .ok true ↔ DaySlips v op value := by
  rw [evaluateDay, DaySlips]
  cases localClock v .null with
  | error e => simp [bind, Except.bind]
  | ok clock =>
      cases hd : (candidates value).mapM dayNumber with
      | error e => simp [bind, Except.bind]
      | ok days => cases op <;> simp [bind, Except.bind]

/-! ## Rejected conditions -/

/-- What is refused for an attribute is no text, or the operator is one of
membership. -/
theorem not_text_of_build_error {a : Attribute} {why : String}
    (h : Condition.build (.ofAttribute a) op value = .error why) :
    (op = .isIn ∨ op = .notIn) ∨ ∀ s, value ≠ .str s := by
  by_cases hop : op = .isIn ∨ op = .notIn
  · exact .inl hop
  · refine .inr ?_
    rintro s rfl
    cases op with
    | isIn => exact hop (.inl rfl)
    | notIn => exact hop (.inr rfl)
    | _ => cases h

/-- An operand of the wrong form is satisfied where it slips. -/
theorem evaluate_holds_iff {kind : Kind} {why : String}
    (h : Condition.build kind op value = .error why) :
    evaluate v kind op value = .ok true ↔ Slips v kind op value := by
  cases kind with
  | time => exact evaluateTime_holds_iff
  | dayOfWeek => exact evaluateDay_holds_iff
  | ofAttribute a =>
      rw [evaluate, Slips, evaluateAttribute]
      cases v.signal a with
      | absent => simp
      | unreadable => simp
      | text s =>
          rcases not_text_of_build_error h with (rfl | rfl) | hvalue
          · exact compareText_isIn_iff
          · exact compareText_notIn_iff
          · exact compareText_holds_iff hvalue

theorem kindOf_eq_ok_iff {j : Json} {kind : Kind} :
    kindOf j = .ok kind ↔ ∃ s, j = .str s ∧ Kind.ofName? s = some kind := by
  rw [kindOf]
  cases j with
  | str s => cases h : Kind.ofName? s <;> simp [Json.text?, h]
  | _ => simp [Json.text?]

theorem operatorOf_eq_ok_iff {j : Json} :
    operatorOf j = .ok op ↔ ∃ s, j = .str s ∧ Operator.ofName? s = some op := by
  rw [operatorOf]
  cases j with
  | str s => cases h : Operator.ofName? s <;> simp [Json.text?, h]
  | _ => simp [Json.text?]

theorem build_null (kind : Kind) (op : Operator) :
    ∃ why, Condition.build kind op .null = .error why := by
  cases kind with
  | time => exact ⟨_, rfl⟩
  | dayOfWeek => exact ⟨_, rfl⟩
  | ofAttribute a => cases op <;> exact ⟨_, rfl⟩

end Evaluation

open Evaluation

/-- A name that is looked up in a list of names passes their check. -/
theorem Check.named_of_find {α : Type} {choices : List (String × α)}
    {path : List Check.Step} {name : String} {a : α}
    (h : (choices.find? (·.1 == name)).map (·.2) = some a) :
    Check.named choices path (.str name) = .passed a := by
  obtain ⟨choice, hfind, rfl⟩ := Option.map_eq_some_iff.mp h
  rw [Check.named]
  simp [Check.text, Check.Checked.toOption, hfind]

theorem lookup_of_getD_ne_null {members : List (String × Json)}
    {name : String} {j : Json} (h : (Json.obj members).getD name = j)
    (hj : j ≠ .null) : Json.lookup members name = some j := by
  rw [Json.getD, Json.get?] at h
  cases hl : Json.lookup members name with
  | none =>
      rw [hl] at h
      exact absurd h.symm hj
  | some x =>
      rw [hl] at h
      rw [← h]
      rfl

/-- Of a rejected condition whose kind and operator are known, it is the
operand that does not suit. -/
theorem Condition.build_of_rejected {members : List (String × Json)}
    {kind : Kind} {op : Operator} {faults : List Check.Fault}
    (h : check .document [] (.obj members) = .failed faults)
    (hkind : kindOf ((Json.obj members).getD "type") = .ok kind)
    (hop : operatorOf ((Json.obj members).getD "operator") = .ok op) :
    ∃ why, build kind op ((Json.obj members).getD "value") = .error why := by
  obtain ⟨kindName, hkindText, hkindName⟩ := kindOf_eq_ok_iff.mp hkind
  obtain ⟨opName, hopText, hopName⟩ := operatorOf_eq_ok_iff.mp hop
  have hk := lookup_of_getD_ne_null hkindText (by simp)
  have ho := lookup_of_getD_ne_null hopText (by simp)
  have hpassedKind : ∀ path, Check.named Kind.choices path (.str kindName) =
      .passed kind := fun path => Check.named_of_find hkindName
  have hpassedOp : ∀ path, Check.named Operator.choices path (.str opName) =
      .passed op := fun path => Check.named_of_find hopName
  simp only [check, Check.Source.openRecord, Check.Checked.andThen,
    Check.Record.required, hk, ho, hpassedKind, hpassedOp] at h
  cases hv : Json.lookup members "value" with
  | none =>
      rw [Json.getD, Json.get?, hv]
      exact build_null kind op
  | some value =>
      rw [hv] at h
      rw [Json.getD, Json.get?, hv]
      cases hb : build kind op value with
      | error why => exact ⟨why, hb⟩
      | ok c => simp [Check.refining, Check.anything, Check.Checked.andThen,
          hb] at h

theorem StoredCondition.checked_holds_iff {c : Condition} {v : Visitor} :
    (checked c).holds v = true ↔ c.evaluate v = .ok true := by
  rw [holds, evaluate]
  cases c.evaluate v <;> simp

/-- A rejected condition holds of a visitor where its kind and its operator
are known and the visitor satisfies its operand all the same, and of nobody
else. -/
theorem StoredCondition.holds_of_rejected_iff {j : Json}
    {faults : List Check.Fault}
    (h : Condition.check .document [] j = .failed faults) (v : Visitor) :
    (StoredCondition.load j).holds v = true ↔
      ∃ kind op, kindOf (j.getD "type") = .ok kind ∧
        operatorOf (j.getD "operator") = .ok op ∧
        Slips v kind op (j.getD "value") := by
  cases j with
  | obj members =>
      rw [load, h]
      simp only [holds, evaluate]
      cases hkind : kindOf ((Json.obj members).getD "type") with
      | error e => simp [bind, Except.bind]
      | ok kind =>
          cases hop : operatorOf ((Json.obj members).getD "operator") with
          | error e => simp [bind, Except.bind]
          | ok op =>
              obtain ⟨why, hbuild⟩ :=
                Condition.build_of_rejected h hkind hop
              have hslips : Evaluation.evaluate v kind op
                  ((Json.obj members).getD "value") = .ok true ↔
                  Slips v kind op ((Json.obj members).getD "value") :=
                evaluate_holds_iff hbuild
              simp only [bind, Except.bind]
              constructor
              · intro hholds
                refine ⟨kind, op, rfl, rfl, hslips.mp ?_⟩
                split at hholds
                · next b hb => rw [hb, hholds]
                · cases hholds
              · rintro ⟨_, _, hk, ho, hs⟩
                cases hk
                cases ho
                rw [hslips.mpr hs]
  | _ =>
      refine iff_of_false ?_ ?_
      · exact Bool.noConfusion
      · rintro ⟨kind, op, hkind, -⟩
        cases hkind

/-- A rejected condition on where a visitor is from. -/
def misshapenCountry : Json :=
  .obj [("type", .str "country"), ("operator", .str "not_equals"),
    ("value", .int 5)]

theorem misshapenCountry_slips :
    ∃ kind op, kindOf (misshapenCountry.getD "type") = .ok kind ∧
      operatorOf (misshapenCountry.getD "operator") = .ok op ∧
      Slips Service.stranger kind op (misshapenCountry.getD "value") := by
  have hrejected : ∃ faults,
      Condition.check .document [] misshapenCountry = .failed faults :=
    ⟨_, rfl⟩
  obtain ⟨faults, h⟩ := hrejected
  exact (StoredCondition.holds_of_rejected_iff h Service.stranger).mp (by cbv)

/-- What is rejected holds of whom nothing is known. -/
theorem misshapenCountry_holds :
    (∃ faults, Condition.check .document [] misshapenCountry =
      .failed faults) ∧
    (StoredCondition.load misshapenCountry).holds Service.stranger = true :=
  ⟨⟨_, rfl⟩, by cbv⟩

end Signpost
