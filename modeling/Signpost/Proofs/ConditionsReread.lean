import Mathlib
import Signpost.Condition.Stored
import Signpost.Proofs.CacheEntries
import Signpost.Proofs.CheckedConditions
import Signpost.Proofs.TrimmedText
import Signpost.Proofs.ZoneNames

/-!
# Conditions that are read back pass their check again

What is stored of checked conditions is a document of them, written out and
read. Nearly everything in it stays as it is: the names of kinds, operators
and fields are ASCII, and so are clocks and the names of zones, while a
numeral of a day holds digits and blanks alone. Only the texts that an
attribute is compared with may hold the two halves of a surrogate pair side by
side, and come back with one character in their place. That makes no text
empty, so the document that is read passes the same check, and conditions are
loaded from it as checked ones. `Conditions.settled` says which conditions
these are.
-/

namespace Signpost

/-! ## Texts -/

namespace Text

/-- Halves of surrogate pairs are kept beyond every digit. -/
theorem half?_of_isDigit {c : Char} (h : isDigit c = true) : half? c = none := by
  have hzeros : ∀ start ∈ decimalZeros, start + 10 ≤ halfBase := by decide
  have hloose : ∀ range ∈ looseDigitRanges, range.2 < halfBase := by decide
  rw [half?, if_neg]
  rintro ⟨hlow, -⟩
  rw [isDigit, Bool.or_eq_true] at h
  rcases h with h | h
  · rw [isDecimal, decimalValue?, Option.isSome_map] at h
    obtain ⟨start, hfound⟩ := Option.isSome_iff_exists.mp h
    have hbound := hzeros start (List.mem_of_find?_eq_some hfound)
    have hwithin := List.find?_some hfound
    simp only [Bool.and_eq_true, decide_eq_true_eq] at hwithin
    omega
  · obtain ⟨range, hmem, hwithin⟩ := List.any_eq_true.mp h
    have hbound := hloose range hmem
    simp only [Bool.and_eq_true, decide_eq_true_eq] at hwithin
    omega

theorem half?_of_isBlank {c : Char} (h : isBlank c = true) : half? c = none := by
  rw [half?, if_neg]
  rintro ⟨hlow, -⟩
  simp only [isBlank, isSpace, Bool.or_eq_true, Bool.and_eq_true,
    decide_eq_true_eq, beq_iff_eq] at h
  simp only [halfBase] at hlow
  omega

theorem half?_of_le {c d : Char} (h : c ≤ d) (hd : d.toNat < halfBase) :
    half? c = none := by
  rw [half?, if_neg]
  rintro ⟨hlow, -⟩
  have hle : c.toNat ≤ d.toNat := h
  omega

theorem isWellFormed_iff {s : List Char} :
    isWellFormed s = true ↔ ∀ c ∈ s, half? c = none := by
  simp [isWellFormed]

theorem joinHalves_ne_nil {s : List Char} (h : s ≠ []) : joinHalves s ≠ [] := by
  unfold joinHalves
  split
  · split <;> exact List.cons_ne_nil _ _
  · exact h

end Text

/-- A text as it is after it was written and read. -/
def settledText (s : String) : String :=
  String.ofList (Text.joinHalves s.toList)

theorem settledText_ne_empty {s : String} (h : s ≠ "") : settledText s ≠ "" := by
  intro heq
  have hchars : s.toList ≠ [] := fun hnil => h (String.toList_eq_nil_iff.mp hnil)
  refine Text.joinHalves_ne_nil hchars ?_
  rw [← String.toList_ofList (l := Text.joinHalves s.toList)]
  exact String.toList_eq_nil_iff.mpr heq

/-! ## Values that passed a check -/

namespace Check

variable {α β : Type} {path : List Step} {j : Json}

theorem refining_passed {rule : Rule α} {refine : α → Except String β} {b : β} :
    refining rule refine path j = .passed b ↔
      ∃ a, rule path j = .passed a ∧ refine a = .ok b := by
  rw [refining, Checked.andThen_eq_passed]
  refine exists_congr fun a => and_congr_right fun _ => ?_
  cases refine a with
  | ok b' => simp
  | error reason => simp [Checked.fault]

/-- A value of a field that may be left out or null passed the field's rule. -/
theorem Record.of_optional {r : Record} {name : String} {rule : Rule α}
    {found : Option α} {a : α}
    (h : r.optional name none (orNull rule) = .passed found) (ha : a ∈ found) :
    ∃ path j, rule path j = .passed a := by
  rw [optional] at h
  split at h
  · unfold orNull at h
    split at h
    · cases h
      cases ha
    · obtain ⟨a', hrule, rfl⟩ := Checked.map_eq_passed.mp h
      cases ha
      exact ⟨_, _, hrule⟩
  · cases h
    cases ha

/-- A field that holds a text, or is left out where there is none. -/
theorem Record.optional_text {r : Record} {name : String} {rule : Rule String}
    {found : Option String}
    (hlookup : Json.lookup r.members name = found.map .str)
    (hrule : ∀ s ∈ found, ∀ path, rule path (.str s) = .passed s) :
    r.optional name none (orNull rule) = .passed found := by
  rw [optional, hlookup]
  cases found with
  | none => rfl
  | some s =>
      show (rule _ (.str s)).map some = _
      rw [hrule s rfl]
      rfl

end Check

/-! ## Time ranges -/

namespace TimeRange

/-- A range whose parts each passed their check. -/
structure IsProper (t : TimeRange) : Prop where
  start : isClock t.start = true
  finish : ∀ s ∈ t.finish, isClock s = true
  zone : ∀ s ∈ t.zone, Zone.isName s = true

/-- One or two ASCII digits. -/
structure IsShort (digits : List Char) : Prop where
  ne : digits ≠ []
  length : digits.length ≤ 2
  digit : ∀ c ∈ digits, Json.isAsciiDigit c = true

theorem isShort_of_isHour {digits : List Char} (h : isHour digits = true) :
    IsShort digits := by
  unfold isHour at h
  split at h
  · next a => exact ⟨by simp, by simp, by simpa using h⟩
  · next a b =>
      refine ⟨by simp, by simp, ?_⟩
      simp only [Json.isAsciiDigit, Bool.or_eq_true, Bool.and_eq_true,
        beq_iff_eq, decide_eq_true_eq] at h
      rw [List.forall_mem_cons, List.forall_mem_singleton]
      simp only [Json.isAsciiDigit, Bool.and_eq_true, decide_eq_true_eq]
      rcases h with ⟨rfl | rfl, hb⟩ | ⟨⟨rfl, hlow⟩, hhigh⟩
      · exact ⟨by decide, hb⟩
      · exact ⟨by decide, hb⟩
      · exact ⟨by decide, hlow, hhigh.trans (by decide)⟩
  · cases h

theorem isShort_of_isMinute {digits : List Char} (h : isMinute digits = true) :
    IsShort digits := by
  unfold isMinute at h
  split at h
  · next a b =>
      refine ⟨by simp, by simp, ?_⟩
      simp only [Json.isAsciiDigit, Bool.and_eq_true, decide_eq_true_eq] at h
      rw [List.forall_mem_cons, List.forall_mem_singleton]
      simp only [Json.isAsciiDigit, Bool.and_eq_true, decide_eq_true_eq]
      obtain ⟨⟨hlow, hhigh⟩, hb⟩ := h
      exact ⟨⟨hlow, hhigh.trans (by decide)⟩, hb⟩
  · cases h

/-- A clock is made of an hour, a colon, a minute and perhaps a line break. -/
theorem parts_of_isClock {s : String} (h : isClock s = true) :
    ∃ hours minutes tail, s.toList = hours ++ ':' :: (minutes ++ tail) ∧
      isHour hours = true ∧ isMinute minutes = true ∧ (tail = [] ∨ tail = ['\n']) := by
  have hbody : ∀ body : List Char, isHour (body.takeWhile (· != ':')) = true →
      isMinute ((body.dropWhile (· != ':')).drop 1) = true →
      ∃ hours minutes, body = hours ++ ':' :: minutes ∧ isHour hours = true ∧
        isMinute minutes = true := by
    intro body hhour hminute
    have hsplit := List.takeWhile_append_dropWhile (p := (· != ':')) (l := body)
    cases hrest : body.dropWhile (· != ':') with
    | nil => rw [hrest] at hminute; cases hminute
    | cons x rest =>
        have hfirst := List.head?_dropWhile_not (· != ':') body
        rw [hrest] at hminute hfirst hsplit
        have hx : x = ':' := by simpa using hfirst
        rw [hx] at hsplit
        exact ⟨_, rest, hsplit.symm, hhour, hminute⟩
  rw [isClock, Bool.and_eq_true] at h
  obtain ⟨hhour, hminute⟩ := h
  by_cases hbreak : s.toList.getLast? = some '\n'
  · rw [if_pos hbreak] at hhour hminute
    obtain ⟨hours, minutes, heq, hh, hm⟩ := hbody _ hhour hminute
    refine ⟨hours, minutes, ['\n'], ?_, hh, hm, .inr rfl⟩
    rw [← List.dropLast_append_getLast? _ hbreak, heq]
    simp
  · rw [if_neg hbreak] at hhour hminute
    obtain ⟨hours, minutes, heq, hh, hm⟩ := hbody _ hhour hminute
    exact ⟨hours, minutes, [], by rw [heq, List.append_nil], hh, hm, .inl rfl⟩

theorem isWellFormed_of_isClock {s : String} (h : isClock s = true) :
    Text.isWellFormed s.toList = true := by
  obtain ⟨hours, minutes, tail, heq, hh, hm, htail⟩ := parts_of_isClock h
  have hdigit : ∀ {c : Char}, Json.isAsciiDigit c = true → c ≤ ':' := by
    intro c hc
    rw [Json.isAsciiDigit, Bool.and_eq_true] at hc
    exact (of_decide_eq_true hc.2).trans (by decide)
  have hsmall : ∀ c ∈ s.toList, c ≤ ':' := by
    rw [heq]
    intro c hc
    rw [List.mem_append, List.mem_cons, List.mem_append] at hc
    rcases hc with hc | rfl | hc | hc
    · exact hdigit ((isShort_of_isHour hh).digit c hc)
    · decide
    · exact hdigit ((isShort_of_isMinute hm).digit c hc)
    · rcases htail with rfl | rfl
      · cases hc
      · rw [List.mem_singleton.mp hc]
        decide
  refine Text.isWellFormed_iff.mpr fun c hc => ?_
  exact Text.half?_of_le (hsmall c hc) (by decide)

theorem isWellFormed_of_isName {s : String} (h : Zone.isName s = true) :
    Text.isWellFormed s.toList = true := by
  refine Text.isWellFormed_iff.mpr fun c hc => ?_
  have hascii := Zone.toNat_le_of_isName h c hc
  rw [Text.half?, if_neg]
  simp only [Text.halfBase]
  omega

theorem clockRule_passed {side : String} {path : List Check.Step} {j : Json}
    {s : String} :
    clockRule side path j = .passed s ↔
      Check.text path j = .passed s ∧ isClock s = true := by
  rw [clockRule, Check.refining_passed]
  simp [ite_eq_iff]

theorem zoneRule_passed {path : List Check.Step} {j : Json} {s : String} :
    zoneRule path j = .passed s ↔
      Check.text path j = .passed s ∧ Zone.isName s = true := by
  rw [zoneRule, Check.refining_passed]
  simp [ite_eq_iff]

/-- The parts of a range that passed, each with its own check. -/
theorem parts_of_check {path : List Check.Step} {j : Json} {t : TimeRange}
    (h : check path j = .passed t) :
    ∃ r : Check.Record, j = .obj r.members ∧
      r.required "start" (clockRule "Start") = .passed t.start ∧
      r.optional "end" none (Check.orNull (clockRule "End")) = .passed t.finish ∧
      r.optional "timezone" none (Check.orNull zoneRule) = .passed t.zone := by
  obtain ⟨r, hopen, h⟩ := Check.Checked.andThen_eq_passed.mp h
  simp only [Check.Checked.seq_eq_passed, Check.Checked.map_eq_passed] at h
  obtain ⟨_, _, ⟨_, zone, ⟨_, finish, ⟨start, hstart, rfl⟩, hfinish, rfl⟩, hzone,
    rfl⟩, -, rfl⟩ := h
  refine ⟨r, ?_, hstart, hfinish, hzone⟩
  cases j with
  | obj members => cases hopen; rfl
  | null | bool _ | int _ | float _ | str _ | octets _ | arr _ => cases hopen

theorem isProper_of_check {path : List Check.Step} {j : Json} {t : TimeRange}
    (h : check path j = .passed t) : t.IsProper := by
  obtain ⟨r, -, hstart, hfinish, hzone⟩ := parts_of_check h
  obtain ⟨_, _, hstart⟩ := Check.Record.of_required hstart
  exact {
    start := (clockRule_passed.mp hstart).2
    finish := fun s hs => by
      obtain ⟨_, _, hclock⟩ := Check.Record.of_optional hfinish hs
      exact (clockRule_passed.mp hclock).2
    zone := fun s hs => by
      obtain ⟨_, _, hname⟩ := Check.Record.of_optional hzone hs
      exact (zoneRule_passed.mp hname).2 }

namespace IsProper

variable {t : TimeRange}

theorem settled_toStorage (h : t.IsProper) : t.toStorage.settled = t.toStorage := by
  have hstart := Json.settled_text (isWellFormed_of_isClock h.start)
  have hfinish : ∀ s ∈ t.finish, (Json.str s).settled = .str s := fun s hs =>
    Json.settled_text (isWellFormed_of_isClock (h.finish s hs))
  have hzone : ∀ s ∈ t.zone, (Json.str s).settled = .str s := fun s hs =>
    Json.settled_text (isWellFormed_of_isName (h.zone s hs))
  rw [toStorage]
  apply Json.settled_members
  · cases t.finish <;> cases t.zone <;> simp
  · intro m hm
    rw [List.mem_append, List.mem_append, List.mem_singleton, Option.mem_toList,
      Option.mem_toList, Option.map_eq_some_iff, Option.map_eq_some_iff] at hm
    rcases hm with (rfl | ⟨s, hs, rfl⟩) | ⟨s, hs, rfl⟩
    · have hname : Text.isWellFormed "start".toList = true := by decide
      exact ⟨hname, hstart⟩
    · have hname : Text.isWellFormed "end".toList = true := by decide
      exact ⟨hname, hfinish s hs⟩
    · have hname : Text.isWellFormed "timezone".toList = true := by decide
      exact ⟨hname, hzone s hs⟩

/-- A range passes its check again without what it leaves open. -/
theorem check_toStorage (h : t.IsProper) (path : List Check.Step) :
    check path t.toStorage = .passed t := by
  have hclock : ∀ {side s path}, isClock s = true →
      clockRule side path (.str s) = .passed s := fun hs =>
    clockRule_passed.mpr ⟨rfl, hs⟩
  have hname : ∀ {s path}, Zone.isName s = true →
      zoneRule path (.str s) = .passed s := fun hs =>
    zoneRule_passed.mpr ⟨rfl, hs⟩
  obtain ⟨start, finish, zone⟩ := t
  have hfinish : ∀ s ∈ finish, ∀ path, clockRule "End" path (.str s) =
      .passed s := fun s hs _ => hclock (h.finish s hs)
  have hzone : ∀ s ∈ zone, ∀ path, zoneRule path (.str s) = .passed s :=
    fun s hs _ => hname (h.zone s hs)
  rw [check, toStorage, Check.Source.openRecord, Check.Checked.andThen]
  rw [Check.Record.required_eq rfl, hclock h.start,
    Check.Record.optional_text (by cases finish <;> cases zone <;> rfl) hfinish,
    Check.Record.optional_text (by cases finish <;> cases zone <;> rfl) hzone]
  cases finish <;> cases zone <;> rfl

end IsProper

end TimeRange

/-! ## Days of the week -/

namespace Day

/-- A day as it is checked and stored, a number of the week or a numeral of
one. -/
def IsProper (d : Day) : Prop :=
  ∃ n, Day.parse d.toJson = .ok (some n)

/-- A numeral of a day holds digits and blanks alone. -/
theorem isWellFormed_of_parse {s : String} {n : Int}
    (h : parse (.str s) = .ok (some n)) : Text.isWellFormed s.toList = true := by
  simp only [parse] at h
  split at h
  · next hdigits =>
      rw [Bool.and_eq_true] at hdigits
      refine Text.isWellFormed_iff.mpr fun c hc => ?_
      rcases Text.mem_trimWhere Text.isBlank hc with hblank | hdigit
      · exact Text.half?_of_isBlank hblank
      · exact Text.half?_of_isDigit (List.all_eq_true.mp hdigits.2 c hdigit)
  · cases h

theorem IsProper.settled_toJson {d : Day} (h : d.IsProper) :
    d.toJson.settled = d.toJson := by
  obtain ⟨n, hn⟩ := h
  cases d with
  | number i => rfl
  | numeral s => exact Json.settled_text (isWellFormed_of_parse hn)

theorem IsProper.day_toJson {d : Day} (h : d.IsProper) :
    Condition.day d.toJson = .ok d := by
  obtain ⟨n, hn⟩ := h
  cases d with
  | number i =>
      rw [toJson] at hn ⊢
      simp only [Condition.day, hn]
  | numeral s =>
      rw [toJson] at hn ⊢
      simp only [Condition.day, hn]

theorem isProper_of_day {j : Json} {d : Day} (h : Condition.day j = .ok d) :
    d.IsProper := by
  unfold Condition.day at h
  split at h
  · cases h
  · next n i hparse => cases h; exact ⟨n, hparse⟩
  · next n s hparse => cases h; exact ⟨n, hparse⟩
  · cases h

end Day

/-! ## Operands -/

/-- One thing or many, each changed. -/
def OneOrMany.map {α β : Type} (f : α → β) : OneOrMany α → OneOrMany β
  | .one a => .one (f a)
  | .many as => .many (as.map f)

/-- What one thing or many hold. -/
def OneOrMany.toList {α : Type} : OneOrMany α → List α
  | .one a => [a]
  | .many as => as

namespace Condition

variable {kind : Kind} {op : Operator} {j : Json} {c : Condition}

/-- Conditions as they are read back. -/
def settled : Condition → Condition
  | onAttribute a op expected => onAttribute a op (expected.map settledText)
  | c => c

theorem settled_texts (expected : OneOrMany String) :
    (expected.toJson .str).settled = (expected.map settledText).toJson .str := by
  cases expected with
  | one s => exact Json.settled_str s
  | many texts =>
      rw [OneOrMany.toJson, Json.settled_arr, OneOrMany.map, OneOrMany.toJson,
        List.map_map, List.map_map]
      refine congrArg Json.arr (List.map_congr_left fun s _ => ?_)
      exact Json.settled_str s

theorem texts?_map (texts : List String) :
    texts? (texts.map .str) = some texts := by
  induction texts with
  | nil => rfl
  | cons s rest ih =>
      rw [texts?] at ih ⊢
      rw [List.map_cons, List.mapM_cons, ih]
      rfl

theorem texts?_eq_nil {items : List Json} (h : texts? items = some []) :
    items = [] := by
  cases items with
  | nil => rfl
  | cons x rest =>
      rw [texts?, List.mapM_cons] at h
      cases hx : x.text? with
      | none => rw [hx] at h; cases h
      | some s =>
          rw [hx] at h
          cases hrest : rest.mapM Json.text? <;> rw [hrest] at h <;> cases h

/-- The texts of a membership, joined, are texts of a membership. -/
theorem membershipOperand_settled {expected : OneOrMany String}
    (h : membershipOperand j = .ok expected) :
    membershipOperand ((expected.map settledText).toJson .str) =
      .ok (expected.map settledText) := by
  unfold membershipOperand at h
  split at h
  · cases h
  · next items hne =>
      split at h
      · next texts htexts =>
          cases h
          cases texts with
          | nil => exact absurd (texts?_eq_nil htexts) hne
          | cons s rest =>
              have hread := texts?_map ((s :: rest).map settledText)
              rw [List.map_cons, List.map_cons] at hread
              rw [OneOrMany.map, OneOrMany.toJson, List.map_cons,
                List.map_cons, membershipOperand, hread]
              exact List.cons_ne_nil _ _
      · cases h
  · next s =>
      split at h
      · cases h
      · next hs =>
          cases h
          show (if settledText s = "" then _ else _) = _
          rw [if_neg (settledText_ne_empty hs)]
          rfl
  · cases h

theorem textOperand_settled {expected : OneOrMany String} :
    textOperand ((expected.map settledText).toJson .str) =
      .ok (expected.map settledText) := by
  cases expected with
  | one s => rfl
  | many texts =>
      rw [OneOrMany.map, OneOrMany.toJson, textOperand, texts?_map]

theorem isProper_of_daysOperand {days : OneOrMany Day}
    (h : daysOperand j = .ok days) :
    (∃ d : Day, days = .one d ∧ d.IsProper) ∨
      ∃ ds, days = .many ds ∧ ds ≠ [] ∧ ∀ d ∈ ds, d.IsProper := by
  unfold daysOperand at h
  split at h
  · cases h
  · next items hne =>
      obtain ⟨ds, hds, rfl⟩ := map_eq_ok_iff.mp h
      have hlength := (forall₂_of_mapM_ok hds).length_eq
      refine .inr ⟨ds, rfl, fun hnil => ?_, ?_⟩
      · rw [hnil] at hlength
        exact hne (List.eq_nil_of_length_eq_zero hlength)
      · exact forall_of_mapM_ok (fun _ _ => Day.isProper_of_day) hds
  · obtain ⟨d, hd, rfl⟩ := map_eq_ok_iff.mp h
    exact .inl ⟨d, rfl, Day.isProper_of_day hd⟩

theorem mapM_day {ds : List Day} (h : ∀ d ∈ ds, d.IsProper) :
    (ds.map Day.toJson).mapM day = .ok ds := by
  induction ds with
  | nil => rfl
  | cons d rest ih =>
      obtain ⟨hd, hrest⟩ := List.forall_mem_cons.mp h
      rw [List.map_cons, List.mapM_cons, hd.day_toJson, ih hrest]
      rfl

/-- Days stay as they are and are days again. -/
theorem daysOperand_settled {days : OneOrMany Day}
    (h : daysOperand j = .ok days) :
    daysOperand (days.toJson Day.toJson).settled = .ok days := by
  rcases isProper_of_daysOperand h with ⟨d, rfl, hd⟩ | ⟨ds, rfl, hne, hds⟩
  · rw [OneOrMany.toJson, hd.settled_toJson]
    have hone : daysOperand d.toJson = (day d.toJson).map .one := by
      cases d <;> rfl
    rw [hone, hd.day_toJson]
    rfl
  · have hitems : (ds.map Day.toJson).map Json.settled = ds.map Day.toJson := by
      rw [List.map_map]
      exact List.map_congr_left fun d hd => (hds d hd).settled_toJson
    rw [OneOrMany.toJson, Json.settled_arr, hitems]
    cases ds with
    | nil => exact absurd rfl hne
    | cons d rest =>
        show (((d :: rest).map Day.toJson).mapM day).map OneOrMany.many = _
        rw [mapM_day hds]
        rfl

theorem check_of_timeOperand {t : TimeRange} (h : timeOperand j = .ok t) :
    TimeRange.check [] j = .passed t := by
  unfold timeOperand at h
  split at h
  · split at h
    · next hcheck => cases h; exact hcheck
    · cases h
  · cases h

/-- A range stays as it is and is a range again. -/
theorem timeOperand_settled {t : TimeRange} (h : timeOperand j = .ok t) :
    timeOperand t.toStorage.settled = .ok t := by
  have hproper := TimeRange.isProper_of_check (check_of_timeOperand h)
  rw [hproper.settled_toStorage]
  have hcheck := hproper.check_toStorage []
  rw [TimeRange.toStorage] at hcheck ⊢
  rw [timeOperand, hcheck]

/-- What a condition was built from, stored and read back, builds the condition
that is read back. -/
theorem build_settled (h : build kind op j = .ok c) :
    c.kind = kind ∧ c.operator = op ∧
      build kind op c.storedOperand.settled = .ok c.settled := by
  unfold build at h
  split at h
  · obtain ⟨t, ht, rfl⟩ := map_eq_ok_iff.mp h
    refine ⟨rfl, rfl, ?_⟩
    rw [build, storedOperand, timeOperand_settled ht]
    rfl
  · obtain ⟨days, hdays, rfl⟩ := map_eq_ok_iff.mp h
    refine ⟨rfl, rfl, ?_⟩
    show (daysOperand (days.toJson Day.toJson).settled).map (onDayOfWeek op) = _
    rw [daysOperand_settled hdays]
    rfl
  · next a =>
      split at h
      all_goals
        obtain ⟨expected, hexpected, rfl⟩ := map_eq_ok_iff.mp h
        refine ⟨rfl, rfl, ?_⟩
        show build _ _ (expected.toJson .str).settled = _
        rw [settled_texts, build]
      · rw [membershipOperand_settled hexpected]
        rfl
      · rw [membershipOperand_settled hexpected]
        rfl
      · rw [textOperand_settled]
        rfl
      all_goals assumption

/-! ## Documents of conditions -/

theorem settled_document (c : Condition) (operand : Json) :
    (c.document operand).settled = c.document operand.settled := by
  have hkind : Text.isWellFormed c.kind.name.toList = true := by
    cases c.kind with
    | ofAttribute a => cases a <;> decide
    | time => decide
    | dayOfWeek => decide
  have hoperator : Text.isWellFormed c.operator.name.toList = true := by
    cases c.operator <;> decide
  rw [document, Json.settled_named (by simp) (by simp; decide)]
  simp only [List.map_cons, List.map_nil, Json.settled_text hkind,
    Json.settled_text hoperator, document]

/-- What was built from checked parts passes its check again once it is read
back. -/
theorem check_settled (h : build kind op j = .ok c) (path : List Check.Step) :
    check .document path c.toStorage.settled = .passed c.settled := by
  obtain ⟨rfl, rfl, hbuild⟩ := build_settled h
  have hkind : ∀ path, Check.named Kind.choices path (.str c.kind.name) =
      .passed c.kind := by
    intro path
    cases c.kind with
    | ofAttribute a => cases a <;> rfl
    | time => rfl
    | dayOfWeek => rfl
  have hoperator : ∀ path, Check.named Operator.choices path
      (.str c.operator.name) = .passed c.operator := by
    intro path
    cases c.operator <;> rfl
  rw [toStorage, settled_document, document, check, Check.Source.openRecord,
    Check.Checked.andThen]
  dsimp only
  rw [Check.Record.required_eq rfl, Check.Record.required_eq rfl, hkind,
    hoperator]
  dsimp only
  rw [Check.Record.required_eq rfl]
  exact Check.refining_passed.mpr ⟨_, rfl, hbuild⟩

theorem build_of_check {source : Check.Source} {path : List Check.Step}
    (h : check source path j = .passed c) :
    ∃ kind op value, build kind op value = .ok c := by
  obtain ⟨r, -, h⟩ := Check.Checked.andThen_eq_passed.mp h
  dsimp only at h
  split at h
  · next k op _ _ =>
      obtain ⟨_, value, h⟩ := Check.Record.of_required h
      obtain ⟨found, -, hbuild⟩ := Check.refining_passed.mp h
      exact ⟨k, op, found, hbuild⟩
  · cases h

/-- A condition whose range or days are as they are checked. -/
def IsProper : Condition → Prop
  | onAttribute _ _ _ => True
  | onTime _ t => t.IsProper
  | onDayOfWeek _ days => ∀ d ∈ days.toList, d.IsProper

theorem isProper_of_check {source : Check.Source} {path : List Check.Step}
    (h : check source path j = .passed c) : c.IsProper := by
  obtain ⟨kind, op, value, hbuild⟩ := build_of_check h
  unfold build at hbuild
  split at hbuild
  · obtain ⟨t, ht, rfl⟩ := map_eq_ok_iff.mp hbuild
    exact TimeRange.isProper_of_check (check_of_timeOperand ht)
  · obtain ⟨days, hdays, rfl⟩ := map_eq_ok_iff.mp hbuild
    rcases isProper_of_daysOperand hdays with ⟨d, rfl, hd⟩ | ⟨ds, rfl, -, hds⟩
    · exact List.forall_mem_singleton.mpr hd
    · exact hds
  · split at hbuild
    all_goals
      obtain ⟨expected, -, rfl⟩ := map_eq_ok_iff.mp hbuild
      trivial

end Condition

namespace Conditions

variable {source : Check.Source} {path : List Check.Step} {j : Json}
  {c : Conditions}

def settled (c : Conditions) : Conditions :=
  ⟨c.connective, c.items.map Condition.settled⟩

/-- How many conditions pass the check of a list, and where they come from. -/
theorem itemsRule_passed {items : List Condition}
    (h : itemsRule source path j = .passed items) :
    items ≠ [] ∧ items.length ≤ maxItems := by
  unfold itemsRule at h
  split at h
  · next found =>
      dsimp only at h
      split at h
      · cases h
      · next hcount =>
          split at h
          · next hfaults =>
              have hresults := Check.Checked.all_eq_passed.mp h
              have hpassed : ((items.map Check.Checked.passed).filterMap
                  (·.toOption)) = items := by
                rw [List.filterMap_map]
                exact List.filterMap_some
              rw [hresults, hpassed] at hcount hfaults
              refine ⟨fun hnil => ?_, by omega⟩
              rw [hnil] at hfaults
              simp at hfaults
          · cases h
  · cases h

/-- A list of documents that pass, neither empty nor too long, passes. -/
theorem itemsRule_map {items : List Condition} {document : Condition → Json}
    {result : Condition → Condition}
    (hpass : ∀ c ∈ items, ∀ path,
      Condition.check source path (document c) = .passed (result c))
    (hne : items ≠ []) (hlength : items.length ≤ maxItems) :
    itemsRule source path (.arr (items.map document)) =
      .passed (items.map result) := by
  have hresults : (items.map document).zipIdx.map (fun p =>
      Condition.check source (path ++ [.item p.2]) p.1) =
      (items.map result).map Check.Checked.passed := by
    rw [List.zipIdx_map, List.map_map, List.map_map]
    calc items.zipIdx.map _
        = items.zipIdx.map (fun p => .passed (result p.1)) :=
          List.map_congr_left fun p hp =>
            hpass p.1 (List.fst_mem_of_mem_zipIdx hp) _
      _ = (items.zipIdx.map Prod.fst).map (fun c => .passed (result c)) := by
          rw [List.map_map]
          rfl
      _ = items.map (Check.Checked.passed ∘ result) := by
          rw [List.zipIdx_map_fst]
          rfl
  have hpassed : ((items.map result).map Check.Checked.passed).filterMap
      (·.toOption) = items.map result := by
    rw [List.filterMap_map]
    exact List.filterMap_some
  have hfaults : ((items.map result).map Check.Checked.passed).flatMap
      (·.faults) = [] := by
    rw [List.flatMap_map]
    exact List.flatMap_eq_nil_iff.mpr fun _ _ => rfl
  have hcount : ¬ maxItems < (items.map result).length := by
    rw [List.length_map]
    omega
  have hsome : (items.map result).length ≠ 0 := by
    rw [List.length_map]
    exact fun hzero => hne (List.eq_nil_of_length_eq_zero hzero)
  rw [itemsRule]
  dsimp only
  rw [hresults, hpassed, hfaults, if_neg hcount, if_neg hsome]
  exact Check.Checked.all_eq_passed.mpr rfl

/-- Conditions that passed their check pass it again once they were stored and
read. -/
theorem check_settled (h : check source path j = .passed c)
    (path : List Check.Step) :
    check .document path c.toStorage.settled = .passed c.settled := by
  obtain ⟨r, -, h⟩ := Check.Checked.andThen_eq_passed.mp h
  obtain ⟨_, items, hop, hitems, rfl⟩ := Check.Checked.seq_eq_passed.mp h
  obtain ⟨op, -, rfl⟩ := Check.Checked.map_eq_passed.mp hop
  obtain ⟨_, _, hitems⟩ := Check.Record.of_required hitems
  obtain ⟨hne, hlength⟩ := itemsRule_passed hitems
  have hpass : ∀ x ∈ items, ∀ path,
      Condition.check .document path x.toStorage.settled =
        .passed x.settled := by
    intro x hx path
    obtain ⟨_, _, hcheck⟩ := check_of_itemsRule hitems x hx
    obtain ⟨_, _, _, hbuild⟩ := Condition.build_of_check hcheck
    exact Condition.check_settled hbuild path
  have hconnective : ∀ path, Check.named Connective.choices path
      (.str op.name) = .passed op := by
    intro path
    cases op <;> rfl
  have hstored : (toStorage ⟨op, items⟩).settled =
      .obj [("operator", .str op.name),
        ("conditions", .arr (items.map fun c => c.toStorage.settled))] := by
    have hname : Text.isWellFormed op.name.toList = true := by
      cases op <;> decide
    rw [toStorage, Json.settled_named (by simp) (by simp; decide)]
    simp only [List.map_cons, List.map_nil, Json.settled_text hname,
      Json.settled_arr, List.map_map]
    rfl
  rw [hstored, check, Check.Source.openRecord, Check.Checked.andThen]
  rw [Check.Record.required_eq rfl, Check.Record.required_eq rfl, hconnective,
    itemsRule_map hpass hne hlength]
  rfl

/-- What passes the check is loaded as checked conditions. -/
theorem load_of_check (h : check .document [] j = .passed c) :
    StoredConditions.load j = .ok (.ofChecked c) := by
  have hdocument : StoredConditions.loadDocument j = .ok (.ofChecked c) := by
    unfold StoredConditions.loadDocument
    rw [h]
  cases j with
  | obj members => exact hdocument
  | null | bool _ | int _ | float _ | str _ | octets _ | arr _ => cases h

end Conditions

end Signpost
