import Mathlib
import Signpost.Proofs.LenientLoading
import Signpost.Store.Row

/-!
# Stored conditions come back

Conditions are written out in two ways. A new rule has them without null; a
change to a rule has them without null and without what was left out of the
request. These are one document: what may be left out of conditions is the end
and the zone of a time range, and what was left out is null.

The document goes to the store as text, and conditions are loaded from what is
read of the text. They are the conditions that were written unless a text of
theirs holds the first half of a surrogate pair with the second half behind it,
which is read as the one character of the pair.
-/

namespace Signpost

/-! ## Texts that are read as they were written -/

namespace Text

/-- The first half of a surrogate pair and the second. -/
def IsSplitPair (c d : Char) : Prop :=
  (∃ high ∈ half? c, high ≤ 0xDBFF) ∧ ∃ low ∈ half? d, 0xDC00 ≤ low

/-- A text without a first half that has a second behind it. -/
def IsJoined (s : List Char) : Prop :=
  s.IsChain fun c d => ¬ IsSplitPair c d

theorem isSplitPair_of_joined? {c d x : Char}
    (h : ((half? c).bind fun high => (half? d).bind (joined? high)) = some x) :
    IsSplitPair c d := by
  obtain ⟨high, hhigh, h⟩ := Option.bind_eq_some_iff.mp h
  obtain ⟨low, hlow, h⟩ := Option.bind_eq_some_iff.mp h
  rw [joined?] at h
  split at h
  · next hpair => exact ⟨⟨high, hhigh, hpair.2.1⟩, low, hlow, hpair.2.2.1⟩
  · cases h

theorem joinHalves_of_isJoined {s : List Char} (h : IsJoined s) : joinHalves s = s := by
  induction s with
  | nil => rw [joinHalves]; simp
  | cons c rest ih =>
      obtain ⟨hfirst, hrest⟩ := List.isChain_cons.mp h
      rw [joinHalves_cons, ih hrest]
      intro d hd
      by_contra hpair
      obtain ⟨x, hx⟩ := Option.ne_none_iff_exists'.mp hpair
      exact hfirst d hd (isSplitPair_of_joined? hx)

/-- A text without halves is one. -/
theorem isJoined_of_isWellFormed {s : List Char} (h : isWellFormed s = true) :
    IsJoined s := by
  induction s with
  | nil => exact .nil
  | cons c rest ih =>
      rw [isWellFormed, List.all_cons, Bool.and_eq_true,
        Option.isNone_iff_eq_none] at h
      refine List.isChain_cons.mpr ⟨fun d _ hpair => ?_, ih h.2⟩
      obtain ⟨⟨high, hhigh, -⟩, -⟩ := hpair
      rw [h.1] at hhigh
      cases hhigh

end Text

namespace Condition

/-- Conditions whose texts are read as they were written. -/
def IsJoined : Condition → Prop
  | onAttribute _ _ expected => ∀ s ∈ expected.toList, Text.IsJoined s.toList
  | _ => True

theorem settled_of_isJoined {c : Condition} (h : c.IsJoined) : c.settled = c := by
  cases c with
  | onAttribute a op expected =>
      have htext : ∀ s ∈ expected.toList, settledText s = s := by
        intro s hs
        rw [settledText, Text.joinHalves_of_isJoined (h s hs), String.ofList_toList]
      cases expected with
      | one s => rw [settled, OneOrMany.map, htext s (by simp [OneOrMany.toList])]
      | many texts =>
          have htexts : texts.map settledText = texts :=
            (List.map_congr_left htext).trans (List.map_id' texts)
          rw [settled, OneOrMany.map, htexts]
  | onTime op t => rfl
  | onDayOfWeek op days => rfl

end Condition

namespace Conditions

/-- Conditions whose texts are read as they were written. -/
def IsJoined (c : Conditions) : Prop :=
  ∀ x ∈ c.items, x.IsJoined

theorem settled_of_isJoined {c : Conditions} (h : c.IsJoined) : c.settled = c := by
  rw [settled, List.map_congr_left fun x hx => Condition.settled_of_isJoined (h x hx),
    List.map_id']

end Conditions

/-! ## The two ways of writing -/

/-- The fields of a model written out: those that are null are dropped and, when
a change is written, those that the request did not give. -/
def dumpFields (skipUnset : Bool) (given : Json) (fields : List (String × Json)) : Json :=
  .obj (fields.filter fun (name, j) =>
    !(j matches .null) && (!skipUnset || (given.get? name).isSome))

/-- A time range written out after a request. -/
def TimeRange.dump (skipUnset : Bool) (given : Json) (t : TimeRange) : Json :=
  dumpFields skipUnset given
    [("start", .str t.start), ("end", .ofText? t.finish), ("timezone", .ofText? t.zone)]

/-- The operand of a condition written out after a request. -/
def Condition.dumpOperand (skipUnset : Bool) (given : Json) : Condition → Json
  | .onTime _ t => t.dump skipUnset given
  | c => c.operand

/-- A condition written out after a request. -/
def Condition.dump (skipUnset : Bool) (given : Json) (c : Condition) : Json :=
  dumpFields skipUnset given
    [("type", .str c.kind.name), ("operator", .str c.operator.name),
      ("value", c.dumpOperand skipUnset (given.getD "value"))]

/-- Conditions written out after a request that lists their items. -/
def Conditions.dump (skipUnset : Bool) (given : Json) (c : Conditions) : Json :=
  let items := match given.getD "conditions" with
    | .arr items => items
    | _ => []
  dumpFields skipUnset given
    [("operator", .str c.connective.name),
      ("conditions", .arr (List.zipWith (Condition.dump skipUnset) items c.items))]

theorem dumpFields_eq {skipUnset : Bool} {given : Json} {fields : List (String × Json)}
    (h : ∀ name j, (name, j) ∈ fields → j ≠ .null → (given.get? name).isSome = true) :
    dumpFields skipUnset given fields =
      .obj (fields.filter fun (_, j) => !(j matches .null)) := by
  rw [dumpFields]
  refine congrArg Json.obj (List.filter_congr fun ⟨name, j⟩ hmem => ?_)
  cases j with
  | null => rfl
  | _ => simp [h name _ hmem (by simp)]

theorem Check.Record.isSome_of_optional {α : Type} {r : Check.Record} {name : String}
    {rule : Check.Rule (Option α)} {a : α}
    (h : r.optional name none rule = .passed (some a)) :
    (Json.lookup r.members name).isSome = true := by
  rw [optional] at h
  split at h
  · next j hlookup => rw [hlookup]; rfl
  · cases h

/-- A time range that passed is written out in one way. -/
theorem TimeRange.dump_of_check {path : List Check.Step} {j : Json} {t : TimeRange}
    (h : check path j = .passed t) (skipUnset : Bool) :
    t.dump skipUnset j = t.toStorage := by
  obtain ⟨start, finish, zone⟩ := t
  obtain ⟨r, rfl, hstart, hfinish, hzone⟩ := parts_of_check h
  obtain ⟨s, hlookup, -⟩ := Check.Record.required_passed.mp hstart
  have hpresent : ∀ name j, (name, j) ∈ [("start", Json.str start),
      ("end", .ofText? finish), ("timezone", .ofText? zone)] → j ≠ .null →
      ((Json.obj r.members).get? name).isSome = true := by
    intro name j hmem hj
    simp only [List.mem_cons, List.not_mem_nil, or_false, Prod.mk.injEq] at hmem
    obtain ⟨rfl, -⟩ | ⟨rfl, rfl⟩ | ⟨rfl, rfl⟩ := hmem
    · rw [Json.get?, hlookup]
      rfl
    · cases finish with
      | none => exact absurd rfl hj
      | some s => exact Check.Record.isSome_of_optional hfinish
    · cases zone with
      | none => exact absurd rfl hj
      | some s => exact Check.Record.isSome_of_optional hzone
  rw [dump, dumpFields_eq hpresent, toStorage]
  cases finish <;> cases zone <;> rfl

theorem Condition.dumpOperand_of_build {k : Kind} {op : Operator} {j : Json}
    {c : Condition} (h : build k op j = .ok c) (skipUnset : Bool) :
    c.dumpOperand skipUnset j = c.storedOperand := by
  unfold build at h
  split at h
  · obtain ⟨t, ht, rfl⟩ := map_eq_ok_iff.mp h
    exact TimeRange.dump_of_check (check_of_timeOperand ht) skipUnset
  · obtain ⟨days, -, rfl⟩ := map_eq_ok_iff.mp h
    rfl
  · split at h
    all_goals
      obtain ⟨expected, -, rfl⟩ := map_eq_ok_iff.mp h
      rfl

theorem Condition.storedOperand_ne_null (c : Condition) : c.storedOperand ≠ .null := by
  cases c with
  | onAttribute a op expected => cases expected <;> exact fun h => nomatch h
  | onTime op t => exact fun h => nomatch h
  | onDayOfWeek op days =>
      cases days with
      | one d => cases d <;> exact fun h => nomatch h
      | many ds => exact fun h => nomatch h

/-- A condition that passed is written out in one way. -/
theorem Condition.dump_of_check {source : Check.Source} {path : List Check.Step}
    {item : Json} {c : Condition} (h : check source path item = .passed c)
    (skipUnset : Bool) : c.dump skipUnset item = c.toStorage := by
  obtain ⟨members, jk, jo, jv, k, op, rfl, ⟨hk, -⟩, ⟨ho, -⟩, hv, hbuild⟩ :=
    Condition.parts_of_check h
  rw [dump, Json.getD_of_lookup hv, dumpOperand_of_build hbuild, dumpFields_eq]
  · have hnull := c.storedOperand_ne_null
    rw [toStorage, document]
    cases hs : c.storedOperand with
    | null => exact absurd hs hnull
    | _ => rfl
  · intro name j hmem _
    simp only [List.mem_cons, List.not_mem_nil, or_false, Prod.mk.injEq] at hmem
    obtain ⟨rfl, -⟩ | ⟨rfl, -⟩ | ⟨rfl, -⟩ := hmem
    · rw [Json.get?, hk]; rfl
    · rw [Json.get?, ho]; rfl
    · rw [Json.get?, hv]; rfl

/-- Conditions that passed are written out in one way, as they are stored. -/
theorem Conditions.dump_of_check {source : Check.Source} {path : List Check.Step}
    {j : Json} {c : Conditions} (h : check source path j = .passed c)
    (skipUnset : Bool) : c.dump skipUnset j = c.toStorage := by
  obtain ⟨members, jo, items, rfl, ⟨ho, -⟩, hlisted, hall⟩ := parts_of_check h
  have hitems : List.zipWith (Condition.dump skipUnset) items c.items =
      c.items.map Condition.toStorage := by
    generalize c.items = cs at hall
    clear h hlisted
    induction hall with
    | nil => rfl
    | cons hc _ ih =>
        obtain ⟨path, hc⟩ := hc
        rw [List.zipWith_cons_cons, List.map_cons, ih, Condition.dump_of_check hc]
  rw [dump, Json.getD_of_lookup hlisted]
  dsimp only
  rw [hitems, dumpFields_eq]
  · rfl
  · intro name j hmem _
    simp only [List.mem_cons, List.not_mem_nil, or_false, Prod.mk.injEq] at hmem
    obtain ⟨rfl, -⟩ | ⟨rfl, -⟩ := hmem
    · rw [Json.get?, ho]; rfl
    · rw [Json.get?, hlisted]; rfl

/-! ## The round trip -/

namespace Conditions

variable {source : Check.Source} {path : List Check.Step} {j : Json} {c : Conditions}

theorem read_toStorage (h : check source path j = .passed c) :
    Json.read c.toStorage.print = .ok c.toStorage.settled :=
  Json.read_print (isExact_of_check h).isLegible
    ((height_toStorage c).trans (by decide))

theorem load_settled (h : check source path j = .passed c) :
    StoredConditions.load c.toStorage.settled = .ok (.ofChecked c.settled) :=
  load_of_check (check_settled h [])

/-- Conditions that passed are written as one document by a new rule and by a
change to a rule. What is read of its text is what the row holds, and the
conditions themselves are loaded from it when their texts are joined. -/
theorem load_of_written (h : check source path j = .passed c) :
    c.dump true j = c.dump false j ∧
      ∃ d, Json.read (c.dump false j).print = .ok d ∧
        (∀ id link now (draft : RuleDraft), draft.conditions = c →
          (Rule.ofNew id now (.ofDraft link now draft)).conditions = d) ∧
        (∀ (r : Rule) (changes : RuleChanges) now, changes.conditions = .value c →
          (r.withChanges changes now).conditions = d) ∧
        (c.IsJoined → StoredConditions.load d = .ok (.ofChecked c)) := by
  rw [dump_of_check h, dump_of_check h]
  refine ⟨rfl, c.toStorage.settled, read_toStorage h, ?_, ?_, fun hjoined => ?_⟩
  · rintro id link now draft rfl
    rfl
  · intro r changes now hchanges
    rw [Rule.withChanges, hchanges]
    rfl
  · rw [load_settled h, settled_of_isJoined hjoined]

/-- A window without an end and a list of cities come back. -/
theorem load_of_written_window :
    let j : Json := .obj [("operator", .str "OR"), ("conditions", .arr [
      .obj [("type", .str "time"), ("operator", .str "after"),
        ("value", .obj [("start", .str "22:00"), ("end", .null)])],
      .obj [("type", .str "city"), ("operator", .str "in"),
        ("value", .arr [.str "Taipei", .str "Oslo"])]])]
    let c : Conditions := ⟨.any, [.onTime .after ⟨"22:00", none, none⟩,
      .onAttribute .city .isIn (.many ["Taipei", "Oslo"])]⟩
    check .document [] j = .passed c ∧ c.dump true j = c.dump false j ∧
      ∃ d, Json.read (c.dump false j).print = .ok d ∧
        StoredConditions.load d = .ok (.ofChecked c) := by
  intro j c
  have hcheck : check .document [] j = .passed c := by rfl
  have hjoined : c.IsJoined := by
    refine List.forall_mem_cons.mpr ⟨trivial, List.forall_mem_singleton.mpr ?_⟩
    have hplain : ∀ s ∈ ["Taipei", "Oslo"], Text.isWellFormed s.toList = true := by
      decide
    exact fun s hs => Text.isJoined_of_isWellFormed (hplain s hs)
  obtain ⟨hsame, d, hread, -, -, hload⟩ := load_of_written hcheck
  exact ⟨hcheck, hsame, d, hread, hload hjoined⟩

/-- The two halves of a pair side by side do not come back. -/
theorem load_of_split_pair :
    ∃ (j : Json) (c : Conditions) (d : Json),
      check .document [] j = .passed c ∧ Json.read c.toStorage.print = .ok d ∧
        StoredConditions.load d ≠ .ok (.ofChecked c) := by
  let city := String.ofList [Text.scalar 0xD83D, Text.scalar 0xDE00]
  let j : Json := .obj [("operator", .str "AND"), ("conditions", .arr [
    .obj [("type", .str "city"), ("operator", .str "equals"), ("value", .str city)]])]
  let c : Conditions := ⟨.all, [.onAttribute .city .equals (.one city)]⟩
  have hcheck : check .document [] j = .passed c := by rfl
  refine ⟨j, c, _, hcheck, read_toStorage hcheck, ?_⟩
  rw [load_settled hcheck]
  intro hsame
  have hitems := (StoredConditions.mk.inj (Except.ok.inj hsame)).2
  have hchanged : c.settled.items = c.items :=
    List.map_injective_iff.mpr (fun _ _ h => StoredCondition.checked.inj h) hitems
  revert hchanged
  decide +kernel

end Conditions

end Signpost
