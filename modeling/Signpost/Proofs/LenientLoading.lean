import Mathlib
import Signpost.Proofs.ConditionsReread
import Signpost.Proofs.StoredLoading

/-!
# Loading does not change what conditions mean

A document is loaded as checked conditions when it passes the check, and item
by item when it does not, each item checked or as it was found. Which of these
it is makes no difference to any visitor: what holds of an item is read off the
item alone. For the check only gives names to what is there. The kind and the
operator that it finds are those that the names denote, an attribute's texts
and the days of a condition are the operand again, and a time range gives the
same start, end and zone as the object it was made of.

Octets are left out. They are no part of JSON, and the check takes them for the
text that they write where the evaluator does not.
-/

namespace Signpost

/-! ## Documents without octets -/

namespace Json

mutual

/-- A document without octets. -/
def OctetFree : Json → Prop
  | .octets _ => False
  | .arr items => ItemsOctetFree items
  | .obj members => MembersOctetFree members
  | _ => True

/-- `OctetFree` of each document of a list. -/
def ItemsOctetFree : List Json → Prop
  | [] => True
  | j :: rest => j.OctetFree ∧ ItemsOctetFree rest

/-- `OctetFree` of each value of members. -/
def MembersOctetFree : List (String × Json) → Prop
  | [] => True
  | (_, j) :: rest => j.OctetFree ∧ MembersOctetFree rest

end

theorem itemsOctetFree_iff {items : List Json} :
    ItemsOctetFree items ↔ ∀ j ∈ items, j.OctetFree := by
  induction items with
  | nil => simp [ItemsOctetFree]
  | cons j rest ih => rw [ItemsOctetFree, ih, List.forall_mem_cons]

theorem membersOctetFree_iff {members : List (String × Json)} :
    MembersOctetFree members ↔ ∀ m ∈ members, m.2.OctetFree := by
  induction members with
  | nil => simp [MembersOctetFree]
  | cons m rest ih => rw [MembersOctetFree, ih, List.forall_mem_cons]

theorem OctetFree.of_lookup {members : List (String × Json)} {name : String} {j : Json}
    (h : (Json.obj members).OctetFree) (hj : lookup members name = some j) :
    j.OctetFree := by
  obtain ⟨m, hfind, rfl⟩ := Option.map_eq_some_iff.mp hj
  exact membersOctetFree_iff.mp h m (List.mem_of_find?_eq_some hfind)

theorem getD_of_lookup {members : List (String × Json)} {name : String} {j : Json}
    (h : lookup members name = some j) : (Json.obj members).getD name = j := by
  rw [getD, get?, h]
  rfl

end Json

namespace Check

variable {α : Type} {path : List Step} {j : Json}

theorem text_passed {s : String} (hj : j.OctetFree) :
    text path j = .passed s ↔ j = .str s := by
  cases j with
  | str t => simp [text]
  | octets bytes => exact hj.elim
  | null | bool _ | int _ | float _ | arr _ | obj _ => simp [text, Checked.fault]

/-- A name that passes is a text, and the choice is the one of that name. -/
theorem named_passed {choices : List (String × α)} {a : α} (hj : j.OctetFree)
    (h : named choices path j = .passed a) :
    (j.text?.bind fun s => (choices.find? (·.1 == s)).map (·.2)) = some a := by
  rw [named] at h
  split at h
  · next choice hfound =>
      cases h
      obtain ⟨s, htext, hfind⟩ := Option.bind_eq_some_iff.mp hfound
      have hpassed : text path j = .passed s := by
        cases htext' : text path j with
        | passed t =>
            rw [htext'] at htext
            cases htext
            rfl
        | failed faults =>
            rw [htext'] at htext
            cases htext
      rw [(text_passed hj).mp hpassed, Json.text?, Option.bind_some, hfind]
      rfl
  · cases h

theorem Record.required_passed {r : Record} {name : String} {rule : Rule α} {a : α} :
    r.required name rule = .passed a ↔
      ∃ j, Json.lookup r.members name = some j ∧
        rule (r.path ++ [.field name]) j = .passed a := by
  rw [required]
  cases Json.lookup r.members name with
  | none => simp [Checked.fault]
  | some j => simp

/-- The text of a field that may be left out or null. -/
theorem Record.getD_of_optional {r : Record} {name : String} {rule : Rule String}
    {found : Option String} (hmembers : (Json.obj r.members).OctetFree)
    (hrule : ∀ {path j s}, rule path j = .passed s → text path j = .passed s)
    (h : r.optional name none (orNull rule) = .passed found) :
    (Json.obj r.members).getD name = Json.ofText? found := by
  rw [optional] at h
  split at h
  · next j hlookup =>
      rw [Json.getD_of_lookup hlookup]
      unfold orNull at h
      split at h
      · cases h
        rfl
      · obtain ⟨s, hs, rfl⟩ := Checked.map_eq_passed.mp h
        exact (text_passed (hmembers.of_lookup hlookup)).mp (hrule hs)
  · next hlookup =>
      cases h
      rw [Json.getD, Json.get?, hlookup]
      rfl

end Check

/-! ## Time ranges -/

namespace TimeRange

/-- A range has the parts of the object that it was made of. -/
theorem getD_of_check {path : List Check.Step} {j : Json} {t : TimeRange}
    (hj : j.OctetFree) (h : check path j = .passed t) :
    j.getD "start" = .str t.start ∧ j.getD "end" = .ofText? t.finish ∧
      j.getD "timezone" = .ofText? t.zone := by
  obtain ⟨r, rfl, hstart, hfinish, hzone⟩ := parts_of_check h
  obtain ⟨s, hlookup, hstart⟩ := Check.Record.required_passed.mp hstart
  have htext := (Check.text_passed (hj.of_lookup hlookup)).mp
    (clockRule_passed.mp hstart).1
  exact ⟨by rw [Json.getD_of_lookup hlookup, htext],
    Check.Record.getD_of_optional hj (fun h => (clockRule_passed.mp h).1) hfinish,
    Check.Record.getD_of_optional hj (fun h => (zoneRule_passed.mp h).1) hzone⟩

end TimeRange

namespace Evaluation

/-- Nothing of a range counts but its start, its end and its zone. -/
theorem evaluateTime_congr {v : Visitor} {op : Operator} {range range' : Json}
    (hstart : range.getD "start" = range'.getD "start")
    (hend : range.getD "end" = range'.getD "end")
    (hzone : range.getD "timezone" = range'.getD "timezone") :
    evaluateTime v op range = evaluateTime v op range' := by
  rw [evaluateTime, evaluateTime, hstart, hend, hzone]

end Evaluation

/-! ## Conditions -/

namespace Condition

variable {j : Json} {k : Kind} {op : Operator} {c : Condition}

theorem toJson_of_day {d : Day} (h : day j = .ok d) : d.toJson = j := by
  unfold day at h
  split at h <;> cases h <;> rfl

theorem toJson_of_daysOperand {days : OneOrMany Day} (h : daysOperand j = .ok days) :
    days.toJson Day.toJson = j := by
  unfold daysOperand at h
  split at h
  · cases h
  · next items _ =>
      obtain ⟨ds, hds, rfl⟩ := map_eq_ok_iff.mp h
      rw [OneOrMany.toJson, map_of_mapM_ok (k := id) (fun _ _ => toJson_of_day) hds,
        List.map_id]
  · obtain ⟨d, hd, rfl⟩ := map_eq_ok_iff.mp h
    exact toJson_of_day hd

theorem map_of_texts? {items : List Json} {texts : List String}
    (h : texts? items = some texts) : texts.map Json.str = items := by
  have hall := mapM_eq_some_iff.mp h
  clear h
  induction hall with
  | nil => rfl
  | @cons j s items texts hj _ ih =>
      cases j with
      | str t =>
          cases hj
          rw [List.map_cons, ih]
      | null | bool _ | int _ | float _ | octets _ | arr _ | obj _ => cases hj

theorem toJson_of_textOperand {expected : OneOrMany String}
    (h : textOperand j = .ok expected) : expected.toJson .str = j := by
  unfold textOperand at h
  split at h
  · split at h
    · next texts htexts =>
        cases h
        exact congrArg Json.arr (map_of_texts? htexts)
    · cases h
  · cases h
    rfl
  · cases h

theorem toJson_of_membershipOperand {expected : OneOrMany String}
    (h : membershipOperand j = .ok expected) : expected.toJson .str = j := by
  unfold membershipOperand at h
  split at h
  · cases h
  · split at h
    · next texts htexts =>
        cases h
        exact congrArg Json.arr (map_of_texts? htexts)
    · cases h
  · split at h
    · cases h
    · cases h
      rfl
  · cases h

/-- A condition evaluates as the kind, the operator and the operand that it was
built of. -/
theorem evaluate_of_build (hj : j.OctetFree) (h : build k op j = .ok c)
    (v : Visitor) : c.evaluate v = Evaluation.evaluate v k op j := by
  unfold build at h
  split at h
  · obtain ⟨t, ht, rfl⟩ := map_eq_ok_iff.mp h
    obtain ⟨hstart, hend, hzone⟩ :=
      TimeRange.getD_of_check hj (check_of_timeOperand ht)
    exact Evaluation.evaluateTime_congr hstart.symm hend.symm hzone.symm
  · obtain ⟨days, hdays, rfl⟩ := map_eq_ok_iff.mp h
    rw [evaluate, operand, toJson_of_daysOperand hdays]
    rfl
  · split at h
    · obtain ⟨expected, hexpected, rfl⟩ := map_eq_ok_iff.mp h
      rw [evaluate, operand, toJson_of_membershipOperand hexpected]
      rfl
    · obtain ⟨expected, hexpected, rfl⟩ := map_eq_ok_iff.mp h
      rw [evaluate, operand, toJson_of_membershipOperand hexpected]
      rfl
    · obtain ⟨expected, hexpected, rfl⟩ := map_eq_ok_iff.mp h
      rw [evaluate, operand, toJson_of_textOperand hexpected]
      rfl

/-- The parts of an object that passes, each with what the check made of it. -/
theorem parts_of_check {source : Check.Source} {path : List Check.Step} {item : Json}
    (h : check source path item = .passed c) :
    ∃ members jk jo jv k op, item = .obj members ∧
      (Json.lookup members "type" = some jk ∧
        ∃ path, Check.named Kind.choices path jk = .passed k) ∧
      (Json.lookup members "operator" = some jo ∧
        ∃ path, Check.named Operator.choices path jo = .passed op) ∧
      Json.lookup members "value" = some jv ∧ build k op jv = .ok c := by
  cases item with
  | obj members =>
      rw [check, Check.Source.openRecord, Check.Checked.andThen] at h
      dsimp only at h
      split at h
      · next k op hkind hop =>
          obtain ⟨jk, hk, hkind⟩ := Check.Record.required_passed.mp hkind
          obtain ⟨jo, ho, hop⟩ := Check.Record.required_passed.mp hop
          obtain ⟨jv, hv, hvalue⟩ := Check.Record.required_passed.mp h
          obtain ⟨_, hsame, hbuild⟩ := Check.refining_passed.mp hvalue
          cases hsame
          exact ⟨members, jk, jo, jv, k, op, rfl, ⟨hk, _, hkind⟩, ⟨ho, _, hop⟩, hv, hbuild⟩
      · cases h
  | null | bool _ | int _ | float _ | str _ | octets _ | arr _ => cases h

end Condition

namespace StoredCondition

/-- An item without any check: its parts as they are found. -/
def unchecked (item : Json) : StoredCondition :=
  .raw (item.getD "type") (item.getD "operator") (item.getD "value")

/-- What an item of a document says of a visitor; one that is no object says
nothing. -/
def itemHolds (v : Visitor) (item : Json) : Bool :=
  match item with
  | .obj _ => (unchecked item).holds v
  | _ => false

/-- An item that passes its check evaluates as it does without. -/
theorem holds_of_check {source : Check.Source} {path : List Check.Step} {item : Json}
    {c : Condition} (hitem : item.OctetFree)
    (h : Condition.check source path item = .passed c) (v : Visitor) :
    (checked c).holds v = itemHolds v item := by
  obtain ⟨members, jk, jo, jv, k, op, rfl, ⟨hk, _, hkind⟩, ⟨ho, _, hop⟩, hv, hbuild⟩ :=
    Condition.parts_of_check h
  have hkind' : Evaluation.kindOf jk = .ok k := by
    rw [Evaluation.kindOf,
      show jk.text?.bind Kind.ofName? = some k from
        Check.named_passed (hitem.of_lookup hk) hkind]
  have hop' : Evaluation.operatorOf jo = .ok op := by
    rw [Evaluation.operatorOf,
      show jo.text?.bind Operator.ofName? = some op from
        Check.named_passed (hitem.of_lookup ho) hop]
  have hsame : (checked c).evaluate v = (unchecked (.obj members)).evaluate v := by
    rw [unchecked, Json.getD_of_lookup hk, Json.getD_of_lookup ho,
      Json.getD_of_lookup hv, evaluate, evaluate, hkind', hop',
      Condition.evaluate_of_build (hitem.of_lookup hv) hbuild v]
    rfl
  rw [itemHolds, holds, holds, hsame]

/-- However an item is loaded, it says of a visitor what it says unchecked. -/
theorem holds_load {item : Json} (hitem : item.OctetFree) (v : Visitor) :
    (load item).holds v = itemHolds v item := by
  cases item with
  | obj members =>
      rw [load]
      split
      · next c hcheck => exact holds_of_check hitem hcheck v
      · rfl
  | null | bool _ | int _ | float _ | str _ | octets _ | arr _ => rfl

end StoredCondition

namespace Conditions

variable {source : Check.Source} {path : List Check.Step}

/-- Each item of a list that passes is the check of one document of it. -/
theorem forall₂_of_itemsRule {items : List Json} {cs : List Condition}
    (h : itemsRule source path (.arr items) = .passed cs) :
    List.Forall₂ (fun item c => ∃ path, Condition.check source path item = .passed c)
      items cs := by
  -- the places of the items count on from any number
  have hresults : ∀ (items : List Json) (cs : List Condition) (first : Nat),
      (items.zipIdx first).map (fun p =>
        Condition.check source (path ++ [.item p.2]) p.1) = cs.map .passed →
      List.Forall₂ (fun item c => ∃ path, Condition.check source path item = .passed c)
        items cs := by
    intro items
    induction items with
    | nil =>
        intro cs first h
        rw [List.map_eq_nil_iff.mp h.symm]
        exact .nil
    | cons item rest ih =>
        intro cs first h
        rw [List.zipIdx_cons, List.map_cons] at h
        obtain ⟨c, more, rfl, hc, hmore⟩ := List.map_eq_cons_iff.mp h.symm
        exact .cons ⟨_, hc.symm⟩ (ih more (first + 1) hmore.symm)
  unfold itemsRule at h
  dsimp only at h
  split at h
  · cases h
  · split at h
    · exact hresults items cs 0 (Check.Checked.all_eq_passed.mp h)
    · cases h

/-- The parts of an object that passes, each with what the check made of it. -/
theorem parts_of_check {j : Json} {c : Conditions} (h : check source path j = .passed c) :
    ∃ members jo items, j = .obj members ∧
      (Json.lookup members "operator" = some jo ∧
        ∃ path, Check.named Connective.choices path jo = .passed c.connective) ∧
      Json.lookup members "conditions" = some (.arr items) ∧
      List.Forall₂ (fun item c => ∃ path, Condition.check source path item = .passed c)
        items c.items := by
  obtain ⟨members, items, rfl, hlisted⟩ := listed_of_check h
  rw [check, Check.Source.openRecord, Check.Checked.andThen] at h
  obtain ⟨_, cs, hop, hitems, rfl⟩ := Check.Checked.seq_eq_passed.mp h
  obtain ⟨op, hconnective, rfl⟩ := Check.Checked.map_eq_passed.mp hop
  obtain ⟨jo, ho, hnamed⟩ := Check.Record.required_passed.mp hconnective
  obtain ⟨ji, hi, hpassed⟩ := Check.Record.required_passed.mp hitems
  rw [hlisted] at hi
  cases hi
  exact ⟨members, jo, items, rfl, ⟨ho, _, hnamed⟩, hlisted, forall₂_of_itemsRule hpassed⟩

theorem text_of_named {j : Json} {connective : Connective} {path : List Check.Step}
    (hj : j.OctetFree) (h : Check.named Connective.choices path j = .passed connective) :
    j.text? = some connective.name := by
  obtain ⟨s, hs, hchoice⟩ := Option.bind_eq_some_iff.mp (Check.named_passed hj h)
  obtain ⟨choice, hfind, rfl⟩ := Option.map_eq_some_iff.mp hchoice
  have hchosen : ∀ choice ∈ Connective.choices, choice.1 = choice.2.name := by decide
  have hfound : choice.1 = s := by simpa using List.find?_some hfind
  rw [hs, ← hchosen choice (List.mem_of_find?_eq_some hfind), hfound]

/-- Items that pass say of a visitor what they say unchecked. -/
theorem holds_of_forall₂ {items : List Json} {cs : List Condition}
    (hitems : ∀ item ∈ items, item.OctetFree)
    (h : List.Forall₂ (fun item c =>
      ∃ path, Condition.check source path item = .passed c) items cs) (v : Visitor) :
    cs.map (fun c => (StoredCondition.checked c).holds v) =
      items.map (StoredCondition.itemHolds v) := by
  induction h with
  | nil => rfl
  | cons hc _ ih =>
      obtain ⟨hitem, hrest⟩ := List.forall_mem_cons.mp hitems
      obtain ⟨path, hc⟩ := hc
      rw [List.map_cons, List.map_cons, StoredCondition.holds_of_check hitem hc v,
        ih hrest]

end Conditions

namespace StoredConditions

/-- What the items of a document say of a visitor, put together. -/
def documentHolds (v : Visitor) (document : Json) (items : List Json) : Bool :=
  let results := items.map (StoredCondition.itemHolds v)
  if (document.getD "operator").text? = some Connective.all.name then
    !results.isEmpty && results.all id
  else results.any id

theorem holds_eq_documentHolds {s : StoredConditions} {v : Visitor} {document : Json}
    {items : List Json}
    (hresults : s.items.map (·.holds v) = items.map (StoredCondition.itemHolds v))
    (hconnective : s.connective.text? = (document.getD "operator").text?) :
    s.holds v = documentHolds v document items := by
  rw [holds, documentHolds, hresults, hconnective]
  -- the two differ in how they say that there are no items
  cases items.map (StoredCondition.itemHolds v) <;> simp

theorem load_of_failed {members : List (String × Json)} {items : List Json}
    {faults : List Check.Fault}
    (hcheck : Conditions.check .document [] (.obj members) = .failed faults)
    (hlisted : Json.lookup members "conditions" = some (.arr items)) :
    load (.obj members) =
      .ok ⟨(Json.obj members).getD "operator", items.map StoredCondition.load⟩ := by
  show loadDocument (.obj members) = _
  rw [loadDocument, hcheck, Json.getD_of_lookup hlisted]
  cases items <;> rfl

/-- Conditions are loaded from every object that lists them, and hold of the
visitors that its items say, each item by itself and unchecked. -/
theorem holds_of_listed {members : List (String × Json)} {items : List Json}
    (hoctets : (Json.obj members).OctetFree)
    (hlisted : Json.lookup members "conditions" = some (.arr items)) (v : Visitor) :
    ∃ c, load (.obj members) = .ok c ∧
      c.holds v = documentHolds v (.obj members) items := by
  have hitems := Json.itemsOctetFree_iff.mp (hoctets.of_lookup hlisted)
  cases hcheck : Conditions.check .document [] (.obj members) with
  | passed c =>
      obtain ⟨_, jo, items', ⟨⟩, ⟨ho, path, hnamed⟩, hlisted', hall⟩ :=
        Conditions.parts_of_check hcheck
      rw [hlisted] at hlisted'
      cases hlisted'
      refine ⟨_, Conditions.load_of_check hcheck, holds_eq_documentHolds ?_ ?_⟩
      · rw [ofChecked, List.map_map]
        exact Conditions.holds_of_forall₂ hitems hall v
      · rw [Json.getD_of_lookup ho,
          Conditions.text_of_named (hoctets.of_lookup ho) hnamed]
        rfl
  | failed faults =>
      refine ⟨_, load_of_failed hcheck hlisted, holds_eq_documentHolds ?_ rfl⟩
      rw [List.map_map]
      exact List.map_congr_left fun item hitem =>
        StoredCondition.holds_load (hitems item hitem) v

/-- One item of a document passes its check, one does not and one is no object;
the first alone decides. -/
theorem holds_of_mixed_items :
    let items : List Json :=
      [.obj [("type", .str "country"), ("operator", .str "in"),
        ("value", .arr [.str "tw", .str "JP"])],
       .obj [("type", .str "country"), ("operator", .str "equals"), ("value", .int 7)],
       .str "US"]
    let members := [("operator", .str "OR"), ("conditions", .arr items)]
    let v : Visitor := ⟨fun _ => .text "TW", none, .absent, .recorded⟩
    ∃ c, load (.obj members) = .ok c ∧ c.holds v = true := by
  intro items members v
  have hoctets : (Json.obj members).OctetFree := by
    simp [members, items, Json.OctetFree, Json.MembersOctetFree, Json.ItemsOctetFree]
  obtain ⟨c, hload, hholds⟩ := holds_of_listed hoctets rfl v
  refine ⟨c, hload, hholds.trans ?_⟩
  decide +kernel

end StoredConditions

end Signpost
