import Signpost.Store.Failure

/-!
# Arranged outages

For rehearsing failures, a number of passages of a point can be arranged to fail, to be answered
with something else than the truth, or to take long enough for more matches to be counted meanwhile.
Of several arrangements for one point the newest is met first; one that neither fails nor answers
gives way to the next.
-/

namespace Signpost

/-- A rule and how many more matches of it are counted. -/
abbrev Arrival := Int × Int

/-- What is arranged for the next passages of a point. -/
structure Outage where
  point : StorePoint
  times : Nat
  kind : Option FaultKind
  arrivals : List Arrival
  reply : Option Json

/-- How a passage ends. -/
inductive Passage
  | proceeds
  | fails (kind : FaultKind)
  | isAnswered (reply : Json)

namespace Outage

/-- How a passage of a point ends, what is counted meanwhile, and what remains arranged. -/
def pass (point : StorePoint) : List Outage → Passage × List Arrival × List Outage
  | [] => (.proceeds, [], [])
  | o :: older =>
    if o.point = point ∧ o.times ≠ 0 then
      let used := { o with times := o.times - 1 }
      match o.kind, o.reply with
      | some kind, _ => (.fails kind, o.arrivals, used :: older)
      | none, some reply => (.isAnswered reply, o.arrivals, used :: older)
      | none, none =>
        let (passage, arrivals, rest) := pass point older
        (passage, o.arrivals ++ arrivals, used :: rest)
    else
      let (passage, arrivals, rest) := pass point older
      (passage, arrivals, o :: rest)

end Outage

/-- Whether a document stands for a number below a bound; texts and the like have no order. -/
def isBelow? (bound : Int) : Json → Option Bool
  | .int n => some (decide (n < bound))
  | .bool b => some (decide ((if b then 1 else 0) < bound))
  | .float x => match x with
    | .nan => some true
    | .infinite negative => some negative
    | .finite .. => (x.floor?).map fun n => decide (n < bound)
  | _ => none

/-- Whether a document stands for zero. -/
def isZero : Json → Bool
  | .int n => n == 0
  | .bool b => !b
  | .float x => x.isZero
  | _ => false

/-- The entries that the items of a document are, up to the first one that is none. -/
def entriesOf : List Json → Check.Checked (List RuleEntry)
  | [] => .passed []
  | j :: rest => (RuleEntry.check [] j).andThen fun e => (entriesOf rest).map (e :: ·)

/-- What can be gone through in a document. -/
def itemsOf? : Json → Option (List Json)
  | .arr items => some items
  | .str s => some (s.toList.map fun c => .str (String.ofList [c]))
  | .octets bytes => some (bytes.map fun b => .int b.toNat)
  | .obj members => some (members.map fun (name, _) => .str name)
  | _ => none

/-- What a document says in the place of an answer, where it can stand for one. -/
def Query.answerOf? (reply : Json) : (q : Query) → Option q.Answer
  | .ownedLink .. | .linkBySlug _ | .ruleOfLink .. =>
    match reply with
    | .null => some none
    | _ => none
  | .hasLink _ => some reply.isTruthy
  | .hasRoom _ most => isBelow? most reply
  | .hasRules _ => some (!isZero reply)
  | .rulesOf _ =>
    match itemsOf? reply with
    | some [] => some []
    | _ => none
  | .activeRulesOf _ => (itemsOf? reply).map entriesOf
  | .setFlag .. | .deleteRule _ | .addMatches _ | .recordAudit _ => some ()
  | .addLink _ | .addBareLink _ | .updateLink .. | .addRule _ | .addBareRule | .updateRule ..
  | .auditOf .. => none

end Signpost
