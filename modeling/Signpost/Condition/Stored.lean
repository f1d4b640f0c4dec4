import Signpost.Condition.Basic
import Signpost.Json.Octets

/-!
# Conditions read back from storage

What is stored need not have passed the checks. A document that passes them is loaded as checked
conditions; from any other object each item is loaded on its own, checked where it passes and raw
where it does not, so that one bad item does not silence the rest. Everything else loads as no
conditions at all, save an object whose conditions are a number or a truth value, which cannot be
gone through, and a text that is nested too deep to be read.
-/

namespace Signpost

/-- A stored condition: one that passed the checks or what was found in the place of one. -/
inductive StoredCondition
  | checked (c : Condition)
  | raw (kind operator value : Json)

/-- Stored conditions and what was found in the place of their connective. -/
structure StoredConditions where
  connective : Json
  items : List StoredCondition

/-- Why nothing can be loaded from what is stored: there is a number or a truth value in the place
of the list of conditions, which has nothing to go through, or a text that cannot be read. -/
inductive Unloadable
  | integer
  | boolean
  | float
  | tooDeep (nest : Json.Nest)
deriving DecidableEq, Repr

/-- The wording of a refusal. -/
def Unloadable.message : Unloadable → String
  | integer => "'int' object is not iterable"
  | boolean => "'bool' object is not iterable"
  | float => "'float' object is not iterable"
  | tooDeep nest => nest.message

namespace StoredCondition

/-- What is loaded from one item. -/
def load (item : Json) : StoredCondition :=
  match item with
  | .obj _ =>
    match Condition.check .document [] item with
    | .passed c => checked c
    | .failed _ => raw (item.getD "type") (item.getD "operator") (item.getD "value")
  | _ => raw .null .null item

/-- What a stored condition asks about, as it was found. -/
def kind : StoredCondition → Json
  | checked c => .str c.kind.name
  | raw k _ _ => k

/-- How a stored condition compares, as it was found. -/
def operator : StoredCondition → Json
  | checked c => .str c.operator.name
  | raw _ o _ => o

/-- The operand of a stored condition, as it was found. -/
def value : StoredCondition → Json
  | checked c => c.operand
  | raw _ _ v => v

/-- A stored condition's document. -/
def toJson (s : StoredCondition) : Json :=
  .obj [("type", s.kind), ("operator", s.operator), ("value", s.value)]

end StoredCondition

namespace StoredConditions

/-- Checked conditions, as stored ones. -/
def ofChecked (c : Conditions) : StoredConditions :=
  ⟨.str c.connective.name, c.items.map .checked⟩

/-- The items in the place of a list of conditions: those of a list, the characters of a text, the
numbers of octets, the names of an object; nothing and zero have none. -/
def itemsOf (j : Json) : Except Unloadable (List Json) :=
  if !j.isTruthy then .ok []
  else match j with
    | .arr items => .ok items
    | .str s => .ok (s.toList.map fun c => .str (String.ofList [c]))
    | .octets bytes => .ok (bytes.map fun b => .int b.toNat)
    | .obj members => .ok (members.map fun (name, _) => .str name)
    | .int _ => .error .integer
    | .float _ => .error .float
    | .bool _ => .error .boolean
    | .null => .ok []

/-- The conditions loaded from a document that is not JSON text. -/
def loadDocument (j : Json) : Except Unloadable StoredConditions :=
  match Conditions.check .document [] j with
  | .passed c => .ok (ofChecked c)
  | .failed _ =>
    match j with
    | .obj _ => do
      let items ← itemsOf (j.getD "conditions")
      .ok ⟨j.getD "operator", items.map StoredCondition.load⟩
    | _ => .ok ⟨.str Connective.all.name, []⟩

/-- The conditions loaded from what is stored; JSON text, in octets or not, is read first. -/
def load (j : Json) : Except Unloadable StoredConditions :=
  let reading (document : Except Json.Unreadable Json) : Except Unloadable StoredConditions :=
    match Json.orNull document with
    | .ok j => loadDocument j
    | .error nest => .error (.tooDeep nest)
  match j with
  | .str s => reading (Json.read s.toList)
  | .octets bytes => reading (Json.readOctets bytes)
  | _ => loadDocument j

/-- The document of stored conditions. -/
def toJson (s : StoredConditions) : Json :=
  .obj [("operator", s.connective), ("conditions", .arr (s.items.map StoredCondition.toJson))]

end StoredConditions

end Signpost
