import Signpost.Condition.Kind
import Signpost.Condition.TimeRange
import Signpost.Text.Numeral

/-!
# Conditions

A condition joins what it asks about, an operator and an operand whose form hangs on both: a time
range for the time of day, day numbers for the day of the week, texts for everything else. Checking
admits only operands of the right form; a checked condition has two documents, one with null for
what a time range leaves open and one, for storage, without.
-/

namespace Signpost

/-- A day of the week as it was written. -/
inductive Day
  | number (n : Int)
  | numeral (s : String)
deriving DecidableEq, Repr

namespace Day

/-- The number of a day of the week, from an integer or from digits of any script. Some digits
write no number, which is why this may fail. -/
def parse (j : Json) : Except Text.NotInteger (Option Int) :=
  let within (n : Int) : Option Int := if 0 ≤ n ∧ n ≤ 6 then some n else none
  match j with
  | .int n => .ok (within n)
  | .str s =>
    let trimmed := Text.trim s.toList
    if !trimmed.isEmpty && trimmed.all Text.isDigit then
      (Text.readInteger trimmed).map within
    else .ok none
  | _ => .ok none

/-- A day as it was written. -/
def toJson : Day → Json
  | number n => .int n
  | numeral s => .str s

end Day

/-- One thing or a list of them. -/
inductive OneOrMany (α : Type)
  | one (a : α)
  | many (as : List α)
deriving DecidableEq, Repr

namespace OneOrMany

/-- The document of one thing or of a list. -/
def toJson {α : Type} (f : α → Json) : OneOrMany α → Json
  | one a => f a
  | many as => .arr (as.map f)

end OneOrMany

/-- A checked condition. -/
inductive Condition
  | onAttribute (a : Attribute) (op : Operator) (expected : OneOrMany String)
  | onTime (op : Operator) (range : TimeRange)
  | onDayOfWeek (op : Operator) (days : OneOrMany Day)
deriving DecidableEq, Repr

namespace Condition

/-! ## Checking -/

/-- Why an operand does not suit a condition on the time of day. -/
def timeRefusal : String :=
  "Time value must be an object with start (and optionally end) in HH:mm format"

/-- Why an operand does not suit a condition on the day of the week. -/
def dayRefusal : String :=
  "Day of week value must be a number 0-6 or array of numbers 0-6"

/-- Why an operand does not suit a condition on membership. -/
def membershipRefusal : String :=
  "IN/NOT_IN operators require a non-empty array or string value"

/-- Why an operand does not suit any other condition. -/
def textRefusal : String :=
  "Invalid condition value"

/-- Texts joined by a separator. -/
def joinTexts (separator : String) : List String → String
  | [] => ""
  | [s] => s
  | s :: rest => s ++ separator ++ joinTexts separator rest

/-- The time range that an operand describes. -/
def timeOperand (j : Json) : Except String TimeRange :=
  match j with
  | .obj _ =>
    match TimeRange.check [] j with
    | .passed t => .ok t
    | .failed faults =>
      .error (timeRefusal ++ ": " ++ joinTexts "; " (faults.map fun f => f.cause.message))
  | _ => .error timeRefusal

/-- A day of the week as an operand writes it. -/
def day (j : Json) : Except String Day :=
  match Day.parse j, j with
  | .error e, _ => .error e.message
  | .ok (some _), .int n => .ok (.number n)
  | .ok (some _), .str s => .ok (.numeral s)
  | _, _ => .error dayRefusal

/-- The days that an operand names. -/
def daysOperand (j : Json) : Except String (OneOrMany Day) :=
  match j with
  | .arr [] => .error dayRefusal
  | .arr items => (items.mapM day).map .many
  | _ => (day j).map .one

/-- The texts of a list, if it holds nothing else. -/
def texts? (items : List Json) : Option (List String) :=
  items.mapM Json.text?

/-- The texts that an operand of a membership names. -/
def membershipOperand (j : Json) : Except String (OneOrMany String) :=
  match j with
  | .arr [] => .error membershipRefusal
  | .arr items =>
    match texts? items with
    | some texts => .ok (.many texts)
    | none => .error membershipRefusal
  | .str s => if s = "" then .error membershipRefusal else .ok (.one s)
  | _ => .error membershipRefusal

/-- The text or texts of any other operand. -/
def textOperand (j : Json) : Except String (OneOrMany String) :=
  match j with
  | .arr items =>
    match texts? items with
    | some texts => .ok (.many texts)
    | none => .error textRefusal
  | .str s => .ok (.one s)
  | _ => .error textRefusal

/-- The condition of a kind, an operator and an operand, or why the operand does not suit. -/
def build (kind : Kind) (op : Operator) (value : Json) : Except String Condition :=
  match kind with
  | .time => (timeOperand value).map (.onTime op)
  | .dayOfWeek => (daysOperand value).map (.onDayOfWeek op)
  | .ofAttribute a =>
    match op with
    | .isIn | .notIn => (membershipOperand value).map (.onAttribute a op)
    | _ => (textOperand value).map (.onAttribute a op)

/-- A condition. Its operand is looked at only once its kind and its operator are known. -/
def check (source : Check.Source) : Check.Rule Condition := fun path j =>
  (source.openRecord "ConditionItem" path j).andThen fun r =>
    let kind := r.required "type" (Check.named Kind.choices)
    let op := r.required "operator" (Check.named Operator.choices)
    match kind, op with
    | .passed k, .passed o =>
      r.required "value" (Check.refining Check.anything (build k o))
    | _, _ =>
      .failed (kind.faults ++ op.faults ++ (r.required "value" Check.anything).faults)

/-! ## Parts and documents -/

/-- What a condition asks about. -/
def kind : Condition → Kind
  | onAttribute a _ _ => .ofAttribute a
  | onTime _ _ => .time
  | onDayOfWeek _ _ => .dayOfWeek

/-- How a condition compares. -/
def operator : Condition → Operator
  | onAttribute _ op _ => op
  | onTime op _ => op
  | onDayOfWeek op _ => op

/-- The operand, with null for what it leaves open. -/
def operand : Condition → Json
  | onAttribute _ _ expected => expected.toJson .str
  | onTime _ range => range.toJson
  | onDayOfWeek _ days => days.toJson Day.toJson

/-- The operand, without what it leaves open. -/
def storedOperand : Condition → Json
  | onTime _ range => range.toStorage
  | c => c.operand

/-- A condition's document around its operand. -/
def document (c : Condition) (operand : Json) : Json :=
  .obj [("type", .str c.kind.name), ("operator", .str c.operator.name), ("value", operand)]

/-- A condition with null for what it leaves open. -/
def toJson (c : Condition) : Json :=
  c.document c.operand

/-- A condition without what it leaves open. -/
def toStorage (c : Condition) : Json :=
  c.document c.storedOperand

end Condition

/-- Checked conditions and how they are joined. -/
structure Conditions where
  connective : Connective
  items : List Condition
deriving DecidableEq, Repr

namespace Conditions

/-- The most conditions that a rule may have. -/
def maxItems : Nat := 20

/-- The conditions of a list: at least one and at most `maxItems` have to pass. When too many pass,
nothing else is reported. -/
def itemsRule (source : Check.Source) : Check.Rule (List Condition) := fun path j =>
  match j with
  | .arr items =>
    let results := items.zipIdx.map fun (item, i) =>
      Condition.check source (path ++ [.item i]) item
    let count := (results.filterMap (·.toOption)).length
    if maxItems < count then .fault path (.tooManyItems maxItems items.length) j
    else
      let faults := results.flatMap (·.faults)
      let short : List Check.Fault := if count = 0 then [⟨path, .tooFewItems 1 0, j⟩] else []
      match faults ++ short with
      | [] => .all results
      | all => .failed all
  | _ => .fault path .notTuple j

/-- Conditions and how they are joined. -/
def check (source : Check.Source) : Check.Rule Conditions := fun path j =>
  (source.openRecord "RoutingConditions" path j).andThen fun r =>
    Conditions.mk <$> r.required "operator" (Check.named Connective.choices)
      <*> r.required "conditions" (itemsRule source)

/-- Conditions with null for what they leave open. -/
def toJson (c : Conditions) : Json :=
  .obj [("operator", .str c.connective.name), ("conditions", .arr (c.items.map Condition.toJson))]

/-- Conditions as they are stored. -/
def toStorage (c : Conditions) : Json :=
  .obj [("operator", .str c.connective.name),
    ("conditions", .arr (c.items.map Condition.toStorage))]

end Conditions

end Signpost
