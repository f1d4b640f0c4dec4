import Signpost.Condition.Stored
import Signpost.Visitor
import Signpost.Zone.Names

/-!
# Evaluating conditions

A condition that can be evaluated holds of a visitor or does not; one that cannot be evaluated says
why, and counts as not holding. Stored conditions, checked or raw, go through one evaluator, which
takes the operand as it was found.

Texts are compared without their case and the blanks around them. An absent attribute satisfies the
negated operators alone, and an empty list of candidates satisfies none. Windows of the clock may
run past midnight.
-/

namespace Signpost

/-- Why a condition cannot be evaluated. -/
inductive Unevaluable
  | unknownKind
  | unknownOperator
  | unreadableSignal
  | notText
  | notClock
  | notNumber
  | unreadableMoment
  | unknownZone
  | beyondCalendar
deriving DecidableEq, Repr

namespace Evaluation

/-! ## Texts -/

/-- A text in the form in which texts are compared. -/
def foldText (s : List Char) : List Char :=
  Text.lower (Text.trim s)

/-- A candidate in the form in which texts are compared; null stands for the empty text. -/
def normalize : Json → Except Unevaluable (List Char)
  | .null => .ok []
  | .str s => .ok (foldText s.toList)
  | _ => .error .notText

/-- Whether a text is among candidates, which are looked at until it is found. -/
def isAmong (actual : List Char) : List Json → Except Unevaluable Bool
  | [] => .ok false
  | candidate :: rest => do
    if (← normalize candidate) = actual then .ok true else isAmong actual rest

/-- The candidates of an operand: the items of a list, or the operand itself. -/
def candidates : Json → List Json
  | .arr items => items
  | j => [j]

/-- Whether a text in comparable form satisfies an operator with an operand. -/
def compareText (actual : List Char) (op : Operator) (expected : Json) :
    Except Unevaluable Bool :=
  match op with
  | .isIn | .notIn =>
    if (candidates expected).isEmpty then .ok false
    else (isAmong actual (candidates expected)).map fun found =>
      if op = .isIn then found else !found
  | .equals => (normalize expected).map (actual == ·)
  | .notEquals => (normalize expected).map (actual != ·)
  | .contains => (normalize expected).map (Text.occursIn · actual)
  | .notContains => (normalize expected).map (! Text.occursIn · actual)
  | .startsWith => (normalize expected).map (·.isPrefixOf actual)
  | .endsWith => (normalize expected).map (·.isSuffixOf actual)
  | .between | .before | .after => .ok false

/-- A visitor's text as its attribute has it prepared: countries in upper case, devices in lower. -/
def prepare (a : Attribute) (s : List Char) : List Char :=
  match a with
  | .country => Text.upper s
  | .device => Text.lower s
  | _ => s

/-- Whether a visitor's attribute satisfies an operator with an operand. -/
def evaluateAttribute (v : Visitor) (a : Attribute) (op : Operator) (expected : Json) :
    Except Unevaluable Bool :=
  match v.signal a with
  | .absent => .ok op.isNegated
  | .unreadable => .error .unreadableSignal
  | .text s => compareText (foldText (prepare a s.toList)) op expected

/-! ## Clocks -/

/-- Minutes since midnight of a clock's text: two integers around a colon. -/
def minutesOf (clock : Json) : Except Unevaluable Int :=
  match clock with
  | .str s =>
    match Text.pieces ':' s.toList with
    | [hours, minutes] =>
      match Text.readInteger hours, Text.readInteger minutes with
      | .ok h, .ok m => .ok (h * 60 + m)
      | _, _ => .error .notClock
    | _ => .error .notClock
  | _ => .error .notClock

/-- The text of a document that is one, or octets of ASCII characters. -/
def plainText? : Json → Option (List Char)
  | .str s => some s.toList
  | .octets bytes => Text.asciiText? bytes
  | _ => none

/-- The clock of the zone that counts, at the visitor's moment. -/
def localClock (v : Visitor) (override : Json) : Except Unevaluable Clock :=
  match v.time with
  | none => .error .unreadableMoment
  | some m =>
    match (plainText? (Visitor.zoneName override (some v))).bind
        fun name => Zone.resolve? (String.ofList name) with
    | none => .error .unknownZone
    | some z =>
      match v.clocks.reading? z m with
      | none => .error .beyondCalendar
      | some c => .ok c

/-- Whether the visitor's time of day satisfies an operator with a range. -/
def evaluateTime (v : Visitor) (op : Operator) (range : Json) : Except Unevaluable Bool := do
  let start := range.getD "start"
  let finish := range.getD "end"
  if !start.isTruthy then .ok false
  else if op = .between ∧ !finish.isTruthy then .ok false
  else
    let clock ← localClock v (range.getD "timezone")
    let current : Int := clock.minuteOfDay
    let first ← minutesOf start
    match op with
    | .between =>
      let last ← minutesOf finish
      if first ≤ last then .ok (first ≤ current && current ≤ last)
      else .ok (first ≤ current || current ≤ last)
    | .before => .ok (current < first)
    | .after => .ok (first < current)
    | _ => .ok false

/-- The number of a day of the week, whatever way it is written. -/
def dayNumber : Json → Except Unevaluable Int
  | .int n => .ok n
  | .bool b => .ok (if b then 1 else 0)
  | .float x =>
    match x.truncate? with
    | some n => .ok n
    | none => .error .notNumber
  | j =>
    match (plainText? j).map Text.readInteger with
    | some (.ok n) => .ok n
    | _ => .error .notNumber

/-- Whether the visitor's day of the week satisfies an operator with days. -/
def evaluateDay (v : Visitor) (op : Operator) (value : Json) : Except Unevaluable Bool := do
  let clock ← localClock v .null
  let today : Int := clock.weekday
  let days ← (candidates value).mapM dayNumber
  match op with
  | .isIn | .equals => .ok (days.contains today)
  | .notIn | .notEquals => .ok (!days.contains today)
  | _ => .ok false

/-! ## Conditions -/

/-- Whether a visitor satisfies an operator with an operand, in what a kind asks about. -/
def evaluate (v : Visitor) (kind : Kind) (op : Operator) (value : Json) :
    Except Unevaluable Bool :=
  match kind with
  | .time => evaluateTime v op value
  | .dayOfWeek => evaluateDay v op value
  | .ofAttribute a => evaluateAttribute v a op value

/-- The kind that a document names. -/
def kindOf (j : Json) : Except Unevaluable Kind :=
  match j.text?.bind Kind.ofName? with
  | some k => .ok k
  | none => .error .unknownKind

/-- The operator that a document names. -/
def operatorOf (j : Json) : Except Unevaluable Operator :=
  match j.text?.bind Operator.ofName? with
  | some o => .ok o
  | none => .error .unknownOperator

end Evaluation

open Evaluation

/-- Whether a checked condition holds of a visitor, or why that cannot be told. -/
def Condition.evaluate (c : Condition) (v : Visitor) : Except Unevaluable Bool :=
  Evaluation.evaluate v c.kind c.operator c.operand

/-- Whether a stored condition holds of a visitor, or why that cannot be told. -/
def StoredCondition.evaluate (s : StoredCondition) (v : Visitor) : Except Unevaluable Bool :=
  match s with
  | .checked c => c.evaluate v
  | .raw kind op value => do
    let k ← kindOf kind
    let o ← operatorOf op
    Evaluation.evaluate v k o value

/-- Whether a stored condition holds of a visitor; one that cannot be evaluated does not. -/
def StoredCondition.holds (s : StoredCondition) (v : Visitor) : Bool :=
  match s.evaluate v with
  | .ok b => b
  | .error _ => false

/-- Whether stored conditions hold of a visitor: all of them when they are joined by `AND`, at least
one for any other connective. No conditions hold of nobody. -/
def StoredConditions.holds (s : StoredConditions) (v : Visitor) : Bool :=
  let results := s.items.map (·.holds v)
  if results.isEmpty then false
  else if s.connective.text? = some Connective.all.name then results.all id
  else results.any id

end Signpost
