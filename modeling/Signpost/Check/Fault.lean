import Signpost.Json.Basic

/-!
# Faults of a document

A check reports every fault it finds: where the fault lies, its cause, and the part of the document
that has it. A cause knows the word for its kind, its wording, and the bounds or texts that the
wording mentions.
-/

namespace Signpost.Check

/-- A step from a document into one of its parts. -/
inductive Step
  | field (name : String)
  | item (index : Nat)
deriving DecidableEq, Repr

/-- What may be wrong with a part of a document. -/
inductive Cause
  | missing
  | unknownField
  | notText
  | illFormedText
  | textTooShort (least : Nat)
  | textTooLong (most : Nat)
  | notInteger
  | unreadableInteger
  | fractionalInteger
  | hugeInteger
  | notFinite
  | below (least : Int)
  | above (most : Int)
  | notBoolean
  | unreadableBoolean
  | notAmong (names : List String)
  | refused (reason : String)
  | notTuple
  | notList
  | tooFewItems (least found : Nat)
  | tooManyItems (most found : Nat)
  | notDocument (model : String)
  | notAttributes
  | notMoment
  | unreadableMoment (reason : String)
  | impossibleMoment (reason : String)
  | unreadableBody (reason : String)
deriving DecidableEq, Repr

/-- A fault: its place, its cause and the part that has it. -/
structure Fault where
  path : List Step
  cause : Cause
  input : Json

/-- Quoted names, the last one after an `or`. -/
def alternatives : List String → String
  | [] => ""
  | [a] => "'" ++ a ++ "'"
  | [a, b] => "'" ++ a ++ "' or '" ++ b ++ "'"
  | a :: rest => "'" ++ a ++ "', " ++ alternatives rest

/-- A count with its noun. -/
def counted (n : Nat) (noun : String) : String :=
  toString n ++ " " ++ noun ++ (if n = 1 then "" else "s")

namespace Cause

/-- The word for the kind of a cause. -/
def kind : Cause → String
  | missing => "missing"
  | unknownField => "extra_forbidden"
  | notText => "string_type"
  | illFormedText => "string_unicode"
  | textTooShort _ => "string_too_short"
  | textTooLong _ => "string_too_long"
  | notInteger => "int_type"
  | unreadableInteger => "int_parsing"
  | fractionalInteger => "int_from_float"
  | hugeInteger => "int_parsing_size"
  | notFinite => "finite_number"
  | below _ => "greater_than_equal"
  | above _ => "less_than_equal"
  | notBoolean => "bool_type"
  | unreadableBoolean => "bool_parsing"
  | notAmong _ => "enum"
  | refused _ => "value_error"
  | notTuple => "tuple_type"
  | notList => "list_type"
  | tooFewItems .. => "too_short"
  | tooManyItems .. => "too_long"
  | notDocument _ => "model_type"
  | notAttributes => "model_attributes_type"
  | notMoment => "datetime_type"
  | unreadableMoment _ => "datetime_from_date_parsing"
  | impossibleMoment _ => "datetime_parsing"
  | unreadableBody _ => "json_invalid"

/-- The wording of a cause. -/
def message : Cause → String
  | missing => "Field required"
  | unknownField => "Extra inputs are not permitted"
  | notText => "Input should be a valid string"
  | illFormedText =>
    "Input should be a valid string, unable to parse raw data as a unicode string"
  | textTooShort least => "String should have at least " ++ counted least "character"
  | textTooLong most => "String should have at most " ++ counted most "character"
  | notInteger => "Input should be a valid integer"
  | unreadableInteger =>
    "Input should be a valid integer, unable to parse string as an integer"
  | fractionalInteger => "Input should be a valid integer, got a number with a fractional part"
  | hugeInteger => "Unable to parse input string as an integer, exceeded maximum size"
  | notFinite => "Input should be a finite number"
  | below least => "Input should be greater than or equal to " ++ toString least
  | above most => "Input should be less than or equal to " ++ toString most
  | notBoolean => "Input should be a valid boolean"
  | unreadableBoolean => "Input should be a valid boolean, unable to interpret input"
  | notAmong names => "Input should be " ++ alternatives names
  | refused reason => "Value error, " ++ reason
  | notTuple => "Input should be a valid tuple"
  | notList => "Input should be a valid list"
  | tooFewItems least found =>
    "Tuple should have at least " ++ counted least "item" ++ " after validation, not " ++
      toString found
  | tooManyItems most found =>
    "Tuple should have at most " ++ counted most "item" ++ " after validation, not " ++
      toString found
  | notDocument model => "Input should be a valid dictionary or instance of " ++ model
  | notAttributes => "Input should be a valid dictionary or object to extract fields from"
  | notMoment => "Input should be a valid datetime"
  | unreadableMoment reason => "Input should be a valid datetime or date, " ++ reason
  | impossibleMoment reason => "Input should be a valid datetime, " ++ reason
  | unreadableBody _ => "JSON decode error"

/-- The bounds and texts that the wording mentions, by name. -/
def context : Cause → List (String × String)
  | textTooShort least => [("min_length", toString least)]
  | textTooLong most => [("max_length", toString most)]
  | below least => [("ge", toString least)]
  | above most => [("le", toString most)]
  | notAmong names => [("expected", alternatives names)]
  | refused reason => [("error", reason)]
  | tooFewItems least found =>
    [("field_type", "Tuple"), ("min_length", toString least), ("actual_length", toString found)]
  | tooManyItems most found =>
    [("field_type", "Tuple"), ("max_length", toString most), ("actual_length", toString found)]
  | notDocument model => [("class_name", model)]
  | unreadableMoment reason | impossibleMoment reason => [("error", reason)]
  | unreadableBody reason => [("error", reason)]
  | _ => []

end Cause

/-- The place of a fault. -/
def Step.toJson : Step → Json
  | .field name => .str name
  | .item index => .int index

/-- What is reported of a fault: its place, kind and wording. -/
def Fault.report (f : Fault) : List (String × Json) :=
  [("loc", .arr (f.path.map Step.toJson)), ("type", .str f.cause.kind),
    ("msg", .str f.cause.message)]

end Signpost.Check
