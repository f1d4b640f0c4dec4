import Signpost.Check.Checked

/-!
# Fields that may be left out

A request to change something tells three things apart for each field: it was left out, it was given
as null, or it was given with a value.
-/

namespace Signpost

/-- A field of a request: left out, given as null, or given with a value. -/
inductive Given (α : Type)
  | unset
  | null
  | value (a : α)
deriving DecidableEq, Repr

namespace Given

/-- The value, if one was given. -/
def toOption {α : Type} : Given α → Option α
  | value a => some a
  | _ => none

/-- Whether the field was given, be it as null. -/
def isSet {α : Type} : Given α → Bool
  | unset => false
  | _ => true

/-- The document of a field, null for one that was left out. -/
def toJson {α : Type} (f : α → Json) : Given α → Json
  | value a => f a
  | _ => .null

/-- The field as a named value, nothing when no value was given. -/
def named {α : Type} (name : String) (f : α → Json) : Given α → List (String × Json)
  | value a => [(name, f a)]
  | _ => []

/-- The field as a named value or null, nothing when it was left out. -/
def namedOrNull {α : Type} (name : String) (f : α → Json) : Given α → List (String × Json)
  | value a => [(name, f a)]
  | null => [(name, .null)]
  | unset => []

/-- A field's rule, with null admitted. -/
def rule {α : Type} (inner : Check.Rule α) : Check.Rule (Given α) := fun path j =>
  match j with
  | .null => .passed null
  | _ => (inner path j).map value

end Given

/-- The field of a record, which may be left out. -/
def Check.Record.given {α : Type} (r : Check.Record) (name : String) (inner : Check.Rule α) :
    Check.Checked (Given α) :=
  r.optional name .unset (Given.rule inner)

end Signpost
