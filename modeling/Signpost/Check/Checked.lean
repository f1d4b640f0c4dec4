import Signpost.Check.Fault

/-!
# Checks that report every fault

`Checked α` is a value that passed its checks or the faults that were found. Two checks are put
together with `<*>`, which keeps the faults of both, in order; it is deliberately no monad, so that
no check can hide the faults of the next. A `Record` is a document whose fields are being read.
-/

namespace Signpost.Check

/-- A value that passed, or the faults found. -/
inductive Checked (α : Type)
  | passed (a : α)
  | failed (faults : List Fault)

namespace Checked

/-- A result as an outcome or its faults. -/
def toExcept {α : Type} : Checked α → Except (List Fault) α
  | passed a => .ok a
  | failed faults => .error faults

/-- The value, if it passed. -/
def toOption {α : Type} : Checked α → Option α
  | passed a => some a
  | failed _ => none

/-- The faults found. -/
def faults {α : Type} : Checked α → List Fault
  | passed _ => []
  | failed fs => fs

/-- A function of the value. -/
def map {α β : Type} (f : α → β) : Checked α → Checked β
  | passed a => passed (f a)
  | failed fs => failed fs

/-- Both values, or the faults of both. -/
def seq {α β : Type} (f : Checked (α → β)) (x : Unit → Checked α) : Checked β :=
  match f, x () with
  | passed f, passed a => passed (f a)
  | passed _, failed fs => failed fs
  | failed fs, passed _ => failed fs
  | failed fs, failed gs => failed (fs ++ gs)

instance : Functor Checked where
  map f x := x.map f

instance : Applicative Checked where
  pure := passed
  seq := seq

/-- A single fault. -/
def fault {α : Type} (path : List Step) (cause : Cause) (input : Json) : Checked α :=
  failed [⟨path, cause, input⟩]

/-- A further check of a value that passed. -/
def andThen {α β : Type} (x : Checked α) (next : α → Checked β) : Checked β :=
  match x with
  | passed a => next a
  | failed fs => failed fs

/-- All values of a list, or the faults of all. -/
def all {α : Type} : List (Checked α) → Checked (List α)
  | [] => passed []
  | x :: rest => List.cons <$> x <*> all rest

/-! A check that is put together passes where its parts do. -/

theorem map_eq_passed {α β : Type} {f : α → β} {x : Checked α} {b : β} :
    f <$> x = passed b ↔ ∃ a, x = passed a ∧ f a = b := by
  cases x with
  | passed a => simp [Functor.map, map]
  | failed fs => simp [Functor.map, map]

theorem seq_eq_passed {α β : Type} {f : Checked (α → β)} {x : Checked α} {b : β} :
    f <*> x = passed b ↔ ∃ g a, f = passed g ∧ x = passed a ∧ g a = b := by
  cases f <;> cases x <;> simp [Seq.seq, seq]

theorem andThen_eq_passed {α β : Type} {x : Checked α} {next : α → Checked β} {b : β} :
    x.andThen next = passed b ↔ ∃ a, x = passed a ∧ next a = passed b := by
  cases x <;> simp [andThen]

theorem all_eq_passed {α : Type} {xs : List (Checked α)} {as : List α} :
    all xs = passed as ↔ xs = as.map passed := by
  induction xs generalizing as with
  | nil => cases as <;> simp [all]
  | cons x rest ih =>
    rw [all, seq_eq_passed]
    simp only [map_eq_passed, ih]
    constructor
    · rintro ⟨_, more, ⟨a, rfl, rfl⟩, rfl, rfl⟩
      rfl
    · intro h
      match as, h with
      | a :: more, h =>
        obtain ⟨rfl, rfl⟩ := List.cons.inj h
        exact ⟨_, more, ⟨a, rfl, rfl⟩, rfl, rfl⟩

end Checked

/-- A check of the part of a document at a place. -/
abbrev Rule (α : Type) := List Step → Json → Checked α

/-- How a document that should have fields is asked for them. -/
inductive Source
  /-- A document of its own, refused with the name of what it should describe. -/
  | document
  /-- Anything whose fields can be read off. -/
  | attributes
deriving DecidableEq, Repr

/-- A document whose fields are being read. -/
structure Record where
  path : List Step
  members : List (String × Json)
  whole : Json

/-- The fields of a document, which has to be an object. -/
def Source.openRecord (source : Source) (model : String) : Rule Record := fun path j =>
  match j with
  | .obj members => .passed ⟨path, members, j⟩
  | _ => .fault path (match source with
      | .document => .notDocument model
      | .attributes => .notAttributes) j

namespace Record

/-- The value of a field that has to be there. -/
def required {α : Type} (r : Record) (name : String) (rule : Rule α) : Checked α :=
  match Json.lookup r.members name with
  | some j => rule (r.path ++ [.field name]) j
  | none => .fault (r.path ++ [.field name]) .missing r.whole

/-- The value of a field, or a value for when it is not there. -/
def optional {α : Type} (r : Record) (name : String) (fallback : α) (rule : Rule α) : Checked α :=
  match Json.lookup r.members name with
  | some j => rule (r.path ++ [.field name]) j
  | none => .passed fallback

/-- A fault for each field that has none of the names. -/
def forbidOthers (r : Record) (names : List String) : Checked Unit :=
  match r.members.filter (fun (name, _) => !names.contains name) with
  | [] => .passed ()
  | others => .failed (others.map fun (name, j) => ⟨r.path ++ [.field name], .unknownField, j⟩)

end Record

end Signpost.Check
