import Signpost.Store.Outage

/-!
# The tally of matches

Matches are counted in memory and written to the store from time to time. Writing takes the whole
batch out of the tally first, so that matches counted meanwhile start a new one; a batch that could
not be written is merged back, until it has failed so many times in a row that it is dropped.
-/

namespace Signpost

/-- The matches not yet written, and how many times in a row the count of a rule has failed to be
written. -/
structure Tally where
  counts : List (Int × Int)
  failures : List (Int × Nat)
  /-- The failures in a row at which the count of a rule is dropped. -/
  patience : Int
deriving DecidableEq, Repr

namespace Tally

/-- A tally without matches. -/
def empty (patience : Int) : Tally :=
  ⟨[], [], patience⟩

/-- The value under a number. -/
def value? {α : Type} (entries : List (Int × α)) (id : Int) : Option α :=
  (entries.find? (·.1 == id)).map (·.2)

/-- Entries with one number's value replaced, or added at the end. -/
def assign {α : Type} (id : Int) (a : α) : List (Int × α) → List (Int × α)
  | [] => [(id, a)]
  | (n, b) :: rest => if n = id then (n, a) :: rest else (n, b) :: assign id a rest

/-- Entries without one number's. -/
def release {α : Type} (id : Int) (entries : List (Int × α)) : List (Int × α) :=
  entries.filter (·.1 != id)

/-- The matches of a rule that are not yet written. -/
def pending (t : Tally) (rule : Int) : Int :=
  (value? t.counts rule).getD 0

/-- Counts matches of a rule. -/
def count (t : Tally) (rule amount : Int) : Tally :=
  { t with counts := assign rule (t.pending rule + amount) t.counts }

/-- Counts matches of several rules. -/
def countAll (t : Tally) (arrivals : List Arrival) : Tally :=
  arrivals.foldl (fun t (rule, amount) => t.count rule amount) t

/-- The tally after its batch was taken out. -/
def emptied (t : Tally) : Tally :=
  { t with counts := [] }

/-- The tally after a batch was written. -/
def settle (t : Tally) (batch : List (Int × Int)) : Tally :=
  { t with failures := batch.foldl (fun fs (rule, _) => release rule fs) t.failures }

/-- The tally after one rule's count could not be written. -/
def requeueOne (t : Tally) (rule amount : Int) : Tally :=
  let failed := (value? t.failures rule).getD 0 + 1
  if t.patience ≤ failed then { t with failures := release rule t.failures }
  else { t.count rule amount with failures := assign rule failed t.failures }

/-- The tally after a batch could not be written. -/
def requeue (t : Tally) (batch : List (Int × Int)) : Tally :=
  batch.foldl (fun t (rule, amount) => t.requeueOne rule amount) t

/-- The matches not yet written, by the number of their rule. -/
def toJson (t : Tally) : Json :=
  .obj (t.counts.map fun (rule, amount) => (toString rule, .int amount))

end Tally

end Signpost
