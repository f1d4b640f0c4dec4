import Signpost.Store.Basic

/-!
# Plans

A plan is a piece of work on the store: it ends with a result, gives up, or asks a query and goes on
with the answer. Run as a transaction it is all or nothing: whatever keeps it from its end, be it
the commit itself, the rows are as before. What is recorded in the audit trail is no reason to fail:
an entry that the store itself fails to take is passed over.
-/

namespace Signpost

/-- A piece of work on the store. -/
inductive Plan (α : Type)
  | done (a : α)
  | stop (f : Failure)
  | ask (q : Query) (next : q.Answer → Plan α)

namespace Plan

/-- A plan and then another one that hangs on its result. -/
def bind {α β : Type} (p : Plan α) (next : α → Plan β) : Plan β :=
  match p with
  | done a => next a
  | stop f => stop f
  | ask q more => ask q fun answer => (more answer).bind next

instance : Monad Plan where
  pure := done
  bind := bind

/-- The plan that asks one query. -/
def query (q : Query) : Plan q.Answer :=
  ask q done

/-- The plan that refuses. -/
def refuse {α : Type} (r : Refusal) : Plan α :=
  stop (.refused r)

/-- What a query is answered with in spite of a failure, where that may be. -/
def spare? (f : StoreFailure) : (q : Query) → Option q.Answer
  | .recordAudit _ => if f.isOwn then some () else none
  | _ => none

/-- Runs a plan at an instant. -/
def run {α : Type} (now : Clock) : Plan α → Store → Except Failure α × Store
  | done a, s => (.ok a, s)
  | stop f, s => (.error f, s)
  | ask q next, s =>
    match s.ask now q with
    | (.ok answer, s) => (next answer).run now s
    | (.error f, s) =>
      match spare? f q with
      | some answer => (next answer).run now s
      | none => (.error (.store f), s)

/-- Commits what was done since the rows were as in `before`. -/
def commit {α : Type} (before : Database) (a : α) (s : Store) : Except Failure α × Store :=
  match s.pass .commit with
  | (.fails kind, s) => (.error (.store (.arranged kind)), { s with database := before })
  | (_, s) => (.ok a, s)

/-- Runs a plan as one transaction. -/
def transact {α : Type} (now : Clock) (p : Plan α) (s : Store) : Except Failure α × Store :=
  match p.run now s with
  | (.ok a, after) => commit s.database a after
  | (.error f, after) => (.error f, { after with database := s.database })

end Plan

end Signpost
