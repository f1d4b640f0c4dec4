import Signpost.Cache
import Signpost.Condition.Stored
import Signpost.Refusal
import Signpost.Share
import Signpost.Store.Query

/-!
# Failures

Why a task did not come to its end: the request was refused, the store failed, or what was stored or
cached could not be used. Of the store's failures some are its own and may be tried again; those
that come from elsewhere are not taken for them.
-/

namespace Signpost

/-- The kinds of failure that can be arranged. -/
inductive FaultKind
  /-- The store says that it failed. -/
  | repository
  /-- The driver of the store says that it failed. -/
  | driver
  /-- The system failed. -/
  | system
  /-- The program failed. -/
  | runtime
deriving DecidableEq, Repr

/-- How the store failed. -/
inductive StoreFailure
  | missingTable (q : Query) (table : Table)
  /-- A row refers to a row that is not there. -/
  | danglingRow
  /-- The row to be changed is not there. -/
  | vanishedRow (q : Query)
  /-- A link's slug is taken, or the link lacks something that every link has. -/
  | duplicateSlug (slug : String)
  /-- A rule lacks something that every rule has. -/
  | incompleteRow
  /-- Nothing is said of the links to look for. -/
  | noFilter
  /-- A value cannot be one of the column it is compared with. -/
  | misfitFilter (filters : List LinkFilter) (misfit : FilterMisfit)
  /-- A value cannot be handed over. -/
  | unboundFilter (q : Query)
  /-- A number has no place in the store. -/
  | numberTooLarge
  /-- A text has no octets. -/
  | illFormedText (text : String)
  | arranged (kind : FaultKind)
  /-- An answer that was put in the place of the store's own cannot be one. -/
  | unusable (point : StorePoint) (reply : Json)

namespace StoreFailure

/-- Whether a failure is the store's own. -/
def isOwn : StoreFailure → Bool
  | missingTable .. | danglingRow | vanishedRow _ | duplicateSlug _ | incompleteRow => true
  | misfitFilter .. | unboundFilter _ | arranged .repository | arranged .driver => true
  | arranged .system | arranged .runtime | noFilter | numberTooLarge => false
  | illFormedText _ | unusable .. => false

/-- Where the driver's failures are explained. -/
def explanation : String :=
  "(Background on this error at: https" ++ "://" ++ "sqlalche.me/e/20/e3q8)"

/-- What the driver says of a missing table. -/
def missingTableText (q : Query) (table : Table) : String :=
  "(sqlite3.OperationalError) no such table: " ++ table.name ++ "\n" ++
    (match q.statement? with
      | some (text, numbers) =>
        "[SQL: " ++ text ++ "]\n[parameters: " ++ Query.parameters numbers ++ "]\n"
      | none => "") ++
    explanation

/-- The wording of a failure. -/
def message : StoreFailure → String
  | misfitFilter filters _ => (Query.hasLink filters).failing
  | missingTable q table => q.failing ++ ": " ++ missingTableText q table
  | danglingRow => "Constraint violation creating entity: (sqlite3.IntegrityError) " ++
      "FOREIGN KEY constraint failed"
  | vanishedRow q | unboundFilter q => q.failing
  | duplicateSlug slug => "ShortURL with slug=" ++ slug ++ " already exists"
  | incompleteRow => "Constraint violation creating entity"
  | noFilter => "No conditions provided for exists check"
  | numberTooLarge => "number out of range"
  | illFormedText _ => "text without octets"
  | unusable .. => "unusable answer"
  | arranged _ => "injected fault"

end StoreFailure

/-- Why a task did not come to its end. -/
inductive Failure
  | refused (r : Refusal)
  | store (f : StoreFailure)
  /-- What was given, or put together, does not pass the checks. -/
  | invalid (faults : List Check.Fault)
  /-- Two moments cannot be compared. -/
  | noOrder
  /-- Stored conditions cannot be loaded. -/
  | unloadable (u : Unloadable)
  /-- What the cache holds cannot be had from it. -/
  | unreadable (u : Cache.Unreadable)
  /-- The conditions of a rule are too tall to be written out. -/
  | tooTall
  /-- A share of the traffic cannot be computed. -/
  | overflow (o : Share.Overflow)

/-- A failure of the store's own becomes a refusal of the task that met it. -/
def Failure.during (task : StoreTask) : Failure → Failure
  | .store f => if f.isOwn then .refused (.storeUnavailable task f.message) else .store f
  | f => f

end Signpost
