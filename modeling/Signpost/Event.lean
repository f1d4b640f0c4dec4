import Signpost.Json.Basic

/-!
# Domain events

A hub hands each event to the handlers subscribed to it. With a running loop every handler is
scheduled and called at the next drain, in the order of the emissions; without one, plain handlers
are called on the spot and handlers that need a loop are passed over. A handler may fail once it was
called; its failure is caught where it is called, before the next handler has its turn.
-/

namespace Signpost

/-- A handler of events. -/
structure Handler where
  name : String
  needsLoop : Bool
  fails : Bool
deriving DecidableEq, Repr

/-- A handler to be called with what an event carries. -/
structure Delivery where
  handler : Handler
  payload : Json

/-- The failure of a handler. -/
structure Handler.Failure where
  handler : Handler
deriving DecidableEq, Repr

/-- Work that calls handlers: the deliveries that it makes, and the failure that ends it unless it is
caught. -/
abbrev Calling (α : Type) :=
  ExceptT Handler.Failure (StateM (List Delivery)) α

namespace Calling

/-- Calls a handler. -/
def call (d : Delivery) : Calling Unit := do
  modify (· ++ [d])
  if d.handler.fails then throw ⟨d.handler⟩

/-- Calls a handler and goes on if it fails. -/
def attempt (d : Delivery) : Calling Unit :=
  tryCatch (call d) fun _ => pure ()

/-- Calls handlers one after the other. -/
def attemptAll : List Delivery → Calling Unit
  | [] => pure ()
  | d :: rest => do
    attempt d
    attemptAll rest

/-- How the work ends, and the deliveries that it made. -/
def outcome {α : Type} (work : Calling α) : Except Handler.Failure α × List Delivery :=
  work.run.run []

end Calling

/-- Handlers by the event they are subscribed to, and the deliveries still to be made. -/
structure Hub where
  subscriptions : List (String × Handler)
  scheduled : List Delivery

namespace Hub

/-- A hub without subscriptions. -/
def empty : Hub :=
  ⟨[], []⟩

/-- The handlers of an event, in the order of their subscriptions. -/
def handlersOf (h : Hub) (event : String) : List Handler :=
  (h.subscriptions.filter (·.1 == event)).map (·.2)

/-- The hub with one more subscription. -/
def subscribe (h : Hub) (event : String) (handler : Handler) : Hub :=
  { h with subscriptions := h.subscriptions ++ [(event, handler)] }

/-- The hub with the first subscription of a handler to an event taken back, if there is one. -/
def unsubscribe (h : Hub) (event : String) (handler : Handler) : Hub :=
  { h with subscriptions := h.subscriptions.erase (event, handler) }

/-- What became of an emission: the hub after it, the number of handlers that the emitter is told,
unless the failure of one gets through, and the deliveries that were made on the spot. -/
structure Emission where
  hub : Hub
  told : Except Handler.Failure Nat
  delivered : List Delivery

/-- Hands an event to its handlers and tells how many are subscribed. -/
def emit (h : Hub) (hasLoop : Bool) (event : String) (payload : Json) : Emission :=
  let handlers := h.handlersOf event
  let deliveries := handlers.map fun handler => Delivery.mk handler payload
  if hasLoop then
    ⟨{ h with scheduled := h.scheduled ++ deliveries }, .ok handlers.length, []⟩
  else
    let (ended, made) :=
      (Calling.attemptAll (deliveries.filter fun d => !d.handler.needsLoop)).outcome
    ⟨h, ended.map fun _ => handlers.length, made⟩

/-- Makes the scheduled deliveries, each as a task of its own. -/
def drain (h : Hub) : Hub × List Delivery :=
  ({ h with scheduled := [] }, (Calling.attemptAll h.scheduled).outcome.2)

end Hub

namespace Event

/-- A rule was created. -/
def ruleCreated : String := "routing.rule_created"

/-- A rule was changed. -/
def ruleUpdated : String := "routing.rule_updated"

/-- A rule was deleted. -/
def ruleDeleted : String := "routing.rule_deleted"

end Event

end Signpost
