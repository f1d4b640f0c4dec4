import Signpost.Check.Fault

/-!
# Refusals

Why the service refuses a request or cannot serve it. Every refusal falls into a category, which
clients are told as a stable code and a status; the wording names the thing at fault.
-/

namespace Signpost

/-- The categories of refusals. -/
inductive Refusal.Category
  | general
  | invalidRequest
  | internalTarget
  | linkNotFound
  | linkExpired
  | ruleNotFound
  | templateNotFound
  | ruleLimit
  | storeUnavailable
deriving DecidableEq, Repr

namespace Refusal.Category

/-- The code that clients are told. -/
def code : Refusal.Category → String
  | general => "SERVICE_ERROR"
  | invalidRequest => "VALIDATION_ERROR"
  | internalTarget => "UNSAFE_URL"
  | linkNotFound => "URL_NOT_FOUND"
  | linkExpired => "URL_EXPIRED"
  | ruleNotFound => "RULE_NOT_FOUND"
  | templateNotFound => "TEMPLATE_NOT_FOUND"
  | ruleLimit => "RULE_LIMIT_EXCEEDED"
  | storeUnavailable => "STORE_UNAVAILABLE"

/-- The status of the answer. -/
def status : Refusal.Category → Nat
  | linkNotFound | ruleNotFound => 404
  | linkExpired => 410
  | templateNotFound | ruleLimit | invalidRequest | internalTarget => 400
  | storeUnavailable => 503
  | general => 500

end Refusal.Category

/-- A task that needs the store. -/
inductive StoreTask
  | createRule
  | updateRule
  | deleteRule
  | updateSettings
deriving DecidableEq, Repr

/-- What could not be done. -/
def StoreTask.message : StoreTask → String
  | createRule => "Could not create routing rule"
  | updateRule => "Could not update routing rule"
  | deleteRule => "Could not delete routing rule"
  | updateSettings => "Could not update smart routing settings"

/-- Why the service refuses a request or cannot serve it. -/
inductive Refusal
  | internalTarget
  | linkNotFound (id : Int)
  | slugNotFound (slug : String)
  | slugExpired (slug : String)
  | ruleNotFound (id : Int)
  | templateNotFound (key : String)
  | ruleLimit (most : Int)
  | storeUnavailable (task : StoreTask) (reason : String)
deriving DecidableEq, Repr

namespace Refusal

/-- The category of a refusal. -/
def category : Refusal → Category
  | internalTarget => .internalTarget
  | linkNotFound _ | slugNotFound _ => .linkNotFound
  | slugExpired _ => .linkExpired
  | ruleNotFound _ => .ruleNotFound
  | templateNotFound _ => .templateNotFound
  | ruleLimit _ => .ruleLimit
  | storeUnavailable .. => .storeUnavailable

/-- The wording of a refusal. -/
def message : Refusal → String
  | internalTarget => "Target URL points to a private or internal address"
  | linkNotFound id => "URL " ++ toString id ++ " not found"
  | slugNotFound slug => "URL with slug " ++ slug ++ " not found"
  | slugExpired slug => "URL with slug " ++ slug ++ " has expired"
  | ruleNotFound id => "Routing rule " ++ toString id ++ " not found"
  | templateNotFound key => "Routing template " ++ key ++ " not found"
  | ruleLimit most => "Maximum of " ++ toString most ++ " routing rules per URL allowed"
  | storeUnavailable task reason => task.message ++ ": " ++ reason

end Refusal

end Signpost
