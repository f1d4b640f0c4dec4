import Signpost.Json.Basic
import Signpost.Text.Case

/-!
# The audit trail

What was done, to what, by whom, with the values before and after. Values under the names of secrets
are redacted, whatever the case of the name.
-/

namespace Signpost.Audit

/-- Names, in lower case, whose values are never recorded. -/
def sensitiveNames : List String :=
  ["password", "secret", "key", "token", "apikey", "api_key", "refresh_token", "access_token",
    "credential", "private_key", "secret_key", "auth_token", "bearer_token", "encryption_key"]

/-- Whether values under a name are never recorded. -/
def isSensitive (name : String) : Bool :=
  sensitiveNames.contains (String.ofList (Text.lower name.toList))

/-- What stands in the place of a value that is not recorded. -/
def redacted : Json := .str "[REDACTED]"

/-- The values of named fields as they are recorded; no fields are recorded as null. -/
def sanitize (members : List (String × Json)) : Json :=
  if members.isEmpty then .null
  else .obj (members.map fun (name, value) => (name, if isSensitive name then redacted else value))

/-- What was done. -/
inductive Action
  | ruleCreated
  | ruleUpdated
  | ruleDeleted
  | linkUpdated
deriving DecidableEq, Repr

/-- The name of an action. -/
def Action.name : Action → String
  | .ruleCreated => "ROUTING_RULE_CREATED"
  | .ruleUpdated => "ROUTING_RULE_UPDATED"
  | .ruleDeleted => "ROUTING_RULE_DELETED"
  | .linkUpdated => "URL_UPDATED"

/-- The kind of thing it was done to. -/
def Action.entityType : Action → String
  | .linkUpdated => "url"
  | _ => "routing_rule"

/-- Where a request came from. -/
structure Origin where
  address : Option String
  agent : Option String
deriving DecidableEq, Repr

/-- The longest text of a browser that is recorded, in characters. -/
def maxAgentLength : Nat := 512

/-- A browser's text as it is recorded. -/
def Origin.recordedAgent (o : Origin) : Option String :=
  (o.agent.filter (· != "")).map fun s => String.ofList (s.toList.take maxAgentLength)

end Signpost.Audit
