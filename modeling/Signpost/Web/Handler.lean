import Signpost.Service.Management
import Signpost.Service.Redirection
import Signpost.Web.Exchange
import Signpost.Web.Health
import Signpost.Web.Route

/-!
# Handling requests

How each request is answered. What a management request needs is looked at in a fixed order: whether
the body is a document at all, then whether it says who asks, then the headers, the numbers in the
path and the body, all of whose faults are told at once. Only then is the task done.
-/

namespace Signpost.Web

/-! ## Orders -/

/-- How the body of a request is taken. -/
inductive BodyRule (α : Type)
  | ignored (a : α)
  | document (rule : Check.Rule α)

/-- What the body of a request is worth: a value or faults, or nothing that could be told. -/
inductive Taken (α : Type)
  | found (checked : Check.Checked α)
  | untellable

/-- Takes the body of a request, or tells what is wrong with its form. -/
def BodyRule.take {α : Type} (rule : BodyRule α) (r : Request) : Except Response (Taken α) :=
  let place : List Check.Step := [.field "body"]
  match rule with
  | .ignored a => .ok (.found (.passed a))
  | .document rule =>
    match r.readBody with
    | .absent => .ok (.found (.fault place .missing .null))
    | .document j => .ok (.found (rule place j))
    | .octets => .ok .untellable
    | .malformed defect position =>
      .error (.invalid [⟨place ++ [.item position], .unreadableBody defect.message, .obj []⟩])
    | .unreadable => .error .unreadableBody

/-- What a management request comes to once nothing is wrong with it: who asks, the numbers in its
path, and its body. -/
structure Order (π α : Type) where
  caller : Manage.Caller
  place : π
  body : α

/-- The order that a request gives, or the response that says what is wrong with it. -/
def order {π α : Type} (r : Request) (place : Check.Checked π) (rule : BodyRule α) :
    Except Response (Order π α) :=
  match rule.take r with
  | .error bad => .error bad
  | .ok taken =>
    let given (who : Check.Checked Requester) : Except Response (Order π α) :=
      match taken with
      | .untellable => .error .internalError
      | .found body =>
        match (fun who => Order.mk ⟨who, r.origin⟩) <$> who <*> place <*> body with
        | .passed o => .ok o
        | .failed faults => .error (.invalid faults)
    match r.requester with
    | .passed none => .error .noRequester
    | .passed (some who) => given (.passed who)
    | .failed faults => given (.failed faults)

/-- A number in the path. -/
def pathNumber (name text : String) : Check.Checked Int :=
  Check.integerFrom 1 [.field "path", .field name] (.str text)

/-- The number of a link in the path. -/
def linkNumber (link : String) : Check.Checked Int :=
  pathNumber "url_id" link

/-- The numbers of a link and of one of its rules in the path. -/
def ruleNumbers (link rule : String) : Check.Checked (Int × Int) :=
  Prod.mk <$> linkNumber link <*> pathNumber "rule_id" rule

/-! ## Responses -/

/-- The response to a task that came to its end or did not. -/
def respond {α : Type} (response : α → Response) (o : Outcome α) : Response × Service :=
  match o with
  | (.ok a, s) => (response a, s)
  | (.error f, s) => (.failure f, s)

/-- Does what a management request asks for. -/
def manage {π α β : Type} (s : Service) (r : Request) (place : Check.Checked π)
    (rule : BodyRule α) (response : β → Response) (task : Order π α → Outcome β) :
    Response × Service :=
  match order r place rule with
  | .error bad => (bad, s)
  | .ok o => respond response (task o)

/-- The response that shows a rule. -/
def showRule (ceiling : Ceiling) (status : Nat) (r : Rule) : Response :=
  if r.isTooTall ceiling then .internalError else .ofJson status r.toJson

/-- The response that lists rules. -/
def showListing (ceiling : Ceiling) (l : RuleListing) : Response :=
  if l.entries.any (·.rule.isTooTall ceiling) then .internalError else .ofJson 200 l.toJson

/-- Answers a request that goes to an endpoint with some values in its path. -/
def serve (s : Service) (facts : Visit.Facts) (r : Request) (e : Endpoint)
    (values : List String) : Response × Service :=
  let most := Service.defaultMaxRules
  let link := linkNumber (values.getD 0 "")
  let rule := ruleNumbers (values.getD 0 "") (values.getD 1 "")
  match e with
  | .listRules =>
    manage s r link (.ignored ()) (showListing s.ceiling) fun o =>
      s.listRules o.place o.caller.requester
  | .createRule =>
    manage s r link (.document (RuleDraft.check .attributes)) (showRule s.ceiling 201) fun o =>
      s.createRule most o.place o.caller o.body
  | .createFromTemplate =>
    manage s r link (.document (TemplateUse.check .attributes)) (showRule s.ceiling 201) fun o =>
      s.createFromTemplate most o.place o.caller o.body
  | .findRule =>
    manage s r rule (.ignored ()) (showRule s.ceiling 200) fun o =>
      s.findRule o.place.1 o.place.2 o.caller.requester
  | .updateRule =>
    manage s r rule (.document (RuleChanges.check .attributes)) (showRule s.ceiling 200) fun o =>
      s.updateRule o.place.1 o.place.2 o.caller o.body
  | .deleteRule =>
    manage s r rule (.ignored ()) (fun _ => .noContent) fun o =>
      s.deleteRule o.place.1 o.place.2 o.caller
  | .updateSettings =>
    manage s r link (.document (LinkSettings.check .attributes))
      (fun l : Link => .ofJson 200 l.settingsJson) fun o =>
        s.updateSettings o.place o.caller o.body
  | .listTemplates =>
    (.ofJson 200 (.obj [("templates", .arr (Template.catalogue.map Template.toJson))]), s)
  | .health => (.ofJson 200 s.health, s)
  | .liveness => (.ofJson 200 (.obj [("alive", .bool true)]), s)
  | .follow =>
    respond (fun d : Redirection => .redirect d.targetUrl)
      (s.resolve (values.getD 0 "") (r.visit.visitor s.now facts))

/-- Sends a request where it goes. -/
def dispatch (s : Service) (facts : Visit.Facts) (r : Request) : Response × Service :=
  match destination r.method r.path with
  | .endpoint e values => serve s facts r e values
  | .wrongMethod => (.wrongMethod, s)
  | .elsewhere path => ({ Response.redirect (r.address path) with tellsAddress := true }, s)
  | .nowhere => (.notFound, s)

/-- The response to a request. One that only asks leave goes nowhere. -/
def respondTo (s : Service) (facts : Visit.Facts) (r : Request) : Response × Service :=
  match r.leaveSought? with
  | some method => (.leave method, s)
  | none => dispatch s facts r

/-- Answers a request. Where its address has to be told, its query has to be a text. -/
def handle (s : Service) (facts : Visit.Facts) (r : Request) : Reply × Service :=
  match respondTo s facts r with
  | (response, s) =>
    match (if response.tellsAddress then Text.illFormed? r.queryOctets else none) with
    | some defect => (.unreadableAddress defect, s)
    | none => (.response response, s)

end Signpost.Web
