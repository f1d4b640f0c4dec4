import Mathlib
import Signpost.Proofs.FailedTasks
import Signpost.Proofs.FirstMatch
import Signpost.Web.Handler

/-!
# What a client is told when the store fails

A request that changes a link or its rules asks the store a few things and has
them committed. Should the store fail any of that, an entry of the audit trail
aside, then the client is told so, with the status and the code that say that
trying again may help. It makes no difference which of the five things the
request asks for and which query was failed: the request comes down to a task
(`Web.ordered?`), and a task that the store fails ends in one way.

A visitor who follows a slug is not told. Once the link is known, the rules are
all that the store is asked for, and where it fails to give them the visitor is
sent to the fallback of the link.
-/

namespace Signpost

namespace Web

open Manage (Caller Task)

/-! ## Requests and their tasks -/

/-- The task that a request orders, if nothing is wrong with the request and it
goes where something is changed. -/
def ordered? (r : Request) (values : List String) : Endpoint → Option (Caller × Task)
  | .createRule =>
    (order r (linkNumber (values.getD 0 ""))
      (.document (RuleDraft.check .attributes))).toOption.map fun o =>
        (o.caller, .createRule o.place o.body)
  | .createFromTemplate =>
    (order r (linkNumber (values.getD 0 ""))
      (.document (TemplateUse.check .attributes))).toOption.map fun o =>
        (o.caller, .createFromTemplate o.place o.body)
  | .updateRule =>
    (order r (ruleNumbers (values.getD 0 "") (values.getD 1 ""))
      (.document (RuleChanges.check .attributes))).toOption.map fun o =>
        (o.caller, .updateRule o.place.1 o.place.2 o.body)
  | .deleteRule =>
    (order r (ruleNumbers (values.getD 0 "") (values.getD 1 ""))
      (.ignored ())).toOption.map fun o =>
        (o.caller, .deleteRule o.place.1 o.place.2)
  | .updateSettings =>
    (order r (linkNumber (values.getD 0 ""))
      (.document (LinkSettings.check .attributes))).toOption.map fun o =>
        (o.caller, .updateSettings o.place o.body)
  | _ => none

variable {s : Service} {facts : Visit.Facts} {r : Request}
  {e : Endpoint} {values : List String} {f : Failure}

theorem respond_error {α : Type} {response : α → Response} {o : Outcome α}
    (h : o.1 = .error f) : (respond response o).1 = .failure f := by
  obtain ⟨result, s'⟩ := o
  obtain rfl : result = .error f := h
  rfl

theorem manage_error {π α β : Type} {place : Check.Checked π}
    {rule : BodyRule α} {response : β → Response} {task : Order π α → Outcome β}
    {o : Order π α} (ho : (order r place rule).toOption = some o)
    (h : (task o).1 = .error f) :
    (manage s r place rule response task).1 = .failure f := by
  cases horder : order r place rule with
  | error bad => rw [horder] at ho; cases ho
  | ok o' =>
      rw [horder] at ho
      cases ho
      rw [manage, horder]
      exact respond_error h

theorem error_of_map {α β : Type} {g : α → β} {x : Except Failure α}
    (h : x.map g = .error f) : x = .error f := by
  cases x with
  | error e => cases h; rfl
  | ok a => cases h

/-- A request is answered with what its task failed with. -/
theorem serve_ordered {c : Caller} {t : Task}
    (ht : ordered? r values e = some (c, t))
    (h : s.ending Service.defaultMaxRules c t = .error f) :
    (serve s facts r e values).1 = .failure f := by
  cases e with
  | createRule | createFromTemplate | updateRule | updateSettings =>
      obtain ⟨o, ho, heq⟩ := Option.map_eq_some_iff.mp ht
      cases heq
      exact manage_error ho (error_of_map h)
  | deleteRule =>
      obtain ⟨o, ho, heq⟩ := Option.map_eq_some_iff.mp ht
      cases heq
      exact manage_error ho h
  | listRules | findRule | listTemplates | health | liveness | follow => cases ht

/-! ## Requests that reach an endpoint -/

/-- A request reaches an endpoint by a route that has its method. -/
theorem route_of_destination {method path : String}
    (h : destination method path = .endpoint e values) :
    ∃ route ∈ Route.all, route.methods.contains method = true := by
  rw [destination] at h
  dsimp only at h
  split at h
  · next route found hfind =>
      have hmem := List.mem_of_find?_eq_some hfind
      obtain ⟨route', hroute', hvalues⟩ := List.mem_filterMap.mp hmem
      obtain ⟨_, -, heq⟩ := Option.map_eq_some_iff.mp hvalues
      cases heq
      have hmethod := List.find?_some hfind
      exact ⟨route, hroute', hmethod⟩
  · cases h
  · split at h
    · cases h
    · cases h

/-- Such a request asks for more than leave. -/
theorem leaveSought?_of_destination
    (h : destination r.method r.path = .endpoint e values) :
    r.leaveSought? = none := by
  obtain ⟨route, hroute, hmethod⟩ := route_of_destination h
  have hall : ∀ route ∈ Route.all, route.methods.contains "OPTIONS" = false := by
    decide
  rw [Request.leaveSought?, if_neg]
  rintro ⟨hoptions, -⟩
  rw [hoptions, hall route hroute] at hmethod
  cases hmethod

theorem illFormed?_of_noQuery (h : r.queryOctets = []) :
    Text.illFormed? r.queryOctets = none := by
  rw [h, Text.illFormed?, Text.illFormedFrom]

theorem handle_response {response : Response}
    (hroute : destination r.method r.path = .endpoint e values)
    (h : (serve s facts r e values).1 = response)
    (htell : response.tellsAddress = true → Text.illFormed? r.queryOctets = none) :
    (handle s facts r).1 = .response response := by
  have hrespond : respondTo s facts r = serve s facts r e values := by
    rw [respondTo, leaveSought?_of_destination hroute]
    dsimp only
    rw [dispatch, hroute]
  have hdefect : (if response.tellsAddress then
      Text.illFormed? r.queryOctets else none) = none := by
    split
    · next htells => exact htell htells
    · rfl
  rw [handle, hrespond]
  dsimp only
  rw [h, hdefect]

/-! ## What the client is told -/

/-- The answer that says that the store failed and may be tried again. -/
def SaysTryAgain (reply : Reply) : Prop :=
  ∃ response, reply = .response response ∧ response.status = 503 ∧
    response.body.get? "error_code" = some (.str "STORE_UNAVAILABLE")

/-- The answer that sends a visitor to an address. -/
def SendsTo (target : String) (reply : Reply) : Prop :=
  ∃ response, reply = .response response ∧ response.status = 307 ∧
    response.location = some (String.ofList (Text.percentEncode target.toList))

/-- A request that is told in records has to have a query that is a text; then
a task that the store fails is answered with the refusal to try again. -/
theorem saysTryAgain_of_failed {c : Caller} {t : Task}
    {p : Plan (Link × Option RuleEvent)} {f : StoreFailure}
    (hroute : destination r.method r.path = .endpoint e values)
    (hquery : Text.illFormed? r.queryOctets = none)
    (ht : ordered? r values e = some (c, t))
    (hp : t.plan? Service.defaultMaxRules s.now c = some p)
    (hfailed : p.IsFailed s.now s.store f) (hown : f.isOwn = true) :
    SaysTryAgain (handle s facts r).1 := by
  have hresult : (s.transact p).1 = .error (.store f) := hfailed.transact
  have hended := (Service.endsWith_plan hp).1 _ hresult
  rw [Failure.during, if_pos hown] at hended
  exact ⟨_, handle_response hroute (serve_ordered ht hended) fun _ => hquery,
    rfl, rfl⟩

/-- Where the store fails to give the rules, there are none to pick from. -/
theorem pickRule_of_failed {s : Service} {link : Int} {v : Visitor}
    {f : StoreFailure} (hcache : s.cache.rules? link = .ok none)
    (hask : (s.store.ask s.now (.activeRulesOf link)).1 = .error f) :
    (s.pickRule link v).1 = .error (.store f) := by
  have hasked : s.store.ask s.now (.activeRulesOf link) = (.error f, _) :=
    Prod.ext hask rfl
  have hrules : (s.activeRules link).1 = .error (.store f) := by
    rw [Service.activeRules, hcache]
    dsimp only
    rw [Service.consult, Plan.query, Plan.run, hasked]
    rfl
  rw [Service.pickRule_of_activeRules_error (Prod.ext hrules rfl)]

/-- And a visitor of a link whose rules cannot be picked from is sent to its
fallback. -/
theorem resolve_of_failed {slug : String} {v : Visitor} {entry : LinkEntry}
    {s₁ : Service} (hlink : s.findLink slug = (.ok entry, s₁))
    (hsmart : entry.isSmartRouting = true)
    (hpick : (s₁.pickRule entry.id v).1 = .error f) :
    (s.resolve slug v).1 =
      .ok ⟨Service.fallbackUrl entry, entry.id, .inl .evaluationFailed⟩ := by
  have hpicked : s₁.pickRule entry.id v = (.error f, _) := Prod.ext hpick rfl
  rw [Service.resolve, hlink]
  dsimp only
  rw [if_pos hsmart, hpicked]

theorem serve_follow {d : Redirection}
    (h : (s.resolve (values.getD 0 "") (r.visit.visitor s.now facts)).1 = .ok d) :
    (serve s facts r .follow values).1 = .redirect d.targetUrl := by
  have hresolved : s.resolve (values.getD 0 "") (r.visit.visitor s.now facts) =
      (.ok d, _) := Prod.ext h rfl
  rw [serve, hresolved]
  rfl

theorem sendsTo_of_failed {entry : LinkEntry} {s₁ : Service} {f : StoreFailure}
    (hroute : destination r.method r.path = .endpoint .follow values)
    (hlink : s.findLink (values.getD 0 "") = (.ok entry, s₁))
    (hsmart : entry.isSmartRouting = true)
    (hcache : s₁.cache.rules? entry.id = .ok none)
    (hask : (s₁.store.ask s₁.now (.activeRulesOf entry.id)).1 = .error f)
    (hurl : Text.isWellFormed (Service.fallbackUrl entry).toList = true) :
    SendsTo (Service.fallbackUrl entry) (handle s facts r).1 := by
  have hserve : (serve s facts r .follow values).1 =
      .redirect (Service.fallbackUrl entry) :=
    serve_follow (resolve_of_failed hlink hsmart (pickRule_of_failed hcache hask))
  rw [Response.redirect, if_pos hurl] at hserve
  exact ⟨_, handle_response hroute hserve nofun, rfl, rfl⟩

/-- A request that changes a link or its rules, and that the store fails at any
of its queries but the one that records it, or at the commit, is answered that
the store is not available. And a visitor whose link is known is sent to its
fallback when the store fails to give the rules. -/
theorem told_of_failed (s : Service) (facts : Visit.Facts) (r : Request)
    (values : List String) :
    (∀ (e : Endpoint) (c : Caller) (t : Task) (p : Plan (Link × Option RuleEvent))
        (f : StoreFailure),
      destination r.method r.path = .endpoint e values →
      Text.illFormed? r.queryOctets = none →
      ordered? r values e = some (c, t) →
      t.plan? Service.defaultMaxRules s.now c = some p →
      p.IsFailed s.now s.store f → f.isOwn = true →
      SaysTryAgain (handle s facts r).1) ∧
    ∀ (entry : LinkEntry) (s₁ : Service) (f : StoreFailure),
      destination r.method r.path = .endpoint .follow values →
      s.findLink (values.getD 0 "") = (.ok entry, s₁) →
      entry.isSmartRouting = true → s₁.cache.rules? entry.id = .ok none →
      (s₁.store.ask s₁.now (.activeRulesOf entry.id)).1 = .error f →
      Text.isWellFormed (Service.fallbackUrl entry).toList = true →
      SendsTo (Service.fallbackUrl entry) (handle s facts r).1 :=
  ⟨fun _ _ _ _ _ => saysTryAgain_of_failed, fun _ _ _ => sendsTo_of_failed⟩

/-- The service with one link and its rule, whose store will fail once at a
point. -/
def failingAt (point : StorePoint) : Service :=
  { Service.withRule with
    store := Service.withRule.store.arrange ⟨point, 1, some .repository, [], none⟩ }

/-- A request of the owner for the rules of the link. -/
def listing : Request :=
  ⟨"GET", "/api/urls/1/routing-rules", ⟨[("x-user-id", "1")], ""⟩, "", none⟩

/-- A request of the owner to delete the rule. -/
def deletion : Request :=
  ⟨"DELETE", "/api/urls/1/routing-rules/1", ⟨[("x-user-id", "1")], ""⟩, "", none⟩

/-- A visitor who follows the slug. -/
def following : Request :=
  ⟨"GET", "/go", ⟨[], ""⟩, "", none⟩

/-- The rule was found when the store failed to delete it, and the link was when
the store failed to give its rules. -/
theorem told_of_failed_deletion :
    SaysTryAgain (handle (failingAt .deleteRule) ⟨fun _ => .unknown, .recorded⟩ deletion).1 ∧
    SendsTo "https://a.example.com"
      (handle (failingAt .activeRulesOf) ⟨fun _ => .unknown, .recorded⟩ following).1 := by
  have hfailed : Plan.IsFailed ⟨0⟩ (Task.told .deleted Service.owner <$>
      Manage.deleteRule 1 1 Service.owner) (failingAt .deleteRule).store
      (.arranged .repository) :=
    .later rfl (.later rfl (.query rfl rfl))
  have hdeletion := (told_of_failed (failingAt .deleteRule) ⟨fun _ => .unknown, .recorded⟩
    deletion ["1", "1"]).1 .deleteRule Service.owner (.deleteRule 1 1) _ _
    (by decide +kernel) (illFormed?_of_noQuery rfl) rfl rfl hfailed rfl
  have hfollowing := (told_of_failed (failingAt .activeRulesOf) ⟨fun _ => .unknown, .recorded⟩
    following ["go"]).2 _ _ (.arranged .repository) (by decide +kernel) rfl rfl rfl
    rfl (by decide +kernel)
  exact ⟨hdeletion, hfollowing⟩

/-- An entry of the audit trail that the store fails to take is passed over, and
the request ends well. And where the store fails to give the rules to somebody
who lists them, nothing is said of the store. -/
theorem not_told_of_failed :
    (handle (failingAt .recordAudit) ⟨fun _ => .unknown, .recorded⟩ deletion).1 =
      .response .noContent ∧
    (handle (failingAt .rulesOf) ⟨fun _ => .unknown, .recorded⟩ listing).1 =
      .response .internalError := by
  have hroute : destination listing.method listing.path =
      .endpoint .listRules ["1"] := by decide +kernel
  exact ⟨rfl, handle_response hroute rfl fun _ => illFormed?_of_noQuery rfl⟩

end Web

end Signpost
