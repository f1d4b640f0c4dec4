import Signpost.Manage
import Signpost.Service.Basic
import Signpost.Service.Listing
import Signpost.Template

/-!
# Management

The tasks of managing links and rules, end to end. A destination that is not public is refused
before anything else. A task runs as one transaction; only when that is committed are the link's
entries cleared from the cache and the event announced, so that no redirect refills the cache with
rows that were never committed, and a task that fails leaves no trace. A rule whose count is no
number any more can be changed but not shown.
-/

namespace Signpost.Service

/-- The most rules that a link may have when nothing else is said. -/
def defaultMaxRules : Int := 50

/-- The service without what its cache holds of a link. -/
def forgetLink (s : Service) (l : Link) : Service :=
  { s with cache := s.cache.delete [Cache.rulesKey (toString l.id), Cache.slugKey l.slug] }

/-- The service after announcing an event. -/
def announce (s : Service) (e : RuleEvent) : Service :=
  { s with events := s.events ++ [e] }

/-- Does a task whose destination, if it has one, has to be public. -/
def guarded {α : Type} (s : Service) (target : Option String) (task : Service → Outcome α) :
    Outcome α :=
  match target with
  | some t => if Net.isSafeUrl t then task s else (.error (.refused .internalTarget), s)
  | none => task s

/-- A rule as it is shown. -/
def shown (r : Rule) : Except Failure Rule :=
  r.checked.toExcept.mapError Failure.invalid

/-- Does a task on a rule of a link and announces it. -/
def onRule (s : Service) (task : StoreTask) (kind : RuleEvent.Kind) (who : Requester)
    (p : Plan (Link × Rule)) : Outcome Rule :=
  match s.transact p with
  | (.error f, s) => (.error (f.during task), s)
  | (.ok (l, r), s) =>
    (shown r, (s.forgetLink l).announce (.about kind r l.id who.userId))

/-- Adds a rule to a link that has fewer than `most`. -/
def createRule (s : Service) (most : Int) (link : Int) (c : Manage.Caller) (d : RuleDraft) :
    Outcome Rule :=
  s.guarded (some d.targetUrl) fun s =>
    s.onRule .createRule .created c.requester (Manage.createRule most s.now link c d)

/-- Adds a rule whose conditions come from a template. -/
def createFromTemplate (s : Service) (most : Int) (link : Int) (c : Manage.Caller)
    (use : TemplateUse) : Outcome Rule :=
  match Template.find? use.key with
  | none => (.error (.refused (.templateNotFound use.key)), s)
  | some t =>
    match t.draft use with
    | .failed faults => (.error (.invalid faults), s)
    | .passed d => s.createRule most link c d

/-- Changes a rule. -/
def updateRule (s : Service) (link rule : Int) (c : Manage.Caller) (changes : RuleChanges) :
    Outcome Rule :=
  s.guarded changes.targetUrl.toOption fun s =>
    s.onRule .updateRule .updated c.requester (Manage.updateRule link rule c changes)

/-- Deletes a rule. -/
def deleteRule (s : Service) (link rule : Int) (c : Manage.Caller) : Outcome Unit :=
  match s.transact (Manage.deleteRule link rule c) with
  | (.error f, s) => (.error (f.during .deleteRule), s)
  | (.ok (l, r), s) =>
    (.ok (), (s.forgetLink l).announce (.about .deleted r l.id c.requester.userId))

/-- Changes the settings of a link, which is not announced. -/
def updateSettings (s : Service) (link : Int) (c : Manage.Caller) (settings : LinkSettings) :
    Outcome Link :=
  s.guarded settings.defaultUrl.toOption fun s =>
    match s.transact (Manage.updateSettings link c settings) with
    | (.error f, s) => (.error (f.during .updateSettings), s)
    | (.ok l, s) => (.ok l, s.forgetLink l)

/-- Lists the rules of a link in evaluation order with their shares. -/
def listRules (s : Service) (link : Int) (who : Requester) : Outcome RuleListing :=
  match s.consult (Manage.rules link who) with
  | (.error f, s) => (.error f, s)
  | (.ok rules, s) => (rules.mapM shown >>= fun rules =>
      (RuleListing.ofRules rules).mapError Failure.overflow, s)

/-- One rule of a link. -/
def findRule (s : Service) (link rule : Int) (who : Requester) : Outcome Rule :=
  match s.consult (Manage.rule link rule who) with
  | (.error f, s) => (.error f, s)
  | (.ok r, s) => (shown r, s)

end Signpost.Service
