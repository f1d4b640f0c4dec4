import Mathlib
import Signpost.Event

/-!
# Every event reaches its handlers once

Handlers come and go between the emissions, some of them fail when they are
called, and an emission finds a running loop or it does not. What an emission
owes hangs on the subscriptions that stand at its moment alone: its payload to
each handler once for each subscription, except that a handler which needs a
loop is passed over where there is none. What is owed is delivered on the spot
or scheduled, and what is scheduled is delivered at the next drain, so nothing
is lost on the way and nothing is delivered twice.

A handler that fails is caught where it is called. The deliveries after it are
made, the emitter is told a number, and no failure gets through to anybody.

The number is that of the subscriptions. It is the number of the deliveries
too, unless handlers were passed over for want of a loop.
-/

namespace Signpost

/-! ## Handlers that fail -/

namespace Calling

/-- A failure is caught, and the delivery was made. -/
theorem run_attempt (d : Delivery) (made : List Delivery) :
    (attempt d).run.run made = (.ok (), made ++ [d]) := by
  rw [attempt, call]
  split
  · rfl
  · rfl

theorem run_attemptAll (ds : List Delivery) : ∀ made : List Delivery,
    (attemptAll ds).run.run made = (.ok (), made ++ ds) := by
  induction ds with
  | nil => intro made; rw [List.append_nil]; rfl
  | cons d rest ih =>
      intro made
      rw [attemptAll, ExceptT.run_bind, StateT.run_bind, run_attempt]
      exact (ih (made ++ [d])).trans (by rw [List.append_assoc]; rfl)

/-- Whichever handlers fail, all of them are called. -/
theorem outcome_attemptAll (ds : List Delivery) :
    (attemptAll ds).outcome = (.ok (), ds) :=
  run_attemptAll ds []

end Calling

/-! ## Histories -/

namespace Hub

/-- What is done with a hub. -/
inductive Act
  | subscribe (event : String) (handler : Handler)
  | unsubscribe (event : String) (handler : Handler)
  | emit (hasLoop : Bool) (event : String) (payload : Json)
  /-- The loop gets to what is scheduled. -/
  | drain

/-- The subscription that an act adds. -/
def Act.added? : Act → Option (String × Handler)
  | subscribe event handler => some (event, handler)
  | _ => none

/-- The subscription that an act takes back. -/
def Act.takenBack? : Act → Option (String × Handler)
  | unsubscribe event handler => some (event, handler)
  | _ => none

/-- A hub, and the deliveries that were made so far. -/
structure Course where
  hub : Hub
  made : List Delivery

def Course.step (c : Course) : Act → Course
  | .subscribe event handler => ⟨c.hub.subscribe event handler, c.made⟩
  | .unsubscribe event handler => ⟨c.hub.unsubscribe event handler, c.made⟩
  | .emit hasLoop event payload =>
    let e := c.hub.emit hasLoop event payload
    ⟨e.hub, c.made ++ e.delivered⟩
  | .drain => ⟨c.hub.drain.1, c.made ++ c.hub.drain.2⟩

/-- A new hub after some acts. -/
def run (acts : List Act) : Course :=
  acts.foldl Course.step ⟨.empty, []⟩

/-! ## What emissions owe -/

/-- How many subscriptions of a handler to an event stand after some acts. One
that does not stand cannot be taken back. -/
def standing (event : String) (handler : Handler) (acts : List Act) : Nat :=
  acts.foldl (fun n act =>
    if act.added? = some (event, handler) then n + 1
    else if act.takenBack? = some (event, handler) then n - 1
    else n) 0

/-- How often a handler was subscribed to an event. -/
def subscribed (event : String) (handler : Handler) (acts : List Act) : Nat :=
  acts.countP fun act => act.added? = some (event, handler)

/-- How often a subscription of a handler to an event was taken back. -/
def unsubscribed (event : String) (handler : Handler) (acts : List Act) : Nat :=
  acts.countP fun act => act.takenBack? = some (event, handler)

/-- What an emission after some acts owes: its payload to each handler of the
event, once for each subscription that stands. Without a loop that is the
handlers which do without. -/
structure IsOwed (acts : List Act) (hasLoop : Bool) (event : String)
    (payload : Json) (ds : List Delivery) : Prop where
  payload : ∀ d ∈ ds, d.payload = payload
  count : ∀ handler : Handler, (ds.map (·.handler)).count handler =
    if hasLoop = true ∨ handler.needsLoop = false then
      standing event handler acts
    else 0

/-- What all emissions among some acts owe, each at its moment. -/
inductive Owed : List Act → List Delivery → Prop
  | start : Owed [] []
  | emit {acts : List Act} {ds all : List Delivery} {hasLoop : Bool}
      {event : String} {payload : Json} (h : Owed acts all)
      (hds : IsOwed acts hasLoop event payload ds) :
      Owed (acts ++ [Act.emit hasLoop event payload]) (all ++ ds)
  | subscribe {acts : List Act} {all : List Delivery} (event : String)
      (handler : Handler) (h : Owed acts all) :
      Owed (acts ++ [Act.subscribe event handler]) all
  | unsubscribe {acts : List Act} {all : List Delivery} (event : String)
      (handler : Handler) (h : Owed acts all) :
      Owed (acts ++ [Act.unsubscribe event handler]) all
  | drain {acts : List Act} {all : List Delivery} (h : Owed acts all) :
      Owed (acts ++ [Act.drain]) all

variable {h : Hub} {acts : List Act} {hasLoop : Bool} {event : String}
  {handler : Handler} {payload : Json}

theorem run_concat (acts : List Act) (act : Act) :
    run (acts ++ [act]) = (run acts).step act :=
  List.foldl_concat Course.step _ act acts

theorem standing_concat (acts : List Act) (act : Act) :
    standing event handler (acts ++ [act]) =
      if act.added? = some (event, handler) then
        standing event handler acts + 1
      else if act.takenBack? = some (event, handler) then
        standing event handler acts - 1
      else standing event handler acts := by
  rw [standing, List.foldl_concat]
  rfl

theorem subscribed_concat (acts : List Act) (act : Act) :
    subscribed event handler (acts ++ [act]) =
      subscribed event handler acts +
        if act.added? = some (event, handler) then 1 else 0 := by
  rw [subscribed, List.countP_append, List.countP_singleton]
  simp only [decide_eq_true_eq]
  rfl

theorem unsubscribed_concat (acts : List Act) (act : Act) :
    unsubscribed event handler (acts ++ [act]) =
      unsubscribed event handler acts +
        if act.takenBack? = some (event, handler) then 1 else 0 := by
  rw [unsubscribed, List.countP_append, List.countP_singleton]
  simp only [decide_eq_true_eq]
  rfl

/-! ## The subscriptions that stand -/

theorem count_handlersOf (h : Hub) (event : String) (handler : Handler) :
    (h.handlersOf event).count handler =
      h.subscriptions.count (event, handler) := by
  rw [handlersOf, List.count_eq_countP, List.countP_map, List.countP_filter,
    List.count_eq_countP]
  refine List.countP_congr fun x _ => ?_
  simp only [Function.comp_apply, Bool.and_eq_true, beq_iff_eq, Prod.ext_iff]
  exact and_comm

/-- The hub knows each handler as often as its subscriptions stand. -/
theorem count_subscriptions (acts : List Act) (event : String)
    (handler : Handler) :
    (run acts).hub.subscriptions.count (event, handler) =
      standing event handler acts := by
  induction acts using List.reverseRecOn with
  | nil => rfl
  | append_singleton acts act ih =>
      rw [run_concat, standing_concat, ← ih]
      cases act with
      | subscribe event' handler' =>
          simp only [Course.step, Hub.subscribe, Act.added?, Act.takenBack?,
            List.count_append, List.count_singleton, beq_iff_eq,
            Option.some.injEq, reduceCtorEq, if_false]
          split
          · rfl
          · rfl
      | unsubscribe event' handler' =>
          simp only [Course.step, Hub.unsubscribe, Act.added?, Act.takenBack?,
            List.count_erase, beq_iff_eq, Option.some.injEq, reduceCtorEq,
            if_false]
          split
          · rfl
          · rfl
      | emit hasLoop event' payload =>
          cases hasLoop with
          | true => rfl
          | false => rfl
      | drain => rfl

/-- As long as only what stands is taken back, what stands is the difference. -/
theorem standing_add_unsubscribed
    (h : ∀ before, before <+: acts →
      unsubscribed event handler before ≤ subscribed event handler before) :
    standing event handler acts + unsubscribed event handler acts =
      subscribed event handler acts := by
  induction acts using List.reverseRecOn with
  | nil => rfl
  | append_singleton acts act ih =>
      have hbefore := ih fun before hb => h before (hb.trans (List.prefix_append ..))
      have hafter := h _ List.prefix_rfl
      rw [subscribed_concat, unsubscribed_concat] at hafter
      rw [standing_concat, subscribed_concat, unsubscribed_concat]
      cases act with
      | subscribe event' handler' =>
          by_cases heq : some (event', handler') = some (event, handler)
          · simp only [Act.added?, Act.takenBack?, heq, if_true, reduceCtorEq,
              if_false]
            omega
          · simpa only [Act.added?, Act.takenBack?, heq, reduceCtorEq, if_false]
      | unsubscribe event' handler' =>
          by_cases heq : some (event', handler') = some (event, handler)
          · simp only [Act.added?, Act.takenBack?, heq, if_true, reduceCtorEq,
              if_false] at hafter ⊢
            omega
          · simpa only [Act.added?, Act.takenBack?, heq, reduceCtorEq, if_false]
      | emit | drain => exact hbefore

/-! ## Emissions -/

/-- The deliveries that an emission makes or schedules. -/
def due (h : Hub) (hasLoop : Bool) (event : String) (payload : Json) :
    List Delivery :=
  ((h.handlersOf event).filter fun handler => hasLoop || !handler.needsLoop).map
    fun handler => ⟨handler, payload⟩

/-- Whichever handlers fail, what is due is scheduled, and the number of the
subscriptions is told. -/
theorem emit_loop (h : Hub) (event : String) (payload : Json) :
    h.emit true event payload =
      ⟨{ h with scheduled := h.scheduled ++ h.due true event payload },
        .ok (h.handlersOf event).length, []⟩ := by
  simp only [emit, due, Bool.true_or, List.filter_true, if_true]

/-- Without a loop what is due is delivered on the spot. -/
theorem emit_noLoop (h : Hub) (event : String) (payload : Json) :
    h.emit false event payload =
      ⟨h, .ok (h.handlersOf event).length, h.due false event payload⟩ := by
  rw [emit, Calling.outcome_attemptAll, List.filter_map]
  rfl

/-- What is due is what the standing subscriptions ask for. -/
theorem isOwed_due (acts : List Act) (hasLoop : Bool) (event : String)
    (payload : Json) :
    IsOwed acts hasLoop event payload
      ((run acts).hub.due hasLoop event payload) := by
  constructor
  case payload =>
    intro d hd
    obtain ⟨handler, -, rfl⟩ := List.mem_map.mp hd
    rfl
  case count =>
    intro handler
    rw [due, List.map_map, ← count_subscriptions, ← count_handlersOf]
    simp only [Function.comp_def, List.map_id']
    split
    · rename_i hreach
      exact List.count_filter (by simpa using hreach)
    · rename_i hreach
      refine List.count_eq_zero_of_not_mem fun hmem => hreach ?_
      simpa using (List.mem_filter.mp hmem).2

/-- With a loop or without, what is due is made or scheduled. -/
theorem emit_due (h : Hub) (hasLoop : Bool) (event : String) (payload : Json) :
    let e := h.emit hasLoop event payload
    ∃ new, e.delivered ++ new = h.due hasLoop event payload ∧
      e.hub.scheduled = h.scheduled ++ new ∧
      e.told = .ok (h.handlersOf event).length := by
  cases hasLoop with
  | true =>
      rw [emit_loop]
      exact ⟨_, rfl, rfl, rfl⟩
  | false =>
      rw [emit_noLoop]
      exact ⟨[], List.append_nil _, (List.append_nil _).symm, rfl⟩

/-- With a loop, or with handlers that do without, all of them get theirs. -/
theorem length_due
    (h : hasLoop = true ∨
      ∀ handler, 0 < standing event handler acts → handler.needsLoop = false) :
    ((run acts).hub.handlersOf event).length =
      ((run acts).hub.due hasLoop event payload).length := by
  rw [due, List.length_map, List.filter_eq_self.mpr]
  intro handler hmem
  cases h with
  | inl hloop => rw [hloop, Bool.true_or]
  | inr hplain =>
      have hstanding : 0 < standing event handler acts := by
        rw [← count_subscriptions, ← count_handlersOf]
        exact List.count_pos_iff.mpr hmem
      rw [hplain handler hstanding, Bool.not_false, Bool.or_true]

/-- What is owed was delivered or waits for its turn, and nothing else is. -/
theorem made_append_scheduled (acts : List Act) :
    ∃ all, Owed acts all ∧
      ((run acts).made ++ (run acts).hub.scheduled).Perm all := by
  induction acts using List.reverseRecOn with
  | nil => exact ⟨[], .start, .nil⟩
  | append_singleton acts act ih =>
      obtain ⟨all, howed, hperm⟩ := ih
      rw [run_concat]
      cases act with
      | subscribe event handler =>
          exact ⟨all, .subscribe event handler howed, hperm⟩
      | unsubscribe event handler =>
          exact ⟨all, .unsubscribe event handler howed, hperm⟩
      | emit hasLoop event payload =>
          refine ⟨_, .emit howed (isOwed_due acts hasLoop event payload), ?_⟩
          cases hasLoop with
          | true =>
              simp only [Course.step, emit_loop, List.append_nil]
              rw [← List.append_assoc]
              exact hperm.append_right _
          | false =>
              simp only [Course.step, emit_noLoop]
              refine List.Perm.trans ?_ (hperm.append_right _)
              rw [List.append_assoc, List.append_assoc]
              exact List.perm_append_comm.append_left _
      | drain =>
          refine ⟨all, .drain howed, ?_⟩
          simp only [Course.step, drain, Calling.outcome_attemptAll,
            List.append_nil]
          exact hperm

/-- For every course of subscriptions, emissions and drains, whichever handlers
fail and whether a loop runs at an emission or not: the next drain leaves
everything delivered that the emissions owe, each of it once, and nothing else.
An emission makes or schedules its deliveries there and then and answers with a
number, which is that of these deliveries when a loop runs or no handler needs
one. What stands are the subscriptions less those taken back, if there was one
to take back each time. -/
theorem delivers (acts : List Act) :
    (∃ all, Owed acts all ∧ (run (acts ++ [Act.drain])).made.Perm all) ∧
    (∀ (hasLoop : Bool) (event : String) (payload : Json),
      let e := (run acts).hub.emit hasLoop event payload
      ∃ (new : List Delivery) (k : Nat),
        IsOwed acts hasLoop event payload (e.delivered ++ new) ∧
        e.hub.scheduled = (run acts).hub.scheduled ++ new ∧
        e.told = .ok k ∧
        ((hasLoop = true ∨ ∀ handler, 0 < standing event handler acts →
            handler.needsLoop = false) →
          k = (e.delivered ++ new).length)) ∧
    (∀ (event : String) (handler : Handler),
      (∀ before, before <+: acts →
        unsubscribed event handler before ≤ subscribed event handler before) →
      standing event handler acts + unsubscribed event handler acts =
        subscribed event handler acts) := by
  refine ⟨?drained, ?emission, fun event handler => standing_add_unsubscribed⟩
  case drained =>
    obtain ⟨all, howed, hperm⟩ := made_append_scheduled acts
    refine ⟨all, howed, ?_⟩
    rw [run_concat]
    simp only [Course.step, drain, Calling.outcome_attemptAll]
    exact hperm
  case emission =>
    intro hasLoop event payload e
    obtain ⟨new, hnew, hscheduled, htold⟩ := emit_due (run acts).hub hasLoop event payload
    refine ⟨new, _, ?_, hscheduled, htold, fun h => ?_⟩
    · rw [hnew]
      exact isOwed_due acts hasLoop event payload
    · rw [hnew]
      exact length_due h

/-- A handler that fails. -/
def failing : Handler :=
  ⟨"failing", true, true⟩

/-- A handler that does without a loop. -/
def plain : Handler :=
  ⟨"plain", false, false⟩

/-- A handler that needs a loop. -/
def late : Handler :=
  ⟨"late", true, false⟩

/-- The failing handler is subscribed twice and one subscription is taken back. -/
def failingOnce : List Act :=
  [.subscribe "e" failing, .subscribe "e" failing, .subscribe "e" plain,
    .unsubscribe "e" failing]

/-- A subscription is taken back before there is one, and two are made. -/
def lateTwice : List Act :=
  [.unsubscribe "e" late, .subscribe "e" late, .subscribe "e" late]

/-- A handler that fails gets the payload once for the subscription that is left,
and the handler after it gets it too. -/
theorem delivers_to_failing :
    standing "e" failing failingOnce + 1 = 2 ∧
      (∃ k, ((run failingOnce).hub.emit true "e" .null).told = .ok k) ∧
      (∃ all, Owed (failingOnce ++ [Act.emit true "e" .null]) all ∧
        (run (failingOnce ++ [Act.emit true "e" .null] ++ [Act.drain])).made.Perm all) ∧
      (run (failingOnce ++ [Act.emit true "e" .null] ++ [Act.drain])).made =
        [⟨failing, .null⟩, ⟨plain, .null⟩] := by
  obtain ⟨-, hemission, hdifference⟩ := delivers failingOnce
  refine ⟨hdifference "e" failing fun before hb => ?_, ?_,
    (delivers (failingOnce ++ [Act.emit true "e" .null])).1, rfl⟩
  · have hinits := (List.mem_inits before failingOnce).mpr hb
    simp only [failingOnce, List.inits, List.map_cons, List.map_nil, List.mem_cons,
      List.not_mem_nil, or_false] at hinits
    rcases hinits with rfl | rfl | rfl | rfl | rfl
    all_goals decide
  · obtain ⟨_, k, -, -, htold, -⟩ := hemission true "e" .null
    exact ⟨k, htold⟩

/-- Without a loop a handler that needs one is subscribed and gets nothing, and
is counted all the same. Taking back what does not stand changes nothing: two
subscriptions after it are two. -/
theorem not_delivers_noLoop :
    standing "e" late [.subscribe "e" late] = 1 ∧
      ((run [.subscribe "e" late]).hub.emit false "e" .null).delivered = [] ∧
      ((run [.subscribe "e" late]).hub.emit false "e" .null).hub.scheduled = [] ∧
      ((run [.subscribe "e" late]).hub.emit false "e" .null).told = .ok 1 ∧
      subscribed "e" late lateTwice = 2 ∧ unsubscribed "e" late lateTwice = 1 ∧
      (run (lateTwice ++ [.emit true "e" .null, .drain])).made =
        [⟨late, .null⟩, ⟨late, .null⟩] :=
  ⟨by decide, rfl, rfl, rfl, by decide, by decide, rfl⟩

end Hub

end Signpost
