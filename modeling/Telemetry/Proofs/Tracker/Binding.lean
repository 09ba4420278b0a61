import Telemetry.Queue.Run
import Telemetry.Proofs.Queue.Operations
import Telemetry.Tracker

/-!
Contract: when the queue of a tracker has a transport to hand batches to.

Owns:
- `Tracker.Steps`, what a tracker and its site become through any sequence of
  activations, changes of usability and tracked events;
- `Tracker.Linked`: the queue is bound exactly if the transport was usable at
  one of the activations.

Usability is looked at twice. A queue is bound when its tracker is switched on
and the transport is usable then; an event is pushed when the transport is
usable at that later moment. A transport that becomes usable in between gets no
event until the tracker is switched off and on again.
-/

namespace Telemetry

namespace Tracker

/-- Whether the transport is usable when the tracker is switched on, listed only if it
really is switched on. -/
def activations (tracker : Tracker) (active : Bool) (site : Site) : List Bool :=
  if active && !tracker.active then
    [tracker.transport.any (Transport.isUsable (tracker.chain.startAll site.scene))]
  else []

/-- The activation that is part of building an active tracker. -/
def openingActivations (plan : Plan) (site : Site) : List Bool :=
  match build { plan with active := false } site with
  | (.ok tracker, site) => tracker.activations plan.active site
  | (.error _, _) => []

/-- One call of a tracker, or something else that happens at its site. -/
inductive Step : Tracker × Site → List Bool → Tracker × Site → Prop where
  | setActive (tracker : Tracker) (site : Site) (active : Bool) :
      Step (tracker, site) (tracker.activations active site) (tracker.setActive active site)
  | track (tracker : Tracker) (site : Site) (attributes : EventAttributes) (time : Nat) :
      Step (tracker, site) [] (tracker.track attributes time site).2
  /-- Usability changes, time passes, runs go on, the queue is flushed. -/
  | pass (tracker : Tracker) (site after : Site)
      (keeps : after.channel.map (·.1.processor) = site.channel.map (·.1.processor)) :
      Step (tracker, site) [] (tracker, after)

/-- What any sequence of steps leads to, with the activations on the way. -/
inductive Steps (start : Tracker × Site) : List Bool → Tracker × Site → Prop where
  | start : Steps start [] start
  | step {history label : List Bool} {state after : Tracker × Site}
      (steps : Steps start history state)
      (step : Step state label after) :
      Steps start (history ++ label) after

/-! ### What each call does to the queue -/

variable {tracker : Tracker} {site : Site}

/-- Building a tracker is building it switched off, and switching it as planned. -/
theorem build_eq_ok {plan : Plan} {after : Site} (built : build plan site = (.ok tracker, after)) :
    ∃ fresh opened, build { plan with active := false } site = (.ok fresh, opened) ∧
      fresh.active = false ∧ opened.channel = site.channel ∧
        (tracker, after) = fresh.setActive plan.active opened := by
  unfold build at built ⊢
  by_cases blank : Text.isBlank plan.applicationId = true
  · simp [blank] at built
  · simp only [blank, if_false, Bool.false_eq_true] at built ⊢
    refine ⟨_, _, rfl, rfl, rfl, ?_⟩
    cases active : plan.active with
    | false =>
        rw [active] at built
        cases built
        rfl
    | true =>
        rw [active] at built
        cases built
        rfl

theorem setActive_transport (active : Bool) :
    (tracker.setActive active site).1.transport = tracker.transport := by
  unfold setActive
  split
  · rfl
  · cases active <;> rfl

/-- Switching on binds the queue if the transport is usable then; otherwise the queue stays
as it was. -/
theorem setActive_channel (tracker : Tracker) (active : Bool) {queue : Queue} {store : Store}
    (channel : site.channel = some (queue, store)) :
    ∃ after, (tracker.setActive active site).2.channel = some (after, store) ∧
      after.processor =
        if true ∈ tracker.activations active site then tracker.transport
        else queue.processor := by
  unfold setActive activations
  by_cases same : tracker.active = active
  · rw [if_pos same]
    refine ⟨queue, channel, ?_⟩
    simp [same]
  · rw [if_neg same]
    cases active with
    | false => exact ⟨queue, channel, rfl⟩
    | true =>
        have off : tracker.active = false := by simpa using same
        simp only [channel, off, Bool.not_false, Bool.and_self, if_true]
        cases tracker.transport with
        | none => exact ⟨queue, rfl, by simp⟩
        | some transport =>
            by_cases usable : transport.isUsable (tracker.chain.startAll site.scene) = true
            · simp [Site.log, usable, Queue.bind]
            · simp [Site.log, usable]

theorem deliver_channel (tracker : Tracker) (event : Event) {queue : Queue} {store : Store}
    (channel : site.channel = some (queue, store)) :
    ∃ after, (tracker.deliver event site).channel = some (queue, after) := by
  unfold deliver
  cases tracker.transport with
  | none => exact ⟨store, channel⟩
  | some transport =>
      simp only [channel]
      split
      · exact ⟨store, channel⟩
      · split <;> rename_i station pushed
        · have same := Station.push_queue pushed
          split <;> exact ⟨station.store, by simp [Site.withStation, same]⟩
        · have same := Station.push_queue pushed
          exact ⟨station.store, by simp [reportFailure, Site.withStation, same]⟩

/-- Tracking an event leaves the bound transport and the tracker's own. -/
theorem track_channel (tracker : Tracker) (attributes : EventAttributes) (time : Nat)
    {queue : Queue} {store : Store} (channel : site.channel = some (queue, store)) :
    (tracker.track attributes time site).2.1.transport = tracker.transport ∧
      ∃ after, (tracker.track attributes time site).2.2.channel = some (queue, after) := by
  dsimp only [track]
  split
  · exact ⟨rfl, store, channel⟩
  · split
    · exact ⟨rfl, store, channel⟩
    · rename_i event scene prepared
      obtain ⟨after, delivered⟩ := deliver_channel { tracker with drawn := tracker.drawn + 1 } event
        (show { site with scene }.channel = _ from channel)
      rw [delivered]
      exact ⟨rfl, after, delivered⟩

/-! ### The bound transport -/

/-- The queue is bound to the tracker's transport exactly if that was usable at one of the
activations. -/
def Linked (history : List Bool) (state : Tracker × Site) : Prop :=
  (true ∈ history → state.1.transport.isSome = true) ∧
    ∃ queue store, state.2.channel = some (queue, store) ∧
      queue.processor = if true ∈ history then state.1.transport else none

theorem transport_isSome_of_activation {active : Bool}
    (usable : true ∈ tracker.activations active site) : tracker.transport.isSome = true := by
  unfold activations at usable
  split at usable
  · cases transport : tracker.transport with
    | none => simp [transport] at usable
    | some => rfl
  · simp at usable

theorem Linked.setActive {history : List Bool} (linked : Linked history (tracker, site))
    (active : Bool) :
    Linked (history ++ tracker.activations active site) (tracker.setActive active site) := by
  obtain ⟨given, queue, store, channel, processor⟩ := linked
  obtain ⟨after, channelAfter, processorAfter⟩ :=
    setActive_channel tracker active channel
  refine ⟨?_, after, store, channelAfter, ?_⟩
  · rw [setActive_transport, List.mem_append]
    rintro (earlier | now)
    · exact given earlier
    · exact transport_isSome_of_activation now
  · rw [setActive_transport, processorAfter, processor]
    by_cases now : true ∈ tracker.activations active site
    · simp [now]
    · simp [now]

theorem Linked.step {history label : List Bool} {state after : Tracker × Site}
    (linked : Linked history state) (step : Step state label after) :
    Linked (history ++ label) after := by
  cases step with
  | setActive tracker site active => exact linked.setActive active
  | track tracker site attributes time =>
      obtain ⟨given, queue, store, channel, processor⟩ := linked
      obtain ⟨sameTransport, stored, channelAfter⟩ :=
        track_channel tracker attributes time channel
      rw [List.append_nil]
      refine ⟨?_, queue, stored, channelAfter, ?_⟩
      · rw [sameTransport]
        exact given
      · rw [sameTransport]
        exact processor
  | pass tracker site after keeps =>
      obtain ⟨given, queue, store, channel, processor⟩ := linked
      rw [channel] at keeps
      obtain ⟨⟨queueAfter, storeAfter⟩, channelAfter, kept⟩ := Option.map_eq_some_iff.mp keeps
      rw [List.append_nil]
      exact ⟨given, queueAfter, storeAfter, channelAfter, kept.trans processor⟩

theorem Steps.linked {start state : Tracker × Site} {before history : List Bool}
    (steps : Steps start history state) (linked : Linked before start) :
    Linked (before ++ history) state := by
  induction steps with
  | start => simpa using linked
  | step _ step inductionHypothesis =>
      rw [← List.append_assoc]
      exact inductionHypothesis.step step

/-- A tracker that was built over a queue that nobody has bound yet. -/
theorem Linked.of_build {plan : Plan} {opened : Site} {queue : Queue} {store : Store}
    (channel : site.channel = some (queue, store)) (unbound : queue.processor = none)
    (built : build plan site = (.ok tracker, opened)) :
    Linked (openingActivations plan site) (tracker, opened) := by
  obtain ⟨fresh, unlit, builtOff, -, sameChannel, switched⟩ := build_eq_ok built
  have linked : Linked [] (fresh, unlit) :=
    ⟨by simp, queue, store, sameChannel.trans channel, by simpa using unbound⟩
  rw [openingActivations, builtOff, switched]
  simpa using linked.setActive plan.active

/-- A tracker with a fresh queue, after any sequence of activations, changes of usability and
tracked events: a run of the queue, and so the one that a push asks for, finds the tracker's
transport if that was usable at one of the activations so far, and fails for want of a
processor if it was not. -/
theorem queued_events_find_a_transport_iff_usable_at_an_activation {settings : QueueSettings}
    {observer : Observer} {queue : Queue} (made : Queue.make settings observer = .ok queue)
    {opening : Site} {store : Store} (channel : opening.channel = some (queue, store))
    {plan : Plan} {built : Tracker} {opened : Site}
    (build : build plan opening = (.ok built, opened)) {history : List Bool} {tracker : Tracker}
    {site : Site} (steps : Steps (built, opened) history (tracker, site)) :
    ∃ queue store, site.channel = some (queue, store) ∧
      (true ∈ openingActivations plan opening ++ history →
        ∃ transport, tracker.transport = some transport ∧
          Run.start queue = .ok { processor := transport }) ∧
      (true ∉ openingActivations plan opening ++ history →
        Run.start queue = .error .missingProcessor) := by
  obtain ⟨rfl, -⟩ := Queue.make_eq_ok made
  obtain ⟨given, queue, store, channelNow, processor⟩ :=
    steps.linked (Linked.of_build channel rfl build)
  refine ⟨queue, store, channelNow, ?_, ?_⟩
  · intro usable
    obtain ⟨transport, transportEq⟩ := Option.isSome_iff_exists.mp (given usable)
    refine ⟨transport, transportEq, ?_⟩
    rw [Run.start, processor, if_pos usable, transportEq]
  · intro never
    rw [Run.start, processor, if_neg never]

/-- A tracker of one collector, switched on when it is built. -/
def latecomerPlan : Plan where
  applicationId := "shop"
  transport := some (.collector 0 "latecomer")
  observer := .notes
  identifier := namedId ["first"]

/-- What the plan gives. -/
def latecomer : Tracker where
  id := "shop"
  applicationId := "shop"
  transport := some (.collector 0 "latecomer")
  chain := .make defaultPlugins ⟨"shop", "shop", .notes⟩
  observer := .notes
  active := true
  identifier := namedId ["first"]

/-- A site with an empty queue, where the collector is usable or not. -/
def latecomerSite (usable : Bool) : Site where
  tasks := true
  channel := some ({ settings := {}, observer := .notes }, {})
  scene := { collectors := [{ name := "latecomer", usable }] }

/-- The collector becomes usable after the tracker was switched on. The tracker is active and
the transport usable when an event is tracked, so the event is stored and a run is asked for,
which fails for want of a processor. -/
theorem pushed_event_without_a_processor :
    ∃ opened site stored, build latecomerPlan (latecomerSite false) = (.ok latecomer, opened) ∧
      Steps (latecomer, opened) [] (latecomer, site) ∧ latecomer.active = true ∧
      latecomer.transport.any (Transport.isUsable site.scene) = true ∧
      (latecomer.track { type := "PressEvent" } 0 site).2.2.jobs = [.run] ∧
      (latecomer.track { type := "PressEvent" } 0 site).2.2.channel =
        some ({ settings := {}, observer := .notes }, stored) ∧
      stored.length = 1 ∧
      Run.start { settings := {}, observer := .notes } = .error .missingProcessor := by
  let opened := (build latecomerPlan (latecomerSite false)).2
  have becameUsable : Step (latecomer, opened) [] (latecomer, latecomerSite true) :=
    .pass _ _ _ rfl
  exact ⟨opened, _, _, rfl, .step .start becameUsable, rfl, rfl, rfl, rfl, rfl, rfl⟩

/-- Switched off and on again once the collector is usable, the tracker binds its queue, and
the run finds the collector. -/
theorem reactivated_tracker_finds_its_transport :
    ∃ opened history tracker site queue store,
      build latecomerPlan (latecomerSite false) = (.ok latecomer, opened) ∧
      openingActivations latecomerPlan (latecomerSite false) ++ history = [false, true] ∧
      Steps (latecomer, opened) history (tracker, site) ∧ site.jobs = [.run] ∧
      site.channel = some (queue, store) ∧
      ∃ transport, tracker.transport = some transport ∧
        Run.start queue = .ok { processor := transport } := by
  let opened := (build latecomerPlan (latecomerSite false)).2
  have made : Queue.make {} .notes = .ok { settings := {}, observer := .notes } := rfl
  have built : build latecomerPlan (latecomerSite false) = (.ok latecomer, opened) := rfl
  have becameUsable : Steps (latecomer, opened) _ _ :=
    .step .start (.pass _ _ (latecomerSite true) rfl)
  have switched := (becameUsable.step (.setActive _ _ false)).step (.setActive _ _ true)
  have tracked := switched.step (.track _ _ { type := "PressEvent" } 0)
  obtain ⟨queue, store, channel, bound, -⟩ :=
    queued_events_find_a_transport_iff_usable_at_an_activation made rfl built tracked
  exact ⟨opened, _, _, _, queue, store, built, rfl, tracked, rfl, channel, bound (by decide)⟩

end Tracker

end Telemetry
