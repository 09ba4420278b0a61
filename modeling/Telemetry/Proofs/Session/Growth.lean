import Telemetry.Session.Activity

/-!
Contract: what is made in a session stays.

Owns:
- `Session.Inventory`, how many trackers and stores there are, and which store
  each queue has;
- that most operations leave the inventory as it is, and that no turn of any
  activity takes something out of it.

A wait goes on in a session that others have changed meanwhile. The tracker and
the queue it is for are then still to be found.
-/

namespace Telemetry

namespace Session

/-- What has been made in a session, as far as numbers refer to it. -/
structure Inventory where
  trackers : Nat
  stores : Nat
  /-- The store of each queue. -/
  queues : List Nat

def inventory (session : Session) : Inventory where
  trackers := session.trackers.length
  stores := session.stores.length
  queues := session.queues.map QueueEntry.store

/-- Nothing is missing in the later session. -/
structure Grows (session later : Session) : Prop where
  trackers : session.inventory.trackers ≤ later.inventory.trackers
  stores : session.inventory.stores ≤ later.inventory.stores
  queues : session.inventory.queues <+: later.inventory.queues

variable {session now later : Session}

theorem station_isSome_iff (session : Session) (queue : Nat) :
    (session.station? queue).isSome ↔
      ∃ store, session.inventory.queues[queue]? = some store ∧
        store < session.inventory.stores := by
  simp only [station?, inventory, List.getElem?_map]
  cases session.queues[queue]? with
  | none => simp
  | some entry =>
      change (session.stores[entry.store]?.bind fun _ => some _).isSome = true ↔ _
      rw [Option.isSome_bind]
      simp

namespace Grows

theorem of_eq (same : later.inventory = session.inventory) : session.Grows later where
  trackers := Nat.le_of_eq (congrArg Inventory.trackers same.symm)
  stores := Nat.le_of_eq (congrArg Inventory.stores same.symm)
  queues := by simp only [same, List.prefix_rfl]

theorem refl (session : Session) : session.Grows session := of_eq rfl

theorem trans (first : session.Grows now) (second : now.Grows later) : session.Grows later where
  trackers := Nat.le_trans first.trackers second.trackers
  stores := Nat.le_trans first.stores second.stores
  queues := first.queues.trans second.queues

theorem tracker (grows : session.Grows later) {number : Nat}
    (known : session.trackers[number]?.isSome) : later.trackers[number]?.isSome := by
  have inside : number < session.trackers.length := by simpa using known
  have insideLater := Nat.lt_of_lt_of_le inside grows.trackers
  simpa [inventory] using insideLater

theorem station (grows : session.Grows later) {queue : Nat}
    (found : (session.station? queue).isSome) : (later.station? queue).isSome := by
  rw [station_isSome_iff] at found ⊢
  obtain ⟨store, listed, inside⟩ := found
  obtain ⟨more, joined⟩ := grows.queues
  refine ⟨store, ?_, Nat.lt_of_lt_of_le inside grows.stores⟩
  rw [← joined, List.getElem?_append_left (List.getElem?_eq_some_iff.mp listed).1]
  exact listed

end Grows

/-! ### Changes that keep the inventory -/

theorem set_of_getElem? {Item : Type} {items : List Item} {index : Nat} {item : Item}
    (found : items[index]? = some item) : items.set index item = items := by
  obtain ⟨inside, rfl⟩ := List.getElem?_eq_some_iff.mp found
  exact List.set_getElem_self inside

/-- A station of a session is one of its queues with the store of that queue. -/
theorem station?_eq_some {queue : Nat} {station : Station}
    (found : session.station? queue = some station) :
    ∃ place, session.queues[queue]? = some place ∧
      session.stores[place.store]? = some station.store ∧ station.queue = place.queue ∧
        station.scene = session.scene := by
  simp only [station?, Option.bind_eq_bind, Option.bind_eq_some_iff, Option.some.injEq] at found
  obtain ⟨place, listed, store, stored, rfl⟩ := found
  exact ⟨place, listed, stored, rfl, rfl⟩

@[simp] theorem withStation_inventory (session : Session) (queue : Nat) (station : Station) :
    (session.withStation queue station).inventory = session.inventory := by
  unfold withStation
  cases found : session.queues[queue]? with
  | none => rfl
  | some place =>
      have listed : (session.queues.map QueueEntry.store)[queue]? = some place.store := by
        simp [found]
      simp [inventory, set_of_getElem? listed]

@[simp] theorem withTracker_inventory (session : Session) (number : Nat) (tracker : Tracker) :
    (session.withTracker number tracker).inventory = session.inventory := by
  unfold withTracker
  split
  · simp [inventory]
  · rfl

/-- What each step of a loop keeps, the loop keeps. -/
theorem foldl_inventory {State Item : Type} (step : State → Item → State) (view : State → Session)
    (keeps : ∀ state item, (view (step state item)).inventory = (view state).inventory)
    (items : List Item) (state : State) :
    (view (items.foldl step state)).inventory = (view state).inventory := by
  induction items generalizing state with
  | nil => rfl
  | cons item items inductionHypothesis =>
      exact (inductionHypothesis (step state item)).trans (keeps state item)

theorem startJob_inventory (session : Session) (queue : Option Nat) (job : Job) :
    (session.startJob queue job).inventory = session.inventory := by
  cases job with
  | run => cases queue <;> rfl
  | deliver observer transport event => rfl

@[simp] theorem withSite_inventory (session : Session) (queue : Option Nat) (site : Site) :
    (session.withSite queue site).inventory = session.inventory := by
  unfold withSite
  dsimp only
  refine (foldl_inventory _ id (fun session job => startJob_inventory _ _ _) _ _).trans ?_
  split
  · exact withStation_inventory _ _ _
  · rfl

mutual

/-- Making transports leaves the inventory, whether it ends in a transport or not. -/
theorem buildTransport_inventory (spec : TransportSpec) (session : Session) :
    (buildTransport spec session).2.inventory = session.inventory := by
  match spec with
  | .collector spec => rfl
  | .named name =>
      unfold buildTransport
      split <;> rfl
  | .debug name => rfl
  | .switch observer name members =>
      have built := buildMembers_inventory members session
      unfold buildTransport
      split <;> rename_i result <;> rw [result] at built <;> exact built
  | .group observer name members =>
      have built := buildMembers_inventory members session
      unfold buildTransport
      split <;> rename_i result <;> rw [result] at built <;> exact built
  | .retry observer policy inner =>
      have built := buildTransport_inventory inner session
      unfold buildTransport
      split <;> rename_i result <;> rw [result] at built
      · split <;> exact built
      · exact built

theorem buildMembers_inventory (specs : List TransportSpec) (session : Session) :
    (buildTransport.buildMembers specs session).2.inventory = session.inventory := by
  match specs with
  | [] => rfl
  | spec :: specs =>
      have first := buildTransport_inventory spec session
      unfold buildTransport.buildMembers
      split <;> rename_i result <;> rw [result] at first
      · exact first
      · rename_i next
        have rest := buildMembers_inventory specs next
        split <;> rename_i others <;> rw [others] at rest <;> exact rest.trans first

end

theorem buildOptionalTransport_inventory (spec : Option TransportSpec) (session : Session) :
    (buildOptionalTransport spec session).2.inventory = session.inventory := by
  cases spec with
  | none => rfl
  | some spec =>
      have built := buildTransport_inventory spec session
      unfold buildOptionalTransport
      dsimp only
      split <;> rename_i result <;> rw [result] at built <;> exact built

@[simp] theorem buildPlugin_inventory (spec : PluginSpec) (session : Session) :
    (buildPlugin spec session).2.inventory = session.inventory := by
  cases spec <;> rfl

@[simp] theorem buildPlugins_inventory (specs : List PluginSpec) (session : Session) :
    (buildPlugins specs session).2.inventory = session.inventory := by
  induction specs generalizing session with
  | nil => rfl
  | cons spec specs inductionHypothesis =>
      exact (inductionHypothesis _).trans (buildPlugin_inventory spec session)

theorem setTrackerActive_inventory (session : Session) (number : Nat) (value : Bool) :
    (session.setTrackerActive number value).inventory = session.inventory := by
  unfold setTrackerActive
  split
  · rfl
  · simp

theorem flushTracker_inventory (session : Session) (entry : TrackerEntry) :
    (session.flushTracker entry).2.inventory = session.inventory := by
  unfold flushTracker
  split
  · simp
  · rfl

theorem activateAll_inventory (session : Session) (value : Bool) :
    (session.activateAll value).2.inventory = session.inventory := by
  refine foldl_inventory _ id (fun session number => ?_) _ session
  exact setTrackerActive_inventory _ _ _

theorem flushAll_inventory (session : Session) :
    session.flushAll.2.inventory = session.inventory := by
  refine foldl_inventory _ Prod.snd (fun state number => ?_) _ (none, session)
  obtain ⟨first, session⟩ := state
  dsimp only
  split
  · rfl
  · rename_i entry found
    have flushed := flushTracker_inventory session entry
    split <;> rename_i result <;> rw [result] at flushed <;> exact flushed

theorem concludeTrack_inventory (session : Session) (tracker queue : Nat) (event : Event)
    (mode : FlushMode) (reachedIdle : Option Bool) :
    (session.concludeTrack tracker queue event mode reachedIdle).2.inventory =
      session.inventory := by
  unfold concludeTrack
  split
  · exact withStation_inventory _ _ _
  · rfl

theorem trackAttributes_inventory (session : Session) (number : Nat) (entry : TrackerEntry)
    (attributes : EventAttributes) (options : TrackOptions) :
    (session.trackAttributes number entry attributes options).2.inventory =
      session.inventory := by
  have handled (tracker : Tracker) (site : Site) :
      ((session.withTracker number tracker).withSite entry.queue site).inventory =
        session.inventory := by simp
  unfold trackAttributes
  dsimp only
  split
  · exact handled _ _
  · exact handled _ _
  · split
    · exact (concludeTrack_inventory _ _ _ _ _ _).trans (handled _ _)
    · split <;> exact handled _ _
  · exact handled _ _

/-! ### Steps -/

theorem makeStore_grows (session : Session) (name : String) (faults : StoreFaults) :
    session.Grows (session.makeStore name faults).2 where
  trackers := Nat.le_refl _
  stores := by simp [makeStore, answer, inventory]
  queues := List.prefix_rfl

theorem addQueue_grows (session : Session) (name : String) (queue : Queue) (store : Nat) :
    session.Grows (session.addQueue name queue store) where
  trackers := Nat.le_refl _
  stores := Nat.le_refl _
  queues := by simp [addQueue, inventory]

theorem makeQueue_grows (session : Session) (name : String) (settings : QueueSettings)
    (store : Option String) (observer : Observer) :
    session.Grows (session.makeQueue name settings store observer).2 := by
  unfold makeQueue
  split
  · exact .refl session
  · split
    · split
      · exact addQueue_grows _ _ _ _
      · exact .refl session
    · have stored : session.Grows { session with stores := session.stores ++ [{}] } :=
        ⟨Nat.le_refl _, by simp [inventory], List.prefix_rfl⟩
      exact stored.trans (addQueue_grows _ _ _ _)

theorem addTracker_grows (session : Session) (tracker : Tracker) (queue : Option Nat)
    (names : Names) :
    session.Grows { session with trackers := session.trackers ++ [⟨tracker, queue⟩], names } where
  trackers := by simp [inventory]
  stores := Nat.le_refl _
  queues := List.prefix_rfl

theorem makeTracker_grows (session : Session) (name : String) (spec : TrackerSpec) :
    session.Grows (session.makeTracker name spec).2 := by
  unfold makeTracker
  split
  · exact .refl session
  · have withTransport := buildOptionalTransport_inventory spec.transport session
    split <;> rename_i built <;> rw [built] at withTransport
    · exact .of_eq withTransport
    · rename_i now
      have withRecorder := buildOptionalTransport_inventory spec.recorder now
      split <;> rename_i built <;> rw [built] at withRecorder
      · exact .of_eq (withRecorder.trans withTransport)
      · -- The plugins are built next; then the tracker is, and it comes last in its list.
        rename_i later
        split
        rename_i plugins prepared planned
        have withPlugins : prepared.inventory = later.inventory := by
          cases given : spec.plugins with
          | none =>
              rw [given] at planned
              cases planned
              rfl
          | some specs =>
              rw [given] at planned
              cases planned
              exact buildPlugins_inventory specs later
        have before : session.Grows prepared :=
          .of_eq (withPlugins.trans (withRecorder.trans withTransport))
        dsimp only
        have sited (queue : Option Nat) (site : Site) :
            prepared.Grows (prepared.withSite queue site) := .of_eq (withSite_inventory _ _ _)
        split
        · exact before.trans (sited _ _)
        · exact before.trans ((sited _ _).trans (addTracker_grows _ _ _ _))

theorem begin_grows (session : Session) (step : Step) : session.Grows (session.begin step).2 := by
  cases step with
  | store name faults => exact makeStore_grows _ _ _
  | queue name settings store observer => exact makeQueue_grows _ _ _ _ _
  | tracker name spec => exact makeTracker_grows _ _ _
  | transport name spec =>
      refine .of_eq ?_
      have built := buildTransport_inventory spec session
      simp only [begin, makeTransport]
      split <;> rename_i result <;> rw [result] at built <;> exact built
  | bind queue transport =>
      refine .of_eq ?_
      have built := buildTransport_inventory transport session
      simp only [begin, bindQueue]
      split <;> rename_i result <;> rw [result] at built
      · exact built
      · split
        · exact built
        · exact (withStation_inventory _ _ _).trans built
  | push queue events =>
      refine .of_eq ?_
      simp only [begin, pushEvents]
      split
      · rfl
      · split
        · split <;> exact withStation_inventory _ _ _
        · exact withStation_inventory _ _ _
  | flush queue =>
      refine .of_eq ?_
      simp only [begin, flushQueue]
      split
      · rfl
      · exact withStation_inventory _ _ _
  | track tracker input options =>
      refine .of_eq ?_
      simp only [begin, trackInput]
      split
      · rfl
      · split
        · exact trackAttributes_inventory _ _ _ _ _
        · split
          · exact trackAttributes_inventory _ _ _ _ _
          · rfl
  | setActive tracker value =>
      refine .of_eq ?_
      simp only [begin, activateTracker]
      split
      · rfl
      · exact setTrackerActive_inventory _ _ _
  | trackerFlush tracker =>
      refine .of_eq ?_
      simp only [begin, flushTrackerNamed]
      split
      · rfl
      · exact flushTracker_inventory _ _
  | registryFlush => exact .of_eq (flushAll_inventory session)
  | registrySetActive value => exact .of_eq (activateAll_inventory session value)
  | chain name plugins host => exact .of_eq (buildPlugins_inventory _ _)
  | chainAdd chain plugin index
  | chainReplace chain plugin index =>
      refine .of_eq ?_
      simp only [begin, changeChain]
      split <;> exact buildPlugin_inventory _ _
  | pluginAdd tracker plugin index
  | pluginReplace tracker plugin index =>
      refine .of_eq ?_
      simp only [begin, changeTrackerChain]
      split
      · exact buildPlugin_inventory _ _
      · exact (withTracker_inventory _ _ _).trans (buildPlugin_inventory _ _)
  | pluginRemove tracker plugin =>
      refine .of_eq ?_
      simp only [begin, removeFromTracker]
      split
      · rfl
      · exact withTracker_inventory _ _ _
  | storeWrite store events
  | storeDelete store ids
  | storeClear store
  | storeRead store limit filter =>
      refine .of_eq ?_
      simp only [begin, changeStore, readStore]
      split
      · rfl
      · simp [answer, inventory]
  | run queue
  | registryGet id
  | trackerWait tracker options =>
      refine .of_eq ?_
      simp only [begin, runQueue, lookUpTracker, waitForTracker]
      split
      · rfl
      · split <;> rfl
  | join name
  | inspect transport
  | handle transport events
  | setCollectorUsable collector value
  | collectorCalls collector
  | storeLength store
  | stats queue
  | chainInfo chain
  | chainRemove chain plugin
  | chainGet chain plugin
  | chainStart chain
  | chainEnrich chain contexts
  | chainValidate chain event
  | trackerInfo tracker
  | pluginHas tracker plugin
  | registryAdd tracker
  | registryDelete id =>
      refine .of_eq ?_
      simp only [begin, joinTask, inspectTransport, handleEvents, changeCollector, countCalls,
        measureStore, reportStats, reportChain, removeFromChain, lookUpPlugin,
        startChain, enrichWithChain, validateWithChain, reportTracker, trackerHasPlugin, register,
        unregister]
      split <;> rfl
  | waitIdle queue interval timeout =>
      refine .of_eq ?_
      simp only [begin, waitForQueue]
      split
      · rfl
      · split <;> rfl
  | registryWait options =>
      refine .of_eq ?_
      simp only [begin, waitForAll]
      split <;> rfl
  | sleep milliseconds
  | spawn name step
  | setSwitch switch value
  | registrySetDefault id
  | registryInfo => exact .of_eq rfl

/-! ### Activities -/

theorem turnRun_inventory (session : Session) (queue : Nat) (run : Run) :
    (session.turnRun queue run).2.2.inventory = session.inventory := by
  unfold turnRun
  split
  · rfl
  · dsimp only
    split <;> exact withStation_inventory _ _ _

theorem turnBackgroundRun_inventory (session : Session) (queue : Nat) (run : Run) :
    (session.turnBackgroundRun queue run).2.inventory = session.inventory := by
  have turned := turnRun_inventory session queue run
  unfold turnBackgroundRun
  split <;> rename_i result <;> rw [result] at turned <;> exact turned

theorem turnBackgroundDelivery_inventory (session : Session) (observer : Observer)
    (transport : Transport) (event : Event) (call : Call) :
    (session.turnBackgroundDelivery observer transport event call).2.inventory =
      session.inventory := by
  unfold turnBackgroundDelivery
  split <;> rfl

/-- Only the beginning of a step makes something; an activity that has begun does not. -/
theorem resumeBegun_inventory (session : Session) (activity : Activity) :
    (session.resumeBegun activity).2.inventory = session.inventory := by
  cases activity with
  | step step => rfl
  | sleep due =>
      simp only [resumeBegun]
      split <;> rfl
  | run queue run =>
      have turned := turnRun_inventory session queue run
      simp only [resumeBegun]
      split <;> rename_i result <;> rw [result] at turned <;> exact turned
  | waitIdle queue wait =>
      simp only [resumeBegun]
      split <;> rfl
  | handle call =>
      simp only [resumeBegun]
      split <;> rfl
  | track tracker queue event flush wait =>
      simp only [resumeBegun]
      split
      · exact concludeTrack_inventory _ _ _ _ _ _
      · rfl
  | waitAll waits =>
      simp only [resumeBegun]
      split <;> rfl
  | join task =>
      simp only [resumeBegun]
      split <;> rfl
  | backgroundRun queue run =>
      cases run with
      | some run => exact turnBackgroundRun_inventory _ _ _
      | none =>
          simp only [resumeBegun]
          split
          · rfl
          · split
            · exact turnBackgroundRun_inventory _ _ _
            · rfl
  | backgroundDelivery observer transport event call =>
      cases call <;> exact turnBackgroundDelivery_inventory _ _ _ _ _

theorem resume_grows (session : Session) (activity : Activity) :
    session.Grows (session.resume activity).2 := by
  have begun (session : Session) (activity : Activity) :
      session.Grows (session.resumeBegun activity).2 :=
    .of_eq (resumeBegun_inventory session activity)
  cases activity with
  | step step =>
      have first := begin_grows session step
      simp only [resume]
      split <;> rename_i result <;> rw [result] at first
      · exact first
      · exact first.trans (begun _ _)
  | _ => exact begun _ _

end Session

end Telemetry
