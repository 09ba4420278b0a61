import Telemetry.Plugin.UniqueGlobal
import Telemetry.Queue.Run
import Telemetry.Queue.Wait
import Telemetry.Registry
import Telemetry.Session.Step

/-!
Contract: the state of a session.

Owns:
- the stores, queues, chains and trackers that were made, by number, and their
  names;
- activities, which are steps and background work that may have to wait, and
  tasks, which are activities apart from the list of steps;
- finding and changing one thing of the session.

Does not own: how activities go on; see `Session.Activity`.
-/

namespace Telemetry

/-- Work that may have to wait. -/
inductive Activity where
  /-- A step that has not begun. -/
  | step (step : Step)
  | sleep (due : Nat)
  | run (queue : Nat) (run : Run)
  | waitIdle (queue : Nat) (wait : IdleWait)
  | handle (call : Call)
  | track (tracker queue : Nat) (event : Event) (flush : FlushMode) (wait : IdleWait)
  | waitAll (waits : List (Bool ⊕ Nat × IdleWait))
  | join (task : Nat)
  /-- A run that a push asked for, before it has begun and after. -/
  | backgroundRun (queue : Nat) (run : Option Run)
  /-- A delivery without a queue, before it has begun and after. -/
  | backgroundDelivery (observer : Observer) (transport : Transport) (event : Event)
      (call : Option Call)

/-- An activity of its own, or its answer once it is over. -/
inductive Task where
  | active (activity : Activity)
  | over (answer : Answer)

/-- A queue with the number of its store. -/
structure QueueEntry where
  queue : Queue
  store : Nat

/-- A tracker with the number of its queue. -/
structure TrackerEntry where
  tracker : Tracker
  queue : Option Nat

/-- Numbers of the things that have names; of two with one name, the later one. -/
structure Names where
  transports : List (String × Transport) := []
  collectors : List (String × Nat) := []
  stores : List (String × Nat) := []
  queues : List (String × Nat) := []
  chains : List (String × Nat) := []
  trackers : List (String × Nat) := []
  tasks : List (String × Nat) := []

structure Session where
  /-- Tasks can run in the background. -/
  background : Bool := true
  scene : Scene := {}
  stores : List Store := []
  queues : List QueueEntry := []
  chains : List PluginChain := []
  trackers : List TrackerEntry := []
  registry : Registry Nat := {}
  names : Names := {}
  tasks : List Task := []
  /-- Tasks that can go on, in order. -/
  ready : List Nat := []
  /-- Tasks that let others go first, in the order in which they did. -/
  yielded : List Nat := []
  /-- Tasks that wait for a time, in the order in which they began to. -/
  sleeping : List Nat := []

namespace Session

/-- A new task goes on after those that can already. -/
def spawn (session : Session) (activity : Activity) : Nat × Session :=
  let task := session.tasks.length
  (task, { session with
    tasks := session.tasks ++ [.active activity]
    ready := session.ready ++ [task] })

def station? (session : Session) (queue : Nat) : Option Station := do
  let entry ← session.queues[queue]?
  let store ← session.stores[entry.store]?
  some { queue := entry.queue, store, scene := session.scene }

/-- Take over what a queue's station became. -/
def withStation (session : Session) (queue : Nat) (station : Station) : Session :=
  match session.queues[queue]? with
  | none => session
  | some entry => { session with
      queues := session.queues.set queue { entry with queue := station.queue }
      stores := session.stores.set entry.store station.store
      scene := station.scene }

/-- The site of a tracker that has the given queue. -/
def site (session : Session) (queue : Option Nat) : Site where
  tasks := session.background
  channel := (queue.bind session.station?).map fun station => (station.queue, station.store)
  scene := session.scene

def startJob (session : Session) (queue : Option Nat) : Job → Session
  | .run =>
      match queue with
      | some queue => (session.spawn (.backgroundRun queue none)).2
      | none => session
  | .deliver observer transport event =>
      (session.spawn (.backgroundDelivery observer transport event none)).2

/-- Take over what a tracker's site became, and start the work it asks for. -/
def withSite (session : Session) (queue : Option Nat) (site : Site) : Session :=
  let session := match queue, site.channel with
    | some queue, some (state, store) => session.withStation queue ⟨state, store, site.scene⟩
    | _, _ => { session with scene := site.scene }
  site.jobs.foldl (fun session job => session.startJob queue job) session

def withChain (session : Session) (chain : Nat) (changed : PluginChain) (scene : Scene) : Session :=
  { session with chains := session.chains.set chain changed, scene }

def withTracker (session : Session) (tracker : Nat) (changed : Tracker) : Session :=
  match session.trackers[tracker]? with
  | some entry => { session with
      trackers := session.trackers.set tracker { entry with tracker := changed } }
  | none => session

def queueNamed? (session : Session) (name : String) : Option (Nat × Station) := do
  let queue ← session.names.queues.lookup name
  let station ← session.station? queue
  some (queue, station)

def chainNamed? (session : Session) (name : String) : Option (Nat × PluginChain) := do
  let chain ← session.names.chains.lookup name
  let found ← session.chains[chain]?
  some (chain, found)

def trackerNamed? (session : Session) (name : String) : Option (Nat × TrackerEntry) := do
  let tracker ← session.names.trackers.lookup name
  let entry ← session.trackers[tracker]?
  some (tracker, entry)

/-- The number of a store, by its own name or by the name of a queue that has it. -/
def storeNumber? (session : Session) (name : String) : Option Nat :=
  match session.names.stores.lookup name with
  | some store => some store
  | none => do
      let queue ← session.names.queues.lookup name
      let entry ← session.queues[queue]?
      some entry.store

def storeNamed? (session : Session) (name : String) : Option (Nat × Store) := do
  let store ← session.storeNumber? name
  let found ← session.stores[store]?
  some (store, found)

/-- A transport by its name, or a collector by its own. -/
def transportNamed? (session : Session) (name : String) : Option Transport :=
  match session.names.transports.lookup name with
  | some transport => some transport
  | none => (session.names.collectors.lookup name).map fun index => .collector index name

end Session

end Telemetry
