import Telemetry.Event.Wire
import Telemetry.Session.Building

/-!
Contract: what each step of a session does.

Owns: the effect and answer of every step that needs no waiting, and the
activity that any other step starts.

Does not own: how activities go on; see `Session.Activity`.
-/

namespace Telemetry

/-- A step has its answer, or it is an activity that goes on. -/
abbrev Begun : Type := (Answer ⊕ Activity) × Session

namespace Session

def answer (session : Session) (answer : Answer) : Begun := (.inl answer, session)

def goOn (session : Session) (activity : Activity) : Begun := (.inr activity, session)

def now (session : Session) : Nat := session.scene.now

def sleepFor (session : Session) (milliseconds : Nat) : Begun :=
  session.goOn (.sleep (session.now + milliseconds))

def spawnStep (session : Session) (name : String) (step : Step) : Begun :=
  let (task, session) := session.spawn (.step step)
  answer { session with
    names := { session.names with tasks := (name, task) :: session.names.tasks } } .nothing

def joinTask (session : Session) (name : String) : Begun :=
  match session.names.tasks.lookup name with
  | some task => session.goOn (.join task)
  | none => session.answer .unknown

/-! Transports -/

def makeTransport (session : Session) (name : String) (spec : TransportSpec) : Begun :=
  match session.buildTransport spec with
  | (.error failure, session) => session.answer failure.answer
  | (.ok transport, session) =>
      answer
        { session with names := { session.names with
            transports := (name, transport) :: session.names.transports } }
        (.transport transport.name (transport.isUsable session.scene))

def inspection : Transport → Inspection
  | .switch _ pinned => .switch (pinned.map Transport.name)
  | .group _ members => .group (members.map Transport.name)
  | .retry _ policy inner => .retry inner.name policy.maxAttempts
  | _ => .leaf

def inspectTransport (session : Session) (name : String) : Begun :=
  match session.transportNamed? name with
  | none => session.answer .unknown
  | some transport => session.answer
      (.inspection transport.name (transport.isUsable session.scene) (inspection transport))

def handleEvents (session : Session) (name : String) (events : List Event) : Begun :=
  match session.transportNamed? name with
  | none => session.answer .unknown
  | some transport =>
      let (call, scene) := transport.start events session.scene
      goOn { session with scene } (.handle call)

def changeCollector (session : Session) (name : String) (usable : Bool) : Begun :=
  match session.names.collectors.lookup name with
  | none => session.answer .unknown
  | some index =>
      let scene := session.scene.modifyCollector index fun collector => { collector with usable }
      answer { session with scene } .nothing

def countCalls (session : Session) (name : String) : Begun :=
  match (session.names.collectors.lookup name).bind (session.scene.collectors[·]?) with
  | none => session.answer .unknown
  | some collector => session.answer (.calls collector.calls collector.peak)

/-! Stores -/

def makeStore (session : Session) (name : String) (faults : StoreFaults) : Begun :=
  answer { session with
    stores := session.stores ++ [{ faults }]
    names := { session.names with
      stores := (name, session.stores.length) :: session.names.stores } } .nothing

/-- Change a store and answer with the result. -/
def changeStore
    (session : Session)
    (name : String)
    (change : Store → Except StoreError Unit × Store) : Begun :=
  match session.storeNamed? name with
  | none => session.answer .unknown
  | some (number, store) =>
      let (result, store) := change store
      answer { session with stores := session.stores.set number store }
        (.ofResult (result.mapError .store))

def measureStore (session : Session) (name : String) : Begun :=
  match session.storeNamed? name with
  | none => session.answer .unknown
  | some (_, store) => session.answer (.size store.length store.isEmpty)

def readStore (session : Session) (name : String) (limit : Option Nat) (filter : ReadFilter) :
    Begun :=
  match session.storeNamed? name with
  | none => session.answer .unknown
  | some (number, store) =>
      let (result, changed) := store.read (limit.getD store.length) filter.keeps
      answer { session with stores := session.stores.set number changed }
        (match result with
          | .ok events => .events events
          | .error error => .failed (.store error))

/-! Queues -/

def addQueue (session : Session) (name : String) (queue : Queue) (store : Nat) : Session :=
  { session with
    queues := session.queues ++ [⟨queue, store⟩]
    names := { session.names with
      queues := (name, session.queues.length) :: session.names.queues } }

/-- A queue over a named store, or over a store of its own. -/
def makeQueue
    (session : Session)
    (name : String)
    (settings : QueueSettings)
    (store : Option String)
    (observer : Observer) : Begun :=
  match Queue.make settings observer with
  | .error error => session.answer (.failed error)
  | .ok queue =>
      match store with
      | some store =>
          match session.storeNumber? store with
          | some number => answer (session.addQueue name queue number) .done
          | none => session.answer .unknown
      | none =>
          let number := session.stores.length
          let session := { session with stores := session.stores ++ [({} : Store)] }
          answer (session.addQueue name queue number) .done

def bindQueue (session : Session) (name : String) (spec : TransportSpec) : Begun :=
  match session.buildTransport spec with
  | (.error failure, session) => session.answer failure.answer
  | (.ok transport, session) =>
      match session.queueNamed? name with
      | none => session.answer .unknown
      | some (number, station) =>
          let (queue, scene) := station.queue.bind transport station.scene
          answer (session.withStation number { station with queue, scene }) .done

/-- Where tasks can run, a push starts a run in the background. -/
def pushEvents (session : Session) (name : String) (events : List Event) : Begun :=
  match session.queueNamed? name with
  | none => session.answer .unknown
  | some (number, station) =>
      let (result, station) := station.push session.background events
      let session := session.withStation number station
      let session := match result with
        | .ok () => if session.background then session.startJob (some number) .run else session
        | .error _ => session
      session.answer (.ofResult result)

def flushQueue (session : Session) (name : String) : Begun :=
  match session.queueNamed? name with
  | none => session.answer .unknown
  | some (number, station) =>
      let (result, station) := station.flush
      answer (session.withStation number station) (.ofResult result)

def runQueue (session : Session) (name : String) : Begun :=
  match session.queueNamed? name with
  | none => session.answer .unknown
  | some (number, station) =>
      match Run.start station.queue with
      | .ok run => session.goOn (.run number run)
      | .error error => session.answer (.failed error)

def waitForQueue (session : Session) (name : String) (interval timeout : Duration) : Begun :=
  match session.names.queues.lookup name with
  | none => session.answer .unknown
  | some number =>
      match IdleWait.start? session.now interval timeout with
      | some wait => session.goOn (.waitIdle number wait)
      | none => session.answer .broken

def queueStats (station : Station) : QueueStats where
  pending := station.store.length
  inFlight := station.queue.inFlight.length
  delivered := station.queue.deliveredBatches
  failed := station.queue.failedBatches
  idle := station.isIdle
  running := station.queue.running
  bound := station.queue.processor.isSome
  concurrency := station.queue.effectiveConcurrency

def reportStats (session : Session) (name : String) : Begun :=
  match session.queueNamed? name with
  | none => session.answer .unknown
  | some (_, station) => session.answer (.stats (queueStats station))

/-! Chains -/

def makeChain (session : Session) (name : String) (specs : List PluginSpec) (host : PluginHost) :
    Begun :=
  let (plugins, session) := session.buildPlugins specs
  let chain := PluginChain.make plugins host
  answer { session with
    chains := session.chains ++ [chain]
    names := { session.names with
      chains := (name, session.chains.length) :: session.names.chains } } (.texts chain.names)

def reportChain (session : Session) (name : String) : Begun :=
  match session.chainNamed? name with
  | none => session.answer .unknown
  | some (_, chain) => session.answer (.chain chain.host chain.names)

/-- Change a chain with a new plugin. -/
def changeChain
    (session : Session)
    (name : String)
    (spec : PluginSpec)
    (change : PluginChain → Plugin → Scene → PluginChain.Change Unit) : Begun :=
  let (plugin, session) := session.buildPlugin spec
  match session.chainNamed? name with
  | none => session.answer .unknown
  | some (number, chain) =>
      let changed := change chain plugin session.scene
      answer (session.withChain number changed.chain changed.scene) (.ofResult changed.result)

def removalAnswer : Except TrackerError Plugin → Answer
  | .ok plugin => .removed plugin.name
  | .error error => .failed error

def removeFromChain (session : Session) (name plugin : String) : Begun :=
  match session.chainNamed? name with
  | none => session.answer .unknown
  | some (number, chain) =>
      let changed := chain.remove plugin session.scene
      answer (session.withChain number changed.chain changed.scene) (removalAnswer changed.result)

def lookUpPlugin (session : Session) (name plugin : String) : Begun :=
  match session.chainNamed? name with
  | none => session.answer .unknown
  | some (_, chain) => session.answer (.plugin (chain.has plugin)
      ((chain.get plugin).map fun found => (found.name, found.usable session.scene)))

def startChain (session : Session) (name : String) : Begun :=
  match session.chainNamed? name with
  | none => session.answer .unknown
  | some (_, chain) => answer { session with scene := chain.startAll session.scene } .nothing

def enrichWithChain (session : Session) (name : String) (contexts : Contexts) : Begun :=
  match session.chainNamed? name with
  | none => session.answer .unknown
  | some (_, chain) =>
      let enriched := chain.enrich contexts session.scene
      answer { session with scene := enriched.scene }
        (.enriched (enriched.failure.map .plugin) enriched.contexts)

def validateWithChain (session : Session) (name : String) (event : Event) : Begun :=
  match session.chainNamed? name with
  | none => session.answer .unknown
  | some (_, chain) =>
      let (failure, scene) := chain.validate event session.scene
      answer { session with scene }
        (match failure with
          | some error => .failed (.plugin error)
          | none => .done)

/-! Trackers -/

/-- The number of the queue that a new tracker is to have. -/
def plannedQueue (session : Session) : Option String → Option (Option Nat)
  | none => some none
  | some name => (session.names.queues.lookup name).map some

def makeTracker (session : Session) (name : String) (spec : TrackerSpec) : Begun :=
  match session.plannedQueue spec.queue with
  | none => session.answer .unknown
  | some queue =>
      match session.buildOptionalTransport spec.transport with
      | (.error failure, session) => session.answer failure.answer
      | (.ok transport, session) =>
          match session.buildOptionalTransport spec.recorder with
          | (.error failure, session) => session.answer failure.answer
          | (.ok recorder, session) =>
              let (plugins, session) := match spec.plugins with
                | none => (none, session)
                | some specs =>
                    let (plugins, session) := session.buildPlugins specs
                    (some plugins, session)
              let plan : Tracker.Plan := {
                applicationId := spec.applicationId
                trackerId := spec.trackerId
                owner := spec.owner
                transport
                recorder
                plugins
                observer := spec.observer
                active := spec.active
                waitDefaults := spec.waitDefaults
                identifier := namedId spec.identifiers }
              let (result, site) := Tracker.build plan (session.site queue)
              let session := session.withSite queue site
              match result with
              | .error error => session.answer (.failed error)
              | .ok tracker =>
                  answer { session with
                    trackers := session.trackers ++ [⟨tracker, queue⟩]
                    names := { session.names with
                      trackers := (name, session.trackers.length) :: session.names.trackers } }
                    (.text tracker.id)

/-- The answer of tracking, once the queue has been waited for if that was asked. -/
def concludeTrack
    (session : Session)
    (tracker queue : Nat)
    (event : Event)
    (mode : FlushMode)
    (reachedIdle : Option Bool) : Begun :=
  match session.trackers[tracker]?, session.station? queue with
  | some entry, some station =>
      answer (session.withStation queue (entry.tracker.conclude mode reachedIdle station))
        (.event event)
  | _, _ => session.answer .unknown

def trackAttributes
    (session : Session)
    (number : Nat)
    (entry : TrackerEntry)
    (attributes : EventAttributes)
    (options : TrackOptions) : Begun :=
  let (progress, tracker, site) :=
    entry.tracker.track attributes session.now (session.site entry.queue)
  let session := (session.withTracker number tracker).withSite entry.queue site
  match progress, entry.queue.bind session.station?, entry.queue with
  | .over (.error error), _, _ => session.answer (.failed error)
  | .over (.ok event), _, _ => session.answer (.event event)
  | .queued event, some station, some queue =>
      match options.wait with
      | none => session.concludeTrack number queue event options.flush none
      | some wait =>
          match wait.start? station.queue.settings session.now with
          | some wait => session.goOn (.track number queue event options.flush wait)
          | none => session.answer .broken
  | .queued event, _, _ => session.answer (.event event)

def trackInput (session : Session) (name : String) (input : TrackInput) (options : TrackOptions) :
    Begun :=
  match session.trackerNamed? name with
  | none => session.answer .unknown
  | some (number, entry) =>
      match input with
      | .attributes attributes => session.trackAttributes number entry attributes options
      | .text text =>
          match EventAttributes.parse? text with
          | some attributes => session.trackAttributes number entry attributes options
          | none => session.answer .malformed

def reportTracker (session : Session) (name : String) : Begun :=
  match session.trackerNamed? name with
  | none => session.answer .unknown
  | some (_, entry) => session.answer (.tracker {
      id := entry.tracker.id
      applicationId := entry.tracker.applicationId
      active := entry.tracker.active
      plugins := entry.tracker.chain.names
      owner := entry.tracker.owner
      transport := entry.tracker.transport.map Transport.name
      hasQueue := entry.queue.isSome })

def setTrackerActive (session : Session) (number : Nat) (value : Bool) : Session :=
  match session.trackers[number]? with
  | none => session
  | some entry =>
      let (tracker, site) := entry.tracker.setActive value (session.site entry.queue)
      (session.withTracker number tracker).withSite entry.queue site

def activateTracker (session : Session) (name : String) (value : Bool) : Begun :=
  match session.names.trackers.lookup name with
  | none => session.answer .unknown
  | some number => answer (session.setTrackerActive number value) .nothing

/-- How a wait for a tracker's queue starts, if it does; without a queue it is over. -/
def trackerWait? (session : Session) (entry : TrackerEntry) (options : WaitOptions) :
    Option (Bool ⊕ Nat × IdleWait) :=
  match entry.queue, entry.queue.bind session.station? with
  | some queue, some station =>
      (options.start? station.queue.settings session.now).map fun wait => .inr (queue, wait)
  | _, _ => some (.inl true)

def waitForTracker (session : Session) (name : String) (options : Option WaitOptions) : Begun :=
  match session.trackerNamed? name with
  | none => session.answer .unknown
  | some (_, entry) =>
      match session.trackerWait? entry (options.getD entry.tracker.waitDefaults) with
      | some (.inl idle) => session.answer (.flag idle)
      | some (.inr (queue, wait)) => session.goOn (.waitIdle queue wait)
      | none => session.answer .broken

def flushTracker (session : Session) (entry : TrackerEntry) : Except TrackerError Unit × Session :=
  match entry.queue, entry.queue.bind session.station? with
  | some queue, some station =>
      let (result, station) := station.flush
      (result, session.withStation queue station)
  | _, _ => (.ok (), session)

def flushTrackerNamed (session : Session) (name : String) : Begun :=
  match session.trackerNamed? name with
  | none => session.answer .unknown
  | some (_, entry) =>
      let (result, session) := session.flushTracker entry
      session.answer (.ofResult result)

/-- Change the chain of a tracker with a new plugin. -/
def changeTrackerChain
    (session : Session)
    (name : String)
    (spec : PluginSpec)
    (change : PluginChain → Plugin → Scene → PluginChain.Change Unit) : Begun :=
  let (plugin, session) := session.buildPlugin spec
  match session.trackerNamed? name with
  | none => session.answer .unknown
  | some (number, entry) =>
      let changed := change entry.tracker.chain plugin session.scene
      let session := session.withTracker number { entry.tracker with chain := changed.chain }
      answer { session with scene := changed.scene } (.ofResult changed.result)

def removeFromTracker (session : Session) (name plugin : String) : Begun :=
  match session.trackerNamed? name with
  | none => session.answer .unknown
  | some (number, entry) =>
      let changed := entry.tracker.chain.remove plugin session.scene
      let session := session.withTracker number { entry.tracker with chain := changed.chain }
      answer { session with scene := changed.scene } (removalAnswer changed.result)

def trackerHasPlugin (session : Session) (name plugin : String) : Begun :=
  match session.trackerNamed? name with
  | none => session.answer .unknown
  | some (_, entry) => session.answer (.flag (entry.tracker.chain.has plugin))

/-! The registry -/

def log (session : Session) (entry : LogEntry) : Session :=
  { session with scene := session.scene.log entry }

def register (session : Session) (name : String) : Begun :=
  match session.trackerNamed? name with
  | none => session.answer .unknown
  | some (number, entry) =>
      let id := entry.tracker.id
      let session := session.log (session.registry.addEntry id)
      let (found, registry) := session.registry.add id number
      answer { session with registry } (.registered id (found = number))

def unregister (session : Session) (id : String) : Begun :=
  match session.registry.delete id with
  | (.ok _, registry) =>
      answer ({ session with registry }.log (Registry.removedEntry id)) (.deleted id)
  | (.error error, registry) => answer { session with registry } (.failed error)

def lookUpTracker (session : Session) (id : Option String) : Begun :=
  match session.registry.get id with
  | .error error => session.answer (.failed error)
  | .ok number =>
      match session.trackers[number]? with
      | some entry => session.answer (.registeredTracker entry.tracker.id
          entry.tracker.applicationId entry.tracker.active)
      | none => session.answer .unknown

def changeDefault (session : Session) (id : String) : Begun :=
  let (result, registry) := session.registry.setDefault id
  answer { session with registry } (.ofResult result)

/-- Registered trackers in the order of their identifiers. -/
def registeredTrackers (session : Session) : List Nat :=
  session.registry.entries.map Prod.snd

/-- Flush every queue, also after a failure; the first failure is the result. -/
def flushAll (session : Session) : Begun :=
  let flushNext (state : Option TrackerError × Session) (number : Nat) :
      Option TrackerError × Session :=
    let (first, session) := state
    match session.trackers[number]? with
    | none => state
    | some entry =>
        match session.flushTracker entry with
        | (.ok (), session) => (first, session)
        | (.error error, session) =>
            (some (first.getD error),
              session.log (Registry.flushFailedEntry entry.tracker.id error))
  let (first, session) := session.registeredTrackers.foldl flushNext (none, session)
  session.answer (match first with
    | some error => .failed error
    | none => .done)

def reportRegistry (session : Session) : Begun :=
  session.answer (.registry session.registry.ids session.registry.defaultId)

def activateAll (session : Session) (value : Bool) : Begun :=
  answer
    (session.registeredTrackers.foldl
      (fun session number => session.setTrackerActive number value) session)
    .nothing

def waitForAll (session : Session) (options : WaitOptions) : Begun :=
  let waits := session.registeredTrackers.mapM fun number =>
    match session.trackers[number]? with
    | some entry => session.trackerWait? entry options
    | none => some (.inl true)
  match waits with
  | some waits => session.goOn (.waitAll waits)
  | none => session.answer .broken

/-- Begin a step. -/
def begin (session : Session) : Step → Begun
  | .sleep milliseconds => session.sleepFor milliseconds
  | .spawn name step => session.spawnStep name step
  | .join name => session.joinTask name
  | .transport name spec => session.makeTransport name spec
  | .inspect transport => session.inspectTransport transport
  | .handle transport events => session.handleEvents transport events
  | .setCollectorUsable collector value => session.changeCollector collector value
  | .collectorCalls collector => session.countCalls collector
  | .store name faults => session.makeStore name faults
  | .storeWrite store events => session.changeStore store (·.write events)
  | .storeDelete store ids => session.changeStore store (·.delete ids)
  | .storeClear store => session.changeStore store (·.clear)
  | .storeLength store => session.measureStore store
  | .storeRead store limit filter => session.readStore store limit filter
  | .queue name settings store observer => session.makeQueue name settings store observer
  | .bind queue transport => session.bindQueue queue transport
  | .push queue events => session.pushEvents queue events
  | .flush queue => session.flushQueue queue
  | .run queue => session.runQueue queue
  | .waitIdle queue interval timeout => session.waitForQueue queue interval timeout
  | .stats queue => session.reportStats queue
  | .chain name plugins host => session.makeChain name plugins host
  | .chainInfo chain => session.reportChain chain
  | .chainAdd chain plugin index =>
      session.changeChain chain plugin fun chain plugin scene => chain.add plugin index scene
  | .chainReplace chain plugin index =>
      session.changeChain chain plugin fun chain plugin scene => chain.replace plugin index scene
  | .chainRemove chain plugin => session.removeFromChain chain plugin
  | .chainGet chain plugin => session.lookUpPlugin chain plugin
  | .chainStart chain => session.startChain chain
  | .chainEnrich chain contexts => session.enrichWithChain chain contexts
  | .chainValidate chain event => session.validateWithChain chain event
  | .setSwitch switch value =>
      answer { session with scene := session.scene.setSwitch switch value } .nothing
  | .tracker name spec => session.makeTracker name spec
  | .track tracker input options => session.trackInput tracker input options
  | .trackerInfo tracker => session.reportTracker tracker
  | .setActive tracker value => session.activateTracker tracker value
  | .trackerWait tracker options => session.waitForTracker tracker options
  | .trackerFlush tracker => session.flushTrackerNamed tracker
  | .pluginAdd tracker plugin index =>
      session.changeTrackerChain tracker plugin fun chain plugin scene =>
        chain.add plugin index scene
  | .pluginReplace tracker plugin index =>
      session.changeTrackerChain tracker plugin fun chain plugin scene =>
        chain.replace plugin index scene
  | .pluginRemove tracker plugin => session.removeFromTracker tracker plugin
  | .pluginHas tracker plugin => session.trackerHasPlugin tracker plugin
  | .registryAdd tracker => session.register tracker
  | .registryDelete id => session.unregister id
  | .registryGet id => session.lookUpTracker id
  | .registrySetDefault id => session.changeDefault id
  | .registryFlush => session.flushAll
  | .registryInfo => session.reportRegistry
  | .registrySetActive value => session.activateAll value
  | .registryWait options => session.waitForAll options

end Session

end Telemetry
