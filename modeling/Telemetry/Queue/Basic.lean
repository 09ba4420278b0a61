import Telemetry.Store
import Telemetry.Transport.Call

/-!
Contract: the delivery queue and its atomic steps.

Owns:
- settings and which of them are accepted;
- the state of a queue, and the station where it works: the queue, its store and
  the surroundings;
- the atomic steps: pushing, flushing, reading a batch and settling it.

Until a batch has succeeded, only one is under way at a time. A failed batch
stays in the store and is read again.

Does not own: in which order a run takes the steps; see `Queue.Run`.
-/

namespace Telemetry

structure QueueSettings where
  /-- The most events in a batch. -/
  batchSize : Nat := 10
  /-- Milliseconds between the end of a round and the start of the next. -/
  batchDelay : Nat := 1000
  /-- The most batches under way at once. -/
  concurrency : Nat := 4
deriving DecidableEq, Repr

def QueueSettings.validate (settings : QueueSettings) : Except TrackerError Unit :=
  if settings.batchSize = 0 then
    .error (.configuration "Queue batch_size must be at least 1")
  else if settings.concurrency = 0 then
    .error (.configuration "Queue concurrency must be at least 1")
  else .ok ()

structure Queue where
  settings : QueueSettings
  observer : Observer
  /-- Where batches go. -/
  processor : Option Transport := none
  /-- A run is draining the queue. -/
  running : Bool := false
  firstBatchSucceeded : Bool := false
  /-- Identifiers of events that are in batches under way. -/
  inFlight : List String := []
  /-- When the last round ended. -/
  lastRound : Option Nat := none
  deliveredBatches : Nat := 0
  failedBatches : Nat := 0

namespace Queue

def logTarget : String := "eventline::queue"

def entry (level : LogLevel) (message : String) (fields : List (String × LogValue)) :
    LogEntry :=
  { level, target := logTarget, message, fields }

/-- An idle queue with accepted settings. -/
def make (settings : QueueSettings) (observer : Observer) : Except TrackerError Queue :=
  match settings.validate with
  | .ok () => .ok { settings, observer }
  | .error error => .error error

def effectiveConcurrency (queue : Queue) : Nat :=
  if queue.firstBatchSucceeded then queue.settings.concurrency else 1

/-- Nothing is stored and nothing is under way. -/
def isIdle (queue : Queue) (store : Store) : Bool :=
  store.isEmpty && queue.inFlight.isEmpty

/-- Hand batches to a transport from the next run on. -/
def bind (queue : Queue) (transport : Transport) (scene : Scene) : Queue × Scene :=
  ({ queue with processor := some transport },
    scene.log (entry .debug "Binding queue to transport" [("transport", .text transport.name)]))

end Queue

/-- A queue at work: its state, its store and the surroundings. -/
structure Station where
  queue : Queue
  store : Store
  scene : Scene

namespace Station

def isIdle (station : Station) : Bool :=
  station.queue.isIdle station.store

def log (station : Station) (entry : LogEntry) : Station :=
  { station with scene := station.scene.log entry }

/-- Store events. Where tasks can run, the caller starts a run after a success. -/
def push (station : Station) (tasks : Bool) (events : List Event) :
    Except TrackerError Unit × Station :=
  match station.store.write events with
  | (.error error, store) => (.error (.store error), { station with store })
  | (.ok (), store) =>
      let station := { station with store }.log
        (Queue.entry .debug "Enqueued events" [
          ("count", .number events.length),
          ("queue_size", .number store.length)])
      let station :=
        if tasks then station
        else station.log (Queue.entry .debug "No async runtime available, queue run deferred" [])
      (.ok (), station)

/-- Drop all stored events, also those under way. -/
def flush (station : Station) : Except TrackerError Unit × Station :=
  let dropped := station.store.length
  match station.store.clear with
  | (.error error, store) => (.error (.store error), { station with store })
  | (.ok (), store) =>
      (.ok (), { station with store }.log
        (Queue.entry .debug "Flushed queue" [("dropped", .number dropped)]))

/-- Take the next stored events that are not under way, and mark them so. -/
def readBatch (station : Station) : Except StoreError (List Event) × Station :=
  let free (event : Event) : Bool := event.id ∉ station.queue.inFlight
  match station.store.read station.queue.settings.batchSize free with
  | (.error error, store) => (.error error, { station with store })
  | (.ok batch, store) =>
      let inFlight := station.queue.inFlight ++ batch.map Event.id
      (.ok batch, { station with queue := { station.queue with inFlight }, store })

/-- A batch was delivered: its events leave the store. -/
def settleDelivered (station : Station) (ids : List String) (startedAt : Nat) : Station :=
  let (result, store) := station.store.delete ids
  let station := { station with store }
  let station := match result with
    | .ok () => station
    | .error error => station.log
        (Queue.entry .warn "Failed to delete delivered batch from store" [
          ("error", .text error.message),
          ("size", .number ids.length)])
  { station with
    queue := { station.queue with
      firstBatchSucceeded := true
      deliveredBatches := station.queue.deliveredBatches + 1 }
    scene := station.scene.observe station.queue.observer
      (.batchDelivered ids.length (station.scene.now - startedAt)) }

/-- A batch failed: its events stay in the store. -/
def settleFailed (station : Station) (ids : List String) (error : TransportError) : Station :=
  { station with
    queue := { station.queue with failedBatches := station.queue.failedBatches + 1 }
    scene := station.scene.observe station.queue.observer
      (.batchFailed ids.length error.message) }

/-- A batch has its outcome and is no longer under way. -/
def settle
    (station : Station)
    (batch : List Event)
    (startedAt : Nat)
    (failure : Option TransportError) : Station :=
  let ids := batch.map Event.id
  let station := match failure with
    | none => station.settleDelivered ids startedAt
    | some error => station.settleFailed ids error
  { station with queue := { station.queue with
      inFlight := station.queue.inFlight.filter fun id => id ∉ ids } }

end Station

end Telemetry
