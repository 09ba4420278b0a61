import Telemetry.Event.Identifier
import Telemetry.Plugin.ApplicationContext
import Telemetry.Plugin.Chain
import Telemetry.Queue.Wait
import Telemetry.Text.Blank

/-!
Contract: trackers, which turn attributes into delivered events.

Owns:
- building a tracker, and switching it on and off;
- the pipeline of an event: make it, enrich it, validate it, and hand it to the
  queue or to the transport;
- waiting for the queue and flushing it afterwards.

Failures of delivery never stop an event; failures of plugins do. Identifiers
come from a generator that is asked once for each event.

Does not own: the work that goes on in the background; a tracker only asks for
it.
-/

namespace Telemetry

/-- How long to wait for a queue. Without a timeout, twice its batch delay. -/
structure WaitOptions where
  interval : Nat := 100
  timeout : Option Nat := none
deriving DecidableEq, Repr

/-- Whether stored events are dropped when an event has been tracked. -/
inductive FlushMode where
  | never
  | always
  | onTimeout
deriving DecidableEq, Repr

structure TrackOptions where
  wait : Option WaitOptions := none
  flush : FlushMode := .never
deriving DecidableEq, Repr

/-- A tracker. Its queue is kept apart, in the site where the tracker works. -/
structure Tracker where
  id : String
  applicationId : String
  owner : Contexts := {}
  transport : Option Transport := none
  chain : PluginChain
  observer : Observer
  active : Bool := false
  waitDefaults : WaitOptions := {}
  /-- The identifier of each event that is made. -/
  identifier : Nat → String
  /-- Events made so far. -/
  drawn : Nat := 0

/-- Work asked for in the background. -/
inductive Job where
  | run
  | deliver (observer : Observer) (transport : Transport) (event : Event)

/-- What a tracker works with: its queue and store if it has them, and the
surroundings. Without tasks nothing can run in the background. -/
structure Site where
  tasks : Bool
  channel : Option (Queue × Store)
  scene : Scene
  jobs : List Job := []

namespace Site

def log (site : Site) (entry : LogEntry) : Site :=
  { site with scene := site.scene.log entry }

/-- Take over what a queue's station became. -/
def withStation (site : Site) (station : Station) : Site :=
  { site with channel := some (station.queue, station.store), scene := station.scene }

end Site

namespace Tracker

def logTarget : String := "eventline::tracker"

/-- The settings of a tracker before it is built. -/
structure Plan where
  applicationId : String
  trackerId : Option String := none
  owner : Contexts := {}
  transport : Option Transport := none
  recorder : Option Transport := none
  plugins : Option (List Plugin) := none
  observer : Observer
  active : Bool := true
  waitDefaults : WaitOptions := {}
  identifier : Nat → String

def defaultPlugins : List Plugin := [ApplicationContext.plugin]

/-- Switching on runs the plugins' hooks for the start, and binds the queue if the
transport is usable then. -/
def setActive (tracker : Tracker) (active : Bool) (site : Site) : Tracker × Site :=
  if tracker.active = active then (tracker, site)
  else
    let tracker := { tracker with active }
    let entry (message : String) : LogEntry :=
      { level := .info, target := logTarget, message, fields := [("tracker_id", .text tracker.id)] }
    if active then
      let scene := tracker.chain.startAll site.scene
      let site := match site.channel, tracker.transport with
        | some (queue, store), some transport =>
            if transport.isUsable scene then
              let (queue, scene) := queue.bind transport scene
              { site with channel := some (queue, store), scene }
            else { site with scene }
        | _, _ => { site with scene }
      (tracker, site.log (entry "Tracker activated"))
    else (tracker, site.log (entry "Tracker deactivated"))

/-- A recorder receives what the transport receives, as a second member of a group. -/
def combinedTransport (plan : Plan) (scene : Scene) : Option Transport × Scene :=
  match plan.transport, plan.recorder with
  | some transport, some recorder =>
      let (group, scene) :=
        Transport.buildGroup plan.observer Transport.groupName [transport, recorder] scene
      (some group, scene)
  | none, some recorder => (some recorder, scene)
  | transport, none => (transport, scene)

def build (plan : Plan) (site : Site) : Except TrackerError Tracker × Site :=
  if Text.isBlank plan.applicationId then
    (.error (.configuration "application_id cannot be empty"), site)
  else
    let id := plan.trackerId.getD plan.applicationId
    let (transport, scene) := combinedTransport plan site.scene
    let host : PluginHost :=
      { trackerId := id, applicationId := plan.applicationId, observer := plan.observer }
    let tracker : Tracker := {
      id
      applicationId := plan.applicationId
      owner := plan.owner
      transport
      chain := PluginChain.make (plan.plugins.getD defaultPlugins) host
      observer := plan.observer
      waitDefaults := plan.waitDefaults
      identifier := plan.identifier }
    let site := { site with scene }
    if plan.active then
      let (tracker, site) := tracker.setActive true site
      (.ok tracker, site)
    else (.ok tracker, site)

/-- Make the event and let the plugins enrich and validate it. -/
def prepare (tracker : Tracker) (event : Event) (scene : Scene) :
    Except PluginError Event × Scene :=
  let enriched := tracker.chain.enrich event.contexts scene
  match enriched.failure with
  | some error => (.error error, enriched.scene)
  | none =>
      let event := event.derive enriched.contexts
      match tracker.chain.validate event enriched.scene with
      | (some error, scene) => (.error error, scene)
      | (none, scene) => (.ok event, scene)

def reportFailure (tracker : Tracker) (transport : String) (event : Event) (error : String)
    (site : Site) : Site :=
  { site with scene :=
      site.scene.observe tracker.observer (.deliveryFailed transport event.id error) }

/-- Hand an event to the queue, or else to the transport, if the transport is usable. -/
def deliver (tracker : Tracker) (event : Event) (site : Site) : Site :=
  match tracker.transport with
  | none => site
  | some transport =>
      if !transport.isUsable site.scene then site
      else
        match site.channel with
        | some (queue, store) =>
            match (Station.mk queue store site.scene).push site.tasks [event] with
            | (.ok (), station) =>
                let site := site.withStation station
                if site.tasks then { site with jobs := site.jobs ++ [.run] } else site
            | (.error error, station) =>
                tracker.reportFailure transport.name event error.message (site.withStation station)
        | none =>
            if site.tasks then
              { site with jobs := site.jobs ++ [.deliver tracker.observer transport event] }
            else tracker.reportFailure transport.name event "no async runtime available" site

/-- How tracking an event goes on: it is over, or the queue is waited for or flushed. -/
inductive Progress where
  | over (result : Except TrackerError Event)
  | queued (event : Event)

/-- What an inactive tracker logs. -/
def inactiveEntry (tracker : Tracker) (event : Event) : LogEntry where
  level := .debug
  target := logTarget
  message := "Tracker inactive, event not processed"
  fields := [("tracker_id", .text tracker.id), ("event_id", .text event.id)]

/-- Track an event up to the point where the queue may be waited for. -/
def track (tracker : Tracker) (attributes : EventAttributes) (time : Nat) (site : Site) :
    Progress × Tracker × Site :=
  let event := Event.track attributes tracker.owner (tracker.identifier tracker.drawn) time
  let tracker := { tracker with drawn := tracker.drawn + 1 }
  if !tracker.active then
    (.over (.ok event), tracker, site.log (tracker.inactiveEntry event))
  else
    match tracker.prepare event site.scene with
    | (.error error, scene) => (.over (.error (.plugin error)), tracker, { site with scene })
    | (.ok event, scene) =>
        let site := tracker.deliver event { site with scene }
        match site.channel with
        | some _ => (.queued event, tracker, site)
        | none => (.over (.ok event), tracker, site)

/-- Whether to flush after the wait, if there was one, ended with or without an idle
queue. -/
def flushWanted (mode : FlushMode) (reachedIdle : Option Bool) (idle : Bool) : Bool :=
  match mode with
  | .never => false
  | .always => true
  | .onTimeout => !(reachedIdle.getD idle)

/-- Flush the queue if that is wanted; a failure is only logged. -/
def conclude
    (tracker : Tracker)
    (mode : FlushMode)
    (reachedIdle : Option Bool)
    (station : Station) : Station :=
  if flushWanted mode reachedIdle station.isIdle then
    match station.flush with
    | (.ok (), station) => station
    | (.error error, station) => station.log {
        level := .warn
        target := logTarget
        message := "Failed to flush queue"
        fields := [("tracker_id", .text tracker.id), ("error", .text error.message)] }
  else station

end Tracker

namespace WaitOptions

/-- The timeout of a wait for a queue with the given settings. -/
def timeoutFor (options : WaitOptions) (settings : QueueSettings) : Nat :=
  options.timeout.getD (settings.batchDelay * 2)

/-- A wait for a queue with the given settings. -/
def start? (options : WaitOptions) (settings : QueueSettings) (now : Nat) : Option IdleWait :=
  IdleWait.start? now (.ofMilliseconds options.interval)
    (.ofMilliseconds (options.timeoutFor settings))

end WaitOptions

end Telemetry
