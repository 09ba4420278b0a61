import Telemetry.Plugin.Scripted
import Telemetry.Tracker

/-!
Contract: what can be asked in a session, and what is answered.

Owns: descriptions of transports and plugins, steps and answers.

Things are named by the steps that make them, and later steps refer to them by
name.
-/

namespace Telemetry

/-- A collector that goes through a list of outcomes and then keeps to one. -/
structure CollectorSpec where
  name : String
  usable : Bool := true
  delay : Nat := 0
  script : List (Option TransportError) := []
  afterwards : Option TransportError := none
  detailed : Bool := false

inductive TransportSpec where
  | collector (collector : CollectorSpec)
  | named (name : String)
  | debug (name : String)
  | switch (observer : Observer) (name : String) (members : List TransportSpec)
  | group (observer : Observer) (name : String) (members : List TransportSpec)
  | retry (observer : Observer) (policy : RetryPolicy) (inner : TransportSpec)

inductive PluginSpec where
  | application
  | unique
  | scripted (script : ScriptedPlugin)

structure TrackerSpec where
  applicationId : String
  trackerId : Option String := none
  owner : Contexts := {}
  queue : Option String := none
  transport : Option TransportSpec := none
  recorder : Option TransportSpec := none
  plugins : Option (List PluginSpec) := none
  observer : Observer := .notes
  active : Bool := true
  waitDefaults : WaitOptions := {}
  /-- Identifiers that are used over and over. -/
  identifiers : List String := []

/-- Which stored events are read. -/
structure ReadFilter where
  skipIds : List String := []
  onlyType : Option String := none
  minTime : Nat := 0
deriving DecidableEq, Repr

def ReadFilter.keeps (filter : ReadFilter) (event : Event) : Bool :=
  event.id ∉ filter.skipIds && filter.onlyType.all (· = event.type) && filter.minTime ≤ event.time

/-- What a tracked event is made from. -/
inductive TrackInput where
  | attributes (attributes : EventAttributes)
  | text (text : String)

inductive Step where
  | sleep (milliseconds : Nat)
  | spawn (name : String) (step : Step)
  | join (name : String)
  | transport (name : String) (spec : TransportSpec)
  | inspect (transport : String)
  | handle (transport : String) (events : List Event)
  | setCollectorUsable (collector : String) (value : Bool)
  | collectorCalls (collector : String)
  | store (name : String) (faults : StoreFaults)
  | storeWrite (store : String) (events : List Event)
  | storeDelete (store : String) (ids : List String)
  | storeClear (store : String)
  | storeLength (store : String)
  | storeRead (store : String) (limit : Option Nat) (filter : ReadFilter)
  | queue (name : String) (settings : QueueSettings) (store : Option String) (observer : Observer)
  | bind (queue : String) (transport : TransportSpec)
  | push (queue : String) (events : List Event)
  | flush (queue : String)
  | run (queue : String)
  | waitIdle (queue : String) (interval timeout : Duration)
  | stats (queue : String)
  | chain (name : String) (plugins : List PluginSpec) (host : PluginHost)
  | chainInfo (chain : String)
  | chainAdd (chain : String) (plugin : PluginSpec) (index : Option Nat)
  | chainReplace (chain : String) (plugin : PluginSpec) (index : Option Nat)
  | chainRemove (chain plugin : String)
  | chainGet (chain plugin : String)
  | chainStart (chain : String)
  | chainEnrich (chain : String) (contexts : Contexts)
  | chainValidate (chain : String) (event : Event)
  | setSwitch (switch : String) (value : Bool)
  | tracker (name : String) (spec : TrackerSpec)
  | track (tracker : String) (input : TrackInput) (options : TrackOptions)
  | trackerInfo (tracker : String)
  | setActive (tracker : String) (value : Bool)
  | trackerWait (tracker : String) (options : Option WaitOptions)
  | trackerFlush (tracker : String)
  | pluginAdd (tracker : String) (plugin : PluginSpec) (index : Option Nat)
  | pluginReplace (tracker : String) (plugin : PluginSpec) (index : Option Nat)
  | pluginRemove (tracker plugin : String)
  | pluginHas (tracker plugin : String)
  | registryAdd (tracker : String)
  | registryDelete (id : String)
  | registryGet (id : Option String)
  | registrySetDefault (id : String)
  | registryFlush
  | registryInfo
  | registrySetActive (value : Bool)
  | registryWait (options : WaitOptions)

/-- What a composite transport is made of. -/
inductive Inspection where
  | leaf
  | switch (pinned : Option String)
  | group (members : List String)
  | retry (inner : String) (maxAttempts : Nat)
deriving DecidableEq, Repr

structure QueueStats where
  pending : Nat
  inFlight : Nat
  delivered : Nat
  failed : Nat
  idle : Bool
  running : Bool
  bound : Bool
  concurrency : Nat
deriving DecidableEq, Repr

structure TrackerInfo where
  id : String
  applicationId : String
  active : Bool
  plugins : List String
  owner : Contexts
  transport : Option String
  hasQueue : Bool
deriving DecidableEq, Repr

inductive Answer where
  | nothing
  | done
  | flag (value : Bool)
  | text (value : String)
  | texts (values : List String)
  | failed (error : TrackerError)
  | undelivered (error : TransportError)
  | malformed
  /-- A name in the step names nothing. -/
  | unknown
  /-- The step broke off. -/
  | broken
  | transport (name : String) (usable : Bool)
  | inspection (name : String) (usable : Bool) (inner : Inspection)
  | calls (count peak : Nat)
  | size (length : Nat) (empty : Bool)
  | events (events : List Event)
  | stats (stats : QueueStats)
  | chain (host : PluginHost) (names : List String)
  | removed (plugin : String)
  | plugin (has : Bool) (found : Except TrackerError (String × Bool))
  | enriched (failure : Option TrackerError) (contexts : Contexts)
  | event (event : Event)
  | tracker (info : TrackerInfo)
  | registered (id : String) (same : Bool)
  | deleted (id : String)
  | registeredTracker (id applicationId : String) (active : Bool)
  | registry (ids : List String) (defaultId : Option String)

namespace Answer

/-- The answer of an operation that gives nothing but its success. -/
def ofResult : Except TrackerError Unit → Answer
  | .ok () => .done
  | .error error => .failed error

def ofOutcome : Option TransportError → Answer
  | none => .done
  | some error => .undelivered error

end Answer

end Telemetry
