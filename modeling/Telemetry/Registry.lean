import Telemetry.Error
import Telemetry.Log

/-!
Contract: named trackers and a default one.

Owns: registering, removing and finding trackers, and the default.

Entries are kept in the order of their identifiers. The first tracker becomes
the default, which can be removed only as the last one.
-/

namespace Telemetry

/-- Trackers of any form `α`, each under its identifier. -/
structure Registry (α : Type) where
  entries : List (String × α) := []
  defaultId : Option String := none

namespace Registry

variable {α : Type}

def logTarget : String := "eventline::registry"

def find? (registry : Registry α) (id : String) : Option α :=
  registry.entries.lookup id

def contains (registry : Registry α) (id : String) : Bool :=
  (registry.find? id).isSome

def ids (registry : Registry α) : List String :=
  registry.entries.map Prod.fst

def length (registry : Registry α) : Nat :=
  registry.entries.length

/-- Insert an entry before the first one whose identifier is greater. -/
def insertEntry (entry : String × α) : List (String × α) → List (String × α)
  | [] => [entry]
  | first :: rest =>
      if entry.1 < first.1 then entry :: first :: rest else first :: insertEntry entry rest

/-- Register a tracker, unless its identifier is taken; give the one that is registered
under it. -/
def add (registry : Registry α) (id : String) (tracker : α) : α × Registry α :=
  match registry.find? id with
  | some existing => (existing, registry)
  | none =>
      (tracker, {
        entries := insertEntry (id, tracker) registry.entries
        defaultId := some (registry.defaultId.getD id) })

def delete (registry : Registry α) (id : String) : Except TrackerError α × Registry α :=
  match registry.find? id with
  | none => (.error (.trackerNotFound id), registry)
  | some tracker =>
      let isDefault := registry.defaultId = some id
      if isDefault ∧ 1 < registry.length then (.error (.defaultTrackerInUse id), registry)
      else
        (.ok tracker, {
          entries := registry.entries.filter fun entry => entry.1 ≠ id
          defaultId := if isDefault then none else registry.defaultId })

/-- The tracker with an identifier, or the default one. -/
def get (registry : Registry α) (id : Option String) : Except TrackerError α :=
  match id.or registry.defaultId with
  | none => .error .noDefaultTracker
  | some id =>
      match registry.find? id with
      | some tracker => .ok tracker
      | none => .error (.trackerNotFound id)

def setDefault (registry : Registry α) (id : String) : Except TrackerError Unit × Registry α :=
  if registry.contains id then (.ok (), { registry with defaultId := some id })
  else (.error (.trackerNotFound id), registry)

/-- The log entry of registering a tracker. -/
def addEntry (registry : Registry α) (id : String) : LogEntry :=
  if registry.contains id then
    { level := .warn
      target := logTarget
      message := "Tracker already registered, keeping existing instance"
      fields := [("tracker_id", .text id)] }
  else
    { level := .debug
      target := logTarget
      message := "Tracker registered"
      fields := [("tracker_id", .text id)] }

/-- The log entry of a tracker that was removed. -/
def removedEntry (id : String) : LogEntry where
  level := .debug
  target := logTarget
  message := "Tracker removed"
  fields := [("tracker_id", .text id)]

/-- The log entry of a registered tracker whose queue could not be flushed. -/
def flushFailedEntry (id : String) (error : TrackerError) : LogEntry where
  level := .warn
  target := logTarget
  message := "Failed to flush queue"
  fields := [("tracker_id", .text id), ("error", .text error.message)]

end Registry

end Telemetry
