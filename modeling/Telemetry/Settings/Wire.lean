import Telemetry.Json.Decoding
import Telemetry.Json.Writer
import Telemetry.Settings.Basic

/-!
Contract: settings as JSON.

Owns: writing all settings in full, and reading them with defaults for what is
left out.

Module levels are an object of texts; of two with one name the later one counts.
-/

namespace Telemetry

/-- Put an entry in the place of one with its key, or at the end. -/
def putEntry {α : Type} (key : String) (value : α) : List (String × α) → List (String × α)
  | [] => [(key, value)]
  | (existing, stored) :: rest =>
      if existing = key then (key, value) :: rest
      else (existing, stored) :: putEntry key value rest

namespace LoggingSettings

def toJson (settings : LoggingSettings) : Json :=
  .fields [
    ("level", .text settings.level),
    ("format", .text settings.format.name),
    ("output", .text settings.output.name),
    ("file", .text settings.file),
    ("color", .bool settings.color),
    ("modules", .fields (settings.modules.map fun (name, level) => (name, .text level)))]

def modulesOfJson? (document : Json) : Option (List (String × String)) :=
  document.toTextEntries?.map fun entries =>
    entries.foldl (fun modules entry => putEntry entry.1 entry.2 modules) []

def ofJson? (document : Json) : Option LoggingSettings := do
  match ← document.toRecord? ["level", "format", "output", "file", "color", "modules"] with
  | [level, format, output, file, color, modules] =>
      let standard : LoggingSettings := {}
      let level ← Json.defaulting standard.level Json.toText? level
      let format ← Json.defaulting standard.format
        (fun value => value.toChoice?.bind LogFormat.ofName?) format
      let output ← Json.defaulting standard.output
        (fun value => value.toChoice?.bind LogOutput.ofName?) output
      let file ← Json.defaulting standard.file Json.toText? file
      let color ← Json.defaulting standard.color Json.toBool? color
      let modules ← Json.defaulting standard.modules modulesOfJson? modules
      some { level, format, output, file, color, modules }
  | _ => none

end LoggingSettings

namespace Settings

def trackerToJson (settings : TrackerSettings) : Json :=
  .fields [
    ("application_id", .text settings.applicationId),
    ("tracker_id", .optional .text settings.trackerId),
    ("active", .bool settings.active)]

def queueToJson (settings : QueueSettings) : Json :=
  .fields [
    ("batch_size", .nat settings.batchSize),
    ("batch_delay_ms", .nat settings.batchDelay),
    ("concurrency", .nat settings.concurrency)]

def retryToJson (settings : RetrySettings) : Json :=
  .fields [
    ("max_attempts", .nat settings.maxAttempts),
    ("max_retry_ms", .optional .nat settings.maxRetry),
    ("min_timeout_ms", .nat settings.minTimeout),
    ("max_timeout_ms", .optional .nat settings.maxTimeout),
    ("retry_factor", .float settings.retryFactor)]

def waitToJson (settings : WaitOptions) : Json :=
  .fields [
    ("interval_ms", .nat settings.interval),
    ("timeout_ms", .optional .nat settings.timeout)]

def toJson (settings : Settings) : Json :=
  .fields [
    ("tracker", trackerToJson settings.tracker),
    ("queue", queueToJson settings.queue),
    ("retry", retryToJson settings.retry),
    ("wait", waitToJson settings.wait),
    ("logging", settings.logging.toJson)]

def trackerOfJson? (document : Json) : Option TrackerSettings := do
  match ← document.toRecord? ["application_id", "tracker_id", "active"] with
  | [applicationId, trackerId, active] =>
      let standard : TrackerSettings := {}
      let applicationId ← Json.defaulting standard.applicationId Json.toText? applicationId
      let trackerId ← Json.defaulting none (Json.toOption? Json.toText?) trackerId
      let active ← Json.defaulting standard.active Json.toBool? active
      some { applicationId, trackerId, active }
  | _ => none

def queueOfJson? (document : Json) : Option QueueSettings := do
  match ← document.toRecord? ["batch_size", "batch_delay_ms", "concurrency"] with
  | [batchSize, batchDelay, concurrency] =>
      let standard : QueueSettings := {}
      let batchSize ← Json.defaulting standard.batchSize (Json.toUnsigned? 64) batchSize
      let batchDelay ← Json.defaulting standard.batchDelay (Json.toUnsigned? 64) batchDelay
      let concurrency ← Json.defaulting standard.concurrency (Json.toUnsigned? 64) concurrency
      some { batchSize, batchDelay, concurrency }
  | _ => none

def retryOfJson? (document : Json) : Option RetrySettings := do
  match ← document.toRecord?
      ["max_attempts", "max_retry_ms", "min_timeout_ms", "max_timeout_ms", "retry_factor"] with
  | [maxAttempts, maxRetry, minTimeout, maxTimeout, retryFactor] =>
      let standard : RetrySettings := {}
      let optionalTime := Json.toOption? (Json.toUnsigned? 64)
      let maxAttempts ← Json.defaulting standard.maxAttempts (Json.toUnsigned? 32) maxAttempts
      let maxRetry ← Json.defaulting none optionalTime maxRetry
      let minTimeout ← Json.defaulting standard.minTimeout (Json.toUnsigned? 64) minTimeout
      let maxTimeout ← Json.defaulting none optionalTime maxTimeout
      let retryFactor ← Json.defaulting standard.retryFactor Json.toBinary64? retryFactor
      some { maxAttempts, maxRetry, minTimeout, maxTimeout, retryFactor }
  | _ => none

def waitOfJson? (document : Json) : Option WaitOptions := do
  match ← document.toRecord? ["interval_ms", "timeout_ms"] with
  | [interval, timeout] =>
      let interval ← Json.defaulting 100 (Json.toUnsigned? 64) interval
      let timeout ← Json.defaulting none (Json.toOption? (Json.toUnsigned? 64)) timeout
      some { interval, timeout }
  | _ => none

def ofJson? (document : Json) : Option Settings := do
  match ← document.toRecord? ["tracker", "queue", "retry", "wait", "logging"] with
  | [tracker, queue, retry, wait, logging] =>
      let tracker ← Json.defaulting {} trackerOfJson? tracker
      let queue ← Json.defaulting {} queueOfJson? queue
      let retry ← Json.defaulting {} retryOfJson? retry
      let wait ← Json.defaulting {} waitOfJson? wait
      let logging ← Json.defaulting {} LoggingSettings.ofJson? logging
      some { tracker, queue, retry, wait, logging }
  | _ => none

def parse? (text : String) : Option Settings :=
  (Json.parse? text).bind ofJson?

/-- All settings, indented. -/
def render (settings : Settings) : String :=
  settings.toJson.pretty

end Settings

end Telemetry
