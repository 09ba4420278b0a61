import Telemetry.Binary64.Shortest
import Telemetry.Settings.Wire
import Telemetry.Text.Lowercase

/-!
Contract: settings before they have types.

Owns: the values that files and variables give, the lenient conversions to what a
setting needs, and reading all settings from one value.

A record is a table, or an array of its fields in order. Unknown fields and
extra items are ignored.
-/

namespace Telemetry

inductive SettingValue where
  | nil
  | bool (value : Bool)
  | integer (value : Int)
  | float (value : Binary64)
  | text (value : String)
  | array (items : List SettingValue)
  | table (entries : List (String × SettingValue))
deriving Inhabited

namespace SettingValue

/-- The words for yes and no, in letters of either case. -/
def wordValue? (text : String) : Option Bool :=
  let word := Text.lowercase text
  if word = "true" ∨ word = "on" ∨ word = "yes" then some true
  else if word = "false" ∨ word = "off" ∨ word = "no" then some false
  else none

def toBool? : SettingValue → Option Bool
  | .bool value => some value
  | .integer value => some (value ≠ 0)
  | .float value => some (!value.isZero)
  | .text written =>
      match wordValue? written with
      | some value => some value
      | none =>
          if written = "1" then some true
          else if written = "0" then some false
          else none
  | _ => none

/-- A natural number below `2 ^ 64`. Fractions are rounded and held in that range. -/
def toNat64? : SettingValue → Option Nat
  | .bool value => some value.toNat
  | .integer value => if 0 ≤ value ∧ value < Word.size 64 then some value.toNat else none
  | .float value => some (value.toNatSaturated (Word.largest 64))
  | .text written =>
      match wordValue? written with
      | some value => some value.toNat
      | none => Text.readUnsigned? 64 written.toList
  | _ => none

/-- A natural number below `2 ^ bits`. -/
def toUnsigned? (bits : Nat) (value : SettingValue) : Option Nat := do
  let number ← value.toNat64?
  if number < Word.size bits then some number else none

def toFloat? : SettingValue → Option Binary64
  | .bool value => some (if value then .one else .zero)
  | .integer value => some (.ofInt value)
  | .float value => some value
  | .text written =>
      match wordValue? written with
      | some value => some (if value then .one else .zero)
      | none => Binary64.ofText? written
  | _ => none

def integerText (value : Int) : String :=
  (if value < 0 then "-" else "") ++ Text.decimal value.natAbs

def toText? : SettingValue → Option String
  | .bool true => some "true"
  | .bool false => some "false"
  | .integer value => some (integerText value)
  | .float value => some value.display
  | .text value => some value
  | _ => none

/-- Nil stands for the absent value. -/
def toOption? {α : Type} (decode : SettingValue → Option α) : SettingValue → Option (Option α)
  | .nil => some none
  | value => (decode value).map some

/-- The name of a choice, in letters of either case: a text, or the only key of a table. -/
def toChoice? : SettingValue → Option String
  | .text name => some (Text.lowercase name)
  | .table [(name, _)] => some (Text.lowercase name)
  | _ => none

def toTextEntries? : SettingValue → Option (List (String × String))
  | .table entries => entries.mapM fun (key, value) => value.toText?.map fun text => (key, text)
  | _ => none

/-- The value of each named field, if it is given. -/
def toRecord? (names : List String) : SettingValue → Option (List (Option SettingValue))
  | .table entries => some (names.map fun name => entries.lookup name)
  | .array items => some (names.zipIdx.map fun (_, position) => items[position]?)
  | _ => none

/-- A field that has a default. -/
def defaulting {α : Type} (default : α) (decode : SettingValue → Option α) :
    Option SettingValue → Option α
  | none => some default
  | some value => decode value

end SettingValue

namespace LoggingSettings

open SettingValue

def ofValue? (value : SettingValue) : Option LoggingSettings := do
  match ← value.toRecord? ["level", "format", "output", "file", "color", "modules"] with
  | [level, format, output, file, color, modules] =>
      let standard : LoggingSettings := {}
      let level ← defaulting standard.level SettingValue.toText? level
      let format ← defaulting standard.format
        (fun value => value.toChoice?.bind LogFormat.ofName?) format
      let output ← defaulting standard.output
        (fun value => value.toChoice?.bind LogOutput.ofName?) output
      let file ← defaulting standard.file SettingValue.toText? file
      let color ← defaulting standard.color SettingValue.toBool? color
      let modules ← defaulting standard.modules SettingValue.toTextEntries? modules
      some { level, format, output, file, color, modules }
  | _ => none

end LoggingSettings

namespace Settings

open SettingValue

def trackerOfValue? (value : SettingValue) : Option TrackerSettings := do
  match ← value.toRecord? ["application_id", "tracker_id", "active"] with
  | [applicationId, trackerId, active] =>
      let standard : TrackerSettings := {}
      let applicationId ← defaulting standard.applicationId SettingValue.toText? applicationId
      let trackerId ← defaulting none (SettingValue.toOption? SettingValue.toText?) trackerId
      let active ← defaulting standard.active SettingValue.toBool? active
      some { applicationId, trackerId, active }
  | _ => none

def queueOfValue? (value : SettingValue) : Option QueueSettings := do
  match ← value.toRecord? ["batch_size", "batch_delay_ms", "concurrency"] with
  | [batchSize, batchDelay, concurrency] =>
      let standard : QueueSettings := {}
      let batchSize ← defaulting standard.batchSize (SettingValue.toUnsigned? 64) batchSize
      let batchDelay ← defaulting standard.batchDelay (SettingValue.toUnsigned? 64) batchDelay
      let concurrency ← defaulting standard.concurrency (SettingValue.toUnsigned? 64) concurrency
      some { batchSize, batchDelay, concurrency }
  | _ => none

def retryOfValue? (value : SettingValue) : Option RetrySettings := do
  match ← value.toRecord?
      ["max_attempts", "max_retry_ms", "min_timeout_ms", "max_timeout_ms", "retry_factor"] with
  | [maxAttempts, maxRetry, minTimeout, maxTimeout, retryFactor] =>
      let standard : RetrySettings := {}
      let optionalTime := SettingValue.toOption? (SettingValue.toUnsigned? 64)
      let maxAttempts ← defaulting standard.maxAttempts (SettingValue.toUnsigned? 32) maxAttempts
      let maxRetry ← defaulting none optionalTime maxRetry
      let minTimeout ← defaulting standard.minTimeout (SettingValue.toUnsigned? 64) minTimeout
      let maxTimeout ← defaulting none optionalTime maxTimeout
      let retryFactor ← defaulting standard.retryFactor SettingValue.toFloat? retryFactor
      some { maxAttempts, maxRetry, minTimeout, maxTimeout, retryFactor }
  | _ => none

def waitOfValue? (value : SettingValue) : Option WaitOptions := do
  match ← value.toRecord? ["interval_ms", "timeout_ms"] with
  | [interval, timeout] =>
      let interval ← defaulting 100 (SettingValue.toUnsigned? 64) interval
      let timeout ← defaulting none (SettingValue.toOption? (SettingValue.toUnsigned? 64)) timeout
      some { interval, timeout }
  | _ => none

def ofValue? (value : SettingValue) : Option Settings := do
  match ← value.toRecord? ["tracker", "queue", "retry", "wait", "logging"] with
  | [tracker, queue, retry, wait, logging] =>
      let tracker ← defaulting {} trackerOfValue? tracker
      let queue ← defaulting {} queueOfValue? queue
      let retry ← defaulting {} retryOfValue? retry
      let wait ← defaulting {} waitOfValue? wait
      let logging ← defaulting {} LoggingSettings.ofValue? logging
      some { tracker, queue, retry, wait, logging }
  | _ => none

end Settings

end Telemetry
