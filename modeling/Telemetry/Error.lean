import Telemetry.Text.Digits

/-!
Contract: what can go wrong, and how it is said.

Owns: the errors of stores, plugins, transports and trackers, their messages,
and which transport errors ask for another attempt.
-/

namespace Telemetry

inductive StoreError where
  | unavailable (reason : String)
  | writeRejected (reason : String)
deriving DecidableEq, Repr

def StoreError.message : StoreError → String
  | .unavailable reason => "Store unavailable: " ++ reason
  | .writeRejected reason => "Store write rejected: " ++ reason

inductive PluginError where
  | enrich (plugin reason : String)
  | validate (plugin reason : String)
deriving DecidableEq, Repr

def PluginError.message : PluginError → String
  | .enrich plugin reason => "Plugin '" ++ plugin ++ "' failed to enrich contexts: " ++ reason
  | .validate plugin reason => "Plugin '" ++ plugin ++ "' failed to validate event: " ++ reason

/-- Why a batch was not delivered. The errors of an exhausted retry stand with the most
recent one first. -/
inductive TransportError where
  | retryable (transport reason : String)
  | rejected (transport reason : String)
  | noUsableTransport (composite : String)
  | group (name : String) (failures : List TransportError)
  | retryExhausted (attempts : Nat) (errors : List TransportError)
  | store (error : StoreError)
deriving Repr

namespace TransportError

def message : TransportError → String
  | .retryable transport reason =>
      "Retryable send failure in '" ++ transport ++ "': " ++ reason
  | .rejected transport reason => "Delivery rejected by '" ++ transport ++ "': " ++ reason
  | .noUsableTransport composite => "No usable transport in '" ++ composite ++ "'"
  | .group name failures =>
      Text.decimal failures.length ++ " of the transports in group '" ++ name ++ "' failed"
  | .retryExhausted attempts errors =>
      "Retry exhausted after " ++ Text.decimal attempts ++ " attempt(s) (" ++
        Text.decimal errors.length ++ " error(s) recorded)"
  | .store error => "Store error: " ++ error.message

/-- Another attempt may succeed: a retryable failure, or a group that failed only so. -/
def isRetryable : TransportError → Bool
  | .retryable _ _ => true
  | .group _ failures => !failures.isEmpty && allRetryable failures
  | _ => false
where
  allRetryable : List TransportError → Bool
    | [] => true
    | failure :: failures => isRetryable failure && allRetryable failures

end TransportError

inductive TrackerError where
  | pluginAlreadyExists (name : String)
  | pluginNotFound (name : String)
  | invalidPluginIndex (index length : Nat)
  | missingProcessor
  | invalidBackoff (reason : String)
  | noUsableTransport (reason : String)
  | trackerNotFound (id : String)
  | noDefaultTracker
  | defaultTrackerInUse (id : String)
  | configuration (reason : String)
  | plugin (error : PluginError)
  | store (error : StoreError)
deriving DecidableEq, Repr

def TrackerError.message : TrackerError → String
  | .pluginAlreadyExists name => "Plugin already exists: " ++ name
  | .pluginNotFound name => "Plugin not found: " ++ name
  | .invalidPluginIndex index length =>
      "Invalid plugin index " ++ Text.decimal index ++ " (chain has " ++ Text.decimal length ++
        " plugin(s))"
  | .missingProcessor => "Queue has no process function bound"
  | .invalidBackoff reason => "Invalid backoff configuration: " ++ reason
  | .noUsableTransport reason => "No usable transport: " ++ reason
  | .trackerNotFound id => "Tracker not found: " ++ id
  | .noDefaultTracker => "No default tracker registered"
  | .defaultTrackerInUse id =>
      "Cannot delete default tracker '" ++ id ++ "' while other trackers are registered"
  | .configuration reason => "Configuration error: " ++ reason
  | .plugin error => "Plugin error: " ++ error.message
  | .store error => "Store error: " ++ error.message

end Telemetry
