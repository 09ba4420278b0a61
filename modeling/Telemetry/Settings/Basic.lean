import Telemetry.Logging.Options
import Telemetry.Queue.Basic
import Telemetry.Tracker

/-!
Contract: the settings of the program.

Owns: the sections with their defaults, what they mean for queues, retries and
waits, and the list of everything that is wrong with them.

Does not own: where settings come from; see `Settings.Load`.
-/

namespace Telemetry

structure TrackerSettings where
  applicationId : String := "eventline"
  /-- Without one, the application's identifier. -/
  trackerId : Option String := none
  active : Bool := true
deriving DecidableEq, Repr

/-- Limits that are not set do not limit. Times are milliseconds. -/
structure RetrySettings where
  maxAttempts : Nat := 10
  maxRetry : Option Nat := none
  minTimeout : Nat := 1000
  maxTimeout : Option Nat := none
  retryFactor : Binary64 := .two
deriving DecidableEq, Repr

def RetrySettings.policy (settings : RetrySettings) : RetryPolicy where
  maxAttempts := settings.maxAttempts
  maxRetry := settings.maxRetry.map Duration.ofMilliseconds
  minTimeout := .ofMilliseconds settings.minTimeout
  maxTimeout := settings.maxTimeout.map Duration.ofMilliseconds
  retryFactor := settings.retryFactor

structure Settings where
  tracker : TrackerSettings := {}
  queue : QueueSettings := {}
  retry : RetrySettings := {}
  wait : WaitOptions := {}
  logging : LoggingSettings := {}
deriving DecidableEq, Repr

/-- Something wrong with one section. -/
inductive SettingsIssue where
  | tracker (reason : String)
  | queue (reason : String)
  | retry (reason : String)
  | wait (reason : String)
deriving DecidableEq, Repr

def SettingsIssue.message : SettingsIssue → String
  | .tracker reason => "Tracker: " ++ reason
  | .queue reason => "Queue: " ++ reason
  | .retry reason => "Retry: " ++ reason
  | .wait reason => "Wait: " ++ reason

namespace Settings

def trackerIssues (settings : TrackerSettings) : List SettingsIssue :=
  (if Text.isBlank settings.applicationId then
    [.tracker "application_id cannot be empty"] else []) ++
  (if settings.trackerId.any Text.isBlank then
    [.tracker "tracker_id cannot be empty when set"] else [])

def queueIssues (settings : QueueSettings) : List SettingsIssue :=
  match settings.validate with
  | .ok () => []
  | .error error => [.queue error.message]

/-- A growth that is no positive number is an issue of its own, and one of the policy. -/
def retryIssues (settings : RetrySettings) : List SettingsIssue :=
  (if settings.maxAttempts = 0 then [.retry "max_attempts must be at least 1"] else []) ++
  (if settings.retryFactor.isPositive then []
    else [.retry
      ("retry_factor must be a positive number, got " ++ settings.retryFactor.display)]) ++
  (match settings.policy.validate with
    | .ok () => []
    | .error error => [.retry error.message])

def waitIssues (settings : WaitOptions) : List SettingsIssue :=
  if settings.interval = 0 then [.wait "interval_ms must be greater than 0"] else []

/-- All issues, section by section. -/
def issues (settings : Settings) : List SettingsIssue :=
  trackerIssues settings.tracker ++ queueIssues settings.queue ++ retryIssues settings.retry ++
    waitIssues settings.wait

/-- Settings without issues; otherwise the error names them all. -/
def validated (settings : Settings) : Except TrackerError Settings :=
  match settings.issues with
  | [] => .ok settings
  | issues => .error (.configuration
      ("Configuration validation failed:\n" ++
        "\n".intercalate (issues.map SettingsIssue.message)))

end Settings

end Telemetry
