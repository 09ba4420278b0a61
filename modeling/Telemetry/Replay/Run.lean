import Telemetry.Event.Wire
import Telemetry.Failure
import Telemetry.Files.Tree
import Telemetry.Replay.Drain
import Telemetry.Replay.Summary
import Telemetry.Session.Schedule
import Telemetry.Text.Blank

/-!
Contract: tracking events from lines of text.

Owns: a replay. It makes a queue, a transport that logs what it is given, and a
tracker for both; tracks the event that each line describes; and waits for the
queue to come to rest. Failures are told with what was being done.

Blank lines are skipped, and lines that describe no event are counted. The
tracker is active whatever the settings say.
-/

namespace Telemetry

namespace Replay

def logTarget : String := "eventline::cli::route"

/-- The name of the queue, the transport and the tracker of a replay. -/
def name : String := "replay"

/-- The transport of a replay. -/
def transport (settings : Settings) (retrying : Bool) : TransportSpec :=
  let debug := TransportSpec.debug Transport.debugName
  if retrying then .retry .log settings.retry.policy debug else debug

/-- The tracker of a replay. -/
def tracker (settings : Settings) (identifiers : List String) : TrackerSpec where
  applicationId := settings.tracker.applicationId
  trackerId := settings.tracker.trackerId
  queue := some name
  transport := some (.named name)
  observer := .log
  waitDefaults := settings.wait
  identifiers := identifiers

/-- Perform a step that can only fail with an error. -/
def prepare (session : Session) (circumstance : String) (step : Step) :
    Except Failure Unit × Session :=
  match session.perform step with
  | (.failed error, session) => (.error { causes := [circumstance, error.message] }, session)
  | (_, session) => (.ok (), session)

/-- Queue, transport and tracker, in this order. The clock starts at the given time. -/
def setUp (settings : Settings) (retrying : Bool) (spec : TrackerSpec) (start : Nat) :
    Except Failure Unit × Session :=
  match prepare { scene := { now := start } } "Invalid queue configuration"
      (.queue name settings.queue none .log) with
  | (.error failure, session) => (.error failure, session)
  | (.ok (), session) =>
      match prepare session "Invalid retry policy"
          (.transport name (transport settings retrying)) with
      | (.error failure, session) => (.error failure, session)
      | (.ok (), session) =>
          prepare session "Failed to build tracker" (.tracker name spec)

def lineEntry (message : String) (number : Nat) (error : String) : LogEntry where
  level := .warn
  target := logTarget
  message := message
  fields := [("line", .number number), ("error", .text error)]

/-- The lines of a text, with their numbers from one on. -/
def numberedLines (text : String) : List (Nat × String) :=
  let lines := (text.split '\n').toList.map String.Slice.copy
  (lines.zipIdx 1).map fun (line, number) => (number, line)

/-- Track the event of one line. -/
def trackLine (progress : ReplaySummary × Session) (line : Nat × String) :
    ReplaySummary × Session :=
  let (summary, session) := progress
  let content := Text.trim line.2
  if content = "" then (summary, session)
  else
    match EventAttributes.parse? content with
    | none =>
        let entry := lineEntry "Skipping malformed event" line.1 "no event"
        ({ summary with malformed := summary.malformed + 1 },
          { session with scene := session.scene.log entry })
    | some attributes =>
        match session.perform (.track name (.attributes attributes) {}) with
        | (.failed error, session) =>
            let entry := lineEntry "Event rejected" line.1 error.message
            ({ summary with rejected := summary.rejected + 1 },
              { session with scene := session.scene.log entry })
        | (_, session) => ({ summary with tracked := summary.tracked + 1 }, session)

/-- Wait for the queue, for as long as the events that were tracked can need. -/
def drain (settings : Settings) (tracked : Nat) : Step :=
  .trackerWait name (some (Drain.options settings tracked))

/-- The summary with the counts of the queue, once the wait for it is over. -/
def conclude (summary : ReplaySummary) (rested : Answer) (session : Session) :
    ReplaySummary × Session :=
  let drained := match rested with
    | .flag value => value
    | _ => false
  match session.perform (.stats name) with
  | (.stats stats, session) =>
      ({ summary with
          deliveredBatches := stats.delivered
          failedBatches := stats.failed
          pending := stats.pending
          drained },
        session)
  | (_, session) => ({ summary with drained }, session)

/-- Wait for the queue and take its counts. -/
def settle (settings : Settings) (summary : ReplaySummary) (session : Session) :
    ReplaySummary × Session :=
  let (rested, session) := session.perform (drain settings summary.tracked)
  conclude summary rested session

def finishedEntry (summary : ReplaySummary) : LogEntry where
  level := .info
  target := logTarget
  message := "Replay finished"
  fields := [("tracked", .number summary.tracked), ("drained", .flag summary.drained)]

/-- The entries that were logged in a session. -/
def logged (session : Session) : List LogEntry :=
  session.scene.notes.toList.filterMap fun note =>
    match note with
    | .logged entry => some entry
    | _ => none

/-- Replay the events of an input through a tracker. The input may turn out to be unreadable
once all else is made. -/
def runThrough
    (spec : TrackerSpec)
    (settings : Settings)
    (retrying : Bool)
    (start : Nat)
    (input : Except FileError String) : Except Failure ReplaySummary × List LogEntry :=
  match setUp settings retrying spec start with
  | (.error failure, session) => (.error failure, logged session)
  | (.ok (), session) =>
      match input with
      | .error error =>
          (.error { causes := ["Failed to read input", error.message] }, logged session)
      | .ok text =>
          let (summary, session) := (numberedLines text).foldl trackLine ({}, session)
          let (summary, session) := settle settings summary session
          (.ok summary, logged session ++ [finishedEntry summary])

/-- Replay the events of an input through the tracker of a replay. -/
def run
    (settings : Settings)
    (retrying : Bool)
    (identifiers : List String)
    (start : Nat)
    (input : Except FileError String) : Except Failure ReplaySummary × List LogEntry :=
  runThrough (tracker settings identifiers) settings retrying start input

end Replay

end Telemetry
