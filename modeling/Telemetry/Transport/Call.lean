import Telemetry.Event.Wire
import Telemetry.Timestamp
import Telemetry.Transport.Basic

/-!
Contract: delivering a batch through a transport.

Owns:
- a call in progress and what it waits for;
- starting a call, and resuming it when time has passed;
- the attempts of a retry.

A call does all it can without waiting. The members of a group are started, and
later resumed, in order. Attempts are counted in 32 bits.
-/

namespace Telemetry

/-- A retry of one batch: the errors so far, most recent first, and the number of the
attempt that is next or under way. -/
structure RetryAttempt where
  observer : Observer
  policy : RetryPolicy
  inner : Transport
  events : List Event
  startedAt : Nat
  count : Nat := 1
  errors : List TransportError := []

inductive Call where
  | settled (failure : Option TransportError)
  | collecting (index : Nat) (name : String) (due : Nat) (failure : Option TransportError)
  | fanOut (group : String) (members : List Call)
  | attempting (attempt : RetryAttempt) (call : Call)
  | backingOff (attempt : RetryAttempt) (due : Nat)

namespace Call

/-- The outcome of a call that is settled. -/
def outcome? : Call → Option (Option TransportError)
  | .settled failure => some failure
  | _ => none

/-- The next time at which something happens in the call. -/
def deadline? : Call → Option Nat
  | .settled _ => none
  | .collecting _ _ due _ => some due
  | .fanOut _ members => earliest members
  | .attempting _ call => call.deadline?
  | .backingOff _ due => some due
where
  earliest : List Call → Option Nat
    | [] => none
    | member :: members =>
        match member.deadline?, earliest members with
        | some first, some other => some (min first other)
        | some first, none => some first
        | none, other => other

/-- A group's call is settled once all its members are, and failed if one of them did. -/
def joined (group : String) (members : List Call) : Call :=
  match members.mapM outcome? with
  | none => .fanOut group members
  | some outcomes =>
      match outcomes.filterMap fun failure => failure with
      | [] => .settled none
      | failures => .settled (some (.group group failures))

end Call

namespace Scene

/-- The answer of a collector has arrived. -/
def answered
    (scene : Scene)
    (index : Nat)
    (name : String)
    (failure : Option TransportError) : Scene :=
  (scene.modifyCollector index Collector.finish).note (.answered scene.now name failure)

/-- Call a collector. One that answers without delay has answered at once. -/
def callCollector (scene : Scene) (index : Nat) (name : String) (events : List Event) :
    Call × Scene :=
  match scene.collectors[index]? with
  | none => (.settled none, scene)
  | some collector =>
      let (reply, collector) := collector.begin
      let scene := { scene with collectors := scene.collectors.set index collector }
      let scene := scene.note (.called scene.now name events collector.detailed)
      if reply.duration = 0 then (.settled reply.failure, scene.answered index name reply.failure)
      else (.collecting index name (scene.now + reply.duration) reply.failure, scene)

/-- The log entry of an event delivered to the debug log. -/
def debugEntry (transport : String) (event : Event) : LogEntry where
  level := .debug
  target := "eventline::transport::debug"
  message := "Event delivered"
  fields := [
    ("transport", .text transport),
    ("event_type", .text event.type),
    ("event_id", .text event.id),
    ("time", .text (Timestamp.ofEventTime event.time)),
    ("payload", .text event.wire)]

end Scene

namespace RetryAttempt

def name (attempt : RetryAttempt) : String :=
  (Transport.retry attempt.observer attempt.policy attempt.inner).name

/-- No further call is made: the attempts or the time for them are used up. -/
def isExhausted (attempt : RetryAttempt) (now : Nat) : Bool :=
  attempt.policy.maxAttempts < attempt.count ||
    (match attempt.policy.maxRetry with
      | some limit => limit ≤ Duration.ofMilliseconds (now - attempt.startedAt)
      | none => false)

/-- The number of the attempt before this one. -/
def previous (attempt : RetryAttempt) : Nat :=
  (attempt.count + Word.largest 32) % Word.size 32

def advance (attempt : RetryAttempt) : RetryAttempt :=
  { attempt with count := (attempt.count + 1) % Word.size 32 }

def exhaust (attempt : RetryAttempt) (scene : Scene) : Call × Scene :=
  (.settled (some (.retryExhausted attempt.previous attempt.errors)),
    scene.observe attempt.observer (.retryExhausted attempt.name attempt.previous))

/-- Record a failure that asks for another attempt, and the time for it. -/
def schedule (attempt : RetryAttempt) (error : TransportError) (scene : Scene) :
    RetryAttempt × Nat × Scene :=
  let delay := attempt.policy.nextTimeout attempt.previous
  let report := .retryScheduled attempt.name attempt.count delay.milliseconds error.message
  ({ attempt with errors := error :: attempt.errors },
    scene.now + delay.timerMilliseconds,
    scene.observe attempt.observer report)

/-- Follow a call of the inner transport: pass on its outcome, wait for it, or make
further attempts as long as no wait comes between, at most `turns` of them. -/
def follow
    (start : Scene → Call × Scene)
    (turns : Nat)
    (attempt : RetryAttempt)
    (call : Call)
    (scene : Scene) : Call × Scene :=
  match call with
  | .settled none => (.settled none, scene)
  | .settled (some error) =>
      if error.isRetryable then
        let (attempt, due, scene) := attempt.schedule error scene
        match turns with
        | 0 => (.backingOff attempt due, scene)
        | turns + 1 =>
            if scene.now < due then (.backingOff attempt due, scene)
            else
              let attempt := attempt.advance
              if attempt.isExhausted scene.now then attempt.exhaust scene
              else
                let (call, scene) := start scene
                follow start turns attempt call scene
      else (.settled (some error), scene)
  | call => (.attempting attempt call, scene)

/-- Make the attempt that is next, unless the attempts are used up. -/
def make (start : Scene → Call × Scene) (attempt : RetryAttempt) (scene : Scene) : Call × Scene :=
  if attempt.isExhausted scene.now then attempt.exhaust scene
  else
    let (call, scene) := start scene
    attempt.follow start attempt.policy.maxAttempts call scene

end RetryAttempt

namespace Transport

/-- Hand a batch to a transport. -/
def start (events : List Event) : Transport → Scene → Call × Scene
  | .collector index name, scene => scene.callCollector index name events
  | .debug name, scene =>
      (.settled none, events.foldl (fun scene event => scene.log (Scene.debugEntry name event)) scene)
  | .switch name none, scene => (.settled (some (.noUsableTransport name)), scene)
  | .switch _ (some pinned), scene => pinned.start events scene
  | .group name [], scene => (.settled (some (.noUsableTransport name)), scene)
  | .group name (member :: members), scene =>
      let (call, scene) := member.start events scene
      let (calls, scene) := startAll members scene
      (.joined name (call :: calls), scene)
  | .retry observer policy inner, scene =>
      let attempt : RetryAttempt :=
        { observer, policy, inner, events, startedAt := scene.now }
      attempt.make (inner.start events) scene
where
  startAll : List Transport → Scene → List Call × Scene
    | [], scene => ([], scene)
    | member :: members, scene =>
        let (call, scene) := member.start events scene
        let (calls, scene) := startAll members scene
        (call :: calls, scene)

end Transport

namespace Call

/-- Do what has become possible since the call was last looked at. -/
def resume : Call → Scene → Call × Scene
  | .settled failure, scene => (.settled failure, scene)
  | .collecting index name due failure, scene =>
      if due ≤ scene.now then (.settled failure, scene.answered index name failure)
      else (.collecting index name due failure, scene)
  | .fanOut group members, scene =>
      let (members, scene) := resumeAll members scene
      (.joined group members, scene)
  | .attempting attempt call, scene =>
      let (call, scene) := call.resume scene
      attempt.follow (attempt.inner.start attempt.events) attempt.policy.maxAttempts call scene
  | .backingOff attempt due, scene =>
      if due ≤ scene.now then attempt.advance.make (attempt.inner.start attempt.events) scene
      else (.backingOff attempt due, scene)
where
  resumeAll : List Call → Scene → List Call × Scene
    | [], scene => ([], scene)
    | member :: members, scene =>
        let (member, scene) := member.resume scene
        let (members, scene) := resumeAll members scene
        (member :: members, scene)

end Call

end Telemetry
