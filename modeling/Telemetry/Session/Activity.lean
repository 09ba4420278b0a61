import Telemetry.Session.Perform

/-!
Contract: how activities go on.

Owns: one turn of an activity, which does all that is possible without waiting,
and what an activity then waits for.
-/

namespace Telemetry

/-- What an activity waits for. -/
inductive Wake where
  | at (due : Nat)
  /-- Others that can go on go first. -/
  | yielded
  | whenOver (task : Nat)
deriving DecidableEq, Repr

def Run.awaited (run : Run) : Wake :=
  match run.stage with
  | .delayed due => .at due
  | .yielded => .yielded
  | .awaiting _ waiting => .at ((Run.earliest waiting).getD 0)
  | _ => .at 0

/-- The next time at which one of several waits looks at its queue. -/
def earliestLook : List (Bool ⊕ Nat × IdleWait) → Option Nat
  | [] => none
  | .inl _ :: waits => earliestLook waits
  | .inr (_, wait) :: waits =>
      match earliestLook waits with
      | some other => some (min wait.due other)
      | none => some wait.due

def Activity.awaited : Activity → Wake
  | .step _ => .at 0
  | .sleep due => .at due
  | .run _ draining => draining.awaited
  | .waitIdle _ wait => .at wait.due
  | .handle call => .at (call.deadline?.getD 0)
  | .track _ _ _ _ wait => .at wait.due
  | .waitAll waits => .at ((earliestLook waits).getD 0)
  | .join task => .whenOver task
  | .backgroundRun _ (some draining) => draining.awaited
  | .backgroundRun _ none => .at 0
  | .backgroundDelivery _ _ _ (some call) => .at (call.deadline?.getD 0)
  | .backgroundDelivery _ _ _ none => .at 0

namespace Session

/-- A turn of a run: the answer once it has ended or broken off. -/
def turnRun (session : Session) (queue : Nat) (run : Run) : Option Answer × Run × Session :=
  match session.station? queue with
  | none => (some (.flag false), run, session)
  | some station =>
      let (run, station) := run.turn station
      let session := session.withStation queue station
      match run.stage with
      | .finished => (some (.flag run.ran), run, session)
      | .broken => (some .broken, run, session)
      | _ => (none, run, session)

def queueIdle (session : Session) (queue : Nat) : Bool :=
  match session.station? queue with
  | some station => station.isIdle
  | none => true

/-- Look at the queues of several waits, in order, where that is due. -/
def pollWaits (session : Session) (waits : List (Bool ⊕ Nat × IdleWait)) :
    List (Bool ⊕ Nat × IdleWait) :=
  waits.map fun
    | .inl idle => .inl idle
    | .inr (queue, wait) =>
        match wait.poll session.now (session.queueIdle queue) with
        | .inl idle => .inl idle
        | .inr wait => .inr (queue, wait)

/-- The answers of waits, once all are over. -/
def waitResults? (waits : List (Bool ⊕ Nat × IdleWait)) : Option (List Bool) :=
  waits.mapM fun
    | .inl idle => some idle
    | .inr _ => none

/-- A run in the background: its failure is logged. -/
def turnBackgroundRun (session : Session) (queue : Nat) (run : Run) : Begun :=
  match session.turnRun queue run with
  | (some _, _, session) => session.answer .nothing
  | (none, run, session) => session.goOn (.backgroundRun queue (some run))

/-- A delivery in the background: its failure is reported. -/
def turnBackgroundDelivery
    (session : Session)
    (observer : Observer)
    (transport : Transport)
    (event : Event)
    (call : Call) : Begun :=
  match call.outcome? with
  | none => session.goOn (.backgroundDelivery observer transport event (some call))
  | some none => session.answer .nothing
  | some (some error) =>
      let report := .deliveryFailed transport.name event.id error.message
      answer { session with scene := session.scene.observe observer report } .nothing

/-- One turn of an activity that has begun. -/
def resumeBegun (session : Session) : Activity → Begun
  | .step step => session.goOn (.step step)
  | .sleep due =>
      if due ≤ session.now then session.answer .nothing else session.goOn (.sleep due)
  | .run queue run =>
      match session.turnRun queue run with
      | (some answer, _, session) => session.answer answer
      | (none, run, session) => session.goOn (.run queue run)
  | .waitIdle queue wait =>
      match wait.poll session.now (session.queueIdle queue) with
      | .inl idle => session.answer (.flag idle)
      | .inr wait => session.goOn (.waitIdle queue wait)
  | .handle call =>
      let (call, scene) := call.resume session.scene
      let session := { session with scene }
      match call.outcome? with
      | some failure => session.answer (.ofOutcome failure)
      | none => session.goOn (.handle call)
  | .track tracker queue event flush wait =>
      match wait.poll session.now (session.queueIdle queue) with
      | .inl idle => session.concludeTrack tracker queue event flush (some idle)
      | .inr wait => session.goOn (.track tracker queue event flush wait)
  | .waitAll waits =>
      let waits := session.pollWaits waits
      match waitResults? waits with
      | some results => session.answer (.flag (results.all id))
      | none => session.goOn (.waitAll waits)
  | .join task =>
      match session.tasks[task]? with
      | some (.over answer) => session.answer answer
      | some (.active _) => session.goOn (.join task)
      | none => session.answer .unknown
  | .backgroundRun queue (some run) => session.turnBackgroundRun queue run
  | .backgroundRun queue none =>
      match session.station? queue with
      | none => session.answer .nothing
      | some station =>
          match Run.start station.queue with
          | .ok run => session.turnBackgroundRun queue run
          | .error error =>
              answer (session.log (Queue.entry .error "Queue run failed" [
                ("error", .text error.message)])) .nothing
  | .backgroundDelivery observer transport event (some call) =>
      let (call, scene) := call.resume session.scene
      turnBackgroundDelivery { session with scene } observer transport event call
  | .backgroundDelivery observer transport event none =>
      let (call, scene) := transport.start [event] session.scene
      turnBackgroundDelivery { session with scene } observer transport event call

/-- One turn of an activity. A step begins and has its first turn at once. -/
def resume (session : Session) : Activity → Begun
  | .step step =>
      match session.begin step with
      | (.inl answer, session) => session.answer answer
      | (.inr activity, session) => session.resumeBegun activity
  | activity => session.resumeBegun activity

end Session

end Telemetry
