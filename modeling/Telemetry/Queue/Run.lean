import Telemetry.Queue.Basic

/-!
Contract: a run, which drains a queue round by round.

Owns:
- the stages of a run and the single steps between them;
- a turn of a run, which takes steps until it has to wait.

A run keeps the transport that was bound when it began. Of several runs of a
queue, the one that holds the running flag drains it, and the others end. After
giving the flag back a run looks at the queue once more, so that events pushed
in between are not left behind.

A round waits for the batch delay, or else lets others go first once; then it
reads batches, hands them over in order, and ends when all are settled.

A round breaks off where the end of the batch delay is past what the clock can
show, or where the list for its batches would be larger than a list can be. The
run is then over, and the running flag stays taken. That memory runs out below
this size is left out.
-/

namespace Telemetry

/-- A batch under way. -/
structure Flight where
  batch : List Event
  startedAt : Nat
  call : Call

inductive RunStage where
  /-- Is there anything to do? -/
  | check
  /-- Take the running flag. -/
  | claim
  /-- Is there anything left for another round? -/
  | drain
  /-- A round begins. -/
  | pause
  /-- The batch delay has not passed. -/
  | delayed (due : Nat)
  /-- Others go first. -/
  | yielded
  /-- The wait before the round is over. -/
  | gather
  /-- Batches are read: at most `left` more. -/
  | reading (concurrency left : Nat) (batches : List (List Event))
  /-- Batches are handed over; `flights` are those that did not settle at once. -/
  | starting (batches : List (List Event)) (flights : List Flight)
  /-- Batches are looked at in order: `later` in this turn, `waiting` are still under way. -/
  | awaiting (later waiting : List Flight)
  /-- Give the running flag back. -/
  | release
  | finished
  /-- A round broke off. -/
  | broken

structure Run where
  processor : Transport
  /-- This run has held the running flag. -/
  ran : Bool := false
  stage : RunStage := .check

namespace Run

/-- A run of a queue that has a transport. -/
def start (queue : Queue) : Except TrackerError Run :=
  match queue.processor with
  | some processor => .ok { processor }
  | none => .error .missingProcessor

def goTo (run : Run) (stage : RunStage) : Run := { run with stage }

def dispatchEntry (concurrency : Nat) (batches : List (List Event)) : LogEntry :=
  Queue.entry .debug "Dispatching batches" [
    ("batches", .number batches.length),
    ("concurrency", .number concurrency)]

def misreadEntry (error : StoreError) : LogEntry :=
  Queue.entry .warn "Failed to read batch from store" [
    ("error", .text (TrackerError.store error).message)]

/-- All batches of a round are read. -/
def dispatch (run : Run) (concurrency : Nat) (batches : List (List Event)) (station : Station) :
    Run × Station :=
  (run.goTo (.starting batches []), station.log (dispatchEntry concurrency batches))

/-- All batches of a round are settled. -/
def endRound (run : Run) (station : Station) : Run × Station :=
  (run.goTo .drain,
    { station with queue := { station.queue with lastRound := some station.scene.now } })

/-- The most batches that a list has room for: each takes 24 bytes, and the size of a
list is held in a word with a sign. -/
def mostBatches : Nat := Word.largest 63 / 24

/-- One step, or none when the run has to wait or has ended. -/
def step? (run : Run) (station : Station) : Option (Run × Station) :=
  match run.stage with
  | .check => some (run.goTo (if station.isIdle then .finished else .claim), station)
  | .claim =>
      if station.queue.running then some (run.goTo .finished, station)
      else
        some ({ run with ran := true, stage := .drain },
          { station with queue := { station.queue with running := true } })
  | .drain => some (run.goTo (if station.isIdle then .release else .pause), station)
  | .pause =>
      match station.queue.lastRound with
      | some ended =>
          let due := ended + station.queue.settings.batchDelay
          if Clock.Shows (.ofMilliseconds due) then
            some (run.goTo (if station.scene.now < due then .delayed due else .yielded), station)
          else some (run.goTo .broken, station)
      | none => some (run.goTo .yielded, station)
  | .delayed due => if due ≤ station.scene.now then some (run.goTo .gather, station) else none
  | .yielded => none
  | .gather =>
      let concurrency := station.queue.effectiveConcurrency
      if concurrency ≤ mostBatches then
        some (run.goTo (.reading concurrency concurrency []), station)
      else some (run.goTo .broken, station)
  | .reading concurrency 0 batches => some (run.dispatch concurrency batches station)
  | .reading concurrency (left + 1) batches =>
      match station.readBatch with
      | (.error error, station) =>
          some (run.dispatch concurrency batches (station.log (misreadEntry error)))
      | (.ok [], station) => some (run.dispatch concurrency batches station)
      | (.ok batch, station) =>
          some (run.goTo (.reading concurrency left (batches ++ [batch])), station)
  | .starting [] [] => some (run.endRound station)
  | .starting [] flights => some (run.goTo (.awaiting [] flights), station)
  | .starting (batch :: batches) flights =>
      let startedAt := station.scene.now
      let (call, scene) := run.processor.start batch station.scene
      let station := { station with scene }
      match call.outcome? with
      | some failure =>
          some (run.goTo (.starting batches flights), station.settle batch startedAt failure)
      | none =>
          some (run.goTo (.starting batches (flights ++ [⟨batch, startedAt, call⟩])), station)
  | .awaiting [] [] => some (run.endRound station)
  | .awaiting [] (_ :: _) => none
  | .awaiting (flight :: later) waiting =>
      let (call, scene) := flight.call.resume station.scene
      let station := { station with scene }
      match call.outcome? with
      | some failure =>
          some (run.goTo (.awaiting later waiting),
            station.settle flight.batch flight.startedAt failure)
      | none => some (run.goTo (.awaiting later (waiting ++ [{ flight with call }])), station)
  | .release =>
      some (run.goTo .check, { station with queue := { station.queue with running := false } })
  | .finished => none
  | .broken => none

/-- A new turn: what the run waited for is looked at again. -/
def wake (run : Run) : Run :=
  match run.stage with
  | .yielded => run.goTo .gather
  | .awaiting [] waiting => run.goTo (.awaiting waiting [])
  | _ => run

/-- Steps until the run waits or ends, at most `limit` of them. -/
def advance : Nat → Run → Station → Run × Station
  | 0, run, station => (run, station)
  | limit + 1, run, station =>
      match run.step? station with
      | some (run, station) => advance limit run station
      | none => (run, station)

/-- The most steps that a run takes in one turn. -/
def stepsPerTurn : Nat := Word.size 32

def turn (run : Run) (station : Station) : Run × Station :=
  advance stepsPerTurn run.wake station

/-- The next time at which a batch under way has something to do. -/
def earliest : List Flight → Option Nat
  | [] => none
  | flight :: flights =>
      match flight.call.deadline?, earliest flights with
      | some first, some other => some (min first other)
      | some first, none => some first
      | none, other => other

end Run

end Telemetry
