import Telemetry.Session.Activity

/-!
Contract: which activity goes on, and when the clock moves.

Owns:
- one tick: a turn of the next task that can go on, or else of those that let
  others go first, or else a move of the clock to the next time that something
  waits for;
- sessions: the list of steps is itself an activity, the tasks go on only while
  it waits.

Tasks that can go on do so in the order in which they became able to. Those that
let others go first go on in the opposite order. When the list of steps can go
on, it does so before the tasks of the same instant.
-/

namespace Telemetry

namespace Session

/-- Put a task that waits where it will be found. -/
def suspend (session : Session) (task : Nat) (activity : Activity) : Session :=
  let session := { session with tasks := session.tasks.set task (.active activity) }
  match activity.awaited with
  | .yielded => { session with yielded := session.yielded ++ [task] }
  | .at due =>
      if due ≤ session.now then { session with ready := session.ready ++ [task] }
      else { session with sleeping := session.sleeping ++ [task] }
  | .whenOver _ => { session with sleeping := session.sleeping ++ [task] }

/-- A turn of a task. -/
def turnTask (session : Session) (task : Nat) : Session :=
  match session.tasks[task]? with
  | some (.active activity) =>
      match session.resume activity with
      | (.inl answer, session) =>
          { session with tasks := session.tasks.set task (.over answer) }
      | (.inr activity, session) => session.suspend task activity
  | _ => session

/-- The time that a sleeping task waits for. -/
def taskDue? (session : Session) (task : Nat) : Option Nat :=
  match session.tasks[task]? with
  | some (.active activity) =>
      match activity.awaited with
      | .at due => some due
      | _ => none
  | _ => none

def isDue (session : Session) (task : Nat) : Bool :=
  match session.taskDue? task with
  | some due => due ≤ session.now
  | none => false

def earlier : Option Nat → Option Nat → Option Nat
  | some first, some second => some (min first second)
  | some first, none => some first
  | none, second => second

/-- The next time that the steps or a task wait for. -/
def nextDue? (session : Session) (steps : Activity) : Option Nat :=
  let own := match steps.awaited with
    | .at due => some due
    | _ => none
  session.sleeping.foldl (fun due task => earlier due (session.taskDue? task)) own

/-- The list of steps can go on. -/
def canGoOn (session : Session) (steps : Activity) : Bool :=
  match steps.awaited with
  | .yielded => true
  | .at due => due ≤ session.now
  | .whenOver task =>
      match session.tasks[task]? with
      | some (.active _) => false
      | _ => true

/-- Tasks that let others go first can go on again, the last of them first. -/
def wakeYielded (session : Session) : Session :=
  { session with ready := session.ready ++ session.yielded.reverse, yielded := [] }

/-- Move the clock; sleeping tasks that are then due can go on. -/
def moveClock (session : Session) (time : Nat) : Session :=
  let session := { session with scene := { session.scene with now := time } }
  let (due, sleeping) := session.sleeping.partition session.isDue
  { session with ready := session.ready ++ due, sleeping }

/-- One tick while the steps wait. Nothing is left to wait for when the answer of the
steps is unknown. -/
def tick (session : Session) (steps : Activity) : Begun :=
  match session.ready with
  | task :: ready => goOn (turnTask { session with ready } task) steps
  | [] =>
      if session.canGoOn steps then session.wakeYielded.resume steps
      else if !session.yielded.isEmpty then session.wakeYielded.goOn steps
      else
        match session.nextDue? steps with
        | none => session.answer .unknown
        | some time =>
            let session := session.moveClock time
            if session.canGoOn steps then session.resume steps else session.goOn steps

/-- Ticks until the steps have their answer, at most `limit` of them. -/
def drive : Nat → Activity → Session → Answer × Session
  | 0, _, session => (.unknown, session)
  | limit + 1, steps, session =>
      match session.tick steps with
      | (.inl answer, session) => (answer, session)
      | (.inr steps, session) => drive limit steps session

/-- The most ticks for one step. -/
def patience : Nat := Word.size 48

/-- Perform a step to its answer. -/
def perform (session : Session) (step : Step) : Answer × Session :=
  match session.resume (.step step) with
  | (.inl answer, session) => (answer, session)
  | (.inr activity, session) => drive patience activity session

end Session

/-- What one step of a session came to: its answer, the time after it, and the notes
taken during it. -/
structure StepReport where
  answer : Answer
  time : Nat
  notes : List Note

namespace Session

def report (session : Session) (step : Step) : StepReport × Session :=
  let (answer, session) := session.perform step
  ({ answer, time := session.now, notes := session.scene.notes.toList },
    { session with scene := { session.scene with notes := #[] } })

def reports : Session → List Step → List StepReport
  | _, [] => []
  | session, step :: steps =>
      let (first, session) := session.report step
      first :: session.reports steps

/-- Perform steps in a new session. -/
def run (background : Bool) (steps : List Step) : List StepReport :=
  reports { background } steps

end Session

end Telemetry
