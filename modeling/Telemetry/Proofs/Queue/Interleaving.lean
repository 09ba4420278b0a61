import Telemetry.Proofs.Queue.RunStep

/-!
Contract: several tasks that run one queue.

Owns:
- `Crew`, a queue at work with its tasks, and `Crew.Step`, what one of the parties
  does to it; what a step means to the events, to the transports or to the rounds
  is read off the `Deed` that it is;
- `Crew.Reached`, what any interleaving of the steps of the tasks with pushes,
  flushes and the surroundings leads to;
- `Crew.Guarded`: the running flag is up exactly while one task holds it.

A push has two steps, storing the events and starting a task; anything may
happen between them. A task that was started looks for the bound transport when
it begins. The transport may be bound anew, the surroundings may change and
runs may be called for at any time. The clock never runs back.
-/

namespace Telemetry

/-- A task that runs a queue. -/
inductive RunTask where
  /-- It has not begun. -/
  | scheduled
  | active (run : Run)
  /-- It ended at once. -/
  | refused (error : TrackerError)

namespace RunTask

def begin (queue : Queue) : RunTask :=
  match Run.start queue with
  | .ok run => .active run
  | .error error => .refused error

/-- The task is between taking the running flag and giving it back. -/
def holdsFlag : RunTask → Bool
  | .active run => run.stage.holdsFlag
  | _ => false

def returned : RunTask → Bool
  | .scheduled => false
  | .active run => run.stage.isFinished
  | .refused _ => true

/-- The run of the task broke off. -/
def broke : RunTask → Bool
  | .active run => run.stage.isBroken
  | _ => false

/-- The task has nothing to do until the clock moves. -/
def waits : RunTask → Bool
  | .scheduled => false
  | .active run => run.stage.waits
  | .refused _ => true

/-- Batches that the task has read and not settled. -/
def unsettled : RunTask → List (List Event)
  | .active run => run.stage.unsettled
  | _ => []

theorem not_returned_of_holdsFlag {task : RunTask} (holds : task.holdsFlag = true) :
    task.returned = false := by
  cases task with
  | scheduled => rfl
  | active run => exact RunStage.not_finished_of_holdsFlag holds
  | refused error => cases holds

theorem begin_of_bound {queue : Queue} (bound : queue.processor.isSome = true) :
    ∃ processor, begin queue = .active { processor } := by
  unfold begin Run.start
  obtain ⟨processor, processorEq⟩ := Option.isSome_iff_exists.mp bound
  rw [processorEq]
  exact ⟨processor, rfl⟩

/-- A task that begins holds neither the flag nor a batch. -/
theorem begin_outside (queue : Queue) :
    (begin queue).holdsFlag = false ∧ (begin queue).unsettled = [] := by
  unfold begin Run.start
  cases queue.processor <;> exact ⟨rfl, rfl⟩

theorem begin_whole (queue : Queue) : (begin queue).broke = false := by
  unfold begin Run.start
  cases queue.processor <;> rfl

end RunTask

/-- A queue at work with the tasks that run it. -/
structure Crew where
  station : Station
  /-- Pushes that have stored their events and not started their task yet. -/
  owed : Nat := 0
  tasks : List RunTask := []

/-- What one of the parties does. Tasks are told apart by their positions. -/
inductive Deed where
  | push (events : List Event)
  | pushFails (events : List Event)
  | startOwed
  | call
  | flush
  | flushFails
  | begin (task : Nat)
  /-- The run of a task takes its next step, where the station is as it is now. -/
  | advance (task : Nat) (run : Run) (station : Station)
  | wake (task : Nat)
  | bind (transport : Transport)
  /-- The surroundings change, and time may pass. -/
  | pass (elapsed : Nat) (everyTaskWaits : Bool)

namespace Deed

/-- What happens to the events. -/
def occurrence? : Deed → Option Occurrence
  | .push events => some (.pushed events)
  | .flush => some .flushed
  | .advance _ run station => run.occurrence? station
  | _ => none

/-- What has happened to the events. -/
def history (deeds : List Deed) : List Occurrence :=
  deeds.filterMap occurrence?

theorem history_append_one (deeds : List Deed) (deed : Deed) :
    history (deeds ++ [deed]) = history deeds ++ deed.occurrence?.toList := by
  rw [history, List.filterMap_append]
  cases same : deed.occurrence? <;> simp [history, same]

end Deed

namespace Crew

/-- One step of one of the parties. -/
inductive Step : Crew → Deed → Crew → Prop where
  | push {station after : Station} {owed : Nat} {tasks : List RunTask} (events : List Event)
      (pushed : station.push true events = (.ok (), after)) :
      Step ⟨station, owed, tasks⟩ (.push events) ⟨after, owed + 1, tasks⟩
  | pushFails {station after : Station} {owed : Nat} {tasks : List RunTask} (events : List Event)
      {error : TrackerError} (failed : station.push true events = (.error error, after)) :
      Step ⟨station, owed, tasks⟩ (.pushFails events) ⟨after, owed, tasks⟩
  | startOwed {station : Station} {owed : Nat} {tasks : List RunTask} :
      Step ⟨station, owed + 1, tasks⟩ .startOwed ⟨station, owed, tasks ++ [.scheduled]⟩
  | call {station : Station} {owed : Nat} {tasks : List RunTask} :
      Step ⟨station, owed, tasks⟩ .call ⟨station, owed, tasks ++ [.scheduled]⟩
  | flush {station after : Station} {owed : Nat} {tasks : List RunTask}
      (flushed : station.flush = (.ok (), after)) :
      Step ⟨station, owed, tasks⟩ .flush ⟨after, owed, tasks⟩
  | flushFails {station after : Station} {owed : Nat} {tasks : List RunTask}
      {error : TrackerError} (failed : station.flush = (.error error, after)) :
      Step ⟨station, owed, tasks⟩ .flushFails ⟨after, owed, tasks⟩
  | begin {station : Station} {owed : Nat} (earlier later : List RunTask) :
      Step ⟨station, owed, earlier ++ .scheduled :: later⟩ (.begin earlier.length)
        ⟨station, owed, earlier ++ .begin station.queue :: later⟩
  | advance {station after : Station} {owed : Nat} (earlier later : List RunTask) {run next : Run}
      (stepped : run.step? station = some (next, after)) :
      Step ⟨station, owed, earlier ++ .active run :: later⟩ (.advance earlier.length run station)
        ⟨after, owed, earlier ++ .active next :: later⟩
  | wake {station : Station} {owed : Nat} (earlier later : List RunTask) (run : Run) :
      Step ⟨station, owed, earlier ++ .active run :: later⟩ (.wake earlier.length)
        ⟨station, owed, earlier ++ .active run.wake :: later⟩
  | bind {station : Station} {owed : Nat} {tasks : List RunTask} (transport : Transport) :
      Step ⟨station, owed, tasks⟩ (.bind transport)
        ⟨{ station with
            queue := (station.queue.bind transport station.scene).1
            scene := (station.queue.bind transport station.scene).2 }, owed, tasks⟩
  | pass {station : Station} {owed : Nat} {tasks : List RunTask} (scene : Scene)
      (forward : station.scene.now ≤ scene.now) :
      Step ⟨station, owed, tasks⟩
        (.pass (scene.now - station.scene.now) (tasks.all RunTask.waits))
        ⟨{ station with scene }, owed, tasks⟩

/-- What the parties lead to, in any interleaving. -/
inductive Reached (start : Crew) : List Deed → Crew → Prop where
  | start : Reached start [] start
  | step {deeds : List Deed} {crew after : Crew} {deed : Deed}
      (reached : Reached start deeds crew) (step : Step crew deed after) :
      Reached start (deeds ++ [deed]) after

/-- The task at a position is replaced, and the others stay. -/
theorem getElem?_replaced (earlier later : List RunTask) (old new : RunTask) {position : Nat}
    (other : position ≠ earlier.length) :
    (earlier ++ new :: later)[position]? = (earlier ++ old :: later)[position]? := by
  rw [List.getElem?_append, List.getElem?_append]
  split
  · rfl
  · obtain ⟨behind, behindEq⟩ : ∃ behind, position - earlier.length = behind + 1 :=
      ⟨position - earlier.length - 1, by omega⟩
    rw [behindEq, List.getElem?_cons_succ, List.getElem?_cons_succ]

/-! ### The running flag -/

/-- The running flag is up exactly while one task holds it. -/
def Guarded (crew : Crew) : Prop :=
  crew.tasks.countP RunTask.holdsFlag = crew.station.queue.running.toNat

theorem countP_holdsFlag (earlier later : List RunTask) (task : RunTask) :
    (earlier ++ task :: later).countP RunTask.holdsFlag =
      (earlier ++ later).countP RunTask.holdsFlag + task.holdsFlag.toNat := by
  rw [List.countP_append, List.countP_append, List.countP_cons]
  cases task.holdsFlag <;> simp [Nat.add_assoc]

end Crew

namespace Run

variable {run next : Run} {station after : Station} {label : Option Occurrence}

/-- A step takes the flag when nobody has it, gives it back, or leaves it with its holder. -/
theorem Move.flag (move : Move run station label next after) :
    (after.queue.running = station.queue.running ∧
        next.stage.holdsFlag = run.stage.holdsFlag) ∨
      (station.queue.running = false ∧ run.stage.holdsFlag = false ∧
        after.queue.running = true ∧ next.stage.holdsFlag = true) ∨
      (run.stage.holdsFlag = true ∧ after.queue.running = false ∧
        next.stage.holdsFlag = false) := by
  cases move with
  | retire stage _ => exact .inl ⟨rfl, by rw [stage]; rfl⟩
  | approach stage => exact .inl ⟨rfl, by rw [stage]; rfl⟩
  | turnAway stage _ => exact .inl ⟨rfl, by rw [stage]; rfl⟩
  | takeFlag stage free => exact .inr (.inl ⟨free, by rw [stage]; rfl, rfl, rfl⟩)
  | releaseFlag stage => exact .inr (.inr ⟨by rw [stage]; rfl, rfl, rfl⟩)
  | gather stage => exact .inl ⟨rfl, by rw [stage]; rfl⟩
  | proceed _ _ _ holds stillHolds => exact .inl ⟨rfl, stillHolds.trans holds.symm⟩
  | read _ _ _ _ holds stillHolds read =>
      refine .inl ⟨?_, stillHolds.trans holds.symm⟩
      rw [Station.readBatch_queue_of_ok read]
  | misread _ _ _ _ holds stillHolds failed =>
      refine .inl ⟨?_, stillHolds.trans holds.symm⟩
      rw [Station.readBatch_queue_of_error failed]
  | settle _ _ _ _ _ holds stillHolds =>
      refine .inl ⟨?_, stillHolds.trans holds.symm⟩
      rw [Station.settle_queue]

end Run

namespace Crew

variable {crew after : Crew} {deed : Deed}

theorem Guarded.step (guarded : Guarded crew) (step : Step crew deed after) : Guarded after := by
  unfold Guarded at guarded ⊢
  cases step with
  | push events pushed =>
      rw [Station.push_queue pushed]
      exact guarded
  | pushFails events failed =>
      rw [Station.push_queue failed]
      exact guarded
  | startOwed => simpa [RunTask.holdsFlag] using guarded
  | call => simpa [RunTask.holdsFlag] using guarded
  | flush flushed =>
      rw [Station.flush_queue flushed]
      exact guarded
  | flushFails failed =>
      rw [Station.flush_queue failed]
      exact guarded
  | @begin station owed earlier later =>
      rw [countP_holdsFlag] at guarded ⊢
      rw [(RunTask.begin_outside station.queue).1]
      exact guarded
  | @advance station after owed earlier later run next stepped =>
      rw [countP_holdsFlag] at guarded ⊢
      simp only [RunTask.holdsFlag] at guarded ⊢
      rcases (Run.step?_move stepped).flag with ⟨sameFlag, sameHold⟩ |
        ⟨free, outside, taken, holds⟩ | ⟨holds, released, outside⟩
      · rw [sameFlag, sameHold]
        exact guarded
      · rw [free, outside] at guarded
        rw [taken, holds, Nat.eq_zero_of_add_eq_zero_right guarded]
        rfl
      · -- The holder is the only one, so nobody is left.
        have bound := station.queue.running.toNat_le
        rw [holds] at guarded
        rw [released, outside]
        simp only [Bool.toNat_true, Bool.toNat_false] at guarded ⊢
        omega
  | wake earlier later run =>
      rw [countP_holdsFlag] at guarded ⊢
      simp only [RunTask.holdsFlag, run.wake_stage.1] at guarded ⊢
      exact guarded
  | bind transport => exact guarded
  | pass scene => exact guarded

theorem Reached.guarded {start : Crew} {deeds : List Deed}
    (reached : Reached start deeds crew) (guarded : Guarded start) : Guarded crew := by
  induction reached with
  | start => exact guarded
  | step _ step inductionHypothesis => exact inductionHypothesis.step step

end Crew

end Telemetry
