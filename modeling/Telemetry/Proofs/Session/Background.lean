import Mathlib.Logic.Relation
import Telemetry.Proofs.Session.Tracking

/-!
Contract: runs in the background of a session, in any order.

Owns:
- `Session.Stirs`, one atomic step in the background: a run begins, takes a step,
  looks again or ends, tasks are put elsewhere, or the clock moves;
- `Begun.Proceeds`, where an activity can be when its turns and the steps in the
  background come in any order;
- that the schedule of a session is one of these orders (`perform_proceeds`).

Nothing is asked of the order of the steps, nor of the clock. What holds in all
of these orders holds for every schedule, whatever it prefers.

Does not own: activities that others start meanwhile; see `Session.Meanwhile`.
-/

namespace Telemetry

namespace Session

/-! ### Steps in the background -/

/-- The session with another task in the place of a task. -/
def withTask (session : Session) (number : Nat) (task : Task) : Session :=
  { session with tasks := session.tasks.set number task }

/-- What a run logs when it cannot begin. -/
def refusalEntry (error : TrackerError) : LogEntry :=
  Queue.entry .error "Queue run failed" [("error", .text error.message)]

/-- One atomic step in the background. -/
inductive Stirs (session : Session) : Session → Prop where
  | begin {number queue : Nat} {station : Station} {run : Run}
      (asked : session.tasks[number]? = some (.active (.backgroundRun queue none)))
      (found : session.station? queue = some station)
      (begun : Run.start station.queue = .ok run) :
      Stirs session (session.withTask number (.active (.backgroundRun queue (some run))))
  | refuse {number queue : Nat} {station : Station} {error : TrackerError}
      (asked : session.tasks[number]? = some (.active (.backgroundRun queue none)))
      (found : session.station? queue = some station)
      (refused : Run.start station.queue = .error error) :
      Stirs session ((session.log (refusalEntry error)).withTask number (.over .nothing))
  | step {number queue : Nat} {station after : Station} {run next : Run}
      (active : session.tasks[number]? = some (.active (.backgroundRun queue (some run))))
      (found : session.station? queue = some station)
      (stepped : run.step? station = some (next, after)) :
      Stirs session ((session.withStation queue after).withTask number
        (.active (.backgroundRun queue (some next))))
  /-- The run looks again at what it waits for. -/
  | wake {number queue : Nat} {run : Run}
      (active : session.tasks[number]? = some (.active (.backgroundRun queue (some run)))) :
      Stirs session (session.withTask number (.active (.backgroundRun queue (some run.wake))))
  | finish {number queue : Nat} {run : Run}
      (active : session.tasks[number]? = some (.active (.backgroundRun queue (some run))))
      (ended : run.stage = .finished ∨ run.stage = .broken) :
      Stirs session (session.withTask number (.over .nothing))
  /-- There is no such queue. -/
  | abandon {number queue : Nat} {run : Option Run}
      (active : session.tasks[number]? = some (.active (.backgroundRun queue run)))
      (absent : session.station? queue = none) :
      Stirs session (session.withTask number (.over .nothing))
  | schedule (ready yielded sleeping : List Nat) :
      Stirs session { session with ready, yielded, sleeping }
  | clock (time : Nat) : Stirs session { session with scene := { session.scene with now := time } }

/-- Any number of steps in the background. -/
abbrev Works : Session → Session → Prop := Relation.ReflTransGen Stirs

/-- All tasks that are not over are runs of queues. -/
def Attended (session : Session) : Prop :=
  ∀ activity, .active activity ∈ session.tasks → ∃ queue run, activity = .backgroundRun queue run

variable {session next : Session} {number queue : Nat} {station : Station}

@[simp] theorem withStation_tasks (session : Session) (queue : Nat) (station : Station) :
    (session.withStation queue station).tasks = session.tasks := by
  unfold withStation
  split <;> rfl

theorem mem_tasks_withTask {task other : Task}
    (member : other ∈ (session.withTask number task).tasks) :
    other ∈ session.tasks ∨ other = task :=
  List.mem_or_eq_of_mem_set member

theorem Attended.withTask (attended : session.Attended) (same : next.tasks = session.tasks)
    {task : Task} (run : ∀ activity, task = .active activity →
      ∃ queue run, activity = .backgroundRun queue run) :
    (next.withTask number task).Attended := by
  intro activity member
  rcases mem_tasks_withTask member with old | new
  · rw [same] at old
    exact attended activity old
  · exact run activity new.symm

theorem Stirs.attended (stirs : session.Stirs next) (attended : session.Attended) :
    next.Attended := by
  cases stirs with
  | begin | wake =>
      exact attended.withTask rfl fun _ same => ⟨_, _, (Task.active.inj same).symm⟩
  | step =>
      exact attended.withTask (withStation_tasks _ _ _) fun _ same =>
        ⟨_, _, (Task.active.inj same).symm⟩
  | refuse | finish | abandon => exact attended.withTask rfl fun _ same => nomatch same
  | schedule => exact attended
  | clock => exact attended

theorem Works.attended (works : session.Works next) (attended : session.Attended) :
    next.Attended := by
  induction works with
  | refl => exact attended
  | tail _ stirs inductionHypothesis => exact stirs.attended inductionHypothesis

/-! ### A turn of a run -/

theorem station?_withStation (found : (session.station? queue).isSome) (after : Station) :
    (session.withStation queue after).station? queue = some after := by
  obtain ⟨station, isStation⟩ := Option.isSome_iff_exists.mp found
  obtain ⟨place, listed, stored, -⟩ := station?_eq_some isStation
  have insideQueues := (List.getElem?_eq_some_iff.mp listed).1
  have insideStores := (List.getElem?_eq_some_iff.mp stored).1
  simp only [station?, withStation, listed, List.getElem?_set_self insideQueues,
    List.getElem?_set_self insideStores, Option.bind_eq_bind, Option.bind_some]

theorem withStation_withStation (session : Session) (queue : Nat) (first second : Station) :
    (session.withStation queue first).withStation queue second =
      session.withStation queue second := by
  cases listed : session.queues[queue]? with
  | none => simp only [withStation, listed]
  | some place =>
      have insideQueues := (List.getElem?_eq_some_iff.mp listed).1
      simp only [withStation, listed, List.getElem?_set_self insideQueues, List.set_set]

theorem withTask_withStation (session : Session) (number queue : Nat) (task : Task)
    (station : Station) :
    (session.withTask number task).withStation queue station =
      (session.withStation queue station).withTask number task := by
  unfold withStation withTask
  dsimp only
  split <;> rfl

theorem withStation_of_station? (found : session.station? queue = some station) :
    session.withStation queue station = session := by
  obtain ⟨-, -, -, -, sameScene⟩ := station?_eq_some found
  have same := withStation_self found
  rwa [← sameScene] at same

/-- The session while a run of a queue is at work: what the queue's station and the run's task
have become. -/
def atWork (session : Session) (number queue : Nat) (station : Station) (run : Run) : Session :=
  (session.withStation queue station).withTask number (.active (.backgroundRun queue (some run)))

theorem atWork_of_station? (found : session.station? queue = some station) (run : Run) :
    session.atWork number queue station run =
      session.withTask number (.active (.backgroundRun queue (some run))) := by
  rw [atWork, withStation_of_station? found]

theorem turnBackgroundRun_of_ended {run : Run} (found : session.station? queue = some station)
    (ended : (run.turn station).1.stage = .finished ∨ (run.turn station).1.stage = .broken) :
    session.turnBackgroundRun queue run =
      (session.withStation queue (run.turn station).2).answer .nothing := by
  rcases ended with stage | stage <;> simp only [turnBackgroundRun, turnRun, found, stage]

theorem turnBackgroundRun_of_goesOn {run : Run} (found : session.station? queue = some station)
    (goesOn : ¬ ((run.turn station).1.stage = .finished ∨ (run.turn station).1.stage = .broken)) :
    session.turnBackgroundRun queue run =
      (session.withStation queue (run.turn station).2).goOn
        (.backgroundRun queue (some (run.turn station).1)) := by
  cases stage : (run.turn station).1.stage with
  | finished => exact absurd (.inl stage) goesOn
  | broken => exact absurd (.inr stage) goesOn
  | _ => simp only [turnBackgroundRun, turnRun, found, stage]

/-- What a task becomes when its turn has led to this. -/
def place (number : Nat) : Begun → Session
  | (.inl answer, session) => session.withTask number (.over answer)
  | (.inr activity, session) => session.suspend number activity

theorem suspend_eq (session : Session) (number : Nat) (activity : Activity) :
    ∃ ready yielded sleeping, session.suspend number activity =
      { session.withTask number (.active activity) with ready, yielded, sleeping } := by
  unfold suspend
  dsimp only
  split
  · exact ⟨_, _, _, rfl⟩
  · split <;> exact ⟨_, _, _, rfl⟩
  · exact ⟨_, _, _, rfl⟩

section Present

variable {old : Task} (present : session.tasks[number]? = some old)

include present

theorem getElem?_withTask (task : Task) :
    (session.withTask number task).tasks[number]? = some task := by
  have inside := (List.getElem?_eq_some_iff.mp present).1
  exact List.getElem?_set_self inside

theorem getElem?_atWork (queue : Nat) (station : Station) (run : Run) :
    (session.atWork number queue station run).tasks[number]? =
      some (.active (.backgroundRun queue (some run))) :=
  getElem?_withTask (by rw [withStation_tasks, present]) _

/-- The steps of a run until it waits, ends or has taken as many as it may. -/
theorem works_advance (known : (session.station? queue).isSome) (limit : Nat) (run : Run)
    (station : Station) :
    (session.atWork number queue station run).Works
      (session.atWork number queue (run.advance limit station).2
        (run.advance limit station).1) := by
  induction limit generalizing run station with
  | zero => exact .refl
  | succ limit inductionHypothesis =>
      cases stepped : run.step? station with
      | none =>
          simp only [Run.advance, stepped]
          exact .refl
      | some result =>
          obtain ⟨next, after⟩ := result
          have found : (session.atWork number queue station run).station? queue = some station :=
            station?_withStation known station
          have stirs := Stirs.step (getElem?_atWork present queue station run) found stepped
          rw [atWork, withTask_withStation, withStation_withStation] at stirs
          simp only [withTask, List.set_set] at stirs
          simp only [Run.advance, stepped]
          exact .head stirs (inductionHypothesis next after)

theorem works_turnBackgroundRun (found : session.station? queue = some station) (run : Run) :
    (session.withTask number (.active (.backgroundRun queue (some run)))).Works
      (place number (session.turnBackgroundRun queue run)) := by
  have known : (session.station? queue).isSome := by rw [found]; rfl
  have woken := Stirs.wake (getElem?_atWork present queue station run)
  simp only [atWork, withTask, List.set_set] at woken
  have turned : (session.atWork number queue station run).Works
      (session.atWork number queue (run.turn station).2 (run.turn station).1) :=
    .head woken (works_advance present known Run.stepsPerTurn run.wake station)
  rw [atWork_of_station? found] at turned
  by_cases ended : (run.turn station).1.stage = .finished ∨ (run.turn station).1.stage = .broken
  · have finishes := Stirs.finish
      (getElem?_atWork present queue (run.turn station).2 (run.turn station).1) ended
    simp only [atWork, withTask, List.set_set] at finishes
    rw [turnBackgroundRun_of_ended found ended]
    exact turned.tail finishes
  · obtain ⟨ready, yielded, sleeping, suspended⟩ := suspend_eq
      (session.withStation queue (run.turn station).2) number
      (.backgroundRun queue (some (run.turn station).1))
    rw [turnBackgroundRun_of_goesOn found ended]
    simp only [goOn, place, suspended]
    exact turned.tail (.schedule ready yielded sleeping)

end Present

/-! ### Turns of tasks and ticks -/

theorem works_turnTask (attended : session.Attended) (number : Nat) :
    session.Works (session.turnTask number) := by
  unfold turnTask
  split
  · rename_i activity present
    obtain ⟨queue, run, rfl⟩ := attended activity (List.mem_of_getElem? present)
    change session.Works (place number (session.resumeBegun (.backgroundRun queue run)))
    cases found : session.station? queue with
    | none =>
        cases run with
        | none =>
            simp only [resumeBegun, found]
            exact .single (.abandon present found)
        | some run =>
            simp only [resumeBegun, turnBackgroundRun, turnRun, found]
            exact .single (.abandon present found)
    | some station =>
        cases run with
        | some run =>
            have turned := works_turnBackgroundRun present found run
            rwa [withTask, set_of_getElem? present] at turned
        | none =>
            simp only [resumeBegun, found]
            cases begun : Run.start station.queue with
            | error error => exact .single (.refuse present found begun)
            | ok run =>
                exact .head (.begin present found begun) (works_turnBackgroundRun present found run)
  · exact .refl

/-- A wait for a queue to be idle, in progress or over. -/
inductive WaitsFor (session : Session) (queue : Nat) : Begun → Prop where
  | ended (idle : Bool) : WaitsFor session queue (session.answer (.flag idle))
  | goesOn (wait : IdleWait) : WaitsFor session queue (session.goOn (.waitIdle queue wait))

theorem resume_waitIdle_of_inl {session : Session} {queue : Nat} {wait : IdleWait} {idle : Bool}
    (polled : wait.poll session.now (session.queueIdle queue) = .inl idle) :
    session.resume (.waitIdle queue wait) = session.answer (.flag idle) := by
  simp only [resume, resumeBegun, polled]

theorem resume_waitIdle_of_inr {session : Session} {queue : Nat} {wait later : IdleWait}
    (polled : wait.poll session.now (session.queueIdle queue) = .inr later) :
    session.resume (.waitIdle queue wait) = session.goOn (.waitIdle queue later) := by
  simp only [resume, resumeBegun, polled]

/-- One look of a wait at its queue changes nothing in the session. -/
theorem resume_waitIdle (session : Session) (queue : Nat) (wait : IdleWait) :
    session.WaitsFor queue (session.resume (.waitIdle queue wait)) := by
  cases polled : wait.poll session.now (session.queueIdle queue) with
  | inl idle =>
      rw [resume_waitIdle_of_inl polled]
      exact .ended idle
  | inr later =>
      rw [resume_waitIdle_of_inr polled]
      exact .goesOn later

theorem works_wakeYielded (session : Session) : session.Works session.wakeYielded :=
  .single (.schedule _ _ _)

theorem works_moveClock (session : Session) (time : Nat) :
    session.Works (session.moveClock time) :=
  .head (.clock time) (.single (.schedule _ _ _))

end Session

/-! ### Turns among steps in the background -/

namespace Begun

/-- Where an activity can be, when its turns and steps in the background come in any order. -/
inductive Proceeds (begun : Begun) : Begun → Prop where
  | start : Proceeds begun begun
  | turn {session : Session} {activity : Activity}
      (before : Proceeds begun (session.goOn activity)) : Proceeds begun (session.resume activity)
  | work {state : Answer ⊕ Activity} {session next : Session}
      (before : Proceeds begun (state, session)) (stirs : session.Stirs next) :
      Proceeds begun (state, next)

theorem Proceeds.works {begun : Begun} {state : Answer ⊕ Activity} {session next : Session}
    (before : begun.Proceeds (state, session)) (works : session.Works next) :
    begun.Proceeds (state, next) := by
  induction works with
  | refl => exact before
  | tail _ stirs inductionHypothesis => exact inductionHypothesis.work stirs

/-- The answer of an activity that is over. One that is broken off has none that is known. -/
def answerSoFar : Begun → Answer
  | (.inl answer, _) => answer
  | (.inr _, _) => .unknown

end Begun

namespace Session

variable {session : Session} {queue : Nat} {wait : IdleWait} {begun : Begun}

/-- One tick while a queue is waited for. The wait is given up only when nothing is left to
wait for. -/
theorem tick_proceeds (attended : session.Attended)
    (before : begun.Proceeds (session.goOn (.waitIdle queue wait))) :
    session.tick (.waitIdle queue wait) = session.answer .unknown ∨
      ∃ next : Session, next.Attended ∧ begun.Proceeds (session.tick (.waitIdle queue wait)) ∧
        next.WaitsFor queue (session.tick (.waitIdle queue wait)) := by
  have looksAfter {next : Session} (works : session.Works next) :
      ∃ later : Session, later.Attended ∧ begun.Proceeds (next.resume (.waitIdle queue wait)) ∧
        later.WaitsFor queue (next.resume (.waitIdle queue wait)) :=
    ⟨next, works.attended attended, (before.works works).turn, resume_waitIdle next queue wait⟩
  have goesOnAfter {next : Session} (works : session.Works next) :
      ∃ later : Session, later.Attended ∧ begun.Proceeds (next.goOn (.waitIdle queue wait)) ∧
        later.WaitsFor queue (next.goOn (.waitIdle queue wait)) :=
    ⟨next, works.attended attended, before.works works, .goesOn wait⟩
  unfold tick
  split
  · rename_i task ready _
    have taken : session.Works { session with ready } :=
      .single (.schedule ready session.yielded session.sleeping)
    exact .inr (goesOnAfter (taken.trans (works_turnTask (taken.attended attended) task)))
  · split
    · exact .inr (looksAfter session.works_wakeYielded)
    · split
      · exact .inr (goesOnAfter session.works_wakeYielded)
      · split
        · exact .inl rfl
        · rename_i time _
          dsimp only
          split
          · exact .inr (looksAfter (session.works_moveClock time))
          · exact .inr (goesOnAfter (session.works_moveClock time))

/-- The schedule of a session puts turns and steps in one of the possible orders. -/
theorem drive_proceeds (attended : session.Attended)
    (before : begun.Proceeds (session.goOn (.waitIdle queue wait))) (limit : Nat) :
    ∃ last, begun.Proceeds last ∧
      drive limit (.waitIdle queue wait) session = (last.answerSoFar, last.2) := by
  induction limit generalizing session wait with
  | zero => exact ⟨_, before, rfl⟩
  | succ limit inductionHypothesis =>
      unfold drive
      rcases tick_proceeds attended before with givenUp | ⟨next, attendedNext, ticked, waits⟩
      · rw [givenUp]
        exact ⟨_, before, rfl⟩
      · generalize session.tick (.waitIdle queue wait) = state at ticked waits ⊢
        cases waits with
        | ended idle => exact ⟨_, ticked, rfl⟩
        | goesOn later => exact inductionHypothesis attendedNext ticked

/-- A step that waits for a queue is performed in one of the possible orders. -/
theorem perform_proceeds {step : Step} (attended : session.Attended)
    (waits : session.WaitsFor queue (session.resume (.step step))) :
    ∃ last, (session.resume (.step step)).Proceeds last ∧
      session.perform step = (last.answerSoFar, last.2) := by
  unfold perform
  generalize session.resume (.step step) = begun at waits ⊢
  cases waits with
  | ended idle => exact ⟨_, .start, rfl⟩
  | goesOn wait => exact drive_proceeds attended .start patience

end Session

end Telemetry
