import Telemetry.Proofs.Queue.Milestones

/-!
Contract: no stored event is left without a task that will look at it.

Owns:
- `Crew.Staffed`: where events are stored, a task has not returned;
- `Crew.Sound`: no run has broken off, if the settings and the clock leave room;
- `stored_events_are_never_stranded`.

A task gives up for one of two reasons. Either it saw the queue idle, and then
nothing was stored at that moment; or another task held the running flag, and
that one looks again after giving the flag back. A run that broke off holds the
flag for good. The stores of this module may fail as they like.
-/

namespace Telemetry

namespace Run

variable {run next : Run} {station after : Station} {label : Option Occurrence}

theorem Move.processor_eq (move : Move run station label next after) :
    after.queue.processor = station.queue.processor := by
  cases move with
  | read _ _ _ _ _ _ read => rw [Station.readBatch_queue_of_ok read]
  | misread _ _ _ _ _ _ failed => rw [Station.readBatch_queue_of_error failed]
  | settle => rw [Station.settle_queue]
  | _ => rfl

/-- A run ends when the queue is idle, or outside the flag while it is up. -/
theorem Move.finished (move : Move run station label next after)
    (finished : next.stage.isFinished = true) :
    after = station ∧ (station.isIdle = true ∨
      station.queue.running = true ∧ run.stage.holdsFlag = false) := by
  have notHolding {stage : RunStage} (holds : stage.holdsFlag = true)
      (ended : stage.isFinished = true) : False := by
    rw [RunStage.not_finished_of_holdsFlag holds] at ended
    cases ended
  cases move with
  | retire _ idle => exact ⟨rfl, .inl idle⟩
  | approach => cases finished
  | turnAway stage held => exact ⟨rfl, .inr ⟨held, by rw [stage]; rfl⟩⟩
  | takeFlag => cases finished
  | releaseFlag => cases finished
  | gather => cases finished
  | proceed _ _ _ _ stillHolds => exact (notHolding stillHolds finished).elim
  | read _ _ _ _ _ stillHolds => exact (notHolding stillHolds finished).elim
  | misread _ _ _ _ _ stillHolds => exact (notHolding stillHolds finished).elim
  | settle _ _ _ _ _ _ stillHolds => exact (notHolding stillHolds finished).elim

end Run

namespace Crew

/-- Where events are stored, a task has not returned, or a push is about to start one. -/
def Staffed (crew : Crew) : Prop :=
  crew.station.store.isEmpty = false → 0 < crew.owed ∨ ∃ task ∈ crew.tasks, task.returned = false

variable {crew after : Crew} {deed : Deed}

theorem bound_step (step : Step crew deed after)
    (bound : crew.station.queue.processor.isSome = true) :
    after.station.queue.processor.isSome = true := by
  cases step with
  | push events pushed =>
      rw [Station.push_queue pushed]
      exact bound
  | pushFails events failed =>
      rw [Station.push_queue failed]
      exact bound
  | flush flushed =>
      rw [Station.flush_queue flushed]
      exact bound
  | flushFails failed =>
      rw [Station.flush_queue failed]
      exact bound
  | advance earlier later stepped =>
      rw [(Run.step?_move stepped).processor_eq]
      exact bound
  | bind transport => rfl
  | _ => exact bound

/-- A task that gives up leaves another one behind, or nothing is stored. -/
theorem Staffed.advance {station next : Station} {owed : Nat} {earlier later : List RunTask}
    {run nextRun : Run} (guarded : Guarded ⟨station, owed, earlier ++ .active run :: later⟩)
    (stepped : run.step? station = some (nextRun, next)) :
    Staffed ⟨next, owed, earlier ++ .active nextRun :: later⟩ := by
  intro stored
  right
  by_cases finished : nextRun.stage.isFinished = true
  · obtain ⟨rfl, idle | ⟨running, outside⟩⟩ := (Run.step?_move stepped).finished finished
    · simp only [Station.isIdle, Queue.isIdle, Bool.and_eq_true] at idle
      rw [idle.1] at stored
      cases stored
    · -- The flag is up, so one of the other tasks holds it.
      rw [Guarded, countP_holdsFlag] at guarded
      simp only [RunTask.holdsFlag, outside, running, Bool.toNat_true, Bool.toNat_false] at guarded
      have someone : 0 < (earlier ++ later).countP RunTask.holdsFlag := by omega
      obtain ⟨holder, member, holds⟩ := List.countP_pos_iff.mp someone
      refine ⟨holder, ?_, RunTask.not_returned_of_holdsFlag holds⟩
      rcases List.mem_append.mp member with before | behind
      · exact List.mem_append_left _ before
      · exact List.mem_append_right _ (List.mem_cons_of_mem _ behind)
  · exact ⟨.active nextRun, by simp, by simpa [RunTask.returned] using finished⟩

theorem Staffed.step (staffed : Staffed crew) (guarded : Guarded crew)
    (bound : crew.station.queue.processor.isSome = true) (step : Step crew deed after) :
    Staffed after := by
  cases step with
  | push events pushed => exact fun _ => .inl (Nat.succ_pos _)
  | pushFails events failed =>
      intro stored
      apply staffed
      simpa [Store.isEmpty, Station.push_backlog_of_error failed] using stored
  | startOwed => exact fun _ => .inr ⟨.scheduled, by simp, rfl⟩
  | call => exact fun _ => .inr ⟨.scheduled, by simp, rfl⟩
  | flush flushed =>
      intro stored
      rw [Store.isEmpty, Station.flush_backlog_of_ok flushed] at stored
      cases stored
  | flushFails failed =>
      intro stored
      apply staffed
      simpa [Store.isEmpty, Station.flush_backlog_of_error failed] using stored
  | @begin station owed earlier later =>
      intro _
      right
      obtain ⟨processor, begun⟩ := RunTask.begin_of_bound bound
      exact ⟨.begin station.queue, by simp, by rw [begun]; rfl⟩
  | advance earlier later stepped => exact .advance guarded stepped
  | wake earlier later run =>
      intro stored
      rcases staffed stored with owed | ⟨task, member, unreturned⟩
      · exact .inl owed
      · right
        rcases List.mem_append.mp member with before | behind
        · exact ⟨task, List.mem_append_left _ before, unreturned⟩
        · rcases List.mem_cons.mp behind with rfl | behind
          · exact ⟨.active run.wake, by simp, (run.wake_isFinished).trans unreturned⟩
          · exact ⟨task, List.mem_append_right _ (List.mem_cons_of_mem _ behind), unreturned⟩
  | bind transport => exact staffed
  | pass scene => exact staffed

/-! ### Runs that break off -/

/-- No run has broken off, and the last round ended before now. -/
structure Sound (settings : QueueSettings) (crew : Crew) : Prop where
  sameSettings : crew.station.queue.settings = settings
  past : ∀ ended, crew.station.queue.lastRound = some ended → ended ≤ crew.station.scene.now
  whole : ∀ task ∈ crew.tasks, task.broke = false

theorem clock_step (step : Step crew deed after) :
    crew.station.scene.now ≤ after.station.scene.now := by
  cases step with
  | push events pushed => exact Nat.le_of_eq (Station.push_now pushed).symm
  | pushFails events failed => exact Nat.le_of_eq (Station.push_now failed).symm
  | flush flushed => exact Nat.le_of_eq (Station.flush_now flushed).symm
  | flushFails failed => exact Nat.le_of_eq (Station.flush_now failed).symm
  | advance earlier later stepped => exact Nat.le_of_eq (Run.step?_beat stepped).2.1.symm
  | pass scene forward => exact forward
  | _ => exact Nat.le_refl _

namespace Sound

variable {settings : QueueSettings}

/-- A step that leaves the queue as it is, and no task that breaks off. -/
theorem kept (sound : Sound settings crew) (queue : after.station.queue = crew.station.queue)
    (clock : crew.station.scene.now ≤ after.station.scene.now)
    (tasks : ∀ task ∈ after.tasks, task ∈ crew.tasks ∨ task.broke = false) :
    Sound settings after where
  sameSettings := by rw [queue, sound.sameSettings]
  past ended previous := Nat.le_trans (sound.past ended (queue ▸ previous)) clock
  whole task member := (tasks task member).elim (sound.whole task) id

/-- A run that goes on does not break off while the settings and the clock leave room. -/
theorem advance {station next : Station} {owed : Nat} {earlier later : List RunTask}
    {run nextRun : Run} (sound : Sound settings ⟨station, owed, earlier ++ .active run :: later⟩)
    (fits : settings.concurrency ≤ Run.mostBatches)
    (room : Clock.Shows (.ofMilliseconds (station.scene.now + settings.batchDelay)))
    (stepped : run.step? station = some (nextRun, next)) :
    Sound settings ⟨next, owed, earlier ++ .active nextRun :: later⟩ := by
  obtain ⟨beat, clock, sameSettings⟩ := Run.step?_beat stepped
  have few : station.queue.effectiveConcurrency ≤ Run.mostBatches := by
    unfold Queue.effectiveConcurrency
    rw [show station.queue.settings = settings from sound.sameSettings]
    split
    · exact fits
    · exact by decide
  have unbroken : nextRun.stage.isBroken = false := by
    cases stage : nextRun.stage with
    | broken =>
        rw [stage] at beat
        rcases beat.broken with ⟨ended, previous, beyond⟩ | many
        · refine absurd ?_ beyond
          have before := sound.past ended previous
          rw [show station.queue.settings = settings from sound.sameSettings]
          exact room.trans_le (Nat.add_le_add_right before _)
        · omega
    | _ => rfl
  refine ⟨sameSettings.trans sound.sameSettings, ?_, ?_⟩
  · intro ended previous
    rw [clock]
    exact beat.past sound.past ended previous
  · have whole := sound.whole
    rw [List.forall_mem_append, List.forall_mem_cons] at whole ⊢
    exact ⟨whole.1, unbroken, whole.2.2⟩

theorem step (sound : Sound settings crew) (fits : settings.concurrency ≤ Run.mostBatches)
    (room : Clock.Shows (.ofMilliseconds (crew.station.scene.now + settings.batchDelay)))
    (step : Step crew deed after) : Sound settings after := by
  have clock := clock_step step
  have same {task : RunTask} (member : task ∈ crew.tasks) :
      task ∈ crew.tasks ∨ task.broke = false := .inl member
  have one {earlier later : List RunTask} {old new : RunTask} (unbroken : new.broke = false) :
      ∀ task ∈ earlier ++ new :: later, task ∈ earlier ++ old :: later ∨ task.broke = false := by
    intro task member
    rw [List.mem_append, List.mem_cons] at member ⊢
    rcases member with before | rfl | behind
    · exact .inl (.inl before)
    · exact .inr unbroken
    · exact .inl (.inr (.inr behind))
  have scheduled {tasks : List RunTask} :
      ∀ task ∈ tasks ++ [.scheduled], task ∈ tasks ∨ task.broke = false := by
    intro task member
    rcases List.mem_append.mp member with before | only
    · exact .inl before
    · rw [List.mem_singleton.mp only]
      exact .inr rfl
  cases step with
  | push events pushed => exact sound.kept (Station.push_queue pushed) clock fun _ => same
  | pushFails events failed => exact sound.kept (Station.push_queue failed) clock fun _ => same
  | startOwed => exact sound.kept rfl clock scheduled
  | call => exact sound.kept rfl clock scheduled
  | flush flushed => exact sound.kept (Station.flush_queue flushed) clock fun _ => same
  | flushFails failed => exact sound.kept (Station.flush_queue failed) clock fun _ => same
  | begin earlier later => exact sound.kept rfl clock (one (RunTask.begin_whole _))
  | advance earlier later stepped => exact sound.advance fits room stepped
  | wake earlier later run =>
      refine sound.kept rfl clock (one ?_)
      exact run.wake_isBroken.trans (sound.whole (.active run) (by simp))
  | bind transport => exact ⟨sound.sameSettings, sound.past, sound.whole⟩
  | pass scene forward => exact sound.kept rfl forward fun _ => same

end Sound

theorem Reached.sound {start : Crew} {settings : QueueSettings} {deeds : List Deed}
    (reached : Reached start deeds crew) (sound : Sound settings start)
    (fits : settings.concurrency ≤ Run.mostBatches)
    (room : Clock.Shows (.ofMilliseconds (crew.station.scene.now + settings.batchDelay))) :
    Sound settings crew := by
  induction reached with
  | start => exact sound
  | step _ step inductionHypothesis =>
      -- What is shown after the step was shown before it.
      have before := room.trans_le (Nat.add_le_add_right (clock_step step) _)
      exact (inductionHypothesis before).step fits before step

/-- With a transport bound from the start, through every interleaving of pushes, flushes and
runs: where events are stored, some task has not returned, a push that has not started its task
yet counted in. Hence nothing is stored once all tasks have returned. While a list has room for
the batches of a round and the clock shows the end of a delay, none of the tasks has broken off,
so a task that has not returned is at work. -/
theorem stored_events_are_never_stranded {settings : QueueSettings} {observer : Observer}
    {queue : Queue} (made : Queue.make settings observer = .ok queue) (transport : Transport)
    (faults : StoreFaults) (scene : Scene) {deeds : List Deed}
    (reached : Reached ⟨⟨(queue.bind transport scene).1, { faults },
      (queue.bind transport scene).2⟩, 0, []⟩ deeds crew) :
    (crew.station.store.isEmpty = false →
        0 < crew.owed ∨ ∃ task ∈ crew.tasks, task.returned = false) ∧
      (crew.owed = 0 → (∀ task ∈ crew.tasks, task.returned = true) →
        crew.station.store.isEmpty = true) ∧
      (settings.concurrency ≤ Run.mostBatches →
        Clock.Shows (.ofMilliseconds (crew.station.scene.now + settings.batchDelay)) →
        ∀ task ∈ crew.tasks, task.broke = false) := by
  obtain ⟨rfl, -⟩ := Queue.make_eq_ok made
  have invariant : Guarded crew ∧ crew.station.queue.processor.isSome = true ∧ Staffed crew := by
    induction reached with
    | start => exact ⟨rfl, rfl, fun stored => by cases stored⟩
    | step _ step inductionHypothesis =>
        obtain ⟨guarded, bound, staffed⟩ := inductionHypothesis
        exact ⟨guarded.step step, bound_step step bound, staffed.step guarded bound step⟩
  refine ⟨invariant.2.2, ?_, ?_⟩
  · intro nothingOwed allReturned
    by_contra stored
    rcases invariant.2.2 (by simpa using stored) with owed | ⟨task, member, unreturned⟩
    · omega
    · rw [allReturned task member] at unreturned
      cases unreturned
  · intro fits room
    refine (reached.sound ⟨rfl, ?_, List.forall_mem_nil _⟩ fits room).whole
    intro ended impossible
    cases impossible

/-- The first task has seen the queue idle and is about to give the flag back. An event is
pushed now, and its own task is turned away: the first one is still there. -/
theorem pushed_event_waits_for_the_holder :
    ∃ queue deeds crew, Queue.make {} .notes = .ok queue ∧
      Reached ⟨⟨(queue.bind (.debug "sink") {}).1, {}, (queue.bind (.debug "sink") {}).2⟩, 0, []⟩
        deeds crew ∧
      crew.station.store.isEmpty = false ∧ (∃ task ∈ crew.tasks, task.returned = true) ∧
        (0 < crew.owed ∨ ∃ task ∈ crew.tasks, task.returned = false) ∧
        ∀ task ∈ crew.tasks, task.broke = false := by
  let event : Event := .make { type := "PressEvent" } "first" 0
  let queue : Queue := { settings := {}, observer := .notes }
  have made : Queue.make {} .notes = .ok queue := rfl
  have pushed : Reached ⟨⟨(queue.bind (.debug "sink") {}).1, {}, (queue.bind (.debug "sink") {}).2⟩,
      0, []⟩ _ _ := .step .start (.push [event] rfl)
  have begun := (pushed.step .startOwed).step (.begin [] [])
  have claimed := (begun.step (.advance [] [] rfl)).step (.advance [] [] rfl)
  have flushed := claimed.step (.flush rfl)
  have sawIdle := flushed.step (.advance [] [] rfl)
  have pushedAgain := sawIdle.step (.push [event] rfl)
  have begunAgain := (pushedAgain.step .startOwed).step (.begin [_] [])
  have turnedAway := (begunAgain.step (.advance [_] [] rfl)).step (.advance [_] [] rfl)
  have staffed := stored_events_are_never_stranded made (.debug "sink") {} {} turnedAway
  exact ⟨queue, _, _, made, turnedAway, rfl,
    ⟨_, List.mem_append_right [_] List.mem_cons_self, rfl⟩, staffed.1 rfl,
    staffed.2.2 (by decide) (by decide)⟩

end Crew

end Telemetry
