import Mathlib.Data.List.Chain
import Telemetry.Proofs.Queue.Milestones
import Telemetry.Proofs.Queue.Rebinding

/-!
Contract: the rounds of a queue, one after the other.

Owns:
- the milestones of the deeds of an interleaving, and `Deed.virtual`: the clock
  moves only while every task waits;
- `Crew.Kept`: what the milestones say about the round under way and those before
  it;
- the theorem that the milestones are those of whole rounds, that the batch delay
  lies between one round and the calls of the next, and that the first round has
  no delay.

A round belongs to one task, and the running flag keeps the rounds of different
tasks apart. The time at which the last round ended is kept with the queue, so it
does not matter which run had that round, what became of its batches, or whether
it had any.
-/

namespace Telemetry

namespace Round

variable {delay : Nat} {round : Round}

/-! ### Rounds in a row -/

/-- The calls of the round are made without delay. -/
def Undelayed (round : Round) : Prop :=
  ∀ time batch, .called time batch ∈ round.marks → time = round.opened

/-- Consecutive rounds keep the delay, and the first one has none. -/
def Spaced (delay : Nat) (rounds : List Round) : Prop :=
  rounds.IsChain (Precedes delay) ∧ ∀ first ∈ rounds.head?, first.Undelayed

theorem Spaced.append {rounds : List Round} (spaced : Spaced delay rounds)
    (ended : ∀ round ∈ rounds, round.Ended)
    (callsDue : ∀ time batch, .called time batch ∈ round.marks →
      round.Due delay (rounds.getLast?.bind Round.closed) time) :
    Spaced delay (rounds ++ [round]) := by
  constructor
  · apply spaced.1.append (.singleton round)
    intro last lastEq only onlyEq
    cases onlyEq
    obtain ⟨time, closed, settled, -⟩ := ended last (List.mem_of_getLast? lastEq)
    refine ⟨time, closed, settled, ?_⟩
    intro called batch member
    have due := callsDue called batch member
    rw [Option.mem_def.mp lastEq, Option.bind_some, closed] at due
    exact due
  · cases rounds with
    | nil =>
        intro first firstEq
        cases firstEq
        exact callsDue
    | cons first rounds => exact spaced.2

end Round

/-! ### The milestones of an interleaving -/

namespace RunTask

def inRound : RunTask → Bool
  | .active run => run.stage.inRound
  | _ => false

theorem begin_inRound (queue : Queue) : (begin queue).inRound = false := by
  unfold begin Run.start
  cases queue.processor <;> rfl

theorem holdsFlag_of_inRound {task : RunTask} (inside : task.inRound = true) :
    task.holdsFlag = true := by
  cases task with
  | active run => exact RunStage.holdsFlag_of_inRound inside
  | _ => cases inside

end RunTask

namespace Deed

/-- The milestones that the deed is, with the task that they are of. -/
def milestones : Deed → List (Nat × Milestone)
  | .advance task run station => (run.milestones station).map (Prod.mk task)
  | _ => []

/-- The clock moves only while every task waits. -/
def virtual : Deed → Bool
  | .pass elapsed everyTaskWaits => elapsed == 0 || everyTaskWaits
  | _ => true

end Deed

namespace Crew

variable {crew after : Crew} {deed : Deed} {log : List (Nat × Milestone)}

/-- What the milestones say about the queue and its tasks: all rounds but one that is under way
are over. -/
structure Kept (settings : QueueSettings) (log : List (Nat × Milestone)) (past : List Round)
    (current : Option Round) (crew : Crew) : Prop where
  guarded : Guarded crew
  sameSettings : crew.station.queue.settings = settings
  log : log = (past ++ current.toList).flatMap Round.log
  spaced : Round.Spaced settings.batchDelay past
  ended : ∀ round ∈ past, round.Ended
  lastRound : crew.station.queue.lastRound = past.getLast?.bind Round.closed
  outside : current = none → ∀ task ∈ crew.tasks, task.inRound = false
  inside : ∀ round, current = some round → ∃ run, crew.tasks[round.task]? = some (.active run) ∧
    round.Within settings.batchDelay crew.station.queue.lastRound crew.station.scene.now run.stage

/-! ### One task among the others -/

/-- Beside the task that holds the flag, nobody does. -/
theorem Guarded.others {station : Station} {owed : Nat} {earlier later : List RunTask}
    {task : RunTask} (guarded : Guarded ⟨station, owed, earlier ++ task :: later⟩)
    (holds : task.holdsFlag = true) {other : RunTask} (member : other ∈ earlier ++ later) :
    other.holdsFlag = false := by
  have bound := station.queue.running.toNat_le
  unfold Guarded at guarded
  rw [countP_holdsFlag, holds, Bool.toNat_true] at guarded
  have nobody : (earlier ++ later).countP RunTask.holdsFlag = 0 := by
    dsimp only at guarded
    omega
  simpa using List.countP_eq_zero.mp nobody other member

theorem Guarded.position {station : Station} {owed : Nat} {earlier later : List RunTask}
    {task other : RunTask} (guarded : Guarded ⟨station, owed, earlier ++ task :: later⟩)
    (holds : task.holdsFlag = true) {position : Nat}
    (present : (earlier ++ task :: later)[position]? = some other)
    (otherHolds : other.holdsFlag = true) : position = earlier.length := by
  refine Decidable.byContradiction fun elsewhere => ?_
  have member : other ∈ earlier ++ later := by
    rw [List.getElem?_append] at present
    split at present
    · exact List.mem_append_left _ (List.mem_of_getElem? present)
    · obtain ⟨behind, behindEq⟩ : ∃ behind, position - earlier.length = behind + 1 :=
        ⟨position - earlier.length - 1, by omega⟩
      rw [behindEq, List.getElem?_cons_succ] at present
      exact List.mem_append_right _ (List.mem_of_getElem? present)
  rw [guarded.others holds member] at otherHolds
  cases otherHolds

namespace Kept

variable {settings : QueueSettings} {past : List Round} {current : Option Round}

/-- A step that leaves the tasks in rounds and what they look at as they are. -/
theorem untouched (kept : Kept settings log past current crew) (guarded : Guarded after)
    (clock : after.station.scene.now = crew.station.scene.now)
    (sameSettings : after.station.queue.settings = crew.station.queue.settings)
    (lastRound : after.station.queue.lastRound = crew.station.queue.lastRound)
    (noNew : ∀ task ∈ after.tasks, task.inRound = true → task ∈ crew.tasks)
    (stays : ∀ (position : Nat) (run : Run), run.stage.inRound = true →
      crew.tasks[position]? = some (.active run) → after.tasks[position]? = some (.active run)) :
    Kept settings log past current after where
  guarded := guarded
  sameSettings := sameSettings.trans kept.sameSettings
  log := kept.log
  spaced := kept.spaced
  ended := kept.ended
  lastRound := lastRound.trans kept.lastRound
  outside none task member := by
    cases inside : task.inRound with
    | false => rfl
    | true => exact inside.symm.trans (kept.outside none task (noNew task member inside))
  inside round isCurrent := by
    obtain ⟨run, present, within⟩ := kept.inside round isCurrent
    refine ⟨run, stays _ run within.inside present, ?_⟩
    rw [clock, lastRound]
    exact within

/-- A step that takes no time and concerns neither the queue itself nor the tasks that there
are. -/
theorem undisturbed (kept : Kept settings log past current crew) (guarded : Guarded after)
    (clock : after.station.scene.now = crew.station.scene.now)
    (queue : after.station.queue = crew.station.queue)
    (tasks : after.tasks = crew.tasks ∨ after.tasks = crew.tasks ++ [.scheduled]) :
    ∃ past current, Kept settings (log ++ []) past current after := by
  refine ⟨past, current, ?_⟩
  rw [List.append_nil]
  refine kept.untouched guarded clock (by rw [queue]) (by rw [queue]) ?_ ?_
  · intro task member inside
    rcases tasks with same | grown
    · rwa [same] at member
    · rw [grown, List.mem_append] at member
      rcases member with member | only
      · exact member
      · rw [List.mem_singleton.mp only] at inside
        cases inside
  · intro position run inside present
    rcases tasks with same | grown
    · rwa [same]
    · rw [grown, List.getElem?_append_left (List.getElem?_eq_some_iff.mp present).1]
      exact present

/-- A step of a task that is in no round before or after. -/
theorem replaced {station next : Station} {owed : Nat} {earlier later : List RunTask}
    {old new : RunTask}
    (kept : Kept settings log past current ⟨station, owed, earlier ++ old :: later⟩)
    (guarded : Guarded ⟨next, owed, earlier ++ new :: later⟩)
    (clock : next.scene.now = station.scene.now)
    (sameSettings : next.queue.settings = station.queue.settings)
    (lastRound : next.queue.lastRound = station.queue.lastRound)
    (outside : old.inRound = false) (stillOutside : new.inRound = false) :
    Kept settings log past current ⟨next, owed, earlier ++ new :: later⟩ := by
  refine kept.untouched guarded clock sameSettings lastRound ?_ ?_
  · intro task member inside
    simp only [List.mem_append, List.mem_cons] at member ⊢
    rcases member with before | rfl | behind
    · exact .inl before
    · rw [stillOutside] at inside
      cases inside
    · exact .inr (.inr behind)
  · intro position run inside present
    have other : position ≠ earlier.length := by
      rintro rfl
      have same : old = .active run := by simpa using present
      rw [same] at outside
      exact absurd (inside.symm.trans outside) (by decide)
    rw [getElem?_replaced earlier later old new other]
    exact present

/-- The round under way is that of the task which holds the flag. -/
theorem holder {station : Station} {owed : Nat} {earlier later : List RunTask} {run : Run}
    {round : Round}
    (kept : Kept settings log past (some round) ⟨station, owed, earlier ++ .active run :: later⟩)
    (holds : run.stage.holdsFlag = true) :
    round.task = earlier.length ∧
      round.Within settings.batchDelay station.queue.lastRound station.scene.now run.stage := by
  obtain ⟨holder, present, within⟩ := kept.inside round rfl
  have position : round.task = earlier.length :=
    kept.guarded.position holds present (RunStage.holdsFlag_of_inRound within.inside)
  have same : holder = run := by
    rw [position] at present
    simpa using present.symm
  exact ⟨position, same ▸ within⟩

theorem exists_current {station : Station} {owed : Nat} {earlier later : List RunTask} {run : Run}
    (kept : Kept settings log past current ⟨station, owed, earlier ++ .active run :: later⟩)
    (inside : run.stage.inRound = true) : ∃ round, current = some round := by
  cases current with
  | none =>
      have outside := kept.outside rfl (.active run) (by simp)
      exact absurd (inside.symm.trans outside) (by decide)
  | some round => exact ⟨round, rfl⟩

/-- A task in a round goes on with it. -/
theorem continued {station next : Station} {owed : Nat} {earlier later : List RunTask}
    {run nextRun : Run} {round : Round}
    (kept : Kept settings log past (some round) ⟨station, owed, earlier ++ .active run :: later⟩)
    (guarded : Guarded ⟨next, owed, earlier ++ .active nextRun :: later⟩)
    (sameSettings : next.queue.settings = station.queue.settings)
    (lastRound : next.queue.lastRound = station.queue.lastRound)
    (holds : run.stage.holdsFlag = true) {marks : List Mark}
    (within : (round.add marks).Within settings.batchDelay next.queue.lastRound next.scene.now
      nextRun.stage) :
    Kept settings (log ++ (marks.map Milestone.mark).map (Prod.mk earlier.length)) past
      (some (round.add marks)) ⟨next, owed, earlier ++ .active nextRun :: later⟩ where
  guarded := guarded
  sameSettings := sameSettings.trans kept.sameSettings
  log := by
    rw [← (kept.holder holds).1, kept.log]
    simp only [Option.toList_some, List.flatMap_append, List.flatMap_singleton,
      Round.log_add (kept.holder holds).2.isOpen, List.append_assoc]
  spaced := kept.spaced
  ended := kept.ended
  lastRound := lastRound.trans kept.lastRound
  outside none := by cases none
  inside current isCurrent := by
    cases isCurrent
    refine ⟨nextRun, ?_, within⟩
    show (earlier ++ .active nextRun :: later)[round.task]? = _
    rw [(kept.holder holds).1]
    simp

/-- A task that holds the flag opens a round. -/
theorem opened {station next : Station} {owed : Nat} {earlier later : List RunTask}
    {run nextRun : Run} {time : Nat}
    (kept : Kept settings log past none ⟨station, owed, earlier ++ .active run :: later⟩)
    (guarded : Guarded ⟨next, owed, earlier ++ .active nextRun :: later⟩)
    (sameSettings : next.queue.settings = station.queue.settings)
    (lastRound : next.queue.lastRound = station.queue.lastRound)
    (within : Round.Within settings.batchDelay next.queue.lastRound next.scene.now
      { task := earlier.length, opened := time } nextRun.stage) :
    Kept settings (log ++ [(earlier.length, .opened time)]) past
      (some { task := earlier.length, opened := time })
      ⟨next, owed, earlier ++ .active nextRun :: later⟩ where
  guarded := guarded
  sameSettings := sameSettings.trans kept.sameSettings
  log := by
    rw [kept.log]
    simp [Round.log, Round.milestones]
  spaced := kept.spaced
  ended := kept.ended
  lastRound := lastRound.trans kept.lastRound
  outside none := by cases none
  inside current isCurrent := by
    cases isCurrent
    exact ⟨nextRun, by simp, within⟩

/-- The round under way ends. -/
theorem closed {station next : Station} {owed : Nat} {earlier later : List RunTask}
    {run nextRun : Run} {round : Round} {time : Nat}
    (kept : Kept settings log past (some round) ⟨station, owed, earlier ++ .active run :: later⟩)
    (guarded : Guarded ⟨next, owed, earlier ++ .active nextRun :: later⟩)
    (sameSettings : next.queue.settings = station.queue.settings)
    (lastRound : next.queue.lastRound = some time)
    (holds : run.stage.holdsFlag = true) (left : nextRun.stage.inRound = false)
    (ended : (round.close time).Ended) :
    Kept settings (log ++ [(earlier.length, .closed time)]) (past ++ [round.close time]) none
      ⟨next, owed, earlier ++ .active nextRun :: later⟩ where
  guarded := guarded
  sameSettings := sameSettings.trans kept.sameSettings
  log := by
    obtain ⟨position, within⟩ := kept.holder holds
    rw [← position, kept.log]
    simp only [Option.toList_some, Option.toList_none, List.append_nil, List.flatMap_append,
      List.flatMap_singleton, Round.log_close within.isOpen, List.append_assoc]
  spaced := by
    apply kept.spaced.append kept.ended
    rw [← kept.lastRound]
    exact (kept.holder holds).2.callsDue
  ended := by
    intro other member
    rcases List.mem_append.mp member with before | only
    · exact kept.ended other before
    · rw [List.mem_singleton.mp only]
      exact ended
  lastRound := by
    rw [lastRound, List.getLast?_concat]
    rfl
  outside _ task member := by
    -- Whoever is in a round holds the flag, and only this task did.
    simp only [List.mem_append, List.mem_cons] at member
    cases inside : task.inRound with
    | false => rfl
    | true =>
        have taskHolds : task.holdsFlag = true := RunTask.holdsFlag_of_inRound inside
        rcases member with before | rfl | behind
        · exact absurd (taskHolds.symm.trans
            (kept.guarded.others holds (List.mem_append_left _ before))) (by decide)
        · exact inside.symm.trans left
        · exact absurd (taskHolds.symm.trans
            (kept.guarded.others holds (List.mem_append_right _ behind))) (by decide)
  inside _ impossible := by cases impossible

theorem advanced {station next : Station} {owed : Nat} {earlier later : List RunTask}
    {run nextRun : Run}
    (kept : Kept settings log past current ⟨station, owed, earlier ++ .active run :: later⟩)
    (guarded : Guarded ⟨next, owed, earlier ++ .active nextRun :: later⟩)
    (stepped : run.step? station = some (nextRun, next)) :
    ∃ past current, Kept settings
      (log ++ (run.milestones station).map (Prod.mk earlier.length)) past current
      ⟨next, owed, earlier ++ .active nextRun :: later⟩ := by
  obtain ⟨beat, clock, sameSettings⟩ := Run.step?_beat stepped
  have delay := kept.sameSettings
  dsimp only at delay
  cases inside : run.stage.inRound with
  | false =>
      obtain ⟨lastRound, ⟨none, stillOutside⟩ | ⟨opens, holds, within⟩⟩ :=
        Round.within_of_beat beat inside
      · refine ⟨past, current, ?_⟩
        rw [none, List.map_nil, List.append_nil]
        exact kept.replaced guarded clock sameSettings lastRound inside stillOutside
      · have none : current = .none := by
          cases current with
          | none => rfl
          | some round =>
              rw [(kept.holder holds).2.inside] at inside
              cases inside
        subst none
        refine ⟨past, some { task := earlier.length, opened := station.scene.now }, ?_⟩
        rw [opens]
        apply kept.opened guarded sameSettings lastRound
        rw [lastRound, clock, ← delay]
        exact within earlier.length
  | true =>
      have holds := RunStage.holdsFlag_of_inRound inside
      obtain ⟨round, rfl⟩ := kept.exists_current inside
      obtain ⟨position, within⟩ := kept.holder holds
      rw [← delay] at within
      rcases within.step beat with ⟨marks, marked, lastRound, goesOn⟩ |
        ⟨closes, left, lastRound, ended⟩
      · refine ⟨past, some (round.add marks), ?_⟩
        rw [marked]
        apply kept.continued guarded sameSettings lastRound holds
        rw [lastRound, clock, ← delay]
        exact goesOn
      · refine ⟨past ++ [round.close station.scene.now], none, ?_⟩
        rw [closes]
        exact kept.closed guarded sameSettings lastRound holds left ended

theorem woken {station : Station} {owed : Nat} {earlier later : List RunTask} {run : Run}
    (kept : Kept settings log past current ⟨station, owed, earlier ++ .active run :: later⟩)
    (guarded : Guarded ⟨station, owed, earlier ++ .active run.wake :: later⟩) :
    ∃ past current, Kept settings log past current
      ⟨station, owed, earlier ++ .active run.wake :: later⟩ := by
  cases inside : run.stage.inRound with
  | false =>
      rw [run.wake_of_outside inside]
      exact ⟨past, current, kept⟩
  | true =>
      have holds := RunStage.holdsFlag_of_inRound inside
      obtain ⟨round, rfl⟩ := kept.exists_current inside
      obtain ⟨position, within⟩ := kept.holder holds
      rw [← round.add_nil] at within
      have woken := kept.continued guarded rfl rfl holds within.wake
      rw [List.map_nil, List.map_nil, List.append_nil] at woken
      exact ⟨past, _, woken⟩

theorem step (kept : Kept settings log past current crew) (step : Step crew deed after)
    (virtual : deed.virtual = true) :
    ∃ past current, Kept settings (log ++ deed.milestones) past current after := by
  have guarded := kept.guarded.step step
  cases step with
  | push events pushed =>
      exact kept.undisturbed guarded (Station.push_now pushed) (Station.push_queue pushed)
        (.inl rfl)
  | pushFails events failed =>
      exact kept.undisturbed guarded (Station.push_now failed) (Station.push_queue failed)
        (.inl rfl)
  | startOwed => exact kept.undisturbed guarded rfl rfl (.inr rfl)
  | call => exact kept.undisturbed guarded rfl rfl (.inr rfl)
  | flush flushed =>
      exact kept.undisturbed guarded (Station.flush_now flushed) (Station.flush_queue flushed)
        (.inl rfl)
  | flushFails failed =>
      exact kept.undisturbed guarded (Station.flush_now failed) (Station.flush_queue failed)
        (.inl rfl)
  | begin earlier later =>
      refine ⟨past, current, ?_⟩
      simp only [Deed.milestones, List.append_nil]
      exact kept.replaced guarded rfl rfl rfl rfl (RunTask.begin_inRound _)
  | advance earlier later stepped => exact kept.advanced guarded stepped
  | wake earlier later run =>
      simp only [Deed.milestones, List.append_nil]
      exact kept.woken guarded
  | bind transport =>
      refine ⟨past, current, ?_⟩
      simp only [Deed.milestones, List.append_nil]
      exact kept.untouched guarded rfl rfl rfl (fun _ member _ => member)
        (fun _ _ _ present => present)
  | @pass station owed tasks scene forward =>
      simp only [Deed.virtual, Bool.or_eq_true, beq_iff_eq, List.all_eq_true] at virtual
      rcases virtual with still | rest
      · exact kept.undisturbed guarded (Nat.le_antisymm (Nat.sub_eq_zero_iff_le.mp still) forward)
          rfl (.inl rfl)
      · refine ⟨past, current, ?_⟩
        simp only [Deed.milestones, List.append_nil]
        refine { kept with guarded := guarded, inside := ?_ }
        intro round isCurrent
        obtain ⟨run, present, within⟩ := kept.inside round isCurrent
        exact ⟨run, present, within.later (rest _ (List.mem_of_getElem? present)) forward⟩

end Kept

theorem Reached.kept {start : Crew} {settings : QueueSettings} {deeds : List Deed}
    (reached : Reached start deeds crew) (virtual : ∀ deed ∈ deeds, deed.virtual = true)
    (kept : Kept settings [] [] none start) :
    ∃ past current, Kept settings (deeds.flatMap Deed.milestones) past current crew := by
  induction reached with
  | start => exact ⟨[], none, kept⟩
  | @step deeds crew after deed _ step inductionHypothesis =>
      obtain ⟨earlier, last⟩ := List.forall_mem_append.mp virtual
      obtain ⟨past, current, keptSoFar⟩ := inductionHypothesis earlier
      rw [List.flatMap_append, List.flatMap_singleton]
      exact keptSoFar.step step (last deed (List.mem_singleton.mpr rfl))

/-- In every interleaving on a virtual clock: the milestones are those of whole rounds, one after
the other. Each round but the last one ends, after the last of its batches is settled, and the
calls of the next round are made no earlier than the batch delay after that. The calls of the
first round are made when it opens. -/
theorem rounds_are_separated_by_the_batch_delay {settings : QueueSettings} {observer : Observer}
    {queue : Queue} (made : Queue.make settings observer = .ok queue) (faults : StoreFaults)
    (scene : Scene) {deeds : List Deed} (reached : Reached (fresh queue faults scene) deeds crew)
    (virtual : ∀ deed ∈ deeds, deed.virtual = true) :
    ∃ rounds : List Round, deeds.flatMap Deed.milestones = rounds.flatMap Round.log ∧
      rounds.IsChain (Round.Precedes settings.batchDelay) ∧
      (∀ first ∈ rounds.head?, first.Undelayed) ∧
      ∀ round ∈ rounds, round.closed.isSome = true → round.Ended := by
  obtain ⟨rfl, -⟩ := Queue.make_eq_ok made
  have kept : Kept settings [] [] none (fresh { settings, observer } faults scene) := by
    refine ⟨rfl, rfl, rfl, ⟨.nil, by simp⟩, by simp, rfl, ?_, by simp⟩
    intro _ task member
    cases member
  obtain ⟨past, current, kept⟩ := reached.kept virtual kept
  cases current with
  | none =>
      refine ⟨past, ?_, kept.spaced.1, kept.spaced.2, fun round member _ => kept.ended round member⟩
      simpa using kept.log
  | some round =>
      obtain ⟨run, -, within⟩ := kept.inside round rfl
      have spaced : Round.Spaced settings.batchDelay (past ++ [round]) := by
        apply kept.spaced.append kept.ended
        rw [← kept.lastRound]
        exact within.callsDue
      refine ⟨past ++ [round], kept.log, spaced.1, spaced.2, ?_⟩
      intro other member isClosed
      rcases List.mem_append.mp member with before | only
      · exact kept.ended other before
      · rw [List.mem_singleton.mp only, within.isOpen] at isClosed
        cases isClosed

/-! ### A queue with three rounds -/

/-- The collector turns batches down after some time. -/
def reluctant : Scene where
  collectors := [{
    name := "reluctant"
    answer := fun _ => { failure := some (.rejected "reluctant" "busy"), duration := 40 } }]

/-- The batch of the first round fails. The store is flushed during the wait before the second
round, which has no batch. The third round is that of another task. -/
theorem rounds_keep_the_delay_after_a_failure_and_a_flush :
    ∃ deeds crew,
      Queue.make { batchSize := 1, batchDelay := 100, concurrency := 1 } .notes =
        .ok switchboardQueue ∧
      Reached (fresh switchboardQueue {} reluctant) deeds crew ∧
      (∀ deed ∈ deeds, deed.virtual = true) ∧
      deeds.flatMap Deed.milestones =
        [(0, .opened 0), (0, .mark (.called 0 [switchboardPress "e-0"])),
          (0, .mark (.settled 40 [switchboardPress "e-0"])), (0, .closed 40),
          (0, .opened 40), (0, .closed 140),
          (1, .opened 150), (1, .mark (.called 240 [switchboardPress "e-1"])),
          (1, .mark (.settled 240 [switchboardPress "e-1"])), (1, .closed 240)] ∧
      ∃ rounds : List Round, deeds.flatMap Deed.milestones = rounds.flatMap Round.log ∧
        rounds.IsChain (Round.Precedes 100) := by
  have bound : Reached (fresh switchboardQueue {} reluctant) _ _ :=
    .step .start (.bind (.collector 0 "reluctant"))
  have pushed := bound.step (.push [switchboardPress "e-0"] rfl)
  have begun := (pushed.step .startOwed).step (.begin [] [])
  have claimed := (begun.step (.advance [] [] rfl)).step (.advance [] [] rfl)
  have yielded := (claimed.step (.advance [] [] rfl)).step (.advance [] [] rfl)
  have gathered := (yielded.step (.wake [] [] _)).step (.advance [] [] rfl)
  have dispatched := (gathered.step (.advance [] [] rfl)).step (.advance [] [] rfl)
  have handed := (dispatched.step (.advance [] [] rfl)).step (.advance [] [] rfl)
  have answered := handed.step (.pass { reluctant with now := 40 } (by decide))
  have failed := (answered.step (.wake [] [] _)).step (.advance [] [] rfl)
  have closed := failed.step (.advance [] [] rfl)
  have delayed := (closed.step (.advance [] [] rfl)).step (.advance [] [] rfl)
  have flushed := delayed.step (.flush rfl)
  have due := flushed.step (.pass { reluctant with now := 140 } (by decide))
  have gatheredAgain := (due.step (.advance [] [] rfl)).step (.advance [] [] rfl)
  have nothingRead := gatheredAgain.step (.advance [] [] rfl)
  have closedAgain := nothingRead.step (.advance [] [] rfl)
  have released := (closedAgain.step (.advance [] [] rfl)).step (.advance [] [] rfl)
  have finished := released.step (.advance [] [] rfl)
  have later := finished.step (.pass { reluctant with now := 150 } (by decide))
  have pushedAgain := later.step (.push [switchboardPress "e-1"] rfl)
  have begunAgain := (pushedAgain.step .startOwed).step (.begin [_] [])
  have claimedAgain := (begunAgain.step (.advance [_] [] rfl)).step (.advance [_] [] rfl)
  have delayedAgain := (claimedAgain.step (.advance [_] [] rfl)).step (.advance [_] [] rfl)
  have dueAgain := delayedAgain.step
    (.pass { now := 240, collectors := [{ name := "reluctant" }] } (by decide))
  have gatheredLast := (dueAgain.step (.advance [_] [] rfl)).step (.advance [_] [] rfl)
  have dispatchedLast := (gatheredLast.step (.advance [_] [] rfl)).step (.advance [_] [] rfl)
  have delivered := (dispatchedLast.step (.advance [_] [] rfl)).step (.advance [_] [] rfl)
  have made : Queue.make { batchSize := 1, batchDelay := 100, concurrency := 1 } .notes =
      .ok switchboardQueue := rfl
  obtain ⟨rounds, split, chain, -, -⟩ :=
    rounds_are_separated_by_the_batch_delay made {} reluctant delivered
      (List.all_eq_true.mp rfl)
  exact ⟨_, _, made, delivered, List.all_eq_true.mp rfl, rfl, rounds, split, chain⟩

end Crew

end Telemetry
