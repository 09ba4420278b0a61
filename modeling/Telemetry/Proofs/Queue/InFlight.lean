import Telemetry.Proofs.Queue.Simulation

/-!
Contract: what is under way in a queue, whoever runs it.

Owns: `Crew.FlightRules` and that it holds after every interleaving.

The identifiers under way come from the history. How many batches there can be
comes from the one task that holds the running flag: it decides before each
round how many it takes, and a task without the flag has none in hand.
-/

namespace Telemetry

open Occurrence

namespace Station

variable {start station after : Station} {history : List Occurrence} {label : Option Occurrence}

theorem Step.settings_eq (step : Step history station label after) :
    after.queue.settings = station.queue.settings := by
  cases step with
  | push tasks events pushed => rw [push_queue pushed]
  | flush flushed => rw [flush_queue flushed]
  | read batch read => rw [readBatch_queue_of_ok read]
  | settle batch startedAt failure _ => rw [settle_queue]
  | rearrange => rfl

theorem Reached.settings_eq (reached : Reached start history station) :
    station.queue.settings = start.queue.settings := by
  induction reached with
  | start => rfl
  | step _ step inductionHypothesis => exact step.settings_eq.trans inductionHypothesis

/-- Only a delivery marks that a batch has succeeded. -/
theorem Step.delivered (step : Step history station label after)
    (succeeded : after.queue.firstBatchSucceeded = true) :
    station.queue.firstBatchSucceeded = true ∨ ∃ batch, label = some (.settled batch none) := by
  cases step with
  | push tasks events pushed =>
      rw [push_queue pushed] at succeeded
      exact .inl succeeded
  | flush flushed =>
      rw [flush_queue flushed] at succeeded
      exact .inl succeeded
  | read batch read =>
      rw [readBatch_queue_of_ok read] at succeeded
      exact .inl succeeded
  | settle batch startedAt failure _ =>
      rw [settle_queue] at succeeded
      cases failure with
      | none => exact .inr ⟨batch, rfl⟩
      | some error => exact .inl (by simpa using succeeded)
  | rearrange => exact .inl succeeded

theorem Reached.delivered (reached : Reached start history station)
    (notYet : start.queue.firstBatchSucceeded = false)
    (succeeded : station.queue.firstBatchSucceeded = true) :
    ∃ batch, .settled batch none ∈ history := by
  induction reached with
  | start =>
      rw [notYet] at succeeded
      cases succeeded
  | step _ step inductionHypothesis =>
      rcases step.delivered succeeded with before | ⟨batch, rfl⟩
      · obtain ⟨batch, member⟩ := inductionHypothesis before
        exact ⟨batch, List.mem_append_left _ member⟩
      · exact ⟨batch, by simp⟩

namespace Accounted

/-- A batch has distinct identifiers, and two batches have none in common. -/
theorem distinct (accounted : Accounted history station) :
    (∀ batch ∈ outstanding history, (batch.map Event.id).Nodup) ∧
      (outstanding history).Pairwise fun left right =>
        (left.map Event.id).Disjoint (right.map Event.id) := by
  have nodup := accounted.batch_marks_nodup
  rw [List.map_flatten, List.nodup_flatten, List.pairwise_map] at nodup
  exact ⟨fun batch member => nodup.1 _ (List.mem_map_of_mem member), nodup.2⟩

/-- Nothing is under way exactly when every batch has its outcome. -/
theorem inFlight_eq_nil_iff (accounted : Accounted history station) :
    station.queue.inFlight = [] ↔ outstanding history = [] := by
  constructor
  · intro nothing
    rw [List.eq_nil_iff_forall_not_mem]
    intro batch member
    obtain ⟨event, eventMember⟩ := List.exists_mem_of_ne_nil _ (accounted.sizes batch member).1
    have marked := accounted.mem_inFlight.mpr ⟨batch, member, List.mem_map_of_mem eventMember⟩
    rw [nothing] at marked
    cases marked
  · intro nothing
    have marks := accounted.marks
    rw [nothing] at marks
    exact marks.eq_nil

theorem isIdle_iff (accounted : Accounted history station) :
    station.isIdle = true ↔ station.store.isEmpty = true ∧ outstanding history = [] := by
  rw [Station.isIdle, Queue.isIdle, Bool.and_eq_true, List.isEmpty_iff,
    accounted.inFlight_eq_nil_iff]

end Accounted

end Station

/-! ### How many batches there can be -/

/-- A number of batches that may be under way after a history. -/
structure Admitted (settings : QueueSettings) (history : List Occurrence) (count : Nat) :
    Prop where
  limit : count ≤ settings.concurrency
  ramp : (∀ batch, .settled batch none ∉ history) → count ≤ 1

namespace Admitted

variable {settings : QueueSettings} {history : List Occurrence} {count : Nat}

theorem of_le {fewer : Nat} (admitted : Admitted settings history count) (le : fewer ≤ count) :
    Admitted settings history fewer where
  limit := Nat.le_trans le admitted.limit
  ramp undelivered := Nat.le_trans le (admitted.ramp undelivered)

theorem append (admitted : Admitted settings history count) (later : List Occurrence) :
    Admitted settings (history ++ later) count where
  limit := admitted.limit
  ramp undelivered :=
    admitted.ramp fun batch member => undelivered batch (List.mem_append_left _ member)

theorem zero : Admitted settings history 0 where
  limit := Nat.zero_le _
  ramp _ := Nat.zero_le _

/-- The number that a round starts with. -/
theorem effectiveConcurrency {start station : Station}
    (reached : Station.Reached start history station) (made : start.queue.settings = settings)
    (positive : 0 < settings.concurrency) (notYet : start.queue.firstBatchSucceeded = false) :
    Admitted settings history station.queue.effectiveConcurrency := by
  have sameSettings := reached.settings_eq.trans made
  unfold Queue.effectiveConcurrency
  by_cases succeeded : station.queue.firstBatchSucceeded = true
  · rw [if_pos succeeded, sameSettings]
    refine ⟨Nat.le_refl _, ?_⟩
    intro undelivered
    obtain ⟨batch, member⟩ := reached.delivered notYet succeeded
    exact absurd member (undelivered batch)
  · rw [if_neg succeeded]
    exact ⟨positive, fun _ => Nat.le_refl _⟩

end Admitted

/-- Within a round a run never takes more batches than it decided to. -/
theorem Run.Move.capacity {run next : Run} {station after : Station} {label : Option Occurrence}
    (move : Run.Move run station label next after) :
    next.stage.capacity ≤ run.stage.capacity ∨
      next.stage.capacity = station.queue.effectiveConcurrency := by
  cases move with
  | retire => exact .inl (Nat.zero_le _)
  | approach => exact .inl (Nat.zero_le _)
  | turnAway => exact .inl (Nat.zero_le _)
  | takeFlag => exact .inl (Nat.zero_le _)
  | releaseFlag => exact .inl (Nat.zero_le _)
  | gather => exact .inr (Nat.zero_add _)
  | proceed _ _ _ _ _ _ room => exact .inl room
  | read _ _ _ _ _ _ _ _ room => exact .inl room
  | misread _ _ _ _ _ _ _ _ room => exact .inl room
  | settle _ _ _ _ _ _ _ _ room => exact .inl (Nat.le_of_lt room)

namespace RunTask

/-- The most batches that the task has in hand before its next round. -/
def capacity : RunTask → Nat
  | .active run => run.stage.capacity
  | _ => 0

theorem begin_capacity (queue : Queue) : (begin queue).capacity = 0 := by
  unfold begin Run.start
  cases queue.processor <;> rfl

theorem unsettled_length_le (task : RunTask) : task.unsettled.length ≤ task.capacity := by
  cases task with
  | active run => exact run.stage.unsettled_length_le
  | _ => exact Nat.le_refl _

theorem unsettled_eq_nil {task : RunTask} (outside : task.holdsFlag = false) :
    task.unsettled = [] := by
  cases task with
  | active run => exact RunStage.unsettled_eq_nil outside
  | _ => rfl

end RunTask

namespace Crew

/-- Every task keeps to the number of batches that the history admits. -/
def Restrained (settings : QueueSettings) (history : List Occurrence) (crew : Crew) : Prop :=
  ∀ task ∈ crew.tasks, Admitted settings history task.capacity

variable {settings : QueueSettings} {history : List Occurrence} {crew after : Crew}
  {deeds : List Deed} {deed : Deed}

/-- One task goes on, and the others stay. -/
theorem Restrained.replace {station next : Station} {owed : Nat} {earlier later : List RunTask}
    {task successor : RunTask}
    (restrained : Restrained settings history ⟨station, owed, earlier ++ task :: later⟩)
    (goesOn : Admitted settings history task.capacity →
      Admitted settings history successor.capacity) :
    Restrained settings history ⟨next, owed, earlier ++ successor :: later⟩ := by
  unfold Restrained at restrained ⊢
  rw [List.forall_mem_append, List.forall_mem_cons] at restrained ⊢
  exact ⟨restrained.1, goesOn restrained.2.1, restrained.2.2⟩

theorem Restrained.step (restrained : Restrained settings history crew)
    (admitted : Admitted settings history crew.station.queue.effectiveConcurrency)
    (step : Step crew deed after) :
    Restrained settings (history ++ deed.occurrence?.toList) after := by
  have extended : Restrained settings (history ++ deed.occurrence?.toList) crew :=
    fun task member => (restrained task member).append _
  have withScheduled {tasks : List RunTask} {more : List Occurrence}
      (others : ∀ task ∈ tasks, Admitted settings (history ++ more) task.capacity) :
      ∀ task ∈ tasks ++ [.scheduled], Admitted settings (history ++ more) task.capacity := by
    rw [List.forall_mem_append, List.forall_mem_singleton]
    exact ⟨others, .zero⟩
  cases step with
  | startOwed => exact withScheduled extended
  | call => exact withScheduled extended
  | @begin station owed earlier later =>
      refine extended.replace fun _ => ?_
      rw [RunTask.begin_capacity]
      exact .zero
  | @advance station after owed earlier later run next stepped =>
      refine extended.replace fun admittedBefore => ?_
      rcases (Run.step?_move stepped).capacity with fewer | decided
      · exact admittedBefore.of_le fewer
      · rw [RunTask.capacity, decided]
        exact admitted.append _
  | wake earlier later run =>
      refine extended.replace fun admittedBefore => ?_
      exact admittedBefore.of_le (Nat.le_of_eq run.wake_stage.2.2)
  | _ => exact extended

theorem Reached.restrained {first : Crew} (reached : Reached first deeds crew)
    (accounted : Station.Accounted [] first.station) (nobody : first.tasks = [])
    (made : first.station.queue.settings = settings) (positive : 0 < settings.concurrency)
    (notYet : first.station.queue.firstBatchSucceeded = false) :
    Restrained settings (Deed.history deeds) crew := by
  have nothing : first.unsettled = [] := by
    rw [unsettled, nobody]
    rfl
  induction reached with
  | start => simp [Restrained, nobody]
  | step reached step inductionHypothesis =>
      have recorded := reached.recorded accounted nothing
      rw [Deed.history_append_one]
      exact inductionHypothesis.step
        (.effectiveConcurrency recorded.reached made positive notYet) step

/-- Only the holder of the flag has batches in hand. -/
theorem unsettled_length_le {tasks : List RunTask} {count : Nat}
    (oneHolder : tasks.countP RunTask.holdsFlag ≤ 1)
    (bounded : ∀ task ∈ tasks, task.capacity ≤ count) :
    (tasks.flatMap RunTask.unsettled).length ≤ count := by
  induction tasks with
  | nil => exact Nat.zero_le _
  | cons task rest inductionHypothesis =>
      rw [List.forall_mem_cons] at bounded
      rw [List.flatMap_cons, List.length_append]
      by_cases holds : task.holdsFlag = true
      · rw [List.countP_cons_of_pos holds] at oneHolder
        have nobodyElse : ∀ other ∈ rest, other.unsettled = [] := by
          intro other member
          apply RunTask.unsettled_eq_nil
          have noHolder :=
            List.countP_eq_zero.mp (Nat.le_zero.mp (Nat.le_of_succ_le_succ oneHolder))
          simpa using noHolder other member
        rw [List.flatMap_eq_nil_iff.mpr nobodyElse]
        exact Nat.le_trans task.unsettled_length_le bounded.1
      · rw [List.countP_cons_of_neg holds] at oneHolder
        rw [RunTask.unsettled_eq_nil (by simpa using holds), List.length_nil, Nat.zero_add]
        exact inductionHypothesis oneHolder bounded.2

/-! ### The rules -/

/-- What holds of a queue and its tasks after a history. -/
structure FlightRules (settings : QueueSettings) (history : List Occurrence) (crew : Crew) :
    Prop where
  /-- At most one task is between taking the running flag and giving it back. -/
  oneHolder : crew.tasks.countP RunTask.holdsFlag ≤ 1
  /-- The tasks have the batches in hand that were read and have no outcome. -/
  inHand : crew.unsettled.Perm (outstanding history)
  /-- The identifiers under way are those of these batches, -/
  marked : ∀ id, id ∈ crew.station.queue.inFlight ↔
    ∃ batch ∈ outstanding history, id ∈ batch.map Event.id
  /-- each listed once, -/
  markedOnce : crew.station.queue.inFlight.Nodup
  /-- and none in two batches. -/
  apart : (outstanding history).Pairwise fun left right =>
    (left.map Event.id).Disjoint (right.map Event.id)
  idle : crew.station.isIdle = true ↔
    crew.station.store.isEmpty = true ∧ outstanding history = []
  sizes : ∀ batch ∈ outstanding history,
    1 ≤ batch.length ∧ batch.length ≤ settings.batchSize ∧ (batch.map Event.id).Nodup
  limit : (outstanding history).length ≤ settings.concurrency
  /-- Until a batch was delivered, there is at most one. -/
  ramp : (∀ batch, .settled batch none ∉ history) → (outstanding history).length ≤ 1

/-- A queue with accepted settings, over any stored events: the rules hold after every
interleaving of runs, pushes and flushes. -/
theorem flight_rules_hold_in_every_interleaving {observer : Observer} {queue : Queue}
    (made : Queue.make settings observer = .ok queue) {backlog : Backlog}
    (indexed : backlog.Indexed) (scene : Scene)
    (reached : Reached ⟨⟨queue, { backlog }, scene⟩, 0, []⟩ deeds crew) :
    FlightRules settings (Deed.history deeds) crew := by
  obtain ⟨rfl, -, positive⟩ := Queue.make_eq_ok made
  have opening : Station.Accounted [] ⟨{ settings, observer }, { backlog }, scene⟩ :=
    .of_nothing_inFlight rfl indexed rfl
  have recorded := reached.recorded opening rfl
  have accounted := recorded.reached.accounted opening
  have guarded : Guarded crew := reached.guarded rfl
  have oneHolder : crew.tasks.countP RunTask.holdsFlag ≤ 1 := by
    rw [guarded]
    exact Bool.toNat_le _
  have restrained : Restrained settings (Deed.history deeds) crew :=
    reached.restrained opening rfl rfl positive rfl
  have count := recorded.inHand.length_eq
  constructor
  · exact oneHolder
  · exact recorded.inHand
  · exact fun id => accounted.mem_inFlight
  · exact accounted.nodup
  · exact accounted.distinct.2
  · exact accounted.isIdle_iff
  · intro batch member
    obtain ⟨nonempty, small⟩ := accounted.sizes batch member
    rw [recorded.reached.settings_eq] at small
    exact ⟨List.length_pos_iff.mpr nonempty, small, accounted.distinct.1 batch member⟩
  · rw [← count]
    exact unsettled_length_le oneHolder fun task member => (restrained task member).limit
  · intro undelivered
    rw [← count]
    exact unsettled_length_le oneHolder fun task member => (restrained task member).ramp undelivered

/-- A batch is in hand when its event is flushed and pushed again, and a second task is turned
away: the new copy is stored and its identifier is still under way. -/
theorem flight_rules_survive_flush_and_repush :
    ∃ queue deeds crew, Queue.make {} .notes = .ok queue ∧
      Reached ⟨⟨queue, { backlog := {} }, {}⟩, 0, []⟩ deeds crew ∧
      outstanding (Deed.history deeds) = [[.make { type := "PressEvent" } "first" 0]] ∧
      crew.station.store.isEmpty = false ∧ crew.station.queue.inFlight = ["first"] ∧
      FlightRules {} (Deed.history deeds) crew := by
  let event : Event := .make { type := "PressEvent" } "first" 0
  let queue : Queue := { settings := {}, observer := .notes }
  have made : Queue.make {} .notes = .ok queue := rfl
  have bound : Reached ⟨⟨queue, { backlog := {} }, {}⟩, 0, []⟩ _ _ :=
    .step .start (.bind (.debug "sink"))
  have begun := ((bound.step (.push [event] rfl)).step .startOwed).step (.begin [] [])
  have claimed := (begun.step (.advance [] [] rfl)).step (.advance [] [] rfl)
  have yielded := (claimed.step (.advance [] [] rfl)).step (.advance [] [] rfl)
  have gathered := (yielded.step (.wake [] [] _)).step (.advance [] [] rfl)
  have read := gathered.step (.advance [] [] rfl)
  have pushedAgain := (read.step (.flush rfl)).step (.push [event] rfl)
  have begunAgain := (pushedAgain.step .startOwed).step (.begin [_] [])
  have turnedAway := (begunAgain.step (.advance [_] [] rfl)).step (.advance [_] [] rfl)
  exact ⟨queue, _, _, made, turnedAway, by decide +kernel, rfl, rfl,
    flight_rules_hold_in_every_interleaving made Backlog.indexed_empty {} turnedAway⟩

end Crew

end Telemetry
