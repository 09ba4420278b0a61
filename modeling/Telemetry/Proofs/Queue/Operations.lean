import Telemetry.Proofs.Backlog
import Telemetry.Queue.Basic

/-!
Contract: what each atomic operation of a station changes, and what it leaves.

Owns: one lemma for each operation and each part of the station that matters to
delivery: the stored events, the identifiers under way, the running flag, the
bound transport and the counters.

Does not own: what follows for sequences of operations.
-/

namespace Telemetry

theorem QueueSettings.positive_of_validate {settings : QueueSettings}
    (accepted : settings.validate = .ok ()) :
    0 < settings.batchSize ∧ 0 < settings.concurrency := by
  unfold validate at accepted
  split at accepted
  · cases accepted
  next someBatch =>
    split at accepted
    · cases accepted
    next someFlight => exact ⟨Nat.pos_of_ne_zero someBatch, Nat.pos_of_ne_zero someFlight⟩

/-- A queue is made idle, with settings that allow batches. -/
theorem Queue.make_eq_ok {settings : QueueSettings} {observer : Observer} {queue : Queue}
    (made : Queue.make settings observer = .ok queue) :
    queue = { settings, observer } ∧ 0 < settings.batchSize ∧ 0 < settings.concurrency := by
  unfold Queue.make at made
  split at made
  next accepted =>
    cases made
    exact ⟨rfl, QueueSettings.positive_of_validate accepted⟩
  · cases made

namespace Station

variable {station after : Station} {tasks : Bool} {events : List Event}

/-! ### Pushing and flushing -/

theorem push_queue {result : Except TrackerError Unit}
    (pushed : station.push tasks events = (result, after)) : after.queue = station.queue := by
  unfold push at pushed
  split at pushed
  · cases pushed
    rfl
  · cases pushed
    cases tasks <;> rfl

theorem push_of_faultless (faultless : station.store.Faultless)
    {result : Except TrackerError Unit} (pushed : station.push tasks events = (result, after)) :
    result = .ok () ∧
      after.store = { station.store with backlog := station.store.backlog.write events } := by
  unfold push at pushed
  rw [Store.write_of_faultless faultless] at pushed
  cases pushed
  cases tasks <;> exact ⟨rfl, rfl⟩

/-- A push that fails stores nothing. -/
theorem push_backlog_of_error {error : TrackerError}
    (pushed : station.push tasks events = (.error error, after)) :
    after.store.backlog = station.store.backlog := by
  unfold push Store.write at pushed
  generalize Store.takeFault station.store.faults.write = fault at pushed
  obtain ⟨_ | fault, later⟩ := fault
  · cases pushed
  · cases pushed
    rfl

theorem flush_queue {result : Except TrackerError Unit}
    (flushed : station.flush = (result, after)) : after.queue = station.queue := by
  unfold flush at flushed
  split at flushed <;> cases flushed <;> rfl

theorem flush_of_faultless (faultless : station.store.Faultless)
    {result : Except TrackerError Unit} (flushed : station.flush = (result, after)) :
    result = .ok () ∧ after.store = { station.store with backlog := {} } := by
  unfold flush at flushed
  rw [Store.clear_of_faultless faultless] at flushed
  cases flushed
  exact ⟨rfl, rfl⟩

theorem flush_backlog_of_ok (flushed : station.flush = (.ok (), after)) :
    after.store.backlog = {} := by
  unfold flush Store.clear at flushed
  generalize Store.takeFault station.store.faults.clear = fault at flushed
  obtain ⟨_ | fault, later⟩ := fault
  · cases flushed
    rfl
  · cases flushed

/-- A flush that fails drops nothing. -/
theorem flush_backlog_of_error {error : TrackerError}
    (flushed : station.flush = (.error error, after)) :
    after.store.backlog = station.store.backlog := by
  unfold flush Store.clear at flushed
  generalize Store.takeFault station.store.faults.clear = fault at flushed
  obtain ⟨_ | fault, later⟩ := fault
  · cases flushed
  · cases flushed
    rfl

/-! ### Reading a batch -/

/-- The events that the next batch takes when reading does not fail. -/
def nextBatch (station : Station) : List Event :=
  station.store.backlog.read station.queue.settings.batchSize
    fun event => event.id ∉ station.queue.inFlight

theorem readBatch_of_faultless (faultless : station.store.Faultless) :
    station.readBatch = (.ok station.nextBatch,
      { station with queue := { station.queue with
          inFlight := station.queue.inFlight ++ station.nextBatch.map Event.id } }) := by
  simp only [readBatch, Store.read_of_faultless faultless]
  rfl

theorem readBatch_queue_of_ok {batch : List Event}
    (read : station.readBatch = (.ok batch, after)) :
    after.queue =
      { station.queue with inFlight := station.queue.inFlight ++ batch.map Event.id } := by
  dsimp only [readBatch] at read
  split at read <;> cases read
  rfl

theorem readBatch_queue_of_error {error : StoreError}
    (failed : station.readBatch = (.error error, after)) : after.queue = station.queue := by
  dsimp only [readBatch] at failed
  split at failed <;> cases failed
  rfl

theorem nextBatch_sublist (station : Station) :
    station.nextBatch.Sublist station.store.backlog.events :=
  Backlog.read_sublist _ _ _

theorem nextBatch_length_le (station : Station) :
    station.nextBatch.length ≤ station.queue.settings.batchSize :=
  Backlog.read_length_le _ _ _

theorem not_inFlight_of_mem_nextBatch {event : Event} (member : event ∈ station.nextBatch) :
    event.id ∉ station.queue.inFlight := by
  simpa using Backlog.keep_of_mem_read member

/-! ### Settling a batch -/

variable (batch : List Event) (startedAt : Nat) (failure : Option TransportError)

theorem settle_store_of_faultless (faultless : station.store.Faultless) :
    (station.settle batch startedAt failure).store =
      match failure with
      | none =>
          { station.store with backlog := station.store.backlog.delete (batch.map Event.id) }
      | some _ => station.store := by
  cases failure with
  | none =>
      simp only [settle, settleDelivered, Store.delete_of_faultless faultless]
  | some error => rfl

/-- Settling changes four fields of a queue: the identifiers under way, the two counters
and, after a delivery, the mark that a batch has succeeded. -/
theorem settle_queue (station : Station) :
    (station.settle batch startedAt failure).queue =
      { station.queue with
        firstBatchSucceeded := station.queue.firstBatchSucceeded || failure.isNone
        inFlight := station.queue.inFlight.filter fun id => id ∉ batch.map Event.id
        deliveredBatches := station.queue.deliveredBatches + if failure.isNone then 1 else 0
        failedBatches := station.queue.failedBatches + if failure.isSome then 1 else 0 } := by
  cases failure with
  | none =>
      dsimp only [settle, settleDelivered]
      generalize station.store.delete (batch.map Event.id) = deleted
      obtain ⟨_ | _, store⟩ := deleted <;> simp [log]
  | some error => simp [settle, settleFailed]

/-- Settling takes no time, and asks nothing of the collectors. -/
theorem settle_scene (station : Station) :
    (station.settle batch startedAt failure).scene.now = station.scene.now ∧
      (station.settle batch startedAt failure).scene.collectors = station.scene.collectors := by
  cases failure with
  | none =>
      dsimp only [settle, settleDelivered]
      generalize station.store.delete (batch.map Event.id) = deleted
      obtain ⟨_ | _, store⟩ := deleted <;> exact ⟨Scene.observe_now .., Scene.observe_collectors ..⟩
  | some error => exact ⟨Scene.observe_now .., Scene.observe_collectors ..⟩

end Station

end Telemetry
