import Telemetry.Proofs.Queue.NoLoss
import Telemetry.Proofs.Queue.Solo

/-!
Contract: what the counters of a queue say of the events that were pushed.

Owns:
- that the counters count the outcomes of a history, whatever the interleaving;
- that delivered batches are not empty and not too long;
- `Station.Balanced`: without a flush, the events that are left and those that
  were delivered are together the events that were pushed, each once;
- that without a flush and without a delivery something is left.

The first two and the last ask nothing of the identifiers.
-/

namespace Telemetry

open Occurrence

theorem Occurrence.pushes_append_one (history : List Occurrence) (occurrence : Occurrence) :
    pushes (history ++ [occurrence]) = pushes history ++ occurrence.pushedEvents := by
  simp [pushes]

theorem Backlog.write_ne_nil {backlog : Backlog} (indexed : backlog.Indexed) {events : List Event}
    (something : backlog.events ≠ [] ∨ events ≠ []) : (backlog.write events).events ≠ [] := by
  induction events generalizing backlog with
  | nil => exact something.resolve_right fun differs => differs rfl
  | cons event events inductionHypothesis =>
      have stored : event ∈ (backlog.writeOne event).events := (mem_writeOne indexed).mpr (.inl rfl)
      exact inductionHypothesis (writeOne_indexed indexed event) (.inl (List.ne_nil_of_mem stored))

/-- Batches of one event up to some size: how many events there are, given how many batches. -/
theorem length_flatten_bounds {batches : List (List Event)} {size : Nat}
    (sizes : ∀ batch ∈ batches, batch ≠ [] ∧ batch.length ≤ size) :
    batches.length ≤ batches.flatten.length ∧
      batches.flatten.length ≤ batches.length * size := by
  induction batches with
  | nil => exact ⟨Nat.le_refl _, Nat.zero_le _⟩
  | cons batch batches inductionHypothesis =>
      obtain ⟨some, few⟩ := sizes batch List.mem_cons_self
      have rest := inductionHypothesis fun other member =>
        sizes other (List.mem_cons_of_mem _ member)
      have one := List.length_pos_iff.mpr some
      rw [List.flatten_cons, List.length_append, List.length_cons, Nat.add_one_mul]
      omega

namespace Station

variable {start station after : Station} {history : List Occurrence} {label : Option Occurrence}

/-! ### Counters -/

theorem Step.counters (step : Step history station label after) :
    after.queue.deliveredBatches =
        station.queue.deliveredBatches + (deliveries label.toList).length ∧
      after.queue.failedBatches =
        station.queue.failedBatches + (failures label.toList).length := by
  cases step with
  | push tasks events pushed =>
      rw [push_queue pushed]
      exact ⟨rfl, rfl⟩
  | flush flushed =>
      rw [flush_queue flushed]
      exact ⟨rfl, rfl⟩
  | read batch read =>
      rw [readBatch_queue_of_ok read]
      exact ⟨rfl, rfl⟩
  | settle batch startedAt failure unsettled =>
      rw [settle_queue]
      cases failure <;> exact ⟨rfl, rfl⟩
  | rearrange => exact ⟨rfl, rfl⟩

theorem Reached.counters (reached : Reached start history station) :
    station.queue.deliveredBatches =
        start.queue.deliveredBatches + (deliveries history).length ∧
      station.queue.failedBatches =
        start.queue.failedBatches + (failures history).length := by
  induction reached with
  | start => exact ⟨rfl, rfl⟩
  | step _ step inductionHypothesis =>
      rw [step.counters.1, step.counters.2, inductionHypothesis.1, inductionHypothesis.2,
        deliveries_append, failures_append, List.length_append, List.length_append]
      exact ⟨Nat.add_assoc _ _ _, Nat.add_assoc _ _ _⟩

/-- A delivered batch was read, so it is not empty and not too long. -/
theorem Reached.delivered_sizes (reached : Reached start history station)
    (accounted : Accounted [] start) :
    ∀ batch ∈ deliveries history,
      batch ≠ [] ∧ batch.length ≤ start.queue.settings.batchSize := by
  induction reached with
  | start => exact List.forall_mem_nil _
  | step reached step inductionHypothesis =>
      intro batch member
      rw [deliveries_append, List.mem_append] at member
      refine member.elim (inductionHypothesis batch) fun new => ?_
      cases step with
      | settle other startedAt failure unsettled =>
          cases failure with
          | none =>
              obtain rfl : batch = other := by
                simpa [deliveries, settlements, settlement?] using new
              rw [← reached.settings_eq]
              exact (reached.accounted accounted).sizes batch unsettled
          | some error => simp [deliveries, settlements, settlement?] at new
      | _ => simp [deliveries, settlements, settlement?] at new

/-! ### Balance -/

/-- What is under way is left to deliver, and what is left and what was delivered make up what
was pushed. -/
structure Balanced (history : List Occurrence) : Prop where
  inHand : ∀ batch ∈ outstanding history, ∀ event ∈ batch, event ∈ pending history
  balance : (pending history ++ (deliveries history).flatten).Perm (pushes history)

/-- Events without repetition, split into some of them and the others. -/
private theorem perm_append_others {events batch : List Event} (distinct : events.Nodup)
    (batchDistinct : batch.Nodup) (inside : ∀ event ∈ batch, event ∈ events) :
    events.Perm (batch ++ events.filter fun event => event ∉ batch) := by
  have apart : (batch ++ events.filter fun event => event ∉ batch).Nodup := by
    refine List.nodup_append.mpr ⟨batchDistinct, distinct.filter _, ?_⟩
    rintro event member _ other rfl
    simp [member] at other
  rw [List.perm_ext_iff_of_nodup distinct apart]
  intro event
  by_cases member : event ∈ batch
  · simp [member, inside event member]
  · simp [member]

theorem Balanced.settle {batch : List Event} (balanced : Balanced history)
    (accounted : Accounted history station) (distinct : (pending history).Nodup)
    (unsettled : batch ∈ outstanding history) :
    Balanced (history ++ [.settled batch none]) := by
  have batchDistinct : batch.Nodup := .of_map Event.id (accounted.distinct.1 batch unsettled)
  have split := perm_append_others distinct batchDistinct (balanced.inHand batch unsettled)
  constructor
  · intro other member event inOther
    rw [outstanding_append_one, track] at member
    have stillPending := balanced.inHand other (List.mem_of_mem_erase member) event inOther
    have apart : event ∉ batch := by
      intro inBatch
      exact accounted.apart_of_mem_erase unsettled member (List.mem_map_of_mem inBatch)
        (List.mem_map_of_mem inOther)
    rw [pending_append]
    exact List.mem_filter.mpr ⟨stillPending, by simpa using apart⟩
  · have left : pending (history ++ [.settled batch none]) =
        (pending history).filter fun event => event ∉ batch := by
      rw [pending_append]
      rfl
    have same : pushes (history ++ [.settled batch none]) = pushes history :=
      (pushes_append_one history _).trans (List.append_nil _)
    have delivered : deliveries (history ++ [.settled batch none]) =
        deliveries history ++ [batch] := deliveries_append _ _
    rw [left, same, delivered, List.flatten_append, List.flatten_singleton]
    refine .trans ?_ balanced.balance
    rw [← List.append_assoc]
    refine List.perm_append_comm.trans ?_
    rw [← List.append_assoc]
    exact (split.symm.append_right _)

theorem Balanced.push (balanced : Balanced history) (events : List Event) :
    Balanced (history ++ [.pushed events]) := by
  have left : pending (history ++ [.pushed events]) = pending history ++ events := by
    rw [pending_append]
    rfl
  have more : pushes (history ++ [.pushed events]) = pushes history ++ events :=
    pushes_append_one history _
  have delivered : deliveries (history ++ [.pushed events]) = deliveries history :=
    (@unchanged_of_no_delivery [] history (some (.pushed events)) (by simp)).1
  constructor
  · intro batch member event inBatch
    rw [outstanding_append_one] at member
    rw [left]
    exact List.mem_append_left _ (balanced.inHand batch member event inBatch)
  · rw [left, more, delivered]
    refine .trans ?_ (balanced.balance.append_right events)
    rw [List.append_assoc, List.append_assoc]
    exact List.perm_append_comm.append_left _

/-- Reading a batch and failing with one change neither side of the balance. -/
theorem Balanced.quiet {occurrence : Occurrence} (balanced : Balanced history)
    (left : keep (pending history) occurrence = pending history)
    (nothing : occurrence.pushedEvents = [])
    (undelivered : ∀ batch, some occurrence ≠ some (.settled batch none))
    (inHand : ∀ batch ∈ outstanding (history ++ [occurrence]), ∀ event ∈ batch,
      event ∈ pending history) : Balanced (history ++ [occurrence]) := by
  have leftLater : pending (history ++ [occurrence]) = pending history := by
    rw [pending_append]
    exact left
  have same : pushes (history ++ [occurrence]) = pushes history := by
    rw [pushes_append_one, nothing, List.append_nil]
  have delivered : deliveries (history ++ [occurrence]) = deliveries history :=
    (@unchanged_of_no_delivery [] history (some occurrence) undelivered).1
  constructor
  · rw [leftLater]
    exact inHand
  · rw [leftLater, same, delivered]
    exact balanced.balance

variable {settings : QueueSettings} {observer : Observer} {queue : Queue} {scene : Scene}

/-- Through every history without a flush that pushes no identifier twice, nothing is lost and
nothing is counted twice. -/
theorem Reached.balanced (made : Queue.make settings observer = .ok queue)
    (reached : Reached ⟨queue, {}, scene⟩ history station)
    (distinct : ((pushes history).map Event.id).Nodup) (unflushed : .flushed ∉ history) :
    Balanced history := by
  induction reached with
  | start => exact ⟨by simp [outstanding], .refl _⟩
  | @step history station after label reached step inductionHypothesis =>
      have distinctBefore := distinct_of_append distinct
      rw [List.mem_append, not_or] at unflushed
      have balanced := inductionHypothesis distinctBefore unflushed.1
      have accounted := reached.accounted (.of_make made scene)
      have faithful := reached.faithful made distinctBefore
      have leftDistinct : (pending history).Nodup :=
        .of_map Event.id (distinctBefore.sublist ((pending_sublist_pushes history).map Event.id))
      cases step with
      | push tasks events pushed => exact balanced.push events
      | flush flushed => simp at unflushed
      | read batch read =>
          rw [readBatch_of_faultless accounted.faultless] at read
          cases read
          refine balanced.quiet rfl rfl (by simp) fun batch member event inBatch => ?_
          rcases mem_outstanding_read member with old | ⟨rfl, -⟩
          · exact balanced.inHand batch old event inBatch
          · rw [← faithful.stored]
            exact (nextBatch_sublist station).subset inBatch
      | settle batch startedAt failure unsettled =>
          cases failure with
          | none => exact balanced.settle accounted leftDistinct unsettled
          | some error =>
              exact balanced.quiet rfl rfl (by simp) fun other member =>
                balanced.inHand other (mem_outstanding_settled member)
      | rearrange =>
          rw [Option.toList_none, List.append_nil]
          exact balanced

/-- What was pushed is stored as long as nothing was flushed or delivered. -/
theorem Reached.stored_of_undelivered (reached : Reached start history station)
    (accounted : Accounted [] start) (unflushed : .flushed ∉ history)
    (undelivered : deliveries history = []) (pushed : pushes history ≠ []) :
    station.store.backlog.events ≠ [] := by
  induction reached with
  | start => exact absurd rfl pushed
  | @step history station after label reached step inductionHypothesis =>
      rw [List.mem_append, not_or] at unflushed
      rw [deliveries_append, List.append_eq_nil_iff] at undelivered
      have books := reached.accounted accounted
      have before := inductionHypothesis unflushed.1 undelivered.1
      cases step with
      | push tasks events stored =>
          rw [(push_of_faultless books.faultless stored).2]
          refine Backlog.write_ne_nil books.indexed ?_
          rw [Option.toList_some, pushes_append_one] at pushed
          by_cases earlier : pushes history = []
          · rw [earlier] at pushed
            exact .inr pushed
          · exact .inl (before earlier)
      | flush flushed => simp at unflushed
      | read batch read =>
          rw [readBatch_of_faultless books.faultless] at read
          cases read
          exact before (by simpa [pushes_append_one, pushedEvents] using pushed)
      | settle batch startedAt failure unsettled =>
          rw [settle_store_of_faultless batch startedAt failure books.faultless]
          cases failure with
          | none => simp [deliveries, settlements, settlement?] at undelivered
          | some error => exact before (by simpa [pushes_append_one, pushedEvents] using pushed)
      | rearrange => exact before (by simpa using pushed)

end Station

end Telemetry
