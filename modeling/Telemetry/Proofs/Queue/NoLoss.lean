import Telemetry.Proofs.Queue.History

/-!
Contract: delivery of events whose identifiers are pushed only once.

Owns:
- `Occurrence.pending`, the events that a history leaves to deliver, event by
  event and without identifiers;
- that the stored events are the pending ones after every history;
- `no_loss_and_no_repeated_success`: nothing is lost before it is delivered,
  nothing is read again after it was delivered or flushed, and batches keep the
  order of the pushes.

Does not own: identifiers that are pushed again; see `Queue.Replacement`.
-/

namespace Telemetry

namespace Occurrence

/-- All events that were pushed, in order. -/
def pushes (history : List Occurrence) : List Event :=
  history.flatMap pushedEvents

/-- How the events that are left to deliver change: a flush drops them all, a delivered
batch drops its own. -/
def keep (events : List Event) : Occurrence → List Event
  | .pushed added => events ++ added
  | .flushed => []
  | .read _ => events
  | .settled batch none => events.filter fun event => event ∉ batch
  | .settled _ (some _) => events

/-- The events that a history leaves to deliver. -/
def pending (history : List Occurrence) : List Event :=
  history.foldl keep []

theorem pushes_append (left right : List Occurrence) :
    pushes (left ++ right) = pushes left ++ pushes right :=
  List.flatMap_append

theorem pending_append (left right : List Occurrence) :
    pending (left ++ right) = right.foldl keep (pending left) :=
  List.foldl_append

theorem keep_sublist (events : List Event) (occurrence : Occurrence) :
    (keep events occurrence).Sublist (events ++ occurrence.pushedEvents) := by
  match occurrence with
  | .pushed added => exact List.Sublist.refl _
  | .flushed => exact List.nil_sublist _
  | .read _ => exact List.sublist_append_left _ _
  | .settled batch none => exact List.filter_sublist.trans (List.sublist_append_left _ _)
  | .settled _ (some _) => exact List.sublist_append_left _ _

theorem foldl_keep_sublist (events : List Event) (after : List Occurrence) :
    (after.foldl keep events).Sublist (events ++ pushes after) := by
  induction after generalizing events with
  | nil => exact List.sublist_append_left _ _
  | cons first rest inductionHypothesis =>
      rw [List.foldl_cons, pushes, List.flatMap_cons, ← List.append_assoc]
      exact (inductionHypothesis _).trans ((keep_sublist events first).append_right _)

/-- What is left to deliver was pushed, in the same order. -/
theorem pending_sublist_pushes (history : List Occurrence) :
    (pending history).Sublist (pushes history) :=
  foldl_keep_sublist [] history

/-- An event stays until it is flushed or delivered. -/
theorem mem_foldl_keep {event : Event} {after : List Occurrence} {events : List Event}
    (member : event ∈ events) (notFlushed : Occurrence.flushed ∉ after)
    (notDelivered : ∀ batch, Occurrence.settled batch none ∈ after → event ∉ batch) :
    event ∈ after.foldl keep events := by
  induction after generalizing events with
  | nil => exact member
  | cons first rest inductionHypothesis =>
      rw [List.mem_cons, not_or] at notFlushed
      rw [List.foldl_cons]
      refine inductionHypothesis ?_ notFlushed.2 fun batch settled =>
        notDelivered batch (List.mem_cons_of_mem _ settled)
      match first with
      | .pushed added => exact List.mem_append_left _ member
      | .flushed => exact absurd rfl notFlushed.1
      | .read _ => exact member
      | .settled batch none =>
          have absent := notDelivered batch List.mem_cons_self
          exact List.mem_filter.mpr ⟨member, by simpa using absent⟩
      | .settled _ (some _) => exact member

/-- An event that is gone comes back only by a push. -/
theorem not_mem_foldl_keep {event : Event} {after : List Occurrence} {events : List Event}
    (absent : event ∉ events) (notPushed : event ∉ pushes after) :
    event ∉ after.foldl keep events := by
  intro member
  rcases List.mem_append.mp ((foldl_keep_sublist events after).subset member) with old | new
  · exact absent old
  · exact notPushed new

end Occurrence

namespace Station

open Occurrence

/-- The store holds what the history leaves to deliver, and batches hold what was pushed. -/
structure Faithful (history : List Occurrence) (station : Station) : Prop where
  stored : station.store.backlog.events = pending history
  batches : ∀ batch ∈ outstanding history, ∀ event ∈ batch, event ∈ pushes history

variable {history : List Occurrence} {station : Station}

/-- Where identifiers are pushed once, deleting by identifier deletes events. -/
private theorem delete_eq_keep {batch : List Event}
    (distinct : ((pushes history).map Event.id).Nodup)
    (pushed : ∀ event ∈ batch, event ∈ pushes history) :
    ((pending history).filter fun event => event.id ∉ batch.map Event.id) =
      (pending history).filter fun event => event ∉ batch := by
  apply List.filter_congr
  intro event member
  have eventPushed := (pending_sublist_pushes history).subset member
  rw [decide_eq_decide, not_iff_not, List.mem_map]
  constructor
  · rintro ⟨other, otherMember, sameId⟩
    have same := List.inj_on_of_nodup_map distinct (pushed other otherMember) eventPushed sameId
    exact same ▸ otherMember
  · intro inBatch
    exact ⟨event, inBatch, rfl⟩

theorem Faithful.step (faithful : Faithful history station) (accounted : Accounted history station)
    {label : Option Occurrence} {after : Station} (step : Step history station label after)
    (distinct : ((pushes (history ++ label.toList)).map Event.id).Nodup) :
    Faithful (history ++ label.toList) after := by
  have laterPushed : ∀ event ∈ pushes history, event ∈ pushes (history ++ label.toList) := by
    intro event member
    rw [pushes_append]
    exact List.mem_append_left _ member
  cases step with
  | push tasks events pushed =>
      obtain ⟨-, storeEq⟩ := push_of_faultless accounted.faultless pushed
      constructor
      · have fresh : ((station.store.backlog.events ++ events).map Event.id).Nodup := by
          rw [faithful.stored]
          refine distinct.sublist (List.Sublist.map _ ?_)
          rw [pushes_append]
          simpa [pushes, pushedEvents] using (pending_sublist_pushes history).append_right events
        rw [storeEq, Backlog.write_events_of_fresh accounted.indexed fresh, faithful.stored,
          pending_append]
        rfl
      · intro batch member event inBatch
        rw [Option.toList_some, outstanding_append_one] at member
        exact laterPushed event (faithful.batches batch member event inBatch)
  | flush flushed =>
      obtain ⟨-, storeEq⟩ := flush_of_faultless accounted.faultless flushed
      constructor
      · rw [storeEq, pending_append]
        rfl
      · intro batch member event inBatch
        rw [Option.toList_some, outstanding_append_one] at member
        exact laterPushed event (faithful.batches batch member event inBatch)
  | read batch read =>
      rw [readBatch_of_faultless accounted.faultless] at read
      cases read
      constructor
      · rw [pending_append]
        exact faithful.stored
      · intro batch member event inBatch
        apply laterPushed
        rcases mem_outstanding_read member with old | ⟨rfl, -⟩
        · exact faithful.batches batch old event inBatch
        · have stored := (nextBatch_sublist station).subset inBatch
          rw [faithful.stored] at stored
          exact (pending_sublist_pushes history).subset stored
  | settle batch startedAt failure unsettled =>
      have storeEq := settle_store_of_faultless batch startedAt failure accounted.faultless
      constructor
      · rw [storeEq, pending_append]
        cases failure with
        | none =>
            have distinctBefore : ((pushes history).map Event.id).Nodup := by
              refine distinct.sublist (List.Sublist.map _ ?_)
              rw [pushes_append]
              exact List.sublist_append_left _ _
            rw [Backlog.delete, faithful.stored]
            exact delete_eq_keep distinctBefore (faithful.batches batch unsettled)
        | some error => exact faithful.stored
      · intro other member event inBatch
        have unsettledBefore := mem_outstanding_settled member
        exact laterPushed event (faithful.batches other unsettledBefore event inBatch)
  | rearrange processor running lastRound scene =>
      rw [Option.toList_none, List.append_nil]
      exact ⟨faithful.stored, faithful.batches⟩

section Made

variable {settings : QueueSettings} {observer : Observer} {queue : Queue} {scene : Scene}
  {before after : List Occurrence} {batch : List Event}

theorem distinct_of_append (distinct : ((pushes (before ++ after)).map Event.id).Nodup) :
    ((pushes before).map Event.id).Nodup := by
  rw [pushes_append, List.map_append] at distinct
  exact distinct.of_append_left

/-- Through every history that pushes no identifier twice, the store holds what is left to
deliver. -/
theorem Reached.faithful (made : Queue.make settings observer = .ok queue)
    (reached : Reached ⟨queue, {}, scene⟩ history station)
    (distinct : ((pushes history).map Event.id).Nodup) : Faithful history station := by
  induction reached with
  | start => exact ⟨rfl, by simp [outstanding]⟩
  | step reached step inductionHypothesis =>
      have faithful := inductionHypothesis (distinct_of_append distinct)
      exact faithful.step (reached.accounted (.of_make made scene)) step distinct

theorem Reached.read_sublist_pending (made : Queue.make settings observer = .ok queue)
    (reached : Reached ⟨queue, {}, scene⟩ (before ++ .read batch :: after) station)
    (distinct : ((pushes (before ++ .read batch :: after)).map Event.id).Nodup) :
    batch.Sublist (pending before) := by
  obtain ⟨earlier, later, earlierReached, step⟩ := reached.occurred
  have faithful := earlierReached.faithful made (distinct_of_append distinct)
  have accounted := earlierReached.accounted (.of_make made scene)
  cases step with
  | read batch read =>
      rw [readBatch_of_faultless accounted.faultless] at read
      cases read
      rw [← faithful.stored]
      exact nextBatch_sublist earlier

/-- What has left the pending events by a flush or a delivery is in no later batch. -/
theorem Reached.not_read_again (made : Queue.make settings observer = .ok queue)
    {gone : Occurrence} {event : Event}
    (reached : Reached ⟨queue, {}, scene⟩ (before ++ gone :: after) station)
    (distinct : ((pushes (before ++ gone :: after)).map Event.id).Nodup)
    (pushed : event ∈ pushes before) (absent : event ∉ keep (pending before) gone)
    (read : Occurrence.read batch ∈ after) : event ∉ batch := by
  obtain ⟨between, rest, rfl⟩ := List.append_of_mem read
  have regroup : before ++ gone :: (between ++ .read batch :: rest) =
      (before ++ gone :: between) ++ .read batch :: rest := by simp
  rw [regroup] at reached distinct
  have fromPending := reached.read_sublist_pending made distinct
  have notPushedAgain : event ∉ pushes between := by
    intro again
    have distinctBetween := distinct_of_append distinct
    rw [pushes_append, pushes, pushes, List.flatMap_cons, List.map_append, List.map_append,
      List.nodup_append] at distinctBetween
    exact distinctBetween.2.2 _ (List.mem_map_of_mem pushed) _
      (List.mem_append_right _ (List.mem_map_of_mem again)) rfl
  intro member
  have stillPending := fromPending.subset member
  rw [pending_append] at stillPending
  exact not_mem_foldl_keep absent notPushedAgain stillPending

/-- Events are delivered once: none is lost, and none is read again when it is done with. -/
structure DeliveredOnce (history : List Occurrence) (station : Station) : Prop where
  /-- A pushed event is stored until it is flushed or delivered. -/
  kept : ∀ before events after event, history = before ++ .pushed events :: after →
    event ∈ events → Occurrence.flushed ∉ after →
      event ∈ station.store.backlog.events ∨
        ∃ batch, event ∈ batch ∧ Occurrence.settled batch none ∈ after
  /-- An event of a delivered batch is in no later batch. -/
  notAfterDelivery : ∀ before batch after event,
    history = before ++ .settled batch none :: after → event ∈ batch →
      ∀ later, Occurrence.read later ∈ after → event ∉ later
  /-- A flushed event is in no later batch, whatever becomes of the batches under way. -/
  notAfterFlush : ∀ before after event, history = before ++ .flushed :: after →
    event ∈ pushes before → ∀ later, Occurrence.read later ∈ after → event ∉ later
  /-- A batch consists of pushed events in the order of the pushes. -/
  inOrder : ∀ before batch after, history = before ++ .read batch :: after →
    batch.Sublist (pushes before)

/-- Whatever the interleaving of pushes, flushes, batches that are read and outcomes, each
event is delivered once. -/
theorem no_loss_and_no_repeated_success (made : Queue.make settings observer = .ok queue)
    (reached : Reached ⟨queue, {}, scene⟩ history station)
    (distinct : ((pushes history).map Event.id).Nodup) : DeliveredOnce history station := by
  constructor
  · intro before events after event split pushed notFlushed
    have stored := (reached.faithful made distinct).stored
    by_cases delivered : ∃ batch, event ∈ batch ∧ Occurrence.settled batch none ∈ after
    · exact .inr delivered
    · left
      rw [stored, split, pending_append, List.foldl_cons]
      apply mem_foldl_keep (List.mem_append_right _ pushed) notFlushed
      intro batch settled member
      exact delivered ⟨batch, member, settled⟩
  · rintro before batch after event rfl member later read
    obtain ⟨earlier, _, earlierReached, step⟩ := reached.occurred
    have faithful := earlierReached.faithful made (distinct_of_append distinct)
    cases step with
    | settle batch startedAt failure unsettled =>
        have pushed := faithful.batches batch unsettled event member
        have absent : event ∉ keep (pending before) (.settled batch none) := by
          simp [keep, member]
        exact reached.not_read_again made distinct pushed absent read
  · rintro before after event rfl pushed later read
    exact reached.not_read_again made distinct pushed List.not_mem_nil read
  · rintro before batch after rfl
    exact (reached.read_sublist_pending made distinct).trans (pending_sublist_pushes before)

/-- A batch is flushed while it is under way and fails later; a second one is delivered. -/
theorem delivered_once_across_a_flush :
    let first : Event := .make { type := "PressEvent" } "first" 0
    let second : Event := .make { type := "PressEvent" } "second" 1
    let history : List Occurrence := [.pushed [first], .read [first], .flushed,
      .pushed [second], .settled [first] (some (.retryable "collector" "busy")),
      .read [second], .settled [second] none]
    ∃ queue station, Queue.make {} .notes = .ok queue ∧
      Reached ⟨queue, {}, {}⟩ history station ∧ ((pushes history).map Event.id).Nodup ∧
        DeliveredOnce history station := by
  intro first second history
  have made : Queue.make {} .notes = .ok { settings := {}, observer := .notes } := rfl
  have pushedFirst : Reached ⟨{ settings := {}, observer := .notes }, {}, {}⟩
      [.pushed [first]] _ := .step .start (.push true [first] rfl)
  have readFirst := pushedFirst.step (.read [first] rfl)
  have flushed := readFirst.step (.flush rfl)
  have pushedSecond := flushed.step (.push true [second] rfl)
  have failed := pushedSecond.step
    (.settle [first] 0 (some (.retryable "collector" "busy")) (by decide))
  have readSecond := failed.step (.read [second] rfl)
  have delivered := readSecond.step (.settle [second] 0 none (by decide))
  have distinct : ((pushes history).map Event.id).Nodup := by decide
  exact ⟨_, _, made, delivered, distinct,
    no_loss_and_no_repeated_success made delivered distinct⟩

end Made

end Station

end Telemetry
