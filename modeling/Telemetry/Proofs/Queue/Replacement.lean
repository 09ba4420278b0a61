import Telemetry.Proofs.Queue.History

/-!
Contract: what becomes of an event whose identifier may have been pushed before.

Owns:
- `Station.Followed`, the fate of a pushed event as long as its identifier is
  neither pushed again nor flushed;
- `replacement_survives_iff_no_stale_delivery`: such an event is stored or
  delivered unless a batch that was under way at the push, with an older event
  of the same identifier, is delivered afterwards;
- `replacement_lost_to_stale_delivery`, the history in which that happens.

Events leave the store by identifier. A batch that was read before an event was
replaced therefore takes the replacement with it.
-/

namespace Telemetry

/-- Neither a flush nor a push of the identifier. -/
def Occurrence.Leaves (id : String) (occurrence : Occurrence) : Prop :=
  occurrence ≠ .flushed ∧ ∀ written ∈ occurrence.pushedEvents, written.id ≠ id

namespace Station

open Occurrence

/-- Where an event is, `since` it was pushed: it still waits, or one batch with its identifier
was delivered and took it along. -/
inductive Fate (event : Event) (since history : List Occurrence) (station : Station) : Prop where
  | waiting
      (stored : event ∈ station.store.backlog.events)
      (undelivered : ∀ batch, settled batch none ∈ since → event.id ∉ batch.map Event.id)
  | gone (batch : List Event)
      (holds : event.id ∈ batch.map Event.id)
      (delivered : settled batch none ∈ since)
      (only : ∀ other, settled other none ∈ since → event.id ∈ other.map Event.id →
        other = batch)
      (notStored : ∀ stored ∈ station.store.backlog.events, stored.id ≠ event.id)
      (notUnderWay : ∀ other ∈ outstanding history, event.id ∉ other.map Event.id)

/-- The fate of an event, and where batches with its identifier come from: they hold the event
itself or were read `before` it was pushed. -/
structure Followed (event : Event) (before since history : List Occurrence) (station : Station) :
    Prop where
  fate : Fate event since history station
  underWay : ∀ batch ∈ outstanding history, event.id ∈ batch.map Event.id →
    event ∈ batch ∨ batch ∈ outstanding before
  origin : ∀ batch, settled batch none ∈ since → event.id ∈ batch.map Event.id →
    event ∈ batch ∨ batch ∈ outstanding before

namespace Followed

variable {event : Event} {before since history : List Occurrence} {station after : Station}

/-- The last event of a push with its identifier waits. -/
theorem of_push (accounted : Accounted before station) {tasks : Bool} {front back : List Event}
    (pushed : station.push tasks (front ++ event :: back) = (.ok (), after))
    (last : ∀ later ∈ back, later.id ≠ event.id) :
    Followed event before [] (before ++ [.pushed (front ++ event :: back)]) after := by
  obtain ⟨-, storeEq⟩ := push_of_faultless accounted.faultless pushed
  refine ⟨.waiting ?_ (by simp), ?_, by simp⟩
  · rw [storeEq]
    exact Backlog.mem_write_of_last accounted.indexed front last
  · intro batch member _
    rw [outstanding_append_one] at member
    exact .inr member

theorem push (followed : Followed event before since history station)
    (accounted : Accounted history station) {tasks : Bool} {events : List Event}
    (pushed : station.push tasks events = (.ok (), after))
    (differs : ∀ written ∈ events, written.id ≠ event.id) :
    Followed event before (since ++ [.pushed events]) (history ++ [.pushed events]) after := by
  obtain ⟨-, storeEq⟩ := push_of_faultless accounted.faultless pushed
  refine ⟨?_, ?_, ?_⟩
  · cases followed.fate with
    | waiting stored undelivered =>
        refine .waiting ?_ (by simpa using undelivered)
        rw [storeEq]
        exact (Backlog.mem_write_of_id_ne accounted.indexed differs).mpr stored
    | gone batch holds delivered only notStored notUnderWay =>
        refine .gone batch holds (by simpa using delivered) (by simpa using only) ?_
          (by simpa [track] using notUnderWay)
        intro stored member sameId
        rw [storeEq] at member
        have old := (Backlog.mem_write_of_id_ne accounted.indexed (sameId ▸ differs)).mp member
        exact notStored stored old sameId
  · simpa [track] using followed.underWay
  · simpa using followed.origin

/-- A batch that is read since has the event itself, if any with its identifier. -/
theorem read (followed : Followed event before since history station)
    (accounted : Accounted history station) {batch : List Event}
    (read : station.readBatch = (.ok batch, after)) :
    Followed event before (since ++ [.read batch]) (history ++ [.read batch]) after := by
  rw [readBatch_of_faultless accounted.faultless] at read
  cases read
  have fromStore : ∀ {id}, id ∈ station.nextBatch.map Event.id →
      ∃ stored ∈ station.nextBatch, stored ∈ station.store.backlog.events ∧ stored.id = id := by
    intro id member
    obtain ⟨stored, inBatch, sameId⟩ := List.mem_map.mp member
    exact ⟨stored, inBatch, (nextBatch_sublist station).subset inBatch, sameId⟩
  refine ⟨?_, ?_, ?_⟩
  · cases followed.fate with
    | waiting stored undelivered => exact .waiting stored (by simpa using undelivered)
    | gone batch holds delivered only notStored notUnderWay =>
        refine .gone batch holds (by simpa using delivered) (by simpa using only) notStored ?_
        intro other member
        rcases mem_outstanding_read member with old | ⟨rfl, -⟩
        · exact notUnderWay other old
        · intro inBatch
          obtain ⟨stored, -, inStore, sameId⟩ := fromStore inBatch
          exact notStored stored inStore sameId
  · intro batch member inBatch
    rcases mem_outstanding_read member with old | ⟨rfl, -⟩
    · exact followed.underWay batch old inBatch
    · obtain ⟨stored, storedInBatch, inStore, sameId⟩ := fromStore inBatch
      cases followed.fate with
      | waiting eventStored _ =>
          exact .inl (accounted.indexed.eq_of_id_eq inStore eventStored sameId ▸ storedInBatch)
      | gone _ _ _ _ notStored _ => exact absurd sameId (notStored stored inStore)
  · simpa using followed.origin

/-- The first delivered batch with the identifier takes the event along, and no batch with
the identifier is left. -/
theorem deliver (followed : Followed event before since history station)
    (accounted : Accounted history station) {batch : List Event}
    (unsettled : batch ∈ outstanding history) (startedAt : Nat) :
    Fate event (since ++ [.settled batch none]) (history ++ [.settled batch none])
      (station.settle batch startedAt none) := by
  have storeEq := settle_store_of_faultless batch startedAt none accounted.faultless
  by_cases holds : event.id ∈ batch.map Event.id
  · cases followed.fate with
    | waiting stored undelivered =>
        refine .gone batch holds (by simp) ?_ ?_ ?_
        · intro other delivered inOther
          rcases List.mem_append.mp delivered with earlier | now
          · exact absurd inOther (undelivered other earlier)
          · simpa using now
        · intro stored member sameId
          rw [storeEq, Backlog.mem_delete] at member
          exact member.2 (sameId ▸ holds)
        · intro other member
          rw [outstanding_append_one] at member
          exact accounted.apart_of_mem_erase unsettled member holds
    | gone _ _ _ _ _ notUnderWay => exact absurd holds (notUnderWay batch unsettled)
  · have stillLeft : ∀ other, settled other none ∈ since ++ [.settled batch none] →
        event.id ∈ other.map Event.id → settled other none ∈ since := by
      intro other delivered inOther
      rcases List.mem_append.mp delivered with earlier | now
      · exact earlier
      · obtain rfl : other = batch := by simpa using now
        exact absurd inOther holds
    cases followed.fate with
    | waiting stored undelivered =>
        refine .waiting ?_ ?_
        · rw [storeEq, Backlog.mem_delete]
          exact ⟨stored, holds⟩
        · intro other delivered inOther
          exact undelivered other (stillLeft other delivered inOther) inOther
    | gone taken holdsTaken delivered only notStored notUnderWay =>
        refine .gone taken holdsTaken (List.mem_append_left _ delivered) ?_ ?_ ?_
        · intro other otherDelivered inOther
          exact only other (stillLeft other otherDelivered inOther) inOther
        · intro stored member
          rw [storeEq, Backlog.mem_delete] at member
          exact notStored stored member.1
        · intro other member
          exact notUnderWay other (mem_outstanding_settled member)

theorem settle (followed : Followed event before since history station)
    (accounted : Accounted history station) {batch : List Event}
    (unsettled : batch ∈ outstanding history) (startedAt : Nat)
    (failure : Option TransportError) :
    Followed event before (since ++ [.settled batch failure])
      (history ++ [.settled batch failure]) (station.settle batch startedAt failure) := by
  refine ⟨?_, fun other member => followed.underWay other (mem_outstanding_settled member), ?_⟩
  · cases failure with
    | none => exact followed.deliver accounted unsettled startedAt
    | some error =>
        have storeEq := settle_store_of_faultless batch startedAt (some error) accounted.faultless
        cases followed.fate with
        | waiting stored undelivered =>
            exact .waiting (storeEq ▸ stored) (by simpa using undelivered)
        | gone taken holds delivered only notStored notUnderWay =>
            exact .gone taken holds (by simpa using delivered) (by simpa using only)
              (storeEq ▸ notStored) fun other member =>
                notUnderWay other (mem_outstanding_settled member)
  · intro other delivered inOther
    rcases List.mem_append.mp delivered with earlier | now
    · exact followed.origin other earlier inOther
    · obtain ⟨rfl, -⟩ : other = batch ∧ none = failure := by simpa using now
      exact followed.underWay other unsettled inOther

theorem step (followed : Followed event before since history station)
    (accounted : Accounted history station) {label : Option Occurrence}
    (step : Step history station label after)
    (left : ∀ occurrence ∈ label, occurrence.Leaves event.id) :
    Followed event before (since ++ label.toList) (history ++ label.toList) after := by
  cases step with
  | push tasks events pushed => exact followed.push accounted pushed (left _ rfl).2
  | flush _ => exact absurd rfl (left _ rfl).1
  | read batch read => exact followed.read accounted read
  | settle batch startedAt failure unsettled =>
      exact followed.settle accounted unsettled startedAt failure
  | rearrange processor running lastRound scene =>
      simp only [Option.toList_none, List.append_nil]
      refine ⟨?_, followed.underWay, followed.origin⟩
      cases followed.fate with
      | waiting stored undelivered => exact .waiting stored undelivered
      | gone batch holds delivered only notStored notUnderWay =>
          exact .gone batch holds delivered only notStored notUnderWay

end Followed

section Made

variable {settings : QueueSettings} {observer : Observer} {queue : Queue} {scene : Scene}
  {before after : List Occurrence} {front back : List Event} {event : Event} {station : Station}

/-- An event is followed from its push on. -/
theorem Reached.followed (made : Queue.make settings observer = .ok queue)
    (reached : Reached ⟨queue, {}, scene⟩
      (before ++ .pushed (front ++ event :: back) :: after) station)
    (last : ∀ later ∈ back, later.id ≠ event.id)
    (left : ∀ occurrence ∈ after, occurrence.Leaves event.id) :
    Followed event before after (before ++ .pushed (front ++ event :: back) :: after) station := by
  -- The induction is over what follows `before`; the event is followed once the push is in it.
  refine Reached.suffix_induction (motive := fun part station => ∀ since,
    part = .pushed (front ++ event :: back) :: since →
      (∀ occurrence ∈ since, occurrence.Leaves event.id) →
        Followed event before since (before ++ part) station) ?_ ?_ reached after rfl left
  · intro station _ since impossible
    cases impossible
  · intro part station next label reached inductionHypothesis stepped since split left
    have accounted := reached.accounted (.of_make made scene)
    cases part with
    | nil =>
        obtain ⟨rfl, rfl⟩ : label = some (.pushed (front ++ event :: back)) ∧ since = [] := by
          cases label <;> simp_all
        rw [List.append_nil] at accounted stepped
        cases stepped with
        | push tasks events pushed => exact .of_push accounted pushed last
    | cons first rest =>
        obtain ⟨rfl, rfl⟩ := List.cons.inj split
        rw [← List.append_assoc]
        refine (inductionHypothesis rest rfl fun occurrence member =>
          left occurrence (List.mem_append_left _ member)).step accounted stepped ?_
        intro occurrence member
        exact left occurrence (List.mem_append_right _ (Option.mem_toList.mpr member))

/-- An event whose identifier is neither pushed again nor flushed is stored or delivered, unless
a batch without it, which was under way with the same identifier at the push, is delivered. -/
theorem replacement_survives_iff_no_stale_delivery
    (before after : List Occurrence) (front back : List Event) (event : Event)
    (made : Queue.make settings observer = .ok queue)
    (reached : Reached ⟨queue, {}, scene⟩
      (before ++ .pushed (front ++ event :: back) :: after) station)
    (last : ∀ later ∈ back, later.id ≠ event.id)
    (left : ∀ occurrence ∈ after, occurrence.Leaves event.id) :
    (event ∈ station.store.backlog.events ∨
        ∃ batch, event ∈ batch ∧ Occurrence.settled batch none ∈ after) ↔
      ∀ stale ∈ outstanding before, event.id ∈ stale.map Event.id →
        Occurrence.settled stale none ∈ after → event ∈ stale := by
  have followed := reached.followed made last left
  constructor
  · intro survives stale _ sameId delivered
    cases followed.fate with
    | waiting _ undelivered => exact absurd sameId (undelivered stale delivered)
    | gone taken _ _ only notStored _ =>
        rcases survives with stored | ⟨batch, member, batchDelivered⟩
        · exact absurd rfl (notStored event stored)
        · have staleTaken := only stale delivered sameId
          have batchTaken := only batch batchDelivered (List.mem_map_of_mem member)
          rw [staleTaken, ← batchTaken]
          exact member
  · intro noStale
    cases followed.fate with
    | waiting stored _ => exact .inl stored
    | gone taken holds delivered _ _ _ =>
        rcases followed.origin taken delivered holds with member | underWay
        · exact .inr ⟨taken, member, delivered⟩
        · exact .inr ⟨taken, noStale taken underWay holds delivered, delivered⟩

/-- The older batch fails, so the replacement is still there. -/
theorem replacement_survives_failed_batch :
    let first : Event := .make { type := "First" } "x" 1
    let second : Event := .make { type := "Second" } "x" 2
    let history : List Occurrence := [.pushed [first], .read [first], .pushed [second],
      .settled [first] (some (.retryable "collector" "busy"))]
    ∃ queue station, Queue.make {} .notes = .ok queue ∧
      Reached ⟨queue, {}, {}⟩ history station ∧ second ∈ station.store.backlog.events := by
  intro first second history
  have made : Queue.make {} .notes = .ok { settings := {}, observer := .notes } := rfl
  have pushedFirst : Reached ⟨{ settings := {}, observer := .notes }, {}, {}⟩
      [.pushed [first]] _ := .step .start (.push true [first] rfl)
  have readFirst := pushedFirst.step (.read [first] rfl)
  have pushedSecond := readFirst.step (.push true [second] rfl)
  have failed := pushedSecond.step
    (.settle [first] 0 (some (.retryable "collector" "busy")) (by decide))
  have left : ∀ occurrence ∈ [settled [first] (some (.retryable "collector" "busy"))],
      occurrence.Leaves second.id := by
    simp [Leaves, pushedEvents]
  have survives := replacement_survives_iff_no_stale_delivery [.pushed [first], .read [first]]
    [.settled [first] (some (.retryable "collector" "busy"))] [] [] second made failed
    (by simp) left
  have kept := survives.mpr (by simp)
  exact ⟨_, _, made, failed, kept.resolve_right (by simp)⟩

/-- The older batch is delivered, and the replacement leaves the store with it although no
batch ever held it. -/
theorem replacement_lost_to_stale_delivery :
    let first : Event := .make { type := "First" } "x" 1
    let second : Event := .make { type := "Second" } "x" 2
    let history : List Occurrence := [.pushed [first], .read [first], .pushed [second],
      .settled [first] none]
    ∃ queue station, Queue.make {} .notes = .ok queue ∧
      Reached ⟨queue, {}, {}⟩ history station ∧ second ∉ station.store.backlog.events ∧
        ∀ batch, Occurrence.read batch ∈ history → second ∉ batch := by
  intro first second history
  have pushedFirst : Reached ⟨{ settings := {}, observer := .notes }, {}, {}⟩
      [.pushed [first]] _ := .step .start (.push true [first] rfl)
  have readFirst := pushedFirst.step (.read [first] rfl)
  have pushedSecond := readFirst.step (.push true [second] rfl)
  have delivered := pushedSecond.step (.settle [first] 0 none (by decide))
  refine ⟨_, _, rfl, delivered, by decide, ?_⟩
  intro batch read
  obtain rfl : batch = [first] := by simpa [history] using read
  decide

end Made

end Station

end Telemetry
