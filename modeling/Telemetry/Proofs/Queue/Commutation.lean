import Telemetry.Proofs.Queue.History

/-!
Contract: the order in which batches under way get their outcomes.

Owns:
- `Ledger`, the part of a station that pushes and outcomes change, and that it
  is a function of what happened;
- that outcomes commute with one another, and with pushes of identifiers that
  are not in the settled batch;
- the theorem that all interleavings of the same pushes and outcomes lead to the
  same ledger.

Outcomes delete by identifier and leave the other events in their places. That
is why two of them commute whatever their batches are. A push commutes with an
outcome as long as they share no identifier, which is so for every new identifier
and for any other that is not under way.
-/

namespace Telemetry

/-! ### Deleting and writing -/

namespace Backlog

theorem filter_replaceIn {event : Event} {ids : List String} (apart : event.id ∉ ids)
    (events : List Event) :
    (replaceIn event events).filter (fun stored => stored.id ∉ ids) =
      replaceIn event (events.filter fun stored => stored.id ∉ ids) := by
  induction events with
  | nil => rfl
  | cons stored rest inductionHypothesis =>
      by_cases same : stored.id = event.id
      · simp [replaceIn, same, apart]
      · by_cases deleted : stored.id ∈ ids <;>
          simpa [replaceIn, same, deleted] using inductionHypothesis

theorem delete_writeOne {event : Event} {ids : List String} (apart : event.id ∉ ids)
    (backlog : Backlog) :
    (backlog.writeOne event).delete ids = (backlog.delete ids).writeOne event := by
  have stillIndexed : event.id ∈ (backlog.delete ids).index ↔ event.id ∈ backlog.index := by
    simp [delete, apart]
  by_cases present : event.id ∈ backlog.index
  · rw [writeOne, writeOne, if_pos present, if_pos (stillIndexed.mpr present)]
    simp only [delete, filter_replaceIn apart]
  · rw [writeOne, writeOne, if_neg present, if_neg (mt stillIndexed.mp present)]
    simp [delete, apart]

/-- What is deleted may as well be deleted before other identifiers are written. -/
theorem delete_write {events : List Event} {ids : List String}
    (apart : ∀ event ∈ events, event.id ∉ ids) (backlog : Backlog) :
    (backlog.write events).delete ids = (backlog.delete ids).write events := by
  induction events generalizing backlog with
  | nil => rfl
  | cons event rest inductionHypothesis =>
      rw [write_cons, write_cons,
        inductionHypothesis fun later member => apart later (List.mem_cons_of_mem _ member),
        delete_writeOne (apart event List.mem_cons_self)]

theorem delete_comm (backlog : Backlog) (left right : List String) :
    (backlog.delete left).delete right = (backlog.delete right).delete left := by
  simp [delete, List.filter_filter, Bool.and_comm]

end Backlog

/-! ### The ledger of a station -/

/-- What pushes and outcomes change. -/
structure Ledger where
  backlog : Backlog
  inFlight : List String
  deliveredBatches : Nat
  failedBatches : Nat
  firstBatchSucceeded : Bool
deriving DecidableEq

def Station.ledger (station : Station) : Ledger where
  backlog := station.store.backlog
  inFlight := station.queue.inFlight
  deliveredBatches := station.queue.deliveredBatches
  failedBatches := station.queue.failedBatches
  firstBatchSucceeded := station.queue.firstBatchSucceeded

namespace Ledger

def push (ledger : Ledger) (events : List Event) : Ledger :=
  { ledger with backlog := ledger.backlog.write events }

def settle (ledger : Ledger) (outcome : List Event × Option TransportError) : Ledger where
  backlog :=
    if outcome.2.isNone then ledger.backlog.delete (outcome.1.map Event.id) else ledger.backlog
  inFlight := ledger.inFlight.filter fun id => id ∉ outcome.1.map Event.id
  deliveredBatches := ledger.deliveredBatches + if outcome.2.isNone then 1 else 0
  failedBatches := ledger.failedBatches + if outcome.2.isSome then 1 else 0
  firstBatchSucceeded := ledger.firstBatchSucceeded || outcome.2.isNone

/-- How a ledger changes by what happens. -/
def record (ledger : Ledger) : Occurrence → Ledger
  | .pushed events => ledger.push events
  | .flushed => { ledger with backlog := {} }
  | .read batch => { ledger with inFlight := ledger.inFlight ++ batch.map Event.id }
  | .settled batch failure => ledger.settle (batch, failure)

/-- Two outcomes commute, whatever their batches. -/
theorem settle_comm (ledger : Ledger) (left right : List Event × Option TransportError) :
    (ledger.settle left).settle right = (ledger.settle right).settle left := by
  obtain ⟨leftBatch, leftFailure⟩ := left
  obtain ⟨rightBatch, rightFailure⟩ := right
  simp only [settle, mk.injEq]
  refine ⟨?_, ?_, by omega, by omega, Bool.or_right_comm _ _ _⟩
  · cases leftFailure <;> cases rightFailure <;> simp [Backlog.delete_comm]
  · simp [List.filter_filter, Bool.and_comm]

instance : RightCommutative settle := ⟨settle_comm⟩

/-- An outcome commutes with a push that shares no identifier with its batch. -/
theorem push_settle {events : List Event} {outcome : List Event × Option TransportError}
    (apart : ∀ event ∈ events, event.id ∉ outcome.1.map Event.id) (ledger : Ledger) :
    (ledger.settle outcome).push events = (ledger.push events).settle outcome := by
  simp only [push, settle, mk.injEq, and_true]
  split
  · exact (Backlog.delete_write apart ledger.backlog).symm
  · rfl

theorem foldl_push_settle {pushes : List (List Event)}
    {outcome : List Event × Option TransportError}
    (apart : ∀ events ∈ pushes, ∀ event ∈ events, event.id ∉ outcome.1.map Event.id)
    (ledger : Ledger) :
    pushes.foldl push (ledger.settle outcome) = (pushes.foldl push ledger).settle outcome := by
  induction pushes generalizing ledger with
  | nil => rfl
  | cons events rest inductionHypothesis =>
      rw [List.foldl_cons, List.foldl_cons, push_settle (apart events List.mem_cons_self),
        inductionHypothesis fun later member => apart later (List.mem_cons_of_mem _ member)]

end Ledger

/-! ### Interleavings -/

/-- The pushes in their order and the outcomes in any, one at a time. -/
inductive Interleaving :
    List (List Event) → List (List Event × Option TransportError) → List Occurrence → Prop where
  | done : Interleaving [] [] []
  | push {pushes : List (List Event)} {outcomes : List (List Event × Option TransportError)}
      {rest : List Occurrence} (events : List Event)
      (interleaving : Interleaving pushes outcomes rest) :
      Interleaving (events :: pushes) outcomes (.pushed events :: rest)
  | settle {pushes : List (List Event)} {rest : List Occurrence}
      (before after : List (List Event × Option TransportError))
      (batch : List Event) (failure : Option TransportError)
      (interleaving : Interleaving pushes (before ++ after) rest) :
      Interleaving pushes (before ++ (batch, failure) :: after) (.settled batch failure :: rest)

/-- Every interleaving does to a ledger what all the pushes and then all the outcomes do. -/
theorem Interleaving.foldl_record {pushes : List (List Event)}
    {outcomes : List (List Event × Option TransportError)} {part : List Occurrence}
    (interleaving : Interleaving pushes outcomes part)
    (apart : ∀ outcome ∈ outcomes, ∀ events ∈ pushes, ∀ event ∈ events,
      event.id ∉ outcome.1.map Event.id)
    (ledger : Ledger) :
    part.foldl Ledger.record ledger =
      outcomes.foldl Ledger.settle (pushes.foldl Ledger.push ledger) := by
  induction interleaving generalizing ledger with
  | done => rfl
  | push events _ inductionHypothesis =>
      exact inductionHypothesis
        (fun outcome settled later member =>
          apart outcome settled later (List.mem_cons_of_mem _ member))
        (ledger.push events)
  | @settle pushes rest before after batch failure _ inductionHypothesis =>
      have middle : ((batch, failure) :: (before ++ after)).Perm
          (before ++ (batch, failure) :: after) := List.perm_middle.symm
      calc rest.foldl Ledger.record (ledger.settle (batch, failure))
          = (before ++ after).foldl Ledger.settle
              (pushes.foldl Ledger.push (ledger.settle (batch, failure))) :=
            inductionHypothesis
              (fun outcome settled =>
                apart outcome (middle.subset (List.mem_cons_of_mem _ settled)))
              _
        _ = (before ++ after).foldl Ledger.settle
              ((pushes.foldl Ledger.push ledger).settle (batch, failure)) := by
            rw [Ledger.foldl_push_settle (apart _ (middle.subset List.mem_cons_self))]
        _ = (before ++ (batch, failure) :: after).foldl Ledger.settle
              (pushes.foldl Ledger.push ledger) := middle.foldl_eq _

namespace Station

open Occurrence

variable {start station after : Station} {history part : List Occurrence}

/-- What follows a history, from a station that it led to. -/
inductive Continued (history : List Occurrence) (station : Station) :
    List Occurrence → Station → Prop where
  | start : Continued history station [] station
  | step {part : List Occurrence} {now after : Station} {label : Option Occurrence}
      (continued : Continued history station part now)
      (step : Step (history ++ part) now label after) :
      Continued history station (part ++ label.toList) after

theorem Continued.reached (continued : Continued history station part after)
    (reached : Reached start history station) : Reached start (history ++ part) after := by
  induction continued with
  | start => simpa using reached
  | step _ step inductionHypothesis =>
      rw [← List.append_assoc]
      exact inductionHypothesis.step step

/-- Each operation does to the ledger what it is recorded as. -/
theorem Step.ledger {label : Option Occurrence} (step : Step history station label after)
    (faultless : station.store.Faultless) :
    after.ledger = label.toList.foldl Ledger.record station.ledger := by
  cases step with
  | push tasks events pushed =>
      obtain ⟨-, storeEq⟩ := push_of_faultless faultless pushed
      simp [Station.ledger, Ledger.record, Ledger.push, push_queue pushed, storeEq]
  | flush flushed =>
      obtain ⟨-, storeEq⟩ := flush_of_faultless faultless flushed
      simp [Station.ledger, Ledger.record, flush_queue flushed, storeEq]
  | read batch read =>
      rw [readBatch_of_faultless faultless] at read
      cases read
      rfl
  | settle batch startedAt failure unsettled =>
      have storeEq := settle_store_of_faultless batch startedAt failure faultless
      cases failure with
      | none => simp [Station.ledger, Ledger.record, Ledger.settle, settle_queue, storeEq]
      | some error => simp [Station.ledger, Ledger.record, Ledger.settle, settle_queue, storeEq]
  | rearrange processor running lastRound scene => rfl

theorem Continued.ledger (continued : Continued history station part after)
    (reached : Reached start history station) (accounted : Accounted [] start) :
    after.ledger = part.foldl Ledger.record station.ledger := by
  induction continued with
  | start => rfl
  | step continued step inductionHypothesis =>
      have faultless := ((continued.reached reached).accounted accounted).faultless
      rw [step.ledger faultless, inductionHypothesis, List.foldl_append]

/-- Batches without an outcome can get theirs in any order, with pushes in between. -/
theorem Continued.exists_of_interleaving (accounted : Accounted [] start)
    (reached : Reached start history station) {pushes : List (List Event)}
    {outcomes : List (List Event × Option TransportError)} {rest : List Occurrence}
    (interleaving : Interleaving pushes outcomes rest) {now : Station}
    (continued : Continued history station part now)
    (unsettled : (outcomes.map Prod.fst).Subperm (outstanding (history ++ part))) :
    ∃ after, Continued history station (part ++ rest) after := by
  induction interleaving generalizing part now with
  | done => exact ⟨now, by simpa using continued⟩
  | push events _ inductionHypothesis =>
      have faultless := ((continued.reached reached).accounted accounted).faultless
      rcases pushed : now.push true events with ⟨result, next⟩
      obtain ⟨rfl, -⟩ := push_of_faultless faultless pushed
      have stepped := continued.step (.push true events pushed)
      rw [List.append_cons]
      refine inductionHypothesis stepped ?_
      rw [← List.append_assoc, outstanding_append_one]
      exact unsettled
  | @settle _ rest before after batch failure _ inductionHypothesis =>
      have middle : (((before ++ (batch, failure) :: after)).map Prod.fst).Perm
          (batch :: (before ++ after).map Prod.fst) :=
        List.perm_middle.map Prod.fst
      have member : batch ∈ outstanding (history ++ part) :=
        unsettled.subset (middle.symm.subset List.mem_cons_self)
      have stepped := continued.step (.settle batch 0 failure member)
      rw [List.append_cons]
      refine inductionHypothesis stepped ?_
      rw [← List.append_assoc, outstanding_append_one, track, ← List.subperm_cons batch]
      exact (middle.symm.subperm.trans unsettled).trans (List.perm_cons_erase member).subperm

/-! ### The order of outcomes -/

variable {settings : QueueSettings} {observer : Observer} {queue : Queue} {scene : Scene}

/-- From every station that a queue can reach, batches that are under way may get their
outcomes in any order, and events whose identifiers are not under way, new ones above all, may
be pushed in between: every interleaving can happen, and all of them leave the same stored
events in the same order, the same identifiers under way, the same counters and the same mark
of a first success. -/
theorem finishing_order_does_not_matter (made : Queue.make settings observer = .ok queue)
    (reached : Reached ⟨queue, {}, scene⟩ history station) (pushed : List (List Event))
    (outcomes : List (List Event × Option TransportError))
    (unsettled : (outcomes.map Prod.fst).Subperm (outstanding history))
    (fresh : ∀ events ∈ pushed, ∀ event ∈ events, event.id ∉ station.queue.inFlight) :
    ∃ ledger : Ledger, ∀ part, Interleaving pushed outcomes part →
      (∃ after, Continued history station part after) ∧
        ∀ after, Continued history station part after → after.ledger = ledger := by
  have accounted := Accounted.of_make made scene
  have apart : ∀ outcome ∈ outcomes, ∀ events ∈ pushed, ∀ event ∈ events,
      event.id ∉ outcome.1.map Event.id := by
    intro outcome settled events inPushed event member shared
    have underWay := unsettled.subset (List.mem_map_of_mem settled)
    exact fresh events inPushed event member
      ((reached.accounted accounted).mem_inFlight.mpr ⟨outcome.1, underWay, shared⟩)
  refine ⟨outcomes.foldl Ledger.settle (pushed.foldl Ledger.push station.ledger), ?_⟩
  intro part interleaving
  constructor
  · have here : Continued history station [] station := .start
    exact Continued.exists_of_interleaving accounted reached interleaving here
      (by simpa using unsettled)
  · intro after continued
    rw [continued.ledger reached accounted, interleaving.foldl_record apart]

/-- Two batches are under way, one succeeds and the other fails, and an event is pushed before,
between or after that. -/
theorem success_failure_and_push_in_any_order :
    let first : Event := .make { type := "PressEvent" } "first" 0
    let second : Event := .make { type := "PressEvent" } "second" 1
    let third : Event := .make { type := "PressEvent" } "third" 2
    let busy : TransportError := .retryable "collector" "busy"
    let history : List Occurrence := [.pushed [first, second], .read [first], .read [second]]
    ∃ queue station, Queue.make { batchSize := 1 } .notes = .ok queue ∧
      Reached ⟨queue, {}, {}⟩ history station ∧ outstanding history = [[first], [second]] ∧
      ∃ ledger : Ledger,
        ∀ part ∈ [[.pushed [third], .settled [first] none, .settled [second] (some busy)],
            [.settled [second] (some busy), .pushed [third], .settled [first] none],
            [.settled [first] none, .settled [second] (some busy), .pushed [third]]],
          ∃ after, Continued history station part after ∧ after.ledger = ledger := by
  intro first second third busy history
  have made : Queue.make { batchSize := 1 } .notes =
      .ok { settings := { batchSize := 1 }, observer := .notes } := rfl
  have pushedBoth : Reached ⟨{ settings := { batchSize := 1 }, observer := .notes }, {}, {}⟩
      [.pushed [first, second]] _ := .step .start (.push true [first, second] rfl)
  have readFirst := pushedBoth.step (.read [first] rfl)
  have readSecond := readFirst.step (.read [second] rfl)
  have underWay : outstanding history = [[first], [second]] := by decide
  obtain ⟨ledger, agree⟩ := finishing_order_does_not_matter made readSecond [[third]]
    [([first], none), ([second], some busy)] (List.Perm.of_eq underWay.symm).subperm (by decide)
  refine ⟨_, _, made, readSecond, underWay, ledger, ?_⟩
  have finish : Interleaving [[third]] [] [.pushed [third]] := .push [third] .done
  intro part member
  have interleaving : Interleaving [[third]] [([first], none), ([second], some busy)] part := by
    simp only [List.mem_cons, List.not_mem_nil, or_false] at member
    rcases member with rfl | rfl | rfl
    · exact .push [third] (.settle [] _ [first] none (.settle [] [] [second] (some busy) .done))
    · exact .settle [([first], none)] [] [second] (some busy)
        (.push [third] (.settle [] [] [first] none .done))
    · exact .settle [] _ [first] none (.settle [] [] [second] (some busy) finish)
  obtain ⟨⟨after, continued⟩, same⟩ := agree part interleaving
  exact ⟨after, continued, same after continued⟩

end Station

end Telemetry
