import Mathlib.Data.List.Perm.Basic
import Telemetry.Proofs.Queue.Operations

/-!
Contract: the histories of a queue, and the books that follow from them.

Owns:
- what can happen to the events of a queue, and the batches that a history
  leaves without an outcome;
- `Station.Reached`, a station after any interleaving of its atomic operations;
- `Station.Accounted`, which ties the identifiers under way to the history, and
  that every operation keeps it.

A batch is settled only if it was read and has no outcome yet; nothing else is
asked of the order of the operations. What delivery does not depend on (the
bound transport, the running flag, the time of the last round and the
surroundings) may change at any time.

Does not own: the order in which runs take the operations.
-/

namespace Telemetry

/-- What happens to the events of a queue. -/
inductive Occurrence where
  | pushed (events : List Event)
  | flushed
  | read (batch : List Event)
  | settled (batch : List Event) (failure : Option TransportError)

namespace Occurrence

def pushedEvents : Occurrence → List Event
  | .pushed events => events
  | _ => []

/-- How the batches without an outcome change. An empty batch is never handed over. -/
def track (batches : List (List Event)) : Occurrence → List (List Event)
  | .pushed _ => batches
  | .flushed => batches
  | .read batch => if batch = [] then batches else batches ++ [batch]
  | .settled batch _ => batches.erase batch

/-- Batches that were read and have no outcome yet, in the order they were read. -/
def outstanding (history : List Occurrence) : List (List Event) :=
  history.foldl track []

@[simp] theorem outstanding_append_one (history : List Occurrence) (occurrence : Occurrence) :
    outstanding (history ++ [occurrence]) = track (outstanding history) occurrence :=
  List.foldl_append

theorem mem_outstanding_read {history : List Occurrence} {batch taken : List Event}
    (member : batch ∈ outstanding (history ++ [.read taken])) :
    batch ∈ outstanding history ∨ batch = taken ∧ taken ≠ [] := by
  rw [outstanding_append_one, track] at member
  by_cases empty : taken = []
  · rw [if_pos empty] at member
    exact .inl member
  · rw [if_neg empty, List.mem_append, List.mem_singleton] at member
    rcases member with old | new
    · exact .inl old
    · exact .inr ⟨new, empty⟩

theorem mem_outstanding_settled {history : List Occurrence} {batch taken : List Event}
    {failure : Option TransportError}
    (member : batch ∈ outstanding (history ++ [.settled taken failure])) :
    batch ∈ outstanding history := by
  rw [outstanding_append_one] at member
  exact List.mem_of_mem_erase member

end Occurrence

namespace Station

/-- Change what delivery does not depend on. -/
def rearrange
    (station : Station)
    (processor : Option Transport)
    (running : Bool)
    (lastRound : Option Nat)
    (scene : Scene) : Station where
  queue := { station.queue with processor, running, lastRound }
  store := station.store
  scene := scene

/-- One atomic operation after a history, with what happens to the events. -/
inductive Step (history : List Occurrence) (station : Station) :
    Option Occurrence → Station → Prop where
  | push (tasks : Bool) (events : List Event) {after : Station}
      (pushed : station.push tasks events = (.ok (), after)) :
      Step history station (some (.pushed events)) after
  | flush {after : Station}
      (flushed : station.flush = (.ok (), after)) :
      Step history station (some .flushed) after
  | read (batch : List Event) {after : Station}
      (read : station.readBatch = (.ok batch, after)) :
      Step history station (some (.read batch)) after
  | settle (batch : List Event) (startedAt : Nat) (failure : Option TransportError)
      (unsettled : batch ∈ Occurrence.outstanding history) :
      Step history station (some (.settled batch failure))
        (station.settle batch startedAt failure)
  | rearrange (processor : Option Transport) (running : Bool) (lastRound : Option Nat)
      (scene : Scene) :
      Step history station none (station.rearrange processor running lastRound scene)

/-- The stations that a history leads to, in any interleaving. -/
inductive Reached (start : Station) : List Occurrence → Station → Prop where
  | start : Reached start [] start
  | step {history : List Occurrence} {station after : Station} {label : Option Occurrence}
      (reached : Reached start history station)
      (step : Step history station label after) :
      Reached start (history ++ label.toList) after

/-- What holds where a part of the history begins and is kept by every step of it holds
where it ends. -/
theorem Reached.suffix_induction {start : Station} {before : List Occurrence}
    {motive : List Occurrence → Station → Prop}
    (initial : ∀ station, Reached start before station → motive [] station)
    (step : ∀ {part : List Occurrence} {station next : Station} {label : Option Occurrence},
      Reached start (before ++ part) station → motive part station →
        Step (before ++ part) station label next → motive (part ++ label.toList) next)
    {part : List Occurrence} {station : Station}
    (reached : Reached start (before ++ part) station) : motive part station := by
  generalize whole : before ++ part = history at reached
  induction reached generalizing part with
  | start =>
      obtain ⟨rfl, rfl⟩ := List.append_eq_nil_iff.mp whole
      exact initial start .start
  | @step history station next label reached stepped inductionHypothesis =>
      cases label with
      | none =>
          rw [Option.toList_none, List.append_nil] at whole
          subst whole
          simpa using step reached (inductionHypothesis rfl) stepped
      | some occurrence =>
          rw [Option.toList_some] at whole
          rcases List.eq_nil_or_concat part with rfl | ⟨earlier, last, rfl⟩
          · rw [List.append_nil] at whole
            exact initial next (whole ▸ Reached.step reached stepped)
          · rw [List.concat_eq_append, ← List.append_assoc] at whole
            obtain ⟨rfl, last_eq⟩ := List.append_inj' whole rfl
            cases last_eq
            rw [List.concat_eq_append]
            exact step reached (inductionHypothesis rfl) stepped

/-- Everything in a history happened at some station, after what stands before it. -/
theorem Reached.occurred {start station : Station} {before after : List Occurrence}
    {occurrence : Occurrence} (reached : Reached start (before ++ occurrence :: after) station) :
    ∃ earlier later, Reached start before earlier ∧
      Step before earlier (some occurrence) later := by
  refine Reached.suffix_induction (motive := fun part _ => ∀ first ∈ part.head?,
    ∃ earlier later, Reached start before earlier ∧ Step before earlier (some first) later)
    ?_ ?_ reached occurrence rfl
  · intro station _ first member
    simp at member
  · intro part station next label reached holds stepped first member
    cases part with
    | nil =>
        cases label with
        | none => simp at member
        | some only =>
            obtain rfl : only = first := by simpa using member
            exact ⟨station, next, by simpa using reached, by simpa using stepped⟩
    | cons head rest => exact holds first (by simpa using member)

/-! ### The books of a queue -/

/-- The identifiers under way are those of the batches without an outcome, each once. -/
structure Accounted (history : List Occurrence) (station : Station) : Prop where
  faultless : station.store.Faultless
  indexed : station.store.backlog.Indexed
  marks : station.queue.inFlight.Perm ((Occurrence.outstanding history).flatten.map Event.id)
  nodup : station.queue.inFlight.Nodup
  sizes : ∀ batch ∈ Occurrence.outstanding history,
    batch ≠ [] ∧ batch.length ≤ station.queue.settings.batchSize

namespace Accounted

variable {history : List Occurrence} {station : Station}

theorem of_nothing_inFlight (faultless : station.store.Faultless)
    (indexed : station.store.backlog.Indexed) (nothing : station.queue.inFlight = []) :
    Accounted [] station where
  faultless := faultless
  indexed := indexed
  marks := by rw [nothing]; rfl
  nodup := by rw [nothing]; exact List.nodup_nil
  sizes := by simp [Occurrence.outstanding]

/-- The books of a queue that was made over an empty store begin in order. -/
theorem of_make {settings : QueueSettings} {observer : Observer} {queue : Queue}
    (made : Queue.make settings observer = .ok queue) (scene : Scene) :
    Accounted [] ⟨queue, {}, scene⟩ := by
  obtain ⟨rfl, -⟩ := Queue.make_eq_ok made
  exact of_nothing_inFlight rfl Backlog.indexed_empty rfl

theorem batch_marks_nodup (accounted : Accounted history station) :
    ((Occurrence.outstanding history).flatten.map Event.id).Nodup :=
  accounted.marks.nodup_iff.mp accounted.nodup

theorem mem_inFlight (accounted : Accounted history station) {id : String} :
    id ∈ station.queue.inFlight ↔
      ∃ batch ∈ Occurrence.outstanding history, id ∈ batch.map Event.id := by
  rw [accounted.marks.mem_iff, List.map_flatten, List.mem_flatten]
  simp

/-- No identifier is in two batches without an outcome. -/
theorem apart_of_mem_erase (accounted : Accounted history station) {batch other : List Event}
    (unsettled : batch ∈ Occurrence.outstanding history)
    (otherUnsettled : other ∈ (Occurrence.outstanding history).erase batch) {id : String}
    (inBatch : id ∈ batch.map Event.id) : id ∉ other.map Event.id := by
  intro inOther
  have split := ((List.perm_cons_erase unsettled).flatten).map Event.id
  have nodup := split.nodup_iff.mp accounted.batch_marks_nodup
  rw [List.flatten_cons, List.map_append, List.nodup_append] at nodup
  refine nodup.2.2 id inBatch id ?_ rfl
  rw [List.map_flatten, List.mem_flatten]
  exact ⟨_, List.mem_map_of_mem otherUnsettled, inOther⟩

theorem push (accounted : Accounted history station) {tasks : Bool} {events : List Event}
    {after : Station} (pushed : station.push tasks events = (.ok (), after)) :
    Accounted (history ++ [.pushed events]) after := by
  obtain ⟨-, storeEq⟩ := push_of_faultless accounted.faultless pushed
  have queueEq := push_queue pushed
  constructor
  · rw [storeEq]
    exact accounted.faultless
  · rw [storeEq]
    exact Backlog.write_indexed accounted.indexed events
  · simpa [queueEq, Occurrence.track] using accounted.marks
  · rw [queueEq]
    exact accounted.nodup
  · simpa [queueEq, Occurrence.track] using accounted.sizes

theorem flush (accounted : Accounted history station) {after : Station}
    (flushed : station.flush = (.ok (), after)) : Accounted (history ++ [.flushed]) after := by
  obtain ⟨-, storeEq⟩ := flush_of_faultless accounted.faultless flushed
  have queueEq := flush_queue flushed
  constructor
  · rw [storeEq]
    exact accounted.faultless
  · rw [storeEq]
    exact Backlog.indexed_empty
  · simpa [queueEq, Occurrence.track] using accounted.marks
  · rw [queueEq]
    exact accounted.nodup
  · simpa [queueEq, Occurrence.track] using accounted.sizes

/-- A batch that is read shares no identifier with those under way. -/
theorem read (accounted : Accounted history station) {batch : List Event} {after : Station}
    (read : station.readBatch = (.ok batch, after)) :
    Accounted (history ++ [.read batch]) after := by
  rw [readBatch_of_faultless accounted.faultless] at read
  cases read
  have batchNodup : (station.nextBatch.map Event.id).Nodup :=
    accounted.indexed.nodup.sublist ((nextBatch_sublist station).map Event.id)
  have apart : ∀ id ∈ station.queue.inFlight, ∀ added ∈ station.nextBatch.map Event.id,
      id ≠ added := by
    intro id marked added member equal
    obtain ⟨event, eventMember, rfl⟩ := List.mem_map.mp member
    exact not_inFlight_of_mem_nextBatch eventMember (equal ▸ marked)
  have marksNodup : (station.queue.inFlight ++ station.nextBatch.map Event.id).Nodup :=
    List.nodup_append.mpr ⟨accounted.nodup, batchNodup, apart⟩
  constructor
  · exact accounted.faultless
  · exact accounted.indexed
  · rw [Occurrence.outstanding_append_one, Occurrence.track]
    by_cases empty : station.nextBatch = []
    · simpa [empty] using accounted.marks
    · rw [if_neg empty, List.flatten_append, List.map_append, List.flatten_singleton]
      exact accounted.marks.append_right _
  · exact marksNodup
  · intro batch member
    rcases Occurrence.mem_outstanding_read member with old | ⟨rfl, nonempty⟩
    · exact accounted.sizes batch old
    · exact ⟨nonempty, nextBatch_length_le station⟩

/-- A batch that is settled takes its own identifiers from those under way, and no
others. -/
theorem settle (accounted : Accounted history station) {batch : List Event}
    (unsettled : batch ∈ Occurrence.outstanding history) (startedAt : Nat)
    (failure : Option TransportError) :
    Accounted (history ++ [.settled batch failure])
      (station.settle batch startedAt failure) := by
  have storeEq := settle_store_of_faultless batch startedAt failure accounted.faultless
  have queueEq := settle_queue batch startedAt failure station
  have split : station.queue.inFlight.Perm (batch.map Event.id ++
      ((Occurrence.outstanding history).erase batch).flatten.map Event.id) := by
    rw [← List.map_append, ← List.flatten_cons]
    exact accounted.marks.trans (((List.perm_cons_erase unsettled).flatten).map Event.id)
  have apart := (List.nodup_append.mp (split.nodup_iff.mp accounted.nodup)).2.2
  constructor
  · rw [storeEq]
    cases failure <;> exact accounted.faultless
  · rw [storeEq]
    cases failure with
    | none => exact Backlog.delete_indexed accounted.indexed _
    | some error => exact accounted.indexed
  · rw [queueEq, Occurrence.outstanding_append_one, Occurrence.track]
    refine (split.filter _).trans (List.Perm.of_eq ?_)
    rw [List.filter_append, List.filter_eq_nil_iff.mpr (by simp), List.nil_append,
      List.filter_eq_self]
    intro id kept
    rw [decide_eq_true_eq]
    intro settled
    exact apart id settled id kept rfl
  · rw [queueEq]
    exact accounted.nodup.filter _
  · rw [queueEq]
    intro other member
    exact accounted.sizes other (Occurrence.mem_outstanding_settled member)

/-- Every operation keeps the books. -/
theorem step (accounted : Accounted history station) {label : Option Occurrence}
    {after : Station} (step : Step history station label after) :
    Accounted (history ++ label.toList) after := by
  cases step with
  | push tasks events pushed => exact accounted.push pushed
  | flush flushed => exact accounted.flush flushed
  | read batch read => exact accounted.read read
  | settle batch startedAt failure unsettled => exact accounted.settle unsettled startedAt failure
  | rearrange processor running lastRound scene =>
      rw [Option.toList_none, List.append_nil]
      exact ⟨accounted.faultless, accounted.indexed, accounted.marks, accounted.nodup,
        accounted.sizes⟩

end Accounted

/-- The books are kept through every history. -/
theorem Reached.accounted {start station : Station} {history : List Occurrence}
    (reached : Reached start history station) (accounted : Accounted [] start) :
    Accounted history station := by
  induction reached with
  | start => exact accounted
  | step _ step inductionHypothesis => exact inductionHypothesis.step step

end Station

end Telemetry
