import Mathlib.Data.List.Nodup
import Telemetry.Store

/-!
Contract: what the operations of a backlog do to the events it holds.

Owns:
- `Backlog.Indexed`, the agreement of a backlog with its index, and that every
  operation keeps it;
- which events a backlog holds after it was written to or deleted from;
- stores on which no operation fails.

Does not own: who calls the operations, and in which order.
-/

namespace Telemetry

namespace Backlog

/-- The index lists the identifiers of the stored events, and no identifier is stored
twice. -/
structure Indexed (backlog : Backlog) : Prop where
  index_eq : backlog.index = backlog.events.map Event.id
  nodup : (backlog.events.map Event.id).Nodup

theorem indexed_empty : Indexed {} where
  index_eq := rfl
  nodup := List.nodup_nil

/-- Two stored events with one identifier are the same event. -/
theorem Indexed.eq_of_id_eq {backlog : Backlog} (indexed : backlog.Indexed) {left right : Event}
    (leftStored : left ∈ backlog.events) (rightStored : right ∈ backlog.events)
    (sameId : left.id = right.id) : left = right :=
  List.inj_on_of_nodup_map indexed.nodup leftStored rightStored sameId

/-! ### Writing -/

theorem replaceIn_map_id (event : Event) (events : List Event) :
    (replaceIn event events).map Event.id = events.map Event.id := by
  induction events with
  | nil => rfl
  | cons stored rest inductionHypothesis =>
      simp only [replaceIn]
      by_cases sameId : stored.id = event.id
      · rw [if_pos sameId]
        simp [sameId]
      · rw [if_neg sameId]
        simp [inductionHypothesis]

theorem mem_replaceIn {event other : Event} {events : List Event}
    (nodup : (events.map Event.id).Nodup) (present : event.id ∈ events.map Event.id) :
    other ∈ replaceIn event events ↔ other = event ∨ other ∈ events ∧ other.id ≠ event.id := by
  induction events with
  | nil => simp at present
  | cons stored rest inductionHypothesis =>
      rw [List.map_cons, List.nodup_cons] at nodup
      simp only [replaceIn]
      by_cases sameId : stored.id = event.id
      · -- The first event with the identifier is the only one, so the rest stays.
        have restDiffers : ∀ kept ∈ rest, kept.id ≠ event.id := by
          intro kept member equal
          exact nodup.1 (sameId ▸ equal ▸ List.mem_map_of_mem member)
        rw [if_pos sameId, List.mem_cons, List.mem_cons]
        constructor
        · rintro (rfl | member)
          · exact .inl rfl
          · exact .inr ⟨.inr member, restDiffers other member⟩
        · rintro (rfl | ⟨rfl | member, differs⟩)
          · exact .inl rfl
          · exact absurd sameId differs
          · exact .inr member
      · have presentRest : event.id ∈ rest.map Event.id := by
          rw [List.map_cons, List.mem_cons] at present
          exact present.resolve_left fun equal => sameId equal.symm
        rw [if_neg sameId, List.mem_cons, List.mem_cons,
          inductionHypothesis nodup.2 presentRest]
        constructor
        · rintro (rfl | rfl | ⟨member, differs⟩)
          · exact .inr ⟨.inl rfl, sameId⟩
          · exact .inl rfl
          · exact .inr ⟨.inr member, differs⟩
        · rintro (rfl | ⟨rfl | member, differs⟩)
          · exact .inr (.inl rfl)
          · exact .inl rfl
          · exact .inr (.inr ⟨member, differs⟩)

theorem writeOne_indexed {backlog : Backlog} (indexed : backlog.Indexed) (event : Event) :
    (backlog.writeOne event).Indexed := by
  unfold writeOne
  by_cases present : event.id ∈ backlog.index
  · rw [if_pos present]
    constructor
    · simp only [replaceIn_map_id]
      exact indexed.index_eq
    · simp only [replaceIn_map_id]
      exact indexed.nodup
  · rw [if_neg present]
    rw [indexed.index_eq] at present
    constructor
    · simp [indexed.index_eq]
    · simp only [List.map_append, List.map_cons, List.map_nil]
      rw [List.nodup_append]
      refine ⟨indexed.nodup, List.nodup_singleton _, ?_⟩
      intro stored storedMember added addedMember equal
      rw [List.mem_singleton] at addedMember
      exact present (addedMember ▸ equal ▸ storedMember)

theorem mem_writeOne {backlog : Backlog} (indexed : backlog.Indexed) {event other : Event} :
    other ∈ (backlog.writeOne event).events ↔
      other = event ∨ other ∈ backlog.events ∧ other.id ≠ event.id := by
  unfold writeOne
  by_cases present : event.id ∈ backlog.index
  · rw [if_pos present]
    rw [indexed.index_eq] at present
    exact mem_replaceIn indexed.nodup present
  · rw [if_neg present]
    rw [indexed.index_eq] at present
    have storedDiffers : ∀ stored ∈ backlog.events, stored.id ≠ event.id := by
      intro stored member equal
      exact present (equal ▸ List.mem_map_of_mem member)
    simp only [List.mem_append, List.mem_singleton]
    constructor
    · rintro (member | rfl)
      · exact .inr ⟨member, storedDiffers other member⟩
      · exact .inl rfl
    · rintro (rfl | ⟨member, -⟩)
      · exact .inr rfl
      · exact .inl member

@[simp] theorem write_nil (backlog : Backlog) : backlog.write [] = backlog := rfl

@[simp] theorem write_cons (backlog : Backlog) (event : Event) (events : List Event) :
    backlog.write (event :: events) = (backlog.writeOne event).write events := rfl

theorem write_append (backlog : Backlog) (left right : List Event) :
    backlog.write (left ++ right) = (backlog.write left).write right :=
  List.foldl_append

theorem write_indexed {backlog : Backlog} (indexed : backlog.Indexed) (events : List Event) :
    (backlog.write events).Indexed := by
  induction events generalizing backlog with
  | nil => exact indexed
  | cons event rest inductionHypothesis =>
      exact inductionHypothesis (writeOne_indexed indexed event)

/-- Writing does not touch an event whose identifier is not written. -/
theorem mem_write_of_id_ne {backlog : Backlog} (indexed : backlog.Indexed) {event : Event}
    {events : List Event} (differs : ∀ written ∈ events, written.id ≠ event.id) :
    event ∈ (backlog.write events).events ↔ event ∈ backlog.events := by
  induction events generalizing backlog with
  | nil => rfl
  | cons written rest inductionHypothesis =>
      have writtenDiffers := differs written List.mem_cons_self
      rw [write_cons, inductionHypothesis (writeOne_indexed indexed written)
        fun later member => differs later (List.mem_cons_of_mem _ member), mem_writeOne indexed]
      constructor
      · rintro (rfl | ⟨member, -⟩)
        · exact absurd rfl writtenDiffers
        · exact member
      · intro member
        exact .inr ⟨member, writtenDiffers.symm⟩

/-- The last event written with an identifier is stored. -/
theorem mem_write_of_last {backlog : Backlog} (indexed : backlog.Indexed) (front : List Event)
    {event : Event} {back : List Event} (last : ∀ later ∈ back, later.id ≠ event.id) :
    event ∈ (backlog.write (front ++ event :: back)).events := by
  have indexedFront := write_indexed indexed front
  rw [write_append, write_cons, mem_write_of_id_ne (writeOne_indexed indexedFront event) last,
    mem_writeOne indexedFront]
  exact .inl rfl

/-- Events with new identifiers go to the end, in order. -/
theorem write_events_of_fresh {backlog : Backlog} (indexed : backlog.Indexed)
    {events : List Event} (fresh : ((backlog.events ++ events).map Event.id).Nodup) :
    (backlog.write events).events = backlog.events ++ events := by
  induction events generalizing backlog with
  | nil => simp
  | cons event rest inductionHypothesis =>
      have absent : event.id ∉ backlog.index := by
        rw [indexed.index_eq]
        intro present
        rw [List.map_append, List.nodup_append] at fresh
        exact fresh.2.2 _ present _ List.mem_cons_self rfl
      have appended : (backlog.writeOne event).events = backlog.events ++ [event] := by
        rw [writeOne, if_neg absent]
      rw [write_cons, inductionHypothesis (writeOne_indexed indexed event), appended,
        List.append_assoc]
      · rfl
      · rw [appended, List.append_assoc]
        exact fresh

/-! ### Deleting and reading -/

theorem delete_indexed {backlog : Backlog} (indexed : backlog.Indexed) (ids : List String) :
    (backlog.delete ids).Indexed := by
  constructor
  · simp only [delete, indexed.index_eq, List.filter_map]
    rfl
  · exact indexed.nodup.sublist (List.filter_sublist.map Event.id)

theorem mem_delete {backlog : Backlog} {ids : List String} {event : Event} :
    event ∈ (backlog.delete ids).events ↔ event ∈ backlog.events ∧ event.id ∉ ids := by
  simp [delete]

theorem read_sublist (backlog : Backlog) (limit : Nat) (keep : Event → Bool) :
    (backlog.read limit keep).Sublist backlog.events :=
  (List.take_sublist _ _).trans List.filter_sublist

theorem read_length_le (backlog : Backlog) (limit : Nat) (keep : Event → Bool) :
    (backlog.read limit keep).length ≤ limit :=
  List.length_take_le _ _

theorem keep_of_mem_read {backlog : Backlog} {limit : Nat} {keep : Event → Bool} {event : Event}
    (member : event ∈ backlog.read limit keep) : keep event = true :=
  (List.mem_filter.mp (List.mem_of_mem_take member)).2

end Backlog

/-! ### Stores on which nothing fails -/

/-- No operation is scheduled to fail. -/
def Store.Faultless (store : Store) : Prop := store.faults = {}

namespace Store

variable {store : Store}

theorem write_of_faultless (faultless : store.Faultless) (events : List Event) :
    store.write events = (.ok (), { store with backlog := store.backlog.write events }) := by
  obtain ⟨backlog, faults⟩ := store
  cases faultless
  rfl

theorem read_of_faultless (faultless : store.Faultless) (limit : Nat) (keep : Event → Bool) :
    store.read limit keep = (.ok (store.backlog.read limit keep), store) := by
  obtain ⟨backlog, faults⟩ := store
  cases faultless
  rfl

theorem delete_of_faultless (faultless : store.Faultless) (ids : List String) :
    store.delete ids = (.ok (), { store with backlog := store.backlog.delete ids }) := by
  obtain ⟨backlog, faults⟩ := store
  cases faultless
  rfl

theorem clear_of_faultless (faultless : store.Faultless) :
    store.clear = (.ok (), { store with backlog := {} }) := by
  obtain ⟨backlog, faults⟩ := store
  cases faultless
  rfl

end Store

end Telemetry
