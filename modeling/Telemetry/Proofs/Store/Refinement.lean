import Telemetry.Proofs.Backlog

/-!
Contract: a store is an insertion-ordered map from identifiers to events.

Owns:
- `OrderedMap`, the reference: keys in the order they came in, and a value for
  each of them;
- `Backlog.Represents`, which ties the stored events and their index to such a
  map, and that writing, deleting and clearing keep the tie;
- the theorem for every sequence of calls of a store on which nothing fails.

The reference changes one key at a time. A store writes and deletes many
identifiers in one call, which may name an identifier twice or one it does not
hold.
-/

namespace Telemetry

/-- A map that remembers the order in which its keys came in. -/
structure OrderedMap (Key Value : Type) where
  /-- The keys that are present, the oldest first. -/
  keys : List Key
  value : Key → Option Value
  distinct : keys.Nodup
  present : ∀ key, key ∈ keys ↔ (value key).isSome = true

namespace OrderedMap

variable {Key Value : Type}

def empty : OrderedMap Key Value where
  keys := []
  value := fun _ => none
  distinct := List.nodup_nil
  present := by simp

/-- The values in the order of their keys. -/
def values (map : OrderedMap Key Value) : List Value :=
  map.keys.filterMap map.value

def size (map : OrderedMap Key Value) : Nat := map.keys.length

variable [DecidableEq Key]

/-- A new key goes to the end. A key that is present stays where it is, with the new value. -/
def insert (map : OrderedMap Key Value) (key : Key) (value : Value) : OrderedMap Key Value where
  keys := if key ∈ map.keys then map.keys else map.keys ++ [key]
  value := fun other => if other = key then some value else map.value other
  distinct := by
    by_cases old : key ∈ map.keys
    · rw [if_pos old]
      exact map.distinct
    · rw [if_neg old, ← List.concat_eq_append, List.nodup_concat]
      exact ⟨old, map.distinct⟩
  present := by
    intro other
    by_cases old : key ∈ map.keys
    · by_cases same : other = key
      · subst same
        simp [old]
      · simp [old, same, map.present other]
    · by_cases same : other = key
      · subst same
        simp [old]
      · simp [old, same, map.present other]

def erase (map : OrderedMap Key Value) (key : Key) : OrderedMap Key Value where
  keys := map.keys.erase key
  value := fun other => if other = key then none else map.value other
  distinct := map.distinct.erase key
  present := by
    intro other
    rw [map.distinct.mem_erase_iff]
    by_cases same : other = key
    · subst same
      simp
    · simp [same, map.present other]

theorem insert_keys (map : OrderedMap Key Value) (key : Key) (value : Value) :
    (map.insert key value).keys = if key ∈ map.keys then map.keys else map.keys ++ [key] := rfl

@[simp] theorem insert_value_self (map : OrderedMap Key Value) (key : Key) (value : Value) :
    (map.insert key value).value key = some value :=
  if_pos rfl

theorem insert_value_of_ne (map : OrderedMap Key Value) {key other : Key} (value : Value)
    (differs : other ≠ key) : (map.insert key value).value other = map.value other :=
  if_neg differs

theorem erase_keys (map : OrderedMap Key Value) (key : Key) :
    (map.erase key).keys = map.keys.filter (· != key) :=
  map.distinct.erase_eq_filter key

theorem erase_value_of_ne (map : OrderedMap Key Value) {key other : Key} (differs : other ≠ key) :
    (map.erase key).value other = map.value other :=
  if_neg differs

end OrderedMap

/-! ### Calls of a store -/

/-- A call that changes a store. -/
inductive StoreCall where
  | write (events : List Event)
  | delete (ids : List String)
  | clear
deriving DecidableEq

namespace Store

def call (store : Store) : StoreCall → Except StoreError Unit × Store
  | .write events => store.write events
  | .delete ids => store.delete ids
  | .clear => store.clear

/-- A new store after a sequence of calls. -/
def afterCalls (calls : List StoreCall) : Store :=
  calls.foldl (fun store call => (store.call call).2) {}

end Store

namespace OrderedMap

/-- The same call on the reference, one identifier after the other. -/
def call (map : OrderedMap String Event) : StoreCall → OrderedMap String Event
  | .write events => events.foldl (fun map event => map.insert event.id event) map
  | .delete ids => ids.foldl erase map
  | .clear => empty

def afterCalls (calls : List StoreCall) : OrderedMap String Event :=
  calls.foldl call empty

end OrderedMap

/-! ### The stored events and the reference -/

namespace Backlog

theorem delete_cons (backlog : Backlog) (id : String) (ids : List String) :
    backlog.delete (id :: ids) = (backlog.delete [id]).delete ids := by
  simp [delete, List.filter_filter, Bool.and_comm]

/-- The keys are the identifiers of the stored events, in order, and each has the event that
is stored with it. -/
structure Represents (backlog : Backlog) (map : OrderedMap String Event) : Prop where
  indexed : backlog.Indexed
  keys : map.keys = backlog.events.map Event.id
  value : ∀ event ∈ backlog.events, map.value event.id = some event

namespace Represents

variable {backlog : Backlog} {map : OrderedMap String Event}

theorem empty : Represents {} .empty where
  indexed := indexed_empty
  keys := rfl
  value := by simp

theorem values_eq (represents : backlog.Represents map) : map.values = backlog.events := by
  rw [OrderedMap.values, represents.keys, List.filterMap_map]
  calc backlog.events.filterMap (map.value ∘ Event.id)
      = backlog.events.filterMap some := List.filterMap_congr represents.value
    _ = backlog.events := List.filterMap_some

theorem writeOne (represents : backlog.Represents map) (event : Event) :
    (backlog.writeOne event).Represents (map.insert event.id event) where
  indexed := writeOne_indexed represents.indexed event
  keys := by
    have sameKeys : backlog.index = map.keys := by
      rw [represents.indexed.index_eq, represents.keys]
    rw [OrderedMap.insert_keys, Backlog.writeOne, sameKeys]
    by_cases stored : event.id ∈ map.keys
    · simp only [if_pos stored, replaceIn_map_id]
      exact represents.keys
    · simp only [if_neg stored, List.map_append, List.map_cons, List.map_nil]
      rw [represents.keys]
  value := by
    intro other member
    rcases (mem_writeOne represents.indexed).mp member with rfl | ⟨old, differs⟩
    · exact map.insert_value_self other.id other
    · rw [map.insert_value_of_ne event differs]
      exact represents.value other old

theorem write (represents : backlog.Represents map) (events : List Event) :
    (backlog.write events).Represents
      (events.foldl (fun map event => map.insert event.id event) map) := by
  induction events generalizing backlog map with
  | nil => exact represents
  | cons event rest inductionHypothesis => exact inductionHypothesis (represents.writeOne event)

theorem deleteOne (represents : backlog.Represents map) (id : String) :
    (backlog.delete [id]).Represents (map.erase id) where
  indexed := delete_indexed represents.indexed [id]
  keys := by
    rw [OrderedMap.erase_keys, represents.keys, Backlog.delete, List.filter_map]
    simp [Function.comp_def, bne, beq_eq_decide]
  value := by
    intro other member
    obtain ⟨old, kept⟩ := mem_delete.mp member
    have differs : other.id ≠ id := by simpa using kept
    rw [map.erase_value_of_ne differs]
    exact represents.value other old

/-- Deleting identifiers at once is deleting them one by one. -/
theorem delete (represents : backlog.Represents map) (ids : List String) :
    (backlog.delete ids).Represents (ids.foldl OrderedMap.erase map) := by
  induction ids generalizing backlog map with
  | nil => simpa [Backlog.delete] using represents
  | cons id rest inductionHypothesis =>
      rw [delete_cons]
      exact inductionHypothesis (represents.deleteOne id)

end Represents

end Backlog

namespace Store

open Backlog (Represents)

variable {store : Store} {map : OrderedMap String Event}

/-- A call succeeds, leaves a store on which nothing fails, and does to the stored events what
it does to the reference. -/
theorem call_represents (faultless : store.Faultless) (represents : store.backlog.Represents map)
    (call : StoreCall) :
    (store.call call).1 = .ok () ∧ (store.call call).2.Faultless ∧
      (store.call call).2.backlog.Represents (map.call call) := by
  cases call with
  | write events =>
      rw [Store.call, write_of_faultless faultless]
      exact ⟨rfl, faultless, represents.write events⟩
  | delete ids =>
      rw [Store.call, delete_of_faultless faultless]
      exact ⟨rfl, faultless, represents.delete ids⟩
  | clear =>
      rw [Store.call, clear_of_faultless faultless]
      exact ⟨rfl, faultless, .empty⟩

theorem foldl_call_represents (faultless : store.Faultless)
    (represents : store.backlog.Represents map) (calls : List StoreCall) :
    (calls.foldl (fun store call => (store.call call).2) store).Faultless ∧
      (calls.foldl (fun store call => (store.call call).2) store).backlog.Represents
        (calls.foldl OrderedMap.call map) := by
  induction calls generalizing store map with
  | nil => exact ⟨faultless, represents⟩
  | cons call rest inductionHypothesis =>
      obtain ⟨-, stillFaultless, stillRepresents⟩ := call_represents faultless represents call
      exact inductionHypothesis stillFaultless stillRepresents

/-- After any calls a new store holds what the insertion-ordered map holds: its index lists the
identifiers of the stored events, no identifier is stored twice, the events are the values of
the map in order, reading gives the first of them that pass a filter, and the length is the
size of the map. No call fails. -/
theorem store_refines_insertion_ordered_map (calls : List StoreCall) :
    let store := afterCalls calls
    let map := OrderedMap.afterCalls calls
    (∀ id, id ∈ store.backlog.index ↔ ∃ event ∈ store.backlog.events, event.id = id) ∧
      (store.backlog.events.map Event.id).Nodup ∧
      store.backlog.events = map.values ∧
      (∀ limit keep, store.read limit keep = (.ok ((map.values.filter keep).take limit), store)) ∧
      store.length = map.size ∧
      ∀ call, (store.call call).1 = .ok () := by
  intro store map
  have nothingFails : Faultless {} := rfl
  obtain ⟨faultless, represents⟩ :
      store.Faultless ∧ store.backlog.Represents map :=
    foldl_call_represents nothingFails .empty calls
  refine ⟨?_, represents.indexed.nodup, represents.values_eq.symm, ?_, ?_, ?_⟩
  · intro id
    rw [represents.indexed.index_eq, List.mem_map]
  · intro limit keep
    rw [read_of_faultless faultless, represents.values_eq]
    rfl
  · rw [OrderedMap.size, represents.keys, List.length_map]
    rfl
  · intro call
    exact (call_represents faultless represents call).1

/-- An identifier that is written twice in one call keeps its place, and one that is written
again after it was deleted goes to the end. -/
example :
    let first : Event := .make { type := "First" } "a" 1
    let second : Event := .make { type := "Second" } "a" 2
    let other : Event := .make { type := "Other" } "b" 3
    (afterCalls [.write [first, other, second]]).backlog.events = [second, other] ∧
      (afterCalls
        [.write [first, other], .delete ["a", "c", "a"], .write [second]]).backlog.events =
          [other, second] := by
  decide

end Store

end Telemetry
