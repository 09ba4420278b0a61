import Telemetry.Event.Basic
import Telemetry.Error

/-!
Contract: events that wait for delivery, in the order they arrived.

Owns:
- the backlog: stored events and the index of their identifiers;
- stores, which are a backlog whose operations may fail as scheduled.

Writing an event whose identifier is stored puts it in the place of the stored
one. A failing operation leaves the backlog as it is.
-/

namespace Telemetry

structure Backlog where
  events : List Event := []
  index : List String := []
deriving DecidableEq, Repr, Inhabited

namespace Backlog

def length (backlog : Backlog) : Nat := backlog.events.length

def isEmpty (backlog : Backlog) : Bool := backlog.length == 0

/-- Put an event in the place of the first one with its identifier. -/
def replaceIn (event : Event) : List Event → List Event
  | [] => []
  | stored :: rest =>
      if stored.id = event.id then event :: rest else stored :: replaceIn event rest

def writeOne (backlog : Backlog) (event : Event) : Backlog :=
  if event.id ∈ backlog.index then
    { backlog with events := replaceIn event backlog.events }
  else
    { events := backlog.events ++ [event], index := backlog.index ++ [event.id] }

def write (backlog : Backlog) (events : List Event) : Backlog :=
  events.foldl writeOne backlog

def delete (backlog : Backlog) (ids : List String) : Backlog where
  events := backlog.events.filter fun event => event.id ∉ ids
  index := backlog.index.filter fun id => id ∉ ids

def clear (_ : Backlog) : Backlog := {}

/-- The first events that pass a filter, at most `limit` of them. -/
def read (backlog : Backlog) (limit : Nat) (keep : Event → Bool) : List Event :=
  (backlog.events.filter keep).take limit

end Backlog

/-- For each operation, whether and how its next calls fail. -/
structure StoreFaults where
  read : List (Option StoreError) := []
  write : List (Option StoreError) := []
  delete : List (Option StoreError) := []
  clear : List (Option StoreError) := []
deriving DecidableEq, Repr, Inhabited

structure Store where
  backlog : Backlog := {}
  faults : StoreFaults := {}
deriving DecidableEq, Repr, Inhabited

namespace Store

/-- What the next call of an operation does, and what its later calls do. -/
def takeFault : List (Option StoreError) → Option StoreError × List (Option StoreError)
  | [] => (none, [])
  | fault :: later => (fault, later)

def length (store : Store) : Nat := store.backlog.length

def isEmpty (store : Store) : Bool := store.backlog.isEmpty

def read (store : Store) (limit : Nat) (keep : Event → Bool) :
    Except StoreError (List Event) × Store :=
  let (fault, later) := takeFault store.faults.read
  let store := { store with faults := { store.faults with read := later } }
  match fault with
  | some error => (.error error, store)
  | none => (.ok (store.backlog.read limit keep), store)

def write (store : Store) (events : List Event) : Except StoreError Unit × Store :=
  let (fault, later) := takeFault store.faults.write
  let store := { store with faults := { store.faults with write := later } }
  match fault with
  | some error => (.error error, store)
  | none => (.ok (), { store with backlog := store.backlog.write events })

def delete (store : Store) (ids : List String) : Except StoreError Unit × Store :=
  let (fault, later) := takeFault store.faults.delete
  let store := { store with faults := { store.faults with delete := later } }
  match fault with
  | some error => (.error error, store)
  | none => (.ok (), { store with backlog := store.backlog.delete ids })

def clear (store : Store) : Except StoreError Unit × Store :=
  let (fault, later) := takeFault store.faults.clear
  let store := { store with faults := { store.faults with clear := later } }
  match fault with
  | some error => (.error error, store)
  | none => (.ok (), { store with backlog := store.backlog.clear })

end Store

end Telemetry
