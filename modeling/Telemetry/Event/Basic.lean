import Telemetry.Event.Context

/-!
Contract: events and the attributes they are made from.

Owns: attributes as applications give them, events with their identity, and the
ways to make one event from another.

An event's contexts always have the kind of the list they are in, while
attributes keep the kinds they were given.
-/

namespace Telemetry

/-- What an application says about an event; identity and time come later. -/
structure EventAttributes where
  type : String
  contexts : Contexts := {}
deriving DecidableEq, Repr

namespace EventAttributes

def pushLocation (attributes : EventAttributes) (context : Context) : EventAttributes :=
  { attributes with contexts := { attributes.contexts with
      locationStack := attributes.contexts.locationStack ++ [context.withKind .location] } }

def pushGlobal (attributes : EventAttributes) (context : Context) : EventAttributes :=
  { attributes with contexts := { attributes.contexts with
      globalContexts := attributes.contexts.globalContexts ++ [context.withKind .global] } }

end EventAttributes

/-- A tracked event. Its time is milliseconds since the start of 1970. -/
structure Event where
  type : String
  id : String
  time : Nat
  contexts : Contexts
deriving DecidableEq, Repr

namespace Event

/-- An event with a given identity. -/
def make (attributes : EventAttributes) (id : String) (time : Nat) : Event where
  type := attributes.type
  id := id
  time := time
  contexts := attributes.contexts.normalized

/-- An event with a given identity, inside the contexts of its owner. -/
def track (attributes : EventAttributes) (owner : Contexts) (id : String) (time : Nat) : Event :=
  make { attributes with contexts := owner.mergeOwner attributes.contexts } id time

/-- The same event with other contexts. -/
def derive (event : Event) (contexts : Contexts) : Event :=
  { event with contexts := contexts.normalized }

end Event

end Telemetry
