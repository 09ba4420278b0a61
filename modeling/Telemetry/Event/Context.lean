/-!
Contract: the contexts an event carries.

Owns:
- typed and identified contexts of two kinds, where an event happened and what
  it concerns;
- the pair of context lists that plugins work on, and the order in which an
  owner's lists join an event's.

Does not own: events and their written form.
-/

namespace Telemetry

inductive ContextKind where
  | location
  | global
deriving DecidableEq, Repr

/-- A context is its kind, type and identifier. -/
structure Context where
  kind : ContextKind
  type : String
  id : String
deriving DecidableEq, Repr

namespace Context

def location (type id : String) : Context := { kind := .location, type, id }

def global (type id : String) : Context := { kind := .global, type, id }

/-- Type and identifier agree, whatever the kinds. -/
def sameIdentity (left right : Context) : Bool :=
  left.type = right.type && left.id = right.id

def withKind (kind : ContextKind) (context : Context) : Context :=
  { context with kind }

end Context

/-- One made copy of a context. Copies of equal contexts stay apart by their token. -/
structure ContextInstance where
  context : Context
  token : Nat
deriving DecidableEq, Repr

namespace ContextInstance

/-- Make each context, with tokens that differ from one another. -/
def issue (contexts : List Context) : List ContextInstance :=
  contexts.zipIdx.map fun (context, token) => { context, token }

def sameInstance (left right : ContextInstance) : Bool :=
  left.token = right.token

end ContextInstance

/-- The two context lists of an event or of its owner. -/
structure Contexts where
  locationStack : List Context := []
  globalContexts : List Context := []
deriving DecidableEq, Repr, Inhabited

namespace Contexts

/-- An owner's locations enclose the event's; its global contexts follow the event's. -/
def mergeOwner (owner event : Contexts) : Contexts where
  locationStack := owner.locationStack ++ event.locationStack
  globalContexts := event.globalContexts ++ owner.globalContexts

def hasGlobal (contexts : Contexts) (type : String) : Bool :=
  contexts.globalContexts.any fun context => context.type = type

/-- Every context takes the kind of the list it is in. -/
def normalized (contexts : Contexts) : Contexts where
  locationStack := contexts.locationStack.map (Context.withKind .location)
  globalContexts := contexts.globalContexts.map (Context.withKind .global)

end Contexts

end Telemetry
