import Telemetry.Event.Basic
import Telemetry.Json.Decoding
import Telemetry.Json.Writer

/-!
Contract: the written form of contexts, attributes and events.

Owns: their JSON documents and text, and reading them back.

A context is written without its kind: on reading it takes the kind of the list
it stands in. Times are below `2 ^ 64`.
-/

namespace Telemetry

namespace Context

def toJson (context : Context) : Json :=
  .fields [("_type", .text context.type), ("id", .text context.id)]

def ofJson? (kind : ContextKind) (document : Json) : Option Context := do
  match ← document.toRecord? ["_type", "id"] with
  | [type, id] =>
      let type ← Json.required Json.toText? type
      let id ← Json.required Json.toText? id
      some { kind, type, id }
  | _ => none

def wire (context : Context) : String := context.toJson.compact

end Context

namespace Contexts

def toFields (contexts : Contexts) : List (String × Json) :=
  [("location_stack", .array (contexts.locationStack.map Context.toJson)),
    ("global_contexts", .array (contexts.globalContexts.map Context.toJson))]

/-- Both lists may be left out. -/
def ofFields? (locationStack globalContexts : Option Json) : Option Contexts := do
  let locationStack ← Json.defaulting [] (Json.toList? (Context.ofJson? .location)) locationStack
  let globalContexts ← Json.defaulting [] (Json.toList? (Context.ofJson? .global)) globalContexts
  some { locationStack, globalContexts }

end Contexts

namespace EventAttributes

def toJson (attributes : EventAttributes) : Json :=
  .fields (("type", .text attributes.type) :: attributes.contexts.toFields)

def ofJson? (document : Json) : Option EventAttributes := do
  match ← document.toRecord? ["type", "location_stack", "global_contexts"] with
  | [type, locationStack, globalContexts] =>
      let type ← Json.required Json.toText? type
      let contexts ← Contexts.ofFields? locationStack globalContexts
      some { type, contexts }
  | _ => none

def wire (attributes : EventAttributes) : String := attributes.toJson.compact

def parse? (text : String) : Option EventAttributes :=
  (Json.parse? text).bind ofJson?

end EventAttributes

namespace Event

def toJson (event : Event) : Json :=
  .fields ([("type", .text event.type), ("id", .text event.id), ("time", .nat event.time)] ++
    event.contexts.toFields)

def ofJson? (document : Json) : Option Event := do
  match ← document.toRecord? ["type", "id", "time", "location_stack", "global_contexts"] with
  | [type, id, time, locationStack, globalContexts] =>
      let type ← Json.required Json.toText? type
      let id ← Json.required Json.toText? id
      let time ← Json.required (Json.toUnsigned? 64) time
      let contexts ← Contexts.ofFields? locationStack globalContexts
      some { type, id, time, contexts }
  | _ => none

def wire (event : Event) : String := event.toJson.compact

def parse? (text : String) : Option Event :=
  (Json.parse? text).bind ofJson?

end Event

end Telemetry
