import Telemetry.Scene

/-!
Contract: plugins, which take part in making an event.

Owns: the host a plugin sees, and a plugin's name, usability and hooks.

A plugin has the hooks it declares: one for the start of its tracker, one that
changes an event's contexts, and one that looks at the finished event. Hooks run
only while the plugin is usable.
-/

namespace Telemetry

/-- What plugins see of the tracker they belong to. -/
structure PluginHost where
  trackerId : String
  applicationId : String
  observer : Observer
deriving DecidableEq, Repr

/-- A finding that does not stop the event. -/
def PluginHost.reportIssue
    (host : PluginHost)
    (plugin : String)
    (event : Event)
    (message : String)
    (scene : Scene) : Scene :=
  scene.observe host.observer (.validationIssue plugin event.id message)

/-- What an enriching hook leaves: its failure if there is one, the contexts and the
surroundings. -/
structure Enrichment where
  failure : Option PluginError := none
  contexts : Contexts
  scene : Scene

structure Plugin where
  name : String
  usable : Scene → Bool := fun _ => true
  onStart? : Option (PluginHost → Scene → Scene) := none
  enrich? : Option (PluginHost → Contexts → Scene → Enrichment) := none
  validate? : Option (PluginHost → Event → Scene → Option PluginError × Scene) := none

end Telemetry
