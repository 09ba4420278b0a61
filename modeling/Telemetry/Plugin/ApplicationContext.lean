import Telemetry.Plugin.Basic
import Telemetry.Text.Digits

/-!
Contract: the plugin that names the application an event comes from.

Owns: adding the application's global context to events that have none of its
type, and reporting events that do not have exactly one.
-/

namespace Telemetry.ApplicationContext

def contextType : String := "ApplicationContext"

def pluginName : String := "ApplicationContextPlugin"

def enrich (host : PluginHost) (contexts : Contexts) : Contexts :=
  if contexts.hasGlobal contextType then contexts
  else { contexts with
    globalContexts := contexts.globalContexts ++ [.global contextType host.applicationId] }

def occurrences (event : Event) : Nat :=
  (event.contexts.globalContexts.filter fun context => context.type = contextType).length

/-- What is wrong with an event's application contexts. -/
def issue? (event : Event) : Option String :=
  match occurrences event with
  | 1 => none
  | 0 => some "ApplicationContext is missing"
  | count => some ("ApplicationContext must be present once, found " ++ Text.decimal count)

def validate (host : PluginHost) (event : Event) (scene : Scene) : Scene :=
  match issue? event with
  | some message => host.reportIssue pluginName event message scene
  | none => scene

def plugin : Plugin where
  name := pluginName
  enrich? := some fun host contexts scene => { contexts := enrich host contexts, scene }
  validate? := some fun host event scene => (none, validate host event scene)

end Telemetry.ApplicationContext
