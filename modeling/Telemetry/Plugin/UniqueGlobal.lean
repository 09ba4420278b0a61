import Telemetry.Plugin.Basic

/-!
Contract: the plugin that reports repeated global contexts.

Owns: finding the repeated ones. Each is reported once, at its second
occurrence, whatever the number of further ones.
-/

namespace Telemetry.UniqueGlobal

def pluginName : String := "UniqueGlobalContextPlugin"

/-- The copies at which a type and identifier occur for the second time, given those
seen before and those already found repeated. -/
def repeatedFrom (seen reported : List (String × String)) :
    List ContextInstance → List ContextInstance
  | [] => []
  | copy :: rest =>
      let key := (copy.context.type, copy.context.id)
      if key ∉ seen then repeatedFrom (key :: seen) reported rest
      else if key ∉ reported then copy :: repeatedFrom seen (key :: reported) rest
      else repeatedFrom seen reported rest

def repeated (copies : List ContextInstance) : List ContextInstance :=
  repeatedFrom [] [] copies

def issue (context : Context) : String :=
  "Duplicate global context " ++ context.type ++ " with id '" ++ context.id ++ "'"

/-- Report what is repeated among the copies that an event has of its global contexts. -/
def validateCopies (host : PluginHost) (event : Event) (copies : List ContextInstance)
    (scene : Scene) : Scene :=
  (repeated copies).foldl
    (fun scene copy => host.reportIssue pluginName event (issue copy.context) scene) scene

def validate (host : PluginHost) (event : Event) (scene : Scene) : Scene :=
  validateCopies host event (ContextInstance.issue event.contexts.globalContexts) scene

def plugin : Plugin where
  name := pluginName
  validate? := some fun host event scene => (none, validate host event scene)

end Telemetry.UniqueGlobal
