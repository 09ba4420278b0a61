import Telemetry.Plugin.Basic
import Telemetry.Text.Digits

/-!
Contract: plugins whose hooks follow a list of actions.

Owns: the actions of each hook and the notes that the hooks leave.

A scripted plugin is usable while its switch is on. Any hook may set switches.
-/

namespace Telemetry

structure SwitchSetting where
  switch : String
  value : Bool
deriving DecidableEq, Repr

inductive EnrichAction where
  | setUsable (setting : SwitchSetting)
  | addGlobal (context : Context)
  | addLocation (context : Context)
  | removeGlobal (type : String)
  | fail (reason : String)
deriving DecidableEq, Repr

inductive ValidateAction where
  | setUsable (setting : SwitchSetting)
  | issue (message : String)
  | fail (reason : String)
deriving DecidableEq, Repr

structure ScriptedPlugin where
  name : String
  switch : String
  usable : Bool := true
  onStart? : Option (List SwitchSetting) := none
  enrich? : Option (List EnrichAction) := none
  validate? : Option (List ValidateAction) := none
deriving DecidableEq, Repr

namespace ScriptedPlugin

def applySwitches (scene : Scene) (settings : List SwitchSetting) : Scene :=
  settings.foldl (fun scene setting => scene.setSwitch setting.switch setting.value) scene

/-- The identifier `$n` stands for the number of global contexts so far. -/
def numbered (contexts : Contexts) (context : Context) : Context :=
  if context.id = "$n" then { context with id := Text.decimal contexts.globalContexts.length }
  else context

/-- Actions in order, up to a failure. -/
def runEnrich (name : String) : List EnrichAction → Contexts → Scene → Enrichment
  | [], contexts, scene => { contexts, scene }
  | .setUsable setting :: actions, contexts, scene =>
      runEnrich name actions contexts (scene.setSwitch setting.switch setting.value)
  | .addGlobal context :: actions, contexts, scene =>
      let added := contexts.globalContexts ++ [numbered contexts context]
      runEnrich name actions { contexts with globalContexts := added } scene
  | .addLocation context :: actions, contexts, scene =>
      let added := contexts.locationStack ++ [numbered contexts context]
      runEnrich name actions { contexts with locationStack := added } scene
  | .removeGlobal type :: actions, contexts, scene =>
      let kept := contexts.globalContexts.filter fun context => context.type ≠ type
      runEnrich name actions { contexts with globalContexts := kept } scene
  | .fail reason :: _, contexts, scene =>
      { failure := some (.enrich name reason), contexts, scene }

def runValidate (name : String) (host : PluginHost) (event : Event) :
    List ValidateAction → Scene → Option PluginError × Scene
  | [], scene => (none, scene)
  | .setUsable setting :: actions, scene =>
      runValidate name host event actions (scene.setSwitch setting.switch setting.value)
  | .issue message :: actions, scene =>
      runValidate name host event actions (host.reportIssue name event message scene)
  | .fail reason :: _, scene => (some (.validate name reason), scene)

def plugin (script : ScriptedPlugin) : Plugin where
  name := script.name
  usable := fun scene => scene.switchedOn script.switch
  onStart? := script.onStart?.map fun settings host scene =>
    applySwitches (scene.note (.initialized script.name host.trackerId host.applicationId)) settings
  enrich? := script.enrich?.map fun actions _ contexts scene =>
    runEnrich script.name actions contexts (scene.note (.enriching script.name contexts))
  validate? := script.validate?.map fun actions host event scene =>
    runValidate script.name host event actions (scene.note (.validating script.name event))

end ScriptedPlugin

end Telemetry
