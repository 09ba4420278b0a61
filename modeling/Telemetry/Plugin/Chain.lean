import Telemetry.Plugin.Basic

/-!
Contract: the ordered plugins of a tracker.

Owns: building and changing a chain, and running its hooks in order.

Plugins of a chain have different names. Of plugins that are given with one name
only the last is kept. Replacing is removing and adding: when adding fails, the
plugin is gone.
-/

namespace Telemetry

structure PluginChain where
  host : PluginHost
  plugins : List Plugin := []

namespace PluginChain

def logTarget : String := "eventline::plugin"

/-- A plugin comes last and takes the place of an earlier one with its name. -/
def keepLast (plugins : List Plugin) (plugin : Plugin) : List Plugin :=
  plugins.filter (fun existing => existing.name ≠ plugin.name) ++ [plugin]

def make (plugins : List Plugin) (host : PluginHost) : PluginChain where
  host := host
  plugins := plugins.foldl keepLast []

def names (chain : PluginChain) : List String :=
  chain.plugins.map Plugin.name

def position? (chain : PluginChain) (name : String) : Option Nat :=
  chain.plugins.findIdx? fun plugin => plugin.name = name

def has (chain : PluginChain) (name : String) : Bool :=
  (chain.position? name).isSome

def get (chain : PluginChain) (name : String) : Except TrackerError Plugin :=
  match chain.plugins.find? fun plugin => plugin.name = name with
  | some plugin => .ok plugin
  | none => .error (.pluginNotFound name)

/-- Run the hook for the start of the tracker, if the plugin has one and is usable. -/
def startPlugin (host : PluginHost) (plugin : Plugin) (scene : Scene) : Scene :=
  match plugin.onStart? with
  | some onStart => if plugin.usable scene then onStart host scene else scene
  | none => scene

def startAll (chain : PluginChain) (scene : Scene) : Scene :=
  chain.plugins.foldl (fun scene plugin => startPlugin chain.host plugin scene) scene

/-- The chain and the surroundings after an operation, and what the operation gives. -/
structure Change (α : Type) where
  result : Except TrackerError α
  chain : PluginChain
  scene : Scene

/-- Insert a plugin at an index, or at the end, and run its hook for the start. -/
def add (chain : PluginChain) (plugin : Plugin) (index : Option Nat) (scene : Scene) :
    Change Unit :=
  if chain.has plugin.name then
    { result := .error (.pluginAlreadyExists plugin.name), chain, scene }
  else
    let length := chain.plugins.length
    let index := index.getD length
    if length < index then
      { result := .error (.invalidPluginIndex index length), chain, scene }
    else
      let scene := scene.log {
        level := .debug
        target := logTarget
        message := "Adding plugin"
        fields := [("plugin", .text plugin.name), ("index", .number index)] }
      { result := .ok ()
        chain := { chain with plugins := chain.plugins.insertIdx index plugin }
        scene := startPlugin chain.host plugin scene }

def removalEntry (name : String) : LogEntry where
  level := .debug
  target := logTarget
  message := "Removing plugin"
  fields := [("plugin", .text name)]

def remove (chain : PluginChain) (name : String) (scene : Scene) : Change Plugin :=
  match chain.position? name, chain.get name with
  | some index, .ok plugin =>
      { result := .ok plugin
        chain := { chain with plugins := chain.plugins.eraseIdx index }
        scene := scene.log (removalEntry name) }
  | _, _ => { result := .error (.pluginNotFound name), chain, scene }

/-- Remove the plugin with the same name and add this one, by default in its place. -/
def replace (chain : PluginChain) (plugin : Plugin) (index : Option Nat) (scene : Scene) :
    Change Unit :=
  match chain.position? plugin.name with
  | none => { result := .error (.pluginNotFound plugin.name), chain, scene }
  | some place =>
      let removed := chain.remove plugin.name scene
      removed.chain.add plugin (some (index.getD place)) removed.scene

/-- Let the usable plugins change the contexts in order, up to the first failure. -/
def enrichWith (host : PluginHost) : List Plugin → Contexts → Scene → Enrichment
  | [], contexts, scene => { contexts, scene }
  | plugin :: plugins, contexts, scene =>
      match plugin.enrich? with
      | none => enrichWith host plugins contexts scene
      | some enrich =>
          if plugin.usable scene then
            let enriched := enrich host contexts scene
            match enriched.failure with
            | some _ => enriched
            | none => enrichWith host plugins enriched.contexts enriched.scene
          else enrichWith host plugins contexts scene

def enrich (chain : PluginChain) (contexts : Contexts) (scene : Scene) : Enrichment :=
  enrichWith chain.host chain.plugins contexts scene

/-- Let the usable plugins look at the event in order, up to the first failure. -/
def validateWith (host : PluginHost) (event : Event) :
    List Plugin → Scene → Option PluginError × Scene
  | [], scene => (none, scene)
  | plugin :: plugins, scene =>
      match plugin.validate? with
      | none => validateWith host event plugins scene
      | some validate =>
          if plugin.usable scene then
            match validate host event scene with
            | (some error, scene) => (some error, scene)
            | (none, scene) => validateWith host event plugins scene
          else validateWith host event plugins scene

def validate (chain : PluginChain) (event : Event) (scene : Scene) : Option PluginError × Scene :=
  validateWith chain.host event chain.plugins scene

end PluginChain

end Telemetry
