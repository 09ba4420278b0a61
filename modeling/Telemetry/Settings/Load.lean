import Telemetry.Log
import Telemetry.Settings.Environment
import Telemetry.Settings.Source

/-!
Contract: the settings that are in effect.

Owns:
- the places of the user's and the workspace's settings;
- the order of the sources: built-in defaults, the user's file, the workspace's
  file, variables; or defaults, one given file, variables;
- the log entries of loading.

Settings that cannot be read are refused as a whole, without a reason. Those
that can be read must be valid.
-/

namespace Telemetry.Settings

/-- Says that some source cannot be read as settings. -/
def unreadable : TrackerError := .configuration "<config>"

def userFile? (environment : Environment) : Option String :=
  let directory := match environment.get? "XDG_CONFIG_HOME" with
    | some directory => if directory = "" then none else some directory
    | none => none
  match directory with
  | some directory => some (Path.join (Path.join directory "eventline") "config.toml")
  | none =>
      (environment.get? "HOME").map fun home =>
        Path.join (Path.join (Path.join home ".config") "eventline") "config.toml"

def workspaceFile (workspace : String) : String :=
  Path.join workspace "eventline.toml"

/-- The layer of a file that need not be there. -/
def optionalLayer? (tree : FileTree) (path : String) : Option Layer :=
  match findSource? tree path with
  | some (format, text) => format.read? text
  | none => some []

/-- The layer of a file that must be there. -/
def requiredLayer? (tree : FileTree) (path : String) : Option Layer :=
  (findSource? tree path).bind fun (format, text) => format.read? text

/-- Settings with the entries logged while they were loaded. -/
abbrev Loaded : Type := Except TrackerError Settings × List LogEntry

def loadedEntry (settings : Settings) : LogEntry where
  level := .debug
  target := "eventline::config::facade"
  message := "Configuration loaded"
  fields := [
    ("application_id", .text settings.tracker.applicationId),
    ("batch_size", .number settings.queue.batchSize),
    ("concurrency", .number settings.queue.concurrency)]

/-- Settings out of layers, of which one may be unreadable. -/
def ofLayers (layers : Option (List Layer)) : Except TrackerError Settings :=
  match layers.bind fun layers => Settings.ofValue? (merged layers) with
  | some settings => settings.validated
  | none => .error unreadable

def finish (layers : Option (List Layer)) (entries : List LogEntry) : Loaded :=
  match ofLayers layers with
  | .ok settings => (.ok settings, entries ++ [loadedEntry settings])
  | .error error => (.error error, entries)

def sourceEntry (target message path : String) : LogEntry where
  level := .debug
  target := target
  message := message
  fields := [("config_path", .text path)]

/-- The user's file and the workspace's file, those of them that are there. -/
def presentFiles
    (tree : FileTree)
    (environment : Environment)
    (workspace : String) : List (String × LogEntry) :=
  let user := (userFile? environment).toList.map fun path =>
    (path, sourceEntry "eventline::config::sources::global_file" "Loading user config" path)
  let path := workspaceFile workspace
  let own := [(path, sourceEntry
    "eventline::config::sources::workspace_file" "Loading workspace config" path)]
  (user ++ own).filter fun file => tree.contains file.1

/-- The settings for a workspace. -/
def load (tree : FileTree) (environment : Environment) (workspace : String) : Loaded :=
  let files := presentFiles tree environment workspace
  let layers := (files.mapM fun file => optionalLayer? tree file.1).map fun layers =>
    defaults :: layers ++ [environment.layer]
  finish layers (files.map Prod.snd)

/-- The settings of one given file. -/
def loadFile (tree : FileTree) (environment : Environment) (path : String) : Loaded :=
  if tree.contains path then
    let layers := (requiredLayer? tree path).map fun layer =>
      [defaults, layer, environment.layer]
    finish layers []
  else (.error (.configuration ("Config file not found: " ++ path)), [])

end Telemetry.Settings
