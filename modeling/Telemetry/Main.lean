import Std.Time.DateTime.Timestamp
import Telemetry.Event.Identifier
import Telemetry.Program
import Telemetry.Timestamp

/-!
Contract: the command line program.

Owns: reading variables, files and standard input, and writing what a run came
to. Everything in between is `Program.run`.
-/

namespace Telemetry.Main

open CommandLine

/-- The places that names lead through from a place. -/
def placesAlong (place : List String) : List String → List (List String)
  | [] => [place]
  | name :: names => place :: placesAlong (FileTree.follow place name) names

def placeText (place : List String) : String :=
  "/" ++ "/".intercalate place

/-- Take what is at a place into the tree. -/
def look (tree : FileTree) (place : List String) : IO FileTree := do
  let path := (← IO.currentDir) / placeText place
  if ← path.isDir then return tree.put place .directory
  if ← path.pathExists then
    try
      return tree.put place (.file (← IO.FS.readFile path))
    catch _ => return tree
  return tree

/-- Take what a path leads through into the tree. -/
def lookAlong (tree : FileTree) (path : String) : IO FileTree :=
  (placesAlong (tree.origin path) (Path.names path)).foldlM look tree

/-- The files that settings can come from, and the file to replay. -/
def watched (environment : Environment) (arguments : Arguments) : List String :=
  let sources := match arguments.config with
    | some path => [path]
    | none =>
        (Settings.userFile? environment).toList ++ [Settings.workspaceFile arguments.workspace]
  let longer := sources.flatMap fun path =>
    Settings.SourceFormat.all.filterMap fun format => Path.withExtension? path format.extension
  let input := match arguments.command with
    | .replay options => options.input.toList.map (Path.join arguments.workspace)
    | .config => []
  sources ++ longer ++ input

def variableOf (entry : String) : Option (String × String) :=
  match entry.splitOn "=" with
  | name :: first :: rest => some (name, "=".intercalate (first :: rest))
  | _ => none

def readEnvironment : IO Environment := do
  try
    let text ← IO.FS.readFile "/proc/self/environ"
    return (text.splitOn "\x00").filterMap variableOf
  catch _ => return []

def readInput : IO (Except FileError String) := do
  let bytes ← (← IO.getStdin).readBinToEnd
  match String.fromUTF8? bytes with
  | some text => return .ok text
  | none => return .error .notText

def randomIdentifier : IO String := do
  let bytes ← IO.getRandomBytes 16
  return RandomId.text (bytes.toList.foldl (fun bits byte => bits * 256 + byte.toNat) 0)

/-- Milliseconds on the clock. -/
def currentTime : IO Nat := do
  return (← Std.Time.Timestamp.now).toMillisecondsSinceUnixEpoch.toInt.toNat

/-- The number of lines that are replayed. -/
def lineCount (surroundings : Program.Surroundings) (arguments : Arguments) : Nat :=
  match arguments.command with
  | .config => 0
  | .replay options =>
      match Program.openInput surroundings surroundings.files arguments.workspace options.input with
      | .ok (.ok text) => (Replay.numberedLines text).length
      | _ => 0

/-- What the program is run with, as far as it can matter for these words. -/
def survey (words : List String) : IO Program.Surroundings := do
  let environment ← readEnvironment
  let current := Path.names (← IO.currentDir).toString
  let tree := FileTree.startingIn current
  match Arguments.parse words with
  | .error _ => return { environment, files := tree }
  | .ok arguments =>
      let files ← (watched environment arguments).foldlM lookAlong tree
      let files ← match Program.loggingSettings { environment, files } arguments with
        | .ok settings => lookAlong files settings.file
        | .error _ => pure files
      let input ← match arguments.command with
        | .replay { input := none, .. } => readInput
        | _ => pure (.ok "")
      let start ← currentTime
      let surroundings : Program.Surroundings :=
        { environment, files, input, start, time := Timestamp.ofEventTime start }
      let identifiers ← (List.range (lineCount surroundings arguments)).mapM fun _ =>
        randomIdentifier
      return { surroundings with identifiers }

/-- Bring about what changed in the tree, directories before what is in them. -/
def applyChanges (before after : FileTree) : IO Unit := do
  let changed := after.nodes.filter fun (place, node) => before.node? place != some node
  for (place, node) in changed.mergeSort fun left right => left.1.length ≤ right.1.length do
    match node with
    | .directory => IO.FS.createDirAll (placeText place)
    | .file text => IO.FS.writeFile (placeText place) text

end Telemetry.Main

open Telemetry in
def main (words : List String) : IO UInt32 := do
  let surroundings ← Main.survey words
  let outcome := Program.run surroundings words
  Main.applyChanges surroundings.files outcome.files
  IO.print outcome.stdout
  IO.eprint outcome.stderr
  return outcome.code.toUInt32
