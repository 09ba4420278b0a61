import Telemetry.CommandLine.Arguments
import Telemetry.CommandLine.Help
import Telemetry.Logging.Line
import Telemetry.Logging.Logger
import Telemetry.Replay.Run
import Telemetry.Settings.Load

/-!
Contract: the program as a function of what it is run with.

Owns:
- carrying out a command with settings;
- the logging settings that files, variables and options give together;
- a whole run: what is written where, the files afterwards, and the exit code.

Does not own: reading files and standard input, and writing; see
`Telemetry.Main`.
-/

namespace Telemetry

open CommandLine

namespace Program

/-- What the program is run with. -/
structure Surroundings where
  environment : Environment := []
  files : FileTree := {}
  /-- What standard input holds. -/
  input : Except FileError String := .ok ""
  /-- Identifiers for the events that are made. -/
  identifiers : List String := []
  /-- The time at which the program starts, in milliseconds. -/
  start : Nat := 0
  /-- The time of log lines. -/
  time : String := ""

/-- The settings that are in effect: those of a given file, or those of the workspace. -/
def load (surroundings : Surroundings) (files : FileTree) (arguments : Arguments) :
    Settings.Loaded :=
  match arguments.config with
  | some path => Settings.loadFile files surroundings.environment path
  | none => Settings.load files surroundings.environment arguments.workspace

def loadFailure (arguments : Arguments) (error : TrackerError) : Failure :=
  let circumstance := match arguments.config with
    | some path => "Failed to load config from " ++ path
    | none => "Failed to load config for " ++ arguments.workspace
  { causes := [circumstance, error.message] }

/-- The settings with what the options of a replay say instead. -/
def adjusted (settings : Settings) (options : ReplayOptions) : Settings :=
  { settings with
    tracker := { settings.tracker with
      applicationId := options.applicationId.getD settings.tracker.applicationId }
    queue := { settings.queue with
      batchSize := options.batchSize.getD settings.queue.batchSize } }

/-- The text to replay. A directory can be opened, and fails only when it is read. -/
def openInput (surroundings : Surroundings) (files : FileTree) (workspace : String) :
    Option String → Except Failure (Except FileError String)
  | none => .ok surroundings.input
  | some path =>
      let path := Path.join workspace path
      match files.find path with
      | .ok (.file text) => .ok (.ok text)
      | .ok .directory => .ok (.error .isDirectory)
      | .error error => .error { causes := ["Failed to open " ++ path, error.message] }

/-- Carry out a command: its output or failure, and the entries that it logs. -/
def execute
    (surroundings : Surroundings)
    (files : FileTree)
    (workspace : String)
    (settings : Settings) : Command → Except Failure String × List LogEntry
  | .config => (.ok settings.render, [])
  | .replay options =>
      match openInput surroundings files workspace options.input with
      | .error failure => (.error failure, [])
      | .ok input =>
          match Replay.run (adjusted settings options) options.retrying
              surroundings.identifiers surroundings.start input with
          | (.ok summary, entries) => (.ok (summary.render options.format), entries)
          | (.error failure, entries) => (.error failure, entries)

/-- Options come before the settings, whose failure to load is not yet told here. -/
def loggingSettings (surroundings : Surroundings) (arguments : Arguments) :
    Except TrackerError LoggingSettings := do
  let settings := match (load surroundings surroundings.files arguments).1 with
    | .ok settings => settings.logging
    | .error _ => {}
  let level := if arguments.verbose then "debug" else settings.level
  let format ← match arguments.logFormat with
    | some text => LogFormat.parse text
    | none => .ok settings.format
  let output ← match arguments.logOutput with
    | some text => LogOutput.parse text
    | none => .ok settings.output
  .ok { settings with
    level := arguments.logLevel.getD level
    format
    output
    file := arguments.logFile.getD settings.file }

/-- What a run came to. -/
structure Outcome where
  code : Nat
  stdout : String := ""
  stderr : String := ""
  files : FileTree

/-- A run with its logger set up. -/
structure Console where
  logger : Logger
  /-- The time of log lines. -/
  time : String
  stdout : String := ""
  stderr : String := ""
  files : FileTree

namespace Console

def write (console : Console) (output : LogOutput) (text : String) : Console :=
  match output with
  | .stdout => { console with stdout := console.stdout ++ text }
  | .stderr => { console with stderr := console.stderr ++ text }
  | .file => { console with files := (console.files.append console.logger.file text).2 }

def log (console : Console) (entry : LogEntry) : Console :=
  if console.logger.filter.allows entry then
    console.write console.logger.output (entry.line console.logger.format console.time ++ "\n")
  else console

def logAll (console : Console) (entries : List LogEntry) : Console :=
  entries.foldl log console

def exit (console : Console) (code : Nat) : Outcome where
  code := code
  stdout := console.stdout
  stderr := console.stderr
  files := console.files

def entry (level : LogLevel) (message : String) : LogEntry where
  level := level
  target := "eventline"
  message := message

/-- Log a failure and tell the user. -/
def fail (console : Console) (occasion : String) (failure : Failure) : Outcome :=
  let console := console.log (entry .error (occasion ++ ": " ++ failure.message))
  (console.write .stderr (failure.report ++ "\n")).exit 1

end Console

/-- The part of a run that is logged. -/
def runLogged (surroundings : Surroundings) (arguments : Arguments) (console : Console) :
    Outcome :=
  let console := console.log (Console.entry .info "Eventline CLI starting")
  let (loaded, entries) := load surroundings console.files arguments
  let console := console.logAll entries
  match loaded with
  | .error error => console.fail "Error loading configuration" (loadFailure arguments error)
  | .ok settings =>
      let (result, entries) :=
        execute surroundings console.files arguments.workspace settings arguments.command
      let console := console.logAll entries
      match result with
      | .error failure => console.fail "Command failed" failure
      | .ok output =>
          let console := console.log (Console.entry .info "Command completed successfully")
          (console.write .stdout (output ++ "\n")).exit 0

/-- Run the program with the words after its name. -/
def run (surroundings : Surroundings) (words : List String) : Outcome :=
  let files := surroundings.files
  match Arguments.parse words with
  | .error .help => { code := 0, stdout := helpText, files }
  | .error error => { code := 2, stderr := usageText error, files }
  | .ok arguments =>
      match loggingSettings surroundings arguments with
      | .error error =>
          { code := 2, stderr := "Invalid logging options: " ++ error.message ++ "\n", files }
      | .ok settings =>
          match Logger.setUp false surroundings.environment settings files with
          | (.error error, files) =>
              { code := 1
                stderr := "Failed to initialize logging: " ++ error.message ++ "\n"
                files }
          | (.ok logger, files) =>
              runLogged surroundings arguments { logger, time := surroundings.time, files }

end Program

end Telemetry
