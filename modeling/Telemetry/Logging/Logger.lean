import Telemetry.Files.Tree
import Telemetry.Logging.Filter
import Telemetry.Logging.Options
import Telemetry.Settings.Environment

/-!
Contract: the one logger of the program.

Owns: setting it up from the settings and from variables, which come first; and
the reasons why it cannot be set up.

A log file is made at once, with the directories above it.
-/

namespace Telemetry

/-- What is logged, in which format, and where. -/
structure Logger where
  filter : LogFilter
  format : LogFormat
  output : LogOutput
  /-- The path for the output to a file. -/
  file : String

namespace Logger

/-- The filter of the settings. A level that is off turns modules off too. -/
def filterOfSettings (settings : LoggingSettings) : Except TrackerError LogFilter :=
  if settings.level = "off" then .ok .off
  else
    match LogFilter.parse settings.level with
    | .error error => .error (.configuration
        ("Invalid log level '" ++ settings.level ++ "': " ++ error.message))
    | .ok filter =>
        settings.modules.foldlM
          (fun filter entry =>
            let text := entry.1 ++ "=" ++ entry.2
            match Directive.parse text with
            | .ok directive => .ok (filter.extend directive)
            | .error error => .error (.configuration
                ("Invalid log directive '" ++ text ++ "': " ++ error.message)))
          filter

/-- A variable that holds a filter comes first; one that does not is ignored. -/
def chooseFilter (environment : Environment) (settings : LoggingSettings) :
    Except TrackerError LogFilter :=
  match (environment.get? "EVENTLINE_LOG").map LogFilter.parse with
  | some (.ok filter) => .ok filter
  | _ => filterOfSettings settings

/-- A variable that is set must hold what it is for. -/
def choose
    {α : Type}
    (environment : Environment)
    (name : String)
    (parse : String → Except TrackerError α)
    (otherwise : α) : Except TrackerError α :=
  match environment.get? name with
  | some text => parse text
  | none => .ok otherwise

/-- Everything that is chosen before files are touched. -/
def plan (environment : Environment) (settings : LoggingSettings) : Except TrackerError Logger := do
  let filter ← chooseFilter environment settings
  let format ← choose environment "EVENTLINE_LOG_FORMAT" LogFormat.parse settings.format
  let output ← choose environment "EVENTLINE_LOG_OUTPUT" LogOutput.parse settings.output
  .ok { filter, format, output, file := settings.file }

/-- Make the log file if it is missing. -/
def openFile (tree : FileTree) (path : String) : Except TrackerError Unit × FileTree :=
  match tree.makeParents path with
  | (.error error, tree) =>
      (.error (.configuration ("Failed to create log directory: " ++ error.message)), tree)
  | (.ok (), tree) =>
      match tree.append path "" with
      | (.error error, tree) =>
          (.error (.configuration
            ("Failed to open log file " ++ path ++ ": " ++ error.message)), tree)
      | (.ok (), tree) => (.ok (), tree)

/-- Set the logger up. There can be only one, so that a second one is refused in the end. -/
def setUp
    (occupied : Bool)
    (environment : Environment)
    (settings : LoggingSettings)
    (tree : FileTree) : Except TrackerError Logger × FileTree :=
  match plan environment settings with
  | .error error => (.error error, tree)
  | .ok logger =>
      let (opened, tree) :=
        if logger.output = .file then openFile tree logger.file else (.ok (), tree)
      match opened with
      | .error error => (.error error, tree)
      | .ok () =>
          if occupied then (.error (.configuration "Failed to install logger"), tree)
          else (.ok logger, tree)

end Logger

end Telemetry
