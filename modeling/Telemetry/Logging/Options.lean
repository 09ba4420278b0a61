import Telemetry.Error
import Telemetry.Text.Blank
import Telemetry.Text.Lowercase

/-!
Contract: how log entries are written, and where.

Owns: formats and outputs with their names, and the logging section of the
settings.
-/

namespace Telemetry

inductive LogFormat where
  | text
  | json
deriving DecidableEq, Repr

inductive LogOutput where
  | stdout
  | stderr
  | file
deriving DecidableEq, Repr

/-- Blanks around a name are dropped, and ASCII letters may be of either case. -/
def canonicalName (text : String) : String :=
  Text.asciiLowercase (Text.trim text)

namespace LogFormat

def name : LogFormat → String
  | .text => "text"
  | .json => "json"

def ofName? (name : String) : Option LogFormat :=
  if name = "text" then some .text
  else if name = "json" then some .json
  else none

def parse (text : String) : Except TrackerError LogFormat :=
  let name := canonicalName text
  match ofName? name with
  | some format => .ok format
  | none => .error (.configuration
      ("Invalid log format: " ++ name ++ " (must be 'json' or 'text')"))

end LogFormat

namespace LogOutput

def name : LogOutput → String
  | .stdout => "stdout"
  | .stderr => "stderr"
  | .file => "file"

def ofName? (name : String) : Option LogOutput :=
  if name = "stdout" then some .stdout
  else if name = "stderr" then some .stderr
  else if name = "file" then some .file
  else none

def parse (text : String) : Except TrackerError LogOutput :=
  let name := canonicalName text
  match ofName? name with
  | some output => .ok output
  | none => .error (.configuration
      ("Invalid log output: " ++ name ++ " (must be 'stdout', 'stderr' or 'file')"))

end LogOutput

structure LoggingSettings where
  level : String := "info"
  format : LogFormat := .text
  output : LogOutput := .stderr
  /-- The path for the output to a file. -/
  file : String := "eventline.log"
  color : Bool := true
  /-- Levels of single modules. -/
  modules : List (String × String) := []
deriving DecidableEq, Repr

end Telemetry
