import Telemetry.Settings.Layer

/-!
Contract: settings from environment variables.

Owns: the variables that name a setting, and the value of their texts.

A variable `EVENTLINE__SECTION__KEY` sets the key of a section, in letters of
either case.
-/

namespace Telemetry

/-- Variables and their texts. -/
abbrev Environment : Type := List (String × String)

namespace Environment

def get? (environment : Environment) (name : String) : Option String :=
  environment.lookup name

def variableStart : List Char := "eventline__".toList

/-- Every pair of underscores becomes a point. -/
def pointed : List Char → List Char
  | '_' :: '_' :: rest => '.' :: pointed rest
  | character :: rest => character :: pointed rest
  | [] => []

/-- The key that a variable sets. -/
def settingKey? (name : String) : Option String :=
  let characters := (Text.lowercase name).toList
  if variableStart.isPrefixOf characters then
    some (String.ofList (pointed (characters.drop variableStart.length)))
  else none

/-- A truth value, an integer of 64 bits, a number, or else the text itself. -/
def settingValue (text : String) : SettingValue :=
  let word := Text.lowercase text
  if word = "true" then .bool true
  else if word = "false" then .bool false
  else
    match Text.readSigned? 64 text.toList with
    | some value => .integer value
    | none =>
        match Binary64.ofText? text with
        | some value => .float value
        | none => .text text

def layer (environment : Environment) : Settings.Layer :=
  environment.filterMap fun (name, text) =>
    (settingKey? name).map fun key => (key, settingValue text)

end Environment

end Telemetry
