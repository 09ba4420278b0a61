import Telemetry.Json.Writer
import Telemetry.Logging.Options
import Telemetry.Log
import Telemetry.Text.Digits

/-!
Contract: log entries as lines of text.

Owns: the two formats. A line begins with the time, which is given as text.
-/

namespace Telemetry

def LogValue.shown : LogValue → String
  | .number value => Text.decimal value
  | .flag true => "true"
  | .flag false => "false"
  | .text content => content

namespace LogEntry

/-- Characters that steer a terminal are shown by their numbers. -/
def shownCharacter (character : Char) : List Char :=
  let number := character.toNat
  if number = 0x1b ∨ number = 0x07 ∨ number = 0x08 ∨ number = 0x0c ∨ number = 0x7f then
    ['\\', 'x', Json.hexDigit (number / 16), Json.hexDigit (number % 16)]
  else if 0x80 ≤ number ∧ number ≤ 0x9f then
    ['\\', 'u', '\x7b', Json.hexDigit (number / 16), Json.hexDigit (number % 16), '\x7d']
  else [character]

def shownMessage (message : String) : String :=
  String.ofList (message.toList.flatMap shownCharacter)

/-- A field of the message's name shows only its value, like the message. -/
def fieldText (field : String × LogValue) : String :=
  if field.1 = "message" then shownMessage field.2.shown
  else field.1 ++ "=" ++ field.2.shown

/-- The level's name at the right of five places. -/
def levelText (level : LogLevel) : String :=
  String.ofList (List.replicate (5 - level.name.length) ' ') ++ level.name

def textLine (entry : LogEntry) (time : String) : String :=
  time ++ " " ++ levelText entry.level ++ " " ++ entry.target ++ ": " ++
    " ".intercalate (shownMessage entry.message :: entry.fields.map fieldText)

def jsonLine (entry : LogEntry) (time : String) : String :=
  (Json.fields [
    ("timestamp", .text time),
    ("level", .text entry.level.name),
    ("fields", .fields (("message", .text entry.message) ::
      entry.fields.map fun (name, value) => (name, value.toJson))),
    ("target", .text entry.target)]).compact

def line (entry : LogEntry) (format : LogFormat) (time : String) : String :=
  match format with
  | .text => entry.textLine time
  | .json => entry.jsonLine time

end LogEntry

end Telemetry
