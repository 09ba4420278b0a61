import Telemetry.Text.Unprintable

/-!
Contract: texts and lists of texts as they are quoted in log fields.

Owns: the escapes inside quotes and the list brackets.

Does not own: JSON strings, which have escapes of their own.
-/

namespace Telemetry.Text

def lowerHex (value : Nat) : List Char :=
  Nat.toDigits 16 value

/-- A character inside quotes; one without a printed form is written by its code point. -/
def quotedCharacter (character : Char) : List Char :=
  if character = '\x00' then ['\\', '0']
  else if character = '\t' then ['\\', 't']
  else if character = '\r' then ['\\', 'r']
  else if character = '\n' then ['\\', 'n']
  else if character = '\\' then ['\\', '\\']
  else if character = '"' then ['\\', '"']
  else if isUnprintable character then
    ['\\', 'u', '\x7b'] ++ lowerHex character.toNat ++ ['\x7d']
  else [character]

def quoted (text : String) : String :=
  "\"" ++ String.ofList (text.toList.flatMap quotedCharacter) ++ "\""

def quotedList (texts : List String) : String :=
  "[" ++ ", ".intercalate (texts.map quoted) ++ "]"

end Telemetry.Text
