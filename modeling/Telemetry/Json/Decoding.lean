import Telemetry.Json.Reader

/-!
Contract: decoding JSON documents into the values of the library.

Owns: scalars with their ranges, lists, optional values, named choices, and
records. A record is an object, or an array of its fields in order.

A record's object may hold unknown keys, each known key at most once, and no
key that is half a surrogate pair. An array may leave out trailing fields and
holds no extra ones.
-/

namespace Telemetry.Json

def toText? : Json → Option String
  | .string value => value
  | _ => none

def toBool? : Json → Option Bool
  | .bool value => some value
  | _ => none

/-- A natural number below `2 ^ bits`, written as a plain integer. -/
def toUnsigned? (bits : Nat) : Json → Option Nat
  | .number literal => literal.toUnsigned? bits
  | _ => none

def toBinary64? : Json → Option Binary64
  | .number literal => literal.toBinary64?
  | _ => none

def toList? {α : Type} (decode : Json → Option α) : Json → Option (List α)
  | .array items => items.mapM decode
  | _ => none

/-- Null stands for the absent value. -/
def toOption? {α : Type} (decode : Json → Option α) : Json → Option (Option α)
  | .null => some none
  | document => (decode document).map some

/-- The name of a choice: a string, or an object that maps the one name to null. -/
def toChoice? : Json → Option String
  | .string value => value
  | .object [(key, .null)] => key
  | _ => none

/-- The text entries of an object, later entries replacing earlier ones of the same key. -/
def toTextEntries? : Json → Option (List (String × String))
  | .object entries => entries.mapM fun (key, value) => do
      let key ← key
      let value ← toText? value
      some (key, value)
  | _ => none

/-- The value of each named field, if it is given. -/
def toRecord? (names : List String) : Json → Option (List (Option Json))
  | .array items =>
      if items.length ≤ names.length then
        some (items.map some ++ List.replicate (names.length - items.length) none)
      else none
  | .object entries => do
      let keyed ← entries.mapM fun (key, value) => key.map fun key => (key, value)
      names.mapM fun name =>
        match keyed.filter (fun entry => entry.1 = name) with
        | [] => some none
        | [(_, value)] => some (some value)
        | _ => none
  | _ => none

/-- A field that must be given. -/
def required {α : Type} (decode : Json → Option α) (field : Option Json) : Option α :=
  field.bind decode

/-- A field that has a default. -/
def defaulting {α : Type} (default : α) (decode : Json → Option α) : Option Json → Option α
  | none => some default
  | some document => decode document

end Telemetry.Json
