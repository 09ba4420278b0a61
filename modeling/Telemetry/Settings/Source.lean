import Telemetry.Files.Tree
import Telemetry.Json.Decoding
import Telemetry.Settings.Layer
import Telemetry.Toml.Document

/-!
Contract: files of settings.

Owns: the formats of such files, how a path finds one, and the layer that its
text gives.
-/

namespace Telemetry

namespace JsonNumber

/-- An integer of 64 bits, or else a floating-point number. A negative zero is no integer. -/
def toSettingValue? (literal : JsonNumber) : Option SettingValue :=
  let magnitude := Text.digitsValue literal.whole
  if literal.isInteger && !(literal.negative && magnitude = 0) &&
      (if literal.negative then magnitude ≤ Word.size 63 else magnitude < Word.size 63) then
    some (.integer (if literal.negative then -(magnitude : Int) else magnitude))
  else literal.toBinary64?.map .float

end JsonNumber

namespace Json

/-- A document as a value of settings. Of two entries with one key the later one counts. -/
def toSettingValue? : Json → Option SettingValue
  | .null => some .nil
  | .bool value => some (.bool value)
  | .number literal => literal.toSettingValue?
  | .string value => value.map .text
  | .array items => (itemsToValues? items).map .array
  | .object entries => (entriesToValues? entries []).map .table
where
  itemsToValues? : List Json → Option (List SettingValue)
    | [] => some []
    | item :: items => do
        let first ← toSettingValue? item
        let rest ← itemsToValues? items
        some (first :: rest)
  entriesToValues? : List (Option String × Json) → List (String × SettingValue) →
      Option (List (String × SettingValue))
    | [], read => some read
    | (key, document) :: entries, read => do
        let key ← key
        let value ← toSettingValue? document
        entriesToValues? entries (putEntry key value read)

end Json

namespace Settings

inductive SourceFormat where
  | toml
  | json
deriving DecidableEq, Repr

namespace SourceFormat

def extension : SourceFormat → String
  | .toml => "toml"
  | .json => "json"

def all : List SourceFormat := [.toml, .json]

def ofExtension? (extension : String) : Option SourceFormat :=
  all.find? fun format => format.extension = extension

/-- Documents nested deeper than this are refused. -/
def deepestNesting : Nat := 127

/-- The layer that a text gives. A document of JSON must be an object. -/
def read? : SourceFormat → String → Option Layer
  | .toml, text => Toml.parse? text
  | .json, text => do
      let document ← Json.parse? text
      if document.nesting ≤ deepestNesting then
        match ← document.toSettingValue? with
        | .table entries => some entries
        | _ => none
      else none

end SourceFormat

/-- The file that a path finds, with its format. A path that is no file finds one with an
extension more. -/
def findSource? (tree : FileTree) (path : String) : Option (SourceFormat × String) :=
  match tree.text? path with
  | some text => do
      let extension ← Path.extension? path
      let format ← SourceFormat.ofExtension? extension
      some (format, text)
  | none => SourceFormat.all.findSome? fun format => do
      let longer ← Path.withExtension? path format.extension
      let text ← tree.text? longer
      some (format, text)

end Settings

end Telemetry
