import Telemetry.Toml.Value

/-!
Contract: whole TOML documents.

Owns: lines, headers of tables and of tables in arrays, and the rules on opening a
table.

A header opens a table that is new, or one that only headers below it have
brought about. A header in double brackets adds a table to an array of such.
-/

namespace Telemetry.Toml

/-- The document read so far, and the path of the table that is open. -/
structure Reading where
  entries : List (String × Item) := []
  opened : List String := []

namespace Reading

/-- Set a key in the open table. -/
def addPair? (reading : Reading) (path : List String) (key : String) (value : SettingValue) :
    Option Reading := do
  let entries ← Item.changeAt false
    (fun _ entries => Item.addDotted path key value entries) reading.opened false reading.entries
  some { reading with entries }

/-- Open a table. -/
def openTable? (reading : Reading) (path : List String) (key : String) : Option Reading := do
  let opening (_ : Bool) (entries : List (String × Item)) : Option (List (String × Item)) :=
    match entries.lookup key with
    | none => some (entries ++ [(key, .table false false [])])
    | some (.table true false inner) => some (putEntry key (.table false false inner) entries)
    | some _ => none
  let entries ← Item.changeAt false opening path false reading.entries
  some { entries, opened := path ++ [key] }

/-- Add a table to an array of tables and open it. -/
def openRow? (reading : Reading) (path : List String) (key : String) : Option Reading := do
  let opening (_ : Bool) (entries : List (String × Item)) : Option (List (String × Item)) :=
    match entries.lookup key with
    | none => some (entries ++ [(key, .tables [[]])])
    | some (.tables rows) => some (putEntry key (.tables (rows ++ [[]])) entries)
    | some _ => none
  let entries ← Item.changeAt false opening path false reading.entries
  some { entries, opened := path ++ [key] }

/-- A header line after its opening brackets. -/
def readHeader? (reading : Reading) (text : List Char) : Option (Reading × List Char) :=
  match text with
  | '[' :: text => do
      let ((path, key), rest) ← readKey? text
      match rest with
      | ']' :: ']' :: rest =>
          let reading ← reading.openRow? path key
          let rest ← finishLine? rest
          some (reading, rest)
      | _ => none
  | text => do
      let ((path, key), rest) ← readKey? text
      match rest with
      | ']' :: rest =>
          let reading ← reading.openTable? path key
          let rest ← finishLine? rest
          some (reading, rest)
      | _ => none

/-- A line with a key and its value. -/
def readPair? (reading : Reading) (text : List Char) : Option (Reading × List Char) := do
  let ((path, key), rest) ← readKey? text
  match rest with
  | '=' :: rest =>
      let (value, rest) ← readValue? (2 * rest.length + 2) 0 (skipBlanks rest)
      let reading ← reading.addPair? path key value
      let rest ← finishLine? rest
      some (reading, rest)
  | _ => none

/-- Lines to the end of the text. Every line takes a character, so the length of the text
bounds their number. -/
def readLines? : Nat → Reading → List Char → Option Reading
  | 0, reading, text => if (skipBlanks text).isEmpty then some reading else none
  | limit + 1, reading, text =>
      match skipBlanks text with
      | [] => some reading
      | '#' :: rest =>
          match finishLine? ('#' :: rest) with
          | some rest => readLines? limit reading rest
          | none => none
      | '[' :: rest =>
          match reading.readHeader? rest with
          | some (reading, rest) => readLines? limit reading rest
          | none => none
      | text =>
          match lineEnd? text with
          | some rest => readLines? limit reading rest
          | none =>
              match reading.readPair? text with
              | some (reading, rest) => readLines? limit reading rest
              | none => none

end Reading

/-- The top-level entries of a document. A byte order mark may come first. -/
def parse? (text : String) : Option (List (String × SettingValue)) :=
  let characters := match text.toList with
    | '\ufeff' :: rest => rest
    | characters => characters
  (Reading.readLines? characters.length {} characters).map fun reading =>
    Item.toValue.entriesToValues reading.entries

end Telemetry.Toml
