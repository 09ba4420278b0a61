import Telemetry.Settings.Layer
import Telemetry.Toml.Scalar

/-!
Contract: values and keys of TOML text.

Owns: arrays, inline tables, dotted keys, and the tables that dotted keys build
up.

Arrays and inline tables nest at most 79 levels, and a dotted key has at most 79
parts. No key is set twice, and a dotted key does not reach into a table that was
given as a whole.
-/

namespace Telemetry.Toml

/-- What a table holds while a document is read. A table is implicit until a header of
its own opens it, and dotted when dotted keys made it. -/
inductive Item where
  | value (value : SettingValue)
  | table (implicit dotted : Bool) (entries : List (String × Item))
  | tables (rows : List (List (String × Item)))

namespace Item

def toValue : Item → SettingValue
  | .value given => given
  | .table _ _ entries => .table (entriesToValues entries)
  | .tables rows => .array (rowsToValues rows)
where
  entriesToValues : List (String × Item) → List (String × SettingValue)
    | [] => []
    | (key, item) :: rest => (key, item.toValue) :: entriesToValues rest
  rowsToValues : List (List (String × Item)) → List SettingValue
    | [] => []
    | row :: rest => .table (entriesToValues row) :: rowsToValues rest

/-- Change the table at a path. Missing tables are made; `dotted` says that a dotted key
leads there, which may not enter a table with a header. The change is told whether
its table was made by dotted keys. -/
def changeAt
    (dotted : Bool)
    (change : Bool → List (String × Item) → Option (List (String × Item))) :
    List String → Bool → List (String × Item) → Option (List (String × Item))
  | [], made, entries => change made entries
  | key :: path, _, entries =>
      match entries.lookup key with
      | none =>
          (changeAt dotted change path dotted []).map fun inner =>
            entries ++ [(key, .table true dotted inner)]
      | some (.value _) => none
      | some (.table implicit made inner) =>
          if dotted && !implicit then none
          else
            (changeAt dotted change path made inner).map fun inner =>
              putEntry key (.table implicit made inner) entries
      | some (.tables rows) =>
          match rows.getLast? with
          | none => none
          | some row =>
              (changeAt dotted change path false row).map fun row =>
                putEntry key (.tables (rows.dropLast ++ [row])) entries

/-- Set a key that is not set yet. -/
def addNew (key : String) (item : Item) (entries : List (String × Item)) :
    Option (List (String × Item)) :=
  match entries.lookup key with
  | some _ => none
  | none => some (entries ++ [(key, item)])

/-- Set a dotted key in a table. The last table on the way must have been made by dotted
keys. -/
def addDotted (path : List String) (key : String) (value : SettingValue)
    (entries : List (String × Item)) : Option (List (String × Item)) :=
  changeAt true
    (fun made entries => if made = path.isEmpty then none else addNew key (.value value) entries)
    path false entries

end Item

/-- The most levels of arrays and inline tables, and the most parts of a key, plus one. -/
def nestingLimit : Nat := 80

def isBareKey (character : Char) : Bool :=
  ('a' ≤ character && character ≤ 'z') || ('A' ≤ character && character ≤ 'Z') ||
    ('0' ≤ character && character ≤ '9') || character = '_' || character = '-'

/-- One part of a key: bare, or a string of one line. -/
def readKeyPart? (text : List Char) : Option (String × List Char) :=
  match text with
  | '"' :: rest =>
      (readBasic? (rest.length + 1) rest).map fun (key, rest) => (String.ofList key, rest)
  | '\'' :: rest => (readLiteral? rest).map fun (key, rest) => (String.ofList key, rest)
  | text =>
      match text.takeWhile isBareKey with
      | [] => none
      | key => some (String.ofList key, text.dropWhile isBareKey)

/-- The parts of a key, with blanks around each of them. Every part takes a character, so
the length of the text bounds their number. -/
def readParts? : Nat → List Char → Option (List String × List Char)
  | 0, _ => none
  | limit + 1, text =>
      match readKeyPart? (skipBlanks text) with
      | none => none
      | some (part, rest) =>
          match skipBlanks rest with
          | '.' :: rest =>
              (readParts? limit rest).map fun (parts, rest) => (part :: parts, rest)
          | rest => some ([part], rest)

/-- A key: the path to its table, and its last part. -/
def readKey? (text : List Char) : Option ((List String × String) × List Char) := do
  let (parts, rest) ← readParts? (text.length + 1) text
  let key ← parts.getLast?
  if parts.length < nestingLimit then some ((parts.dropLast, key), rest) else none

def readWord? (word : String) (value : SettingValue) (text : List Char) :
    Option (SettingValue × List Char) :=
  if word.toList.isPrefixOf text then some (value, text.drop word.length) else none

mutual

/-- One value; `limit` bounds the nested readings, `level` counts the arrays and inline
tables around. -/
def readValue? (limit level : Nat) (text : List Char) : Option (SettingValue × List Char) :=
  match limit with
  | 0 => none
  | limit + 1 =>
      match text with
      | [] => none
      | '[' :: rest =>
          if level + 1 < nestingLimit then
            (readItems? limit (level + 1) rest).map fun (items, rest) => (.array items, rest)
          else none
      | '\x7b' :: rest =>
          if level + 1 < nestingLimit then
            match skipBlanks rest with
            | '\x7d' :: rest => some (.table [], rest)
            | rest =>
                (readPairs? limit (level + 1) [] rest).map fun (entries, rest) =>
                  (.table (Item.toValue.entriesToValues entries), rest)
          else none
      | '"' :: _ => (readString? text).map fun (value, rest) => (.text value, rest)
      | '\'' :: _ => (readString? text).map fun (value, rest) => (.text value, rest)
      | 't' :: _ => readWord? "true" (.bool true) text
      | 'f' :: _ => readWord? "false" (.bool false) text
      | _ => (readDateTime? text).or (readNumber? text)

/-- The items of an array up to and with its closing bracket. A comma may follow the
last one. -/
def readItems? (limit level : Nat) (text : List Char) : Option (List SettingValue × List Char) :=
  match limit with
  | 0 => none
  | limit + 1 =>
      match skipLines text.length text with
      | ']' :: rest => some ([], rest)
      | text =>
          match readValue? limit level text with
          | none => none
          | some (item, rest) =>
              match skipLines rest.length rest with
              | ',' :: rest =>
                  (readItems? limit level rest).map fun (items, rest) => (item :: items, rest)
              | ']' :: rest => some ([item], rest)
              | _ => none

/-- The pairs of an inline table up to and with its closing brace. -/
def readPairs? (limit level : Nat) (entries : List (String × Item)) (text : List Char) :
    Option (List (String × Item) × List Char) :=
  match limit with
  | 0 => none
  | limit + 1 =>
      match readKey? text with
      | some ((path, key), '=' :: rest) =>
          match readValue? limit level (skipBlanks rest) with
          | none => none
          | some (value, rest) =>
              match Item.addDotted path key value entries with
              | none => none
              | some entries =>
                  match skipBlanks rest with
                  | ',' :: rest => readPairs? limit level entries rest
                  | '\x7d' :: rest => some (entries, rest)
                  | _ => none
      | _ => none

end

end Telemetry.Toml
