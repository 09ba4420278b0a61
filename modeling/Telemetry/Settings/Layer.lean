import Telemetry.Settings.Value

/-!
Contract: settings laid over one another.

Owns:
- the paths that keys denote;
- putting a value at a path: tables join entry by entry, and any other value
  takes the place of what was there;
- the layer of built-in defaults.

All keys are taken in lower case.
-/

namespace Telemetry

namespace SettingValue

/-- The entries of a table; any other value has none. -/
def entries : SettingValue → List (String × SettingValue)
  | .table entries => entries
  | _ => []

/-- The items of an array; any other value has none. -/
def items : SettingValue → List SettingValue
  | .array items => items
  | _ => []

/-- Put a value under a key. What is no table becomes one first. An empty table over
another value leaves it. -/
def put (key : String) (value : SettingValue) (root : SettingValue) : SettingValue :=
  let key := Text.lowercase key
  match value with
  | .table incoming =>
      let target := (root.entries.lookup key).getD (.table [])
      .table (putEntry key (putAll incoming target) root.entries)
  | value => .table (putEntry key value root.entries)
where
  putAll : List (String × SettingValue) → SettingValue → SettingValue
    | [], target => target
    | (key, value) :: rest, target => putAll rest (put key value target)

end SettingValue

/-- One step below the first key of a path. -/
inductive PathStep where
  | child (key : String)
  | index (position : Int)
deriving DecidableEq, Repr

structure SettingPath where
  head : String
  steps : List PathStep := []
deriving DecidableEq, Repr

namespace SettingPath

def isKeyCharacter (character : Char) : Bool :=
  ('a' ≤ character && character ≤ 'z') || ('A' ≤ character && character ≤ 'Z') ||
    ('0' ≤ character && character ≤ '9') || character = ' ' || character = '_' || character = '-'

def isIndexBlank (character : Char) : Bool :=
  character = ' ' || character = '\t'

/-- A run of key characters that is not empty. -/
def readKey? (text : List Char) : Option (String × List Char) :=
  match text.takeWhile isKeyCharacter with
  | [] => none
  | key => some (String.ofList key, text.dropWhile isKeyCharacter)

/-- A position with its closing bracket; blanks may surround the number. -/
def readIndex? (text : List Char) : Option (Int × List Char) :=
  let text := text.dropWhile isIndexBlank
  let (sign, digits) := match text with
    | '-' :: rest => (['-'], rest)
    | rest => ([], rest)
  match Text.readSigned? 64 (sign ++ digits.takeWhile Text.isDigit) with
  | none => none
  | some position =>
      match (digits.dropWhile Text.isDigit).dropWhile isIndexBlank with
      | ']' :: rest => some (position, rest)
      | _ => none

/-- Steps to the end of the text; every step takes a character, so the length of the text
bounds their number. -/
def readSteps? : Nat → List Char → Option (List PathStep)
  | _, [] => some []
  | 0, _ => none
  | limit + 1, '.' :: rest => do
      let (key, rest) ← readKey? rest
      let steps ← readSteps? limit rest
      some (.child key :: steps)
  | limit + 1, '[' :: rest => do
      let (position, rest) ← readIndex? rest
      let steps ← readSteps? limit rest
      some (.index position :: steps)
  | _, _ => none

def parse? (text : String) : Option SettingPath := do
  let (head, rest) ← readKey? text.toList
  let steps ← readSteps? rest.length rest
  some { head, steps }

/-- The path of a top-level key; a key that is no path stands for itself. -/
def ofKey (key : String) : SettingPath :=
  (parse? key).getD { head := key }

/-- The place of a position in an array; negative ones count from its end. One that
goes past the front gives the first place here, where reading the settings would break
off. -/
def place (position : Int) (length : Nat) : Nat :=
  if 0 ≤ position then position.toNat else length - position.natAbs

/-- Fill an array with nil up to a place. -/
def padded (items : List SettingValue) (place : Nat) : List SettingValue :=
  items ++ List.replicate (place + 1 - items.length) .nil

/-- Put a value below `parent`, which becomes a table or an array as the path needs. -/
def putBelow (value : SettingValue) : List PathStep → SettingValue → SettingValue
  | [], _ => value
  | [.child key], parent => .put key value (.table parent.entries)
  | .child key :: steps, parent =>
      let key := Text.lowercase key
      let below := (parent.entries.lookup key).getD .nil
      .table (putEntry key (putBelow value steps below) parent.entries)
  | .index position :: steps, parent =>
      let place := place position parent.items.length
      let items := padded parent.items place
      .array (items.set place (putBelow value steps (items[place]?.getD .nil)))

def put (path : SettingPath) (value root : SettingValue) : SettingValue :=
  match path.steps with
  | [] => .put path.head value root
  | steps =>
      let key := Text.lowercase path.head
      let below := (root.entries.lookup key).getD .nil
      .table (putEntry key (putBelow value steps below) root.entries)

end SettingPath

namespace Settings

/-- What one source gives: values at top-level keys. -/
abbrev Layer : Type := List (String × SettingValue)

/-- Lay one source over what is there. -/
def overlay (root : SettingValue) (layer : Layer) : SettingValue :=
  layer.foldl (fun root entry => (SettingPath.ofKey entry.1).put entry.2 root) root

/-- Lay sources over one another, the first at the bottom. -/
def merged (layers : List Layer) : SettingValue :=
  layers.foldl overlay (.table [])

/-- The layer at the bottom. -/
def defaults : Layer := [
  ("tracker.application_id", .text "eventline"),
  ("tracker.active", .bool true),
  ("queue.batch_size", .integer 10),
  ("queue.batch_delay_ms", .integer 1000),
  ("queue.concurrency", .integer 4),
  ("retry.max_attempts", .integer 10),
  ("retry.min_timeout_ms", .integer 1000),
  ("retry.retry_factor", .float .two),
  ("wait.interval_ms", .integer 100)]

end Settings

end Telemetry
