import Telemetry.Text.Digits

/-!
Contract: reading the words of a command line.

Owns:
- what a command accepts: options, positional words and subcommands;
- going through the words of one command, with the first usage error.

An option is `--name value`, `--name=value`, or `--name` for a flag. Its value is
looked at only when the next option or positional word is accepted, or at the
end; so an unknown word after it is reported first. After `--` every word is
positional.
-/

namespace Telemetry.CommandLine

inductive UsageError where
  /-- Help was asked for. -/
  | help
  /-- Nothing was given at all. -/
  | nothingGiven
  | missingSubcommand
  | unknownSubcommand
  | unknownArgument
  /-- A value that is missing, empty where it must not be, or none of the choices. -/
  | invalidValue
  /-- A value that is no number. -/
  | unreadableValue
  /-- A value for a flag. -/
  | unexpectedValue
  /-- The same option twice. -/
  | repeatedOption
deriving DecidableEq, Repr

inductive ValueKind where
  | flag
  | text
  | path
  | count
  | choice (names : List String)
deriving DecidableEq, Repr

structure Parameter where
  name : String
  kind : ValueKind
deriving DecidableEq, Repr

namespace Parameter

/-- What is wrong with a value. -/
def fault? (parameter : Parameter) (value : String) : Option UsageError :=
  match parameter.kind with
  | .flag | .text => none
  | .path => if value = "" then some .invalidValue else none
  | .count => if (Text.readUnsigned? 64 value.toList).isNone then some .unreadableValue else none
  | .choice names => if value ∈ names then none else some .invalidValue

end Parameter

/-- What a command accepts. -/
structure Grammar where
  options : List Parameter := []
  positional : List Parameter := []
  subcommands : List String := []

/-- How far the words have been read. -/
structure Scan where
  /-- Accepted values by parameter. -/
  given : List (String × String) := []
  /-- The last parameter, and its value once it has one. -/
  pending : Option (Parameter × Option String) := none
  /-- Positional words so far. -/
  positional : Nat := 0

namespace Scan

def accept (scan : Scan) (parameter : Parameter) (value : String) : Except UsageError Scan :=
  if (scan.given.lookup parameter.name).isSome then .error .repeatedOption
  else
    match parameter.fault? value with
    | some fault => .error fault
    | none => .ok { scan with given := (parameter.name, value) :: scan.given }

/-- Accept what is pending. -/
def settle (scan : Scan) : Except UsageError Scan :=
  match scan.pending with
  | none => .ok scan
  | some (_, none) => .error .invalidValue
  | some (parameter, some value) => { scan with pending := none }.accept parameter value

def awaitsValue (scan : Scan) : Bool :=
  match scan.pending with
  | some (_, none) => true
  | _ => false

/-- A name after two hyphens, and the value after an equals sign. -/
def long? (word : String) : Option (String × Option String) :=
  match word.toList with
  | '-' :: '-' :: rest =>
      let name := String.ofList (rest.takeWhile (· ≠ '='))
      match rest.dropWhile (· ≠ '=') with
      | [] => some (name, none)
      | _ :: value => some (name, some (String.ofList value))
  | _ => none

/-- The letters after a single hyphen. -/
def short? (word : String) : Option (List Char) :=
  match word.toList with
  | '-' :: letter :: rest => some (letter :: rest)
  | _ => none

def readLong (grammar : Grammar) (scan : Scan) (name : String) (value : Option String) :
    Except UsageError Scan := do
  if name = "help" then
    if value.isSome then .error .unexpectedValue
    let _ ← scan.settle
    .error .help
  match grammar.options.find? (·.name = name) with
  | none => .error .unknownArgument
  | some option =>
      if option.kind = .flag then
        if value.isSome then .error .unexpectedValue
        (← scan.settle).accept option "true"
      else
        match value with
        | some value => (← scan.settle).accept option value
        | none => .ok { ← scan.settle with pending := some (option, none) }

def readShort (scan : Scan) (letters : List Char) : Except UsageError Scan := do
  if letters.head? = some 'h' then
    let _ ← scan.settle
    .error .help
  .error .unknownArgument

def readPositional (grammar : Grammar) (escaped : Bool) (scan : Scan) (word : String) :
    Except UsageError Scan := do
  match grammar.positional[scan.positional]? with
  | some parameter =>
      .ok { ← scan.settle with
        pending := some (parameter, some word)
        positional := scan.positional + 1 }
  | none =>
      if grammar.subcommands.isEmpty || (escaped && word ∈ grammar.subcommands) then
        .error .unknownArgument
      else .error .unknownSubcommand

/-- Read one word that is neither a subcommand nor the end of the options. -/
def readWord (grammar : Grammar) (scan : Scan) (word : String) : Except UsageError Scan :=
  match long? word with
  | some (name, value) => scan.readLong grammar name value
  | none =>
      match short? word with
      | some letters => scan.readShort letters
      | none =>
          match scan.pending with
          | some (parameter, none) =>
              .ok { scan with pending := some (parameter, some word) }
          | _ => scan.readPositional grammar false word

/-- Read words up to a subcommand, which is given with the words after it. What is
pending before a subcommand stays so. -/
def read (grammar : Grammar) (scan : Scan) (escaped : Bool) :
    List String → Except UsageError (Scan × Option (String × List String))
  | [] => do .ok (← scan.settle, none)
  | word :: words =>
      if escaped then do
        let scan ← scan.readPositional grammar true word
        scan.read grammar true words
      else if !scan.awaitsValue && word ∈ grammar.subcommands then
        .ok (scan, some (word, words))
      else if word = "--" then scan.read grammar true words
      else do
        let scan ← scan.readWord grammar word
        scan.read grammar false words

def value? (scan : Scan) (name : String) : Option String :=
  scan.given.lookup name

def isGiven (scan : Scan) (name : String) : Bool :=
  (scan.value? name).isSome

end Scan

end Telemetry.CommandLine
