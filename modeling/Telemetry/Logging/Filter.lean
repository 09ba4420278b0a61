import Telemetry.Log
import Telemetry.Text.Blank
import Telemetry.Text.Digits
import Telemetry.Text.Lowercase
import Telemetry.Text.Unprintable

/-!
Contract: which log entries are written.

Owns:
- directives, which say how much is written for a target, and their text;
- filters, in which the most specific directive for an entry decides.

A directive is a level, a target, or `target=level`. A part in brackets between
the two limits it to spans of a name or to entries with certain fields. There
are no spans here, so a directive for spans of a name lets nothing through.
-/

namespace Telemetry

/-- The most that is written; none is nothing at all. -/
abbrev Threshold : Type := Option LogLevel

namespace Threshold

def allows (threshold : Threshold) (level : LogLevel) : Bool :=
  match threshold with
  | some most => level.verbosity ≤ most.verbosity
  | none => false

def ofNumber? : Nat → Option Threshold
  | 0 => some none
  | 1 => some (some .error)
  | 2 => some (some .warn)
  | 3 => some (some .info)
  | 4 => some (some .debug)
  | 5 => some (some .trace)
  | _ => none

/-- A number up to five, or a name with letters of either case. No name at all means
errors. -/
def parse? (text : String) : Option Threshold :=
  match (Text.readUnsigned? 64 text.toList).bind ofNumber? with
  | some threshold => some threshold
  | none =>
      let name := Text.asciiLowercase text
      if name = "" ∨ name = "error" then some (some .error)
      else if name = "warn" then some (some .warn)
      else if name = "info" then some (some .info)
      else if name = "debug" then some (some .debug)
      else if name = "trace" then some (some .trace)
      else if name = "off" then some none
      else none

end Threshold

structure Directive where
  target : Option String := none
  /-- The name of the spans that it is limited to. -/
  span : Option String := none
  /-- Fields that it asks for, and whether it asks for values of them. -/
  fields : List (String × Bool) := []
  threshold : Threshold := some .trace
deriving DecidableEq, Repr

inductive DirectiveError where
  | malformed
  | level
deriving DecidableEq, Repr

def DirectiveError.message : DirectiveError → String
  | .malformed => "invalid filter directive"
  | .level => "error parsing level filter: expected one of \"off\", \"error\", \"warn\", " ++
      "\"info\", \"debug\", \"trace\", or a number 0-5"

namespace Directive

/-- A directive begins with a letter, a digit, a hyphen, a colon or an underscore. -/
def canStart (character : Char) : Bool :=
  character = '-' || character = ':' || character = '_' || character.isAlphanum ||
    (127 < character.toNat && !Text.isWhiteSpace character && !Text.isUnprintable character)

/-- The level after an equals sign; none at all means everything. Nothing follows a comma. -/
def withLevel (directive : Directive) (text : List Char) : Except DirectiveError Directive :=
  let word := text.takeWhile (· ≠ ',')
  let rest := text.dropWhile (· ≠ ',')
  if word = [] then
    if rest.length ≤ 1 then .ok directive else .error .malformed
  else
    match Threshold.parse? (String.ofList word) with
    | none => .error .level
    | some threshold =>
        if rest.length ≤ 1 then .ok { directive with threshold } else .error .malformed

/-- What follows the closing bracket. -/
def afterBracket (directive : Directive) : List Char → Except DirectiveError Directive
  | [] => .ok directive
  | '=' :: rest => directive.withLevel rest
  | _ => .error .malformed

/-- A field, or a field with a value after an equals sign. -/
def fieldOf (text : List Char) : String × Bool :=
  (String.ofList (text.takeWhile (· ≠ '=')), text.contains '=')

/-- Fields up to the closing brace, of which `read` has been read of the current one. -/
def readFields (directive : Directive) (read : List Char) :
    List Char → Except DirectiveError Directive
  | [] => .error .malformed
  | '\x7d' :: rest =>
      if read = [] then .error .malformed
      else
        match rest with
        | ']' :: rest =>
            afterBracket
              { directive with fields := directive.fields ++ [fieldOf read.reverse] } rest
        | _ => .error .malformed
  | ',' :: rest =>
      if read = [] then .error .malformed
      else
        readFields { directive with fields := directive.fields ++ [fieldOf read.reverse] } [] rest
  | character :: rest => readFields directive (character :: read) rest

def isBracketStop (character : Char) : Bool :=
  character = ']' || character = '\x7b'

/-- The part after an opening bracket. -/
def withBracket (directive : Directive) (text : List Char) : Except DirectiveError Directive :=
  let name := String.ofList (text.takeWhile fun character => !isBracketStop character)
  match text.dropWhile fun character => !isBracketStop character with
  | ']' :: rest => afterBracket { directive with span := some name } rest
  | '\x7b' :: rest =>
      readFields { directive with span := if name = "" then none else some name } [] rest
  | _ => .error .malformed

/-- A word alone is a level if it can be one, and otherwise a target. -/
def ofWord (word : String) : Directive :=
  match Threshold.parse? word with
  | some threshold => { threshold }
  | none => { target := some word }

def isWordStop (character : Char) : Bool :=
  character = '=' || character = '[' || character = ','

def ofCharacters : List Char → Except DirectiveError Directive
  | [] => .error .malformed
  | '[' :: rest => withBracket {} rest
  | character :: rest =>
      if canStart character then
        let text := character :: rest
        let word := String.ofList (text.takeWhile fun character => !isWordStop character)
        match text.dropWhile fun character => !isWordStop character with
        | [] => .ok (ofWord word)
        | [','] => .ok (ofWord word)
        | '=' :: rest => withLevel { target := some word } rest
        | '[' :: rest => withBracket { target := some word } rest
        | _ => .error .malformed
      else .error .malformed

def parse (text : String) : Except DirectiveError Directive :=
  ofCharacters (Text.trimmed text.toList)

/-- It speaks of entries, and not only of spans. -/
def forEntries (directive : Directive) : Bool :=
  directive.span.isNone && directive.fields.all fun field => !field.2

def fieldNames (directive : Directive) : List String :=
  directive.fields.map Prod.fst

def covers (directive : Directive) (entry : LogEntry) : Bool :=
  (match directive.target with
    | none => true
    | some target => target.toList.isPrefixOf entry.target.toList) &&
  directive.fieldNames.all fun name => name = "message" || (entry.fields.lookup name).isSome

/-- Bytes of the target; no target is less than the empty one. -/
def targetRank (directive : Directive) : Nat :=
  match directive.target with
  | none => 0
  | some target => target.utf8ByteSize + 1

/-- Longer targets are more specific, then more fields. -/
def moreSpecific (left right : Directive) : Bool :=
  left.targetRank > right.targetRank ||
    (left.targetRank = right.targetRank && left.fields.length > right.fields.length)

/-- Both speak of the same entries. -/
def sameScope (left right : Directive) : Bool :=
  left.target = right.target && left.fieldNames = right.fieldNames

end Directive

/-- Directives for entries, the most specific first. -/
structure LogFilter where
  directives : List Directive := []
deriving DecidableEq, Repr

namespace LogFilter

/-- Put a directive in its place. It replaces one for the same entries. -/
def add (filter : LogFilter) (directive : Directive) : LogFilter :=
  let others := filter.directives.filter fun other => !other.sameScope directive
  { directives :=
      others.takeWhile (fun other => !directive.moreSpecific other) ++ directive ::
        others.dropWhile (fun other => !directive.moreSpecific other) }

/-- The most specific directive for an entry decides. -/
def allows (filter : LogFilter) (entry : LogEntry) : Bool :=
  match filter.directives.find? fun directive => directive.covers entry with
  | some directive => directive.threshold.allows entry.level
  | none => false

/-- A filter for errors only. -/
def errorsOnly : LogFilter := { directives := [{ threshold := some .error }] }

def off : LogFilter := { directives := [{ threshold := none }] }

def ofDirectives (directives : List Directive) : LogFilter :=
  if directives.isEmpty then errorsOnly
  else (directives.filter Directive.forEntries).foldl add {}

/-- Directives with commas between them; no directive at all means errors only. -/
def parse (text : String) : Except DirectiveError LogFilter := do
  let directives ← ((text.splitOn ",").filter (· ≠ "")).mapM Directive.parse
  .ok (ofDirectives directives)

/-- Add one more directive to a filter. -/
def extend (filter : LogFilter) (directive : Directive) : LogFilter :=
  if directive.forEntries then filter.add directive else filter

end LogFilter

end Telemetry
