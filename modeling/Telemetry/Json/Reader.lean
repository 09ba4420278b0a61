import Telemetry.Json.Basic

/-!
Contract: strict reading of JSON text.

Owns: blanks, literals, numbers, strings with their escapes, arrays and
objects, and the rule that nothing but blanks follows the document.

Does not own: the range of numbers, duplicate keys, or what a document means;
see `Json.Decoding`.
-/

namespace Telemetry.Json

open Telemetry.Text

/-- Blank, tab, carriage return and line feed. -/
def isJsonBlank (character : Char) : Bool :=
  character = ' ' || character = '\t' || character = '\r' || character = '\n'

def skipBlanks (text : List Char) : List Char :=
  text.dropWhile isJsonBlank

def hexValue? (character : Char) : Option Nat :=
  if '0' ≤ character ∧ character ≤ '9' then some (character.toNat - '0'.toNat)
  else if 'a' ≤ character ∧ character ≤ 'f' then some (character.toNat - 'a'.toNat + 10)
  else if 'A' ≤ character ∧ character ≤ 'F' then some (character.toNat - 'A'.toNat + 10)
  else none

/-- The code unit that four hexadecimal digits denote. -/
def codeUnit? (first second third fourth : Char) : Option Nat := do
  let a ← hexValue? first
  let b ← hexValue? second
  let c ← hexValue? third
  let d ← hexValue? fourth
  some (((a * 16 + b) * 16 + c) * 16 + d)

def isLeadSurrogate (unit : Nat) : Bool := 0xd800 ≤ unit && unit ≤ 0xdbff

def isTrailSurrogate (unit : Nat) : Bool := 0xdc00 ≤ unit && unit ≤ 0xdfff

/-- The character a surrogate pair denotes. -/
def pairedCharacter (lead trail : Nat) : Char :=
  Char.ofNat (0x10000 + (lead - 0xd800) * 0x400 + (trail - 0xdc00))

/-- The character of a one-letter escape. -/
def shortEscape? (letter : Char) : Option Char :=
  if letter = '"' then some '"'
  else if letter = '\\' then some '\\'
  else if letter = '/' then some '/'
  else if letter = 'b' then some (Char.ofNat 0x8)
  else if letter = 'f' then some (Char.ofNat 0xc)
  else if letter = 'n' then some '\n'
  else if letter = 'r' then some '\r'
  else if letter = 't' then some '\t'
  else none

/-- What a string literal is made of: characters, and the code units its numeric
escapes name. -/
inductive StringUnit where
  | character (value : Char)
  | codeUnit (value : Nat)
deriving DecidableEq, Repr

/-- The rest of a string literal after its opening quote, and what follows it. -/
def readUnits? : List Char → Option (List StringUnit × List Char)
  | [] => none
  | '"' :: rest => some ([], rest)
  | '\\' :: 'u' :: a :: b :: c :: d :: rest =>
      match codeUnit? a b c d, readUnits? rest with
      | some unit, some (units, rest) => some (.codeUnit unit :: units, rest)
      | _, _ => none
  | '\\' :: letter :: rest =>
      match shortEscape? letter, readUnits? rest with
      | some character, some (units, rest) => some (.character character :: units, rest)
      | _, _ => none
  | character :: rest =>
      if character.toNat < 0x20 || character = '\\' then none
      else
        match readUnits? rest with
        | some (units, rest) => some (.character character :: units, rest)
        | none => none

/-- The characters that units denote; none when a surrogate is not part of a pair. -/
def decodeUnits? : List StringUnit → Option (List Char)
  | [] => some []
  | .character value :: rest => (decodeUnits? rest).map (value :: ·)
  | .codeUnit lead :: .codeUnit trail :: rest =>
      if isLeadSurrogate lead then
        if isTrailSurrogate trail then
          (decodeUnits? rest).map (pairedCharacter lead trail :: ·)
        else none
      else if isTrailSurrogate lead then none
      else (decodeUnits? (.codeUnit trail :: rest)).map (Char.ofNat lead :: ·)
  | .codeUnit unit :: rest =>
      if isLeadSurrogate unit || isTrailSurrogate unit then none
      else (decodeUnits? rest).map (Char.ofNat unit :: ·)

def readText? (text : List Char) : Option (Option String × List Char) :=
  (readUnits? text).map fun (units, rest) => ((decodeUnits? units).map String.ofList, rest)

/-- The whole digits of a number: a single zero, or digits that start with none. -/
def readWhole? : List Char → Option (List Char × List Char)
  | [] => none
  | first :: rest =>
      if first = '0' then
        match rest with
        | next :: _ => if isDigit next then none else some (['0'], rest)
        | [] => some (['0'], [])
      else if isDigit first then some (first :: rest.takeWhile isDigit, rest.dropWhile isDigit)
      else none

/-- The digits after a point, if one follows. -/
def readFraction? : List Char → Option (List Char × List Char)
  | '.' :: rest =>
      match rest.takeWhile isDigit with
      | [] => none
      | digits => some (digits, rest.dropWhile isDigit)
  | rest => some ([], rest)

/-- The value of an exponent, if one follows. -/
def readExponent? : List Char → Option (Option Int × List Char)
  | [] => some (none, [])
  | mark :: rest =>
      if mark = 'e' ∨ mark = 'E' then
        let (negative, digits) := match rest with
          | '-' :: digits => (true, digits)
          | '+' :: digits => (false, digits)
          | digits => (false, digits)
        match digits.takeWhile isDigit with
        | [] => none
        | run =>
            let magnitude : Int := digitsValue run
            some (some (if negative then -magnitude else magnitude), digits.dropWhile isDigit)
      else some (none, mark :: rest)

def readNumber? (text : List Char) : Option (JsonNumber × List Char) := do
  let (negative, unsigned) := match text with
    | '-' :: rest => (true, rest)
    | rest => (false, rest)
  let (whole, afterWhole) ← readWhole? unsigned
  let (fraction, afterFraction) ← readFraction? afterWhole
  let (exponent, rest) ← readExponent? afterFraction
  some ({ negative, whole, fraction, exponent }, rest)

/-- The text after a word that the text must start with. -/
def readWord? (word : List Char) (text : List Char) : Option (List Char) :=
  if word.isPrefixOf text then some (text.drop word.length) else none

mutual

/-- One document from the front of the text; `depth` bounds the nested readings. -/
def readValue? (depth : Nat) (text : List Char) : Option (Json × List Char) :=
  match depth with
  | 0 => none
  | depth + 1 =>
      match skipBlanks text with
      | [] => none
      | '"' :: rest => (readText? rest).map fun (value, rest) => (.string value, rest)
      | '[' :: rest =>
          match skipBlanks rest with
          | ']' :: rest => some (.array [], rest)
          | rest => (readItems? depth rest).map fun (items, rest) => (.array items, rest)
      | '\x7b' :: rest =>
          match skipBlanks rest with
          | '\x7d' :: rest => some (.object [], rest)
          | rest => (readEntries? depth rest).map fun (entries, rest) => (.object entries, rest)
      | 'n' :: rest => (readWord? "ull".toList rest).map fun rest => (.null, rest)
      | 't' :: rest => (readWord? "rue".toList rest).map fun rest => (.bool true, rest)
      | 'f' :: rest => (readWord? "alse".toList rest).map fun rest => (.bool false, rest)
      | text => (readNumber? text).map fun (literal, rest) => (.number literal, rest)

/-- The items of an array up to and with its closing bracket. -/
def readItems? (depth : Nat) (text : List Char) : Option (List Json × List Char) :=
  match depth with
  | 0 => none
  | depth + 1 =>
      match readValue? depth text with
      | none => none
      | some (item, rest) =>
          match skipBlanks rest with
          | ',' :: rest => (readItems? depth rest).map fun (items, rest) => (item :: items, rest)
          | ']' :: rest => some ([item], rest)
          | _ => none

/-- The entries of an object up to and with its closing brace. -/
def readEntries? (depth : Nat) (text : List Char) :
    Option (List (Option String × Json) × List Char) :=
  match depth with
  | 0 => none
  | depth + 1 =>
      match skipBlanks text with
      | '"' :: rest =>
          match readText? rest with
          | none => none
          | some (key, rest) =>
              match skipBlanks rest with
              | ':' :: rest =>
                  match readValue? depth rest with
                  | none => none
                  | some (value, rest) =>
                      match skipBlanks rest with
                      | ',' :: rest =>
                          (readEntries? depth rest).map fun (entries, rest) =>
                            ((key, value) :: entries, rest)
                      | '\x7d' :: rest => some ([(key, value)], rest)
                      | _ => none
              | _ => none
      | _ => none

end

/-- A whole text as one document. Every nested reading takes a character, so twice the
length bounds them. -/
def parse? (text : String) : Option Json :=
  let characters := text.toList
  match readValue? (2 * characters.length + 2) characters with
  | some (document, rest) => if skipBlanks rest = [] then some document else none
  | none => none

/-- Levels of arrays and objects inside one another. -/
def nesting : Json → Nat
  | .array items => nestingItems items + 1
  | .object entries => nestingEntries entries + 1
  | _ => 0
where
  nestingItems : List Json → Nat
    | [] => 0
    | item :: items => max (nesting item) (nestingItems items)
  nestingEntries : List (Option String × Json) → Nat
    | [] => 0
    | (_, value) :: entries => max (nesting value) (nestingEntries entries)

end Telemetry.Json
