import Telemetry.Text.Digits

/-!
Contract: blanks, comments and strings of TOML text.

Owns: the character classes, what may stand between values, and the four forms of
strings.

A line ends with a line feed, alone or after a carriage return; inside strings
of several lines both become a line feed.
-/

namespace Telemetry.Toml

def isBlank (character : Char) : Bool :=
  character = ' ' || character = '\t'

def skipBlanks (text : List Char) : List Char :=
  text.dropWhile isBlank

/-- A line end, if one is next. -/
def lineEnd? : List Char → Option (List Char)
  | '\n' :: rest => some rest
  | '\r' :: '\n' :: rest => some rest
  | _ => none

/-- Neither a control character nor a line end; the tab is allowed. -/
def isPrintable (character : Char) : Bool :=
  character = '\t' || (0x20 ≤ character.toNat && character.toNat ≤ 0x7e) || 0x80 ≤ character.toNat

/-- Skip a comment if one is next; its line end stays. -/
def skipComment : List Char → List Char
  | '#' :: rest => rest.dropWhile isPrintable
  | text => text

/-- The rest of a line that holds nothing more than a comment, with its end. -/
def finishLine? (text : List Char) : Option (List Char) :=
  match skipComment (skipBlanks text) with
  | [] => some []
  | rest => lineEnd? rest

/-- Skip blanks, comments and line ends, as they may stand between the items of an array.
Every round takes a character, so the length of the text bounds their number. -/
def skipLines : Nat → List Char → List Char
  | 0, text => text
  | limit + 1, text =>
      let text := skipComment (skipBlanks text)
      match lineEnd? text with
      | some rest => skipLines limit rest
      | none => text

def hexValue? (character : Char) : Option Nat :=
  if '0' ≤ character ∧ character ≤ '9' then some (character.toNat - '0'.toNat)
  else if 'a' ≤ character ∧ character ≤ 'f' then some (character.toNat - 'a'.toNat + 10)
  else if 'A' ≤ character ∧ character ≤ 'F' then some (character.toNat - 'A'.toNat + 10)
  else none

/-- The character of a code point given by hexadecimal digits. -/
def codePoint? (digits : List Char) : Option Char := do
  let values ← digits.mapM hexValue?
  let code := values.foldl (fun code value => code * 16 + value) 0
  if code.isValidChar then some (Char.ofNat code) else none

/-- The character of an escape after its backslash. -/
def readEscape? : List Char → Option (Char × List Char)
  | 'u' :: a :: b :: c :: d :: rest =>
      (codePoint? [a, b, c, d]).map fun character => (character, rest)
  | 'U' :: a :: b :: c :: d :: e :: f :: g :: h :: rest =>
      (codePoint? [a, b, c, d, e, f, g, h]).map fun character => (character, rest)
  | 'b' :: rest => some (Char.ofNat 0x8, rest)
  | 'f' :: rest => some (Char.ofNat 0xc, rest)
  | 'n' :: rest => some ('\n', rest)
  | 'r' :: rest => some ('\r', rest)
  | 't' :: rest => some ('\t', rest)
  | '"' :: rest => some ('"', rest)
  | '\\' :: rest => some ('\\', rest)
  | _ => none

def push (character : Char) (read : List Char × List Char) : List Char × List Char :=
  (character :: read.1, read.2)

/-- A string of one line after its opening quote. Every character takes one of the text,
so its length bounds their number. -/
def readBasic? : Nat → List Char → Option (List Char × List Char)
  | 0, _ => none
  | _, [] => none
  | _, '"' :: rest => some ([], rest)
  | limit + 1, '\\' :: rest =>
      match readEscape? rest with
      | some (character, rest) => (readBasic? limit rest).map (push character)
      | none => none
  | limit + 1, character :: rest =>
      if isPrintable character then (readBasic? limit rest).map (push character) else none

/-- A string of one line without escapes, after its opening quote. -/
def readLiteral? : List Char → Option (List Char × List Char)
  | [] => none
  | '\'' :: rest => some ([], rest)
  | character :: rest =>
      if isPrintable character then (readLiteral? rest).map (push character) else none

/-- The rest after a backslash that joins lines: blanks, a line end, and all blanks and
line ends that follow. -/
def joinLines? (text : List Char) : Option (List Char) :=
  (lineEnd? (skipBlanks text)).map fun rest => skipEnds rest.length rest
where
  skipEnds : Nat → List Char → List Char
    | 0, text => text
    | limit + 1, text =>
        match lineEnd? (skipBlanks text) with
        | some rest => skipEnds limit rest
        | none => skipBlanks text

/-- The end of a string of several lines: three quotes, with at most two more before them
that belong to the string. -/
def closing? (quote : Char) (text : List Char) : Option (List Char × List Char) :=
  let quotes := (text.takeWhile (· = quote)).length
  if quotes < 3 then none
  else
    let extra := min (quotes - 3) 2
    some (List.replicate extra quote, text.drop (extra + 3))

/-- A string of several lines, after its opening quotes and the line end next to them. -/
def readLongBasic? : Nat → List Char → Option (List Char × List Char)
  | 0, _ => none
  | limit + 1, text =>
      match closing? '"' text with
      | some closed => some closed
      | none =>
          match text with
          | [] => none
          | '\\' :: rest =>
              match joinLines? rest with
              | some rest => readLongBasic? limit rest
              | none =>
                  match readEscape? rest with
                  | some (character, rest) => (readLongBasic? limit rest).map (push character)
                  | none => none
          | character :: rest =>
              match lineEnd? text with
              | some rest => (readLongBasic? limit rest).map (push '\n')
              | none =>
                  if isPrintable character then (readLongBasic? limit rest).map (push character)
                  else none

/-- A string of several lines without escapes. -/
def readLongLiteral? : Nat → List Char → Option (List Char × List Char)
  | 0, _ => none
  | limit + 1, text =>
      match closing? '\'' text with
      | some closed => some closed
      | none =>
          match text with
          | [] => none
          | character :: rest =>
              match lineEnd? text with
              | some rest => (readLongLiteral? limit rest).map (push '\n')
              | none =>
                  if isPrintable character then (readLongLiteral? limit rest).map (push character)
                  else none

/-- A line end right after the opening quotes does not count. -/
def skipFirstEnd (text : List Char) : List Char :=
  (lineEnd? text).getD text

/-- A string of any form. -/
def readString? (text : List Char) : Option (String × List Char) :=
  let read := match text with
    | '"' :: '"' :: '"' :: rest => readLongBasic? (rest.length + 1) (skipFirstEnd rest)
    | '\'' :: '\'' :: '\'' :: rest => readLongLiteral? (rest.length + 1) (skipFirstEnd rest)
    | '"' :: rest => readBasic? (rest.length + 1) rest
    | '\'' :: rest => readLiteral? rest
    | _ => none
  read.map fun (characters, rest) => (String.ofList characters, rest)

end Telemetry.Toml
