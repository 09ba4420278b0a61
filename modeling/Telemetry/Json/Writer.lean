import Telemetry.Json.Basic

/-!
Contract: the text of JSON documents.

Owns: string escapes, compact text, and indented text with two blanks a level.

Only quotes, backslashes and characters below U+0020 are escaped.
-/

namespace Telemetry.Json

def hexDigit (value : Nat) : Char :=
  (Nat.toDigits 16 value).headD '0'

/-- A character as it stands inside a JSON string. -/
def escapedCharacter (character : Char) : List Char :=
  if character = '"' then ['\\', '"']
  else if character = '\\' then ['\\', '\\']
  else if character = '\n' then ['\\', 'n']
  else if character = '\r' then ['\\', 'r']
  else if character = '\t' then ['\\', 't']
  else if character.toNat = 0x8 then ['\\', 'b']
  else if character.toNat = 0xc then ['\\', 'f']
  else if character.toNat < 0x20 then
    ['\\', 'u', '0', '0', hexDigit (character.toNat / 16), hexDigit (character.toNat % 16)]
  else [character]

def escaped (characters : List Char) : List Char :=
  characters.flatMap escapedCharacter

/-- A string literal; a string without a text is written as if it were empty. -/
def stringLiteral (value : Option String) : List Char :=
  '"' :: (escaped (value.getD "").toList ++ ['"'])

/-- The exponent always has a sign. -/
def exponentText (exponent : Int) : List Char :=
  'e' :: (if exponent < 0 then '-' else '+') :: Nat.toDigits 10 exponent.natAbs

def numberLiteral (literal : JsonNumber) : List Char :=
  (if literal.negative then ['-'] else []) ++ literal.whole ++
    (if literal.fraction.isEmpty then [] else '.' :: literal.fraction) ++
    (literal.exponent.map exponentText).getD []

/-- Text without blanks between its tokens, followed by `rest`. -/
def compactOnto (document : Json) (rest : List Char) : List Char :=
  match document with
  | .null => "null".toList ++ rest
  | .bool true => "true".toList ++ rest
  | .bool false => "false".toList ++ rest
  | .number literal => numberLiteral literal ++ rest
  | .string value => stringLiteral value ++ rest
  | .array [] => '[' :: ']' :: rest
  | .array (item :: items) => '[' :: compactOnto item (itemsOnto items rest)
  | .object [] => '\x7b' :: '\x7d' :: rest
  | .object ((key, value) :: entries) =>
      '\x7b' :: (stringLiteral key ++ ':' :: compactOnto value (entriesOnto entries rest))
where
  itemsOnto (items : List Json) (rest : List Char) : List Char :=
    match items with
    | [] => ']' :: rest
    | item :: items => ',' :: compactOnto item (itemsOnto items rest)
  entriesOnto (entries : List (Option String × Json)) (rest : List Char) : List Char :=
    match entries with
    | [] => '\x7d' :: rest
    | (key, value) :: entries =>
        ',' :: (stringLiteral key ++ ':' :: compactOnto value (entriesOnto entries rest))

def compact (document : Json) : String :=
  String.ofList (compactOnto document [])

def lineBreak (level : Nat) (rest : List Char) : List Char :=
  '\n' :: (List.replicate (2 * level) ' ' ++ rest)

/-- Text with one item or entry a line, indented by nesting level, followed by `rest`. -/
def prettyOnto (level : Nat) (document : Json) (rest : List Char) : List Char :=
  match document with
  | .null => "null".toList ++ rest
  | .bool true => "true".toList ++ rest
  | .bool false => "false".toList ++ rest
  | .number literal => numberLiteral literal ++ rest
  | .string value => stringLiteral value ++ rest
  | .array [] => '[' :: ']' :: rest
  | .array (item :: items) =>
      '[' :: lineBreak (level + 1) (prettyOnto (level + 1) item (prettyItemsOnto level items rest))
  | .object [] => '\x7b' :: '\x7d' :: rest
  | .object ((key, value) :: entries) =>
      '\x7b' :: lineBreak (level + 1) (stringLiteral key ++ ':' :: ' ' ::
        prettyOnto (level + 1) value (prettyEntriesOnto level entries rest))
where
  prettyItemsOnto (level : Nat) (items : List Json) (rest : List Char) : List Char :=
    match items with
    | [] => lineBreak level (']' :: rest)
    | item :: items =>
        ',' :: lineBreak (level + 1)
          (prettyOnto (level + 1) item (prettyItemsOnto level items rest))
  prettyEntriesOnto
      (level : Nat)
      (entries : List (Option String × Json))
      (rest : List Char) : List Char :=
    match entries with
    | [] => lineBreak level ('\x7d' :: rest)
    | (key, value) :: entries =>
        ',' :: lineBreak (level + 1) (stringLiteral key ++ ':' :: ' ' ::
          prettyOnto (level + 1) value (prettyEntriesOnto level entries rest))

def pretty (document : Json) : String :=
  String.ofList (prettyOnto 0 document [])

end Telemetry.Json
