import Telemetry.Settings.Value
import Telemetry.Toml.Text

/-!
Contract: numbers and dates of TOML text.

Owns: integers of 64 bits in four bases, numbers with a fraction or an exponent,
and dates and times, which settings take as their normal text.

Underscores may stand between digits. A number too large is refused, while one
too small becomes negative infinity.
-/

namespace Telemetry.Toml

open Telemetry.Text

/-- Digits of a class, with single underscores between them: the digits and the rest.
The text begins after a digit when `after` is set. -/
def readDigits? (isMember : Char → Bool) : Bool → List Char → Option (List Char × List Char)
  | false, character :: rest =>
      if isMember character then (readDigits? isMember true rest).map (push character) else none
  | true, '_' :: rest => readDigits? isMember false rest
  | true, character :: rest =>
      if isMember character then (readDigits? isMember true rest).map (push character)
      else some ([], character :: rest)
  | true, [] => some ([], [])
  | false, [] => none

/-- The sign of a number. -/
def readSign : List Char → List Char × List Char
  | '-' :: rest => (['-'], rest)
  | '+' :: rest => ([], rest)
  | rest => ([], rest)

/-- Decimal digits that do not start with a zero, or a single zero. -/
def readWhole? : List Char → Option (List Char × List Char)
  | '0' :: rest => some (['0'], rest)
  | text => readDigits? isDigit false text

/-- The exponent of a number, if one is next. -/
def readExponent? : List Char → Option (List Char × List Char)
  | mark :: rest =>
      if mark = 'e' ∨ mark = 'E' then
        let (sign, rest) := readSign rest
        (readDigits? isDigit false rest).map fun (digits, rest) => ('e' :: sign ++ digits, rest)
      else some ([], mark :: rest)
  | [] => some ([], [])

/-- The fraction of a number, if one is next. -/
def readFraction? : List Char → Option (List Char × List Char)
  | '.' :: rest => (readDigits? isDigit false rest).map (push '.')
  | rest => some ([], rest)

/-- A value from the digits of an integer in some base. -/
def integerOf? (base : Nat) (digits : List Char) : Option SettingValue := do
  let values ← digits.mapM hexValue?
  let magnitude := values.foldl (fun total value => total * base + value) 0
  if magnitude < Word.size 63 then some (.integer magnitude) else none

def isHexDigit (character : Char) : Bool := (hexValue? character).isSome

def isOctalDigit (character : Char) : Bool := '0' ≤ character && character ≤ '7'

def isBinaryDigit (character : Char) : Bool := character = '0' || character = '1'

def readBased? (base : Nat) (isMember : Char → Bool) (text : List Char) :
    Option (SettingValue × List Char) := do
  let (digits, rest) ← readDigits? isMember false text
  let value ← integerOf? base digits
  some (value, rest)

/-- A decimal integer or a number. -/
def readDecimal? (text : List Char) : Option (SettingValue × List Char) := do
  let (sign, unsigned) := readSign text
  let (whole, afterWhole) ← readWhole? unsigned
  let (fraction, afterFraction) ← readFraction? afterWhole
  let (exponent, rest) ← readExponent? afterFraction
  if fraction.isEmpty && exponent.isEmpty then
    let value ← readSigned? 64 (sign ++ whole)
    some (.integer value, rest)
  else
    let value ← Binary64.ofText? (String.ofList (sign ++ whole ++ fraction ++ exponent))
    if value = .infinite false then none else some (.float value, rest)

/-- The words for infinity and for what is not a number. -/
def readSpecial? (text : List Char) : Option (SettingValue × List Char) :=
  let (sign, word) := readSign text
  match word with
  | 'i' :: 'n' :: 'f' :: rest => some (.float (.infinite (!sign.isEmpty)), rest)
  | 'n' :: 'a' :: 'n' :: rest => some (.float .nan, rest)
  | _ => none

def readNumber? (text : List Char) : Option (SettingValue × List Char) :=
  match text with
  | '0' :: 'x' :: rest => readBased? 16 isHexDigit rest
  | '0' :: 'o' :: rest => readBased? 8 isOctalDigit rest
  | '0' :: 'b' :: rest => readBased? 2 isBinaryDigit rest
  | text => (readSpecial? text).or (readDecimal? text)

/-! Dates and times -/

/-- Exactly `count` digits. -/
def readCount? (count : Nat) (text : List Char) : Option (Nat × List Char) :=
  let digits := text.take count
  if digits.length = count ∧ digits.all isDigit then
    some (digitsValue digits, text.drop count)
  else none

def expect? (character : Char) : List Char → Option (List Char)
  | next :: rest => if next = character then some rest else none
  | [] => none

def isLeapYear (year : Nat) : Bool :=
  year % 4 = 0 && (year % 100 ≠ 0 || year % 400 = 0)

def daysInMonth (year month : Nat) : Nat :=
  if month = 2 then (if isLeapYear year then 29 else 28)
  else if month = 4 ∨ month = 6 ∨ month = 9 ∨ month = 11 then 30
  else 31

def readDate? (text : List Char) : Option (String × List Char) := do
  let (year, text) ← readCount? 4 text
  let text ← expect? '-' text
  let (month, text) ← readCount? 2 text
  let text ← expect? '-' text
  let (day, text) ← readCount? 2 text
  if 1 ≤ month ∧ month ≤ 12 ∧ 1 ≤ day ∧ day ≤ daysInMonth year month then
    some (padded 4 year ++ "-" ++ padded 2 month ++ "-" ++ padded 2 day, text)
  else none

/-- The fraction of a second: nine places count, and zeros at its end do not show. -/
def secondFraction (digits : List Char) : String :=
  let shown := ((digits.take 9).reverse.dropWhile (· = '0')).reverse
  if shown.isEmpty then "" else "." ++ String.ofList shown

def readTime? (text : List Char) : Option (String × List Char) := do
  let (hour, text) ← readCount? 2 text
  let text ← expect? ':' text
  let (minute, text) ← readCount? 2 text
  let text ← expect? ':' text
  let (second, text) ← readCount? 2 text
  if 23 < hour ∨ 59 < minute ∨ 60 < second then none
  else
    let clock := padded 2 hour ++ ":" ++ padded 2 minute ++ ":" ++ padded 2 second
    match text with
    | '.' :: rest =>
        match rest.takeWhile isDigit with
        | [] => some (clock, text)
        | digits => some (clock ++ secondFraction digits, rest.dropWhile isDigit)
    | _ => some (clock, text)

/-- The offset of a time from UTC, if one is next. -/
def readOffset? : List Char → Option (String × List Char)
  | [] => some ("", [])
  | mark :: rest =>
      if mark = 'Z' ∨ mark = 'z' then some ("Z", rest)
      else if mark = '+' ∨ mark = '-' then do
        let (hour, text) ← readCount? 2 rest
        let text ← expect? ':' text
        let (minute, text) ← readCount? 2 text
        if 23 < hour ∨ 59 < minute then none
        else
          let sign := if mark = '-' ∧ 0 < hour + minute then "-" else "+"
          some (sign ++ padded 2 hour ++ ":" ++ padded 2 minute, text)
      else some ("", mark :: rest)

def isTimeMark (character : Char) : Bool :=
  character = 'T' || character = 't' || character = ' '

/-- A date, a time, or both with or without an offset; its normal text. -/
def readDateTime? (text : List Char) : Option (SettingValue × List Char) :=
  match readDate? text with
  | none => (readTime? text).map fun (time, rest) => (.text time, rest)
  | some (date, afterDate) =>
      match afterDate with
      | [] => some (.text date, [])
      | mark :: afterMark =>
          if isTimeMark mark then
            match readTime? afterMark with
            | none => some (.text date, afterDate)
            | some (time, afterTime) =>
                (readOffset? afterTime).map fun (offset, rest) =>
                  (.text (date ++ "T" ++ time ++ offset), rest)
          else some (.text date, afterDate)

end Telemetry.Toml
