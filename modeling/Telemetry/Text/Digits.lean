import Telemetry.Word

/-!
Contract: decimal digits in text.

Owns:
- the digit class, the value of a digit run, and whole-number reading;
- the decimal text of a natural number.

Does not own: fractions and exponents.
-/

namespace Telemetry.Text

/-- The ten ASCII digits. -/
def isDigit (character : Char) : Bool :=
  '0' ≤ character && character ≤ '9'

def digitValue (character : Char) : Nat :=
  character.toNat - '0'.toNat

/-- The number a run of digits denotes, continuing from `value`. -/
def digitsValueFrom (value : Nat) : List Char → Nat
  | [] => value
  | digit :: rest => digitsValueFrom (value * 10 + digitValue digit) rest

def digitsValue (digits : List Char) : Nat :=
  digitsValueFrom 0 digits

/-- A non-empty run of digits and nothing else. -/
def readNatural? (text : List Char) : Option Nat :=
  if text ≠ [] ∧ text.all isDigit then some (digitsValue text) else none

/-- A natural number below `2 ^ bits`; one leading plus sign is allowed. -/
def readUnsigned? (bits : Nat) (text : List Char) : Option Nat := do
  let digits := match text with
    | '+' :: rest => rest
    | _ => text
  let value ← readNatural? digits
  if value < Word.size bits then some value else none

/-- An integer that fits in `bits` bits of two's complement; one leading sign is allowed. -/
def readSigned? (bits : Nat) (text : List Char) : Option Int :=
  match text with
  | '-' :: rest => do
      let magnitude ← readNatural? rest
      if magnitude ≤ Word.size (bits - 1) then some (-(magnitude : Int)) else none
  | _ => do
      let value ← readUnsigned? (bits - 1) text
      some (value : Int)

def decimal (value : Nat) : String :=
  String.ofList (Nat.toDigits 10 value)

/-- Decimal text filled up with leading zeros to `width` digits. -/
def padded (width value : Nat) : String :=
  let digits := Nat.toDigits 10 value
  String.ofList (List.replicate (width - digits.length) '0' ++ digits)

end Telemetry.Text
