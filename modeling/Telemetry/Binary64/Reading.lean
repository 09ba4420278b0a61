import Telemetry.Binary64.Basic
import Telemetry.Text.Digits

/-!
Contract: reading decimal notation into double precision.

Owns:
- the correctly rounded value of a decimal;
- the free notation of numbers in text (`1.5`, `.5`, `2e3`, `inf`, `NaN`);
- the two-step reading that number literals of JSON go through.

Does not own: the grammar of a JSON or TOML literal.
-/

namespace Telemetry.Binary64

open Telemetry.Text

def decimalLength (value : Nat) : Nat :=
  (Nat.toDigits 10 value).length

/-- The number nearest to `mantissa * 10 ^ exponent`.

Magnitudes of `10 ^ 310` and more are infinite and those below `10 ^ -330` are
zero, whatever the digits, so no huge power is ever formed. -/
def ofDecimal (negative : Bool) (mantissa : Nat) (exponent : Int) : Binary64 :=
  if mantissa = 0 then .finite negative 0 minExponent
  else
    let magnitude : Int := decimalLength mantissa + exponent
    if 310 < magnitude then .infinite negative
    else if magnitude < -330 then .finite negative 0 minExponent
    else if 0 ≤ exponent then ofRatio negative (mantissa * Nat.pow 10 exponent.toNat) 1
    else ofRatio negative mantissa (Nat.pow 10 (-exponent).toNat)

/-- The value of an exponent part: an optional sign and at least one digit. -/
def readExponent? (text : List Char) : Option Int :=
  match text with
  | '-' :: digits => (readNatural? digits).map fun value => -(value : Int)
  | '+' :: digits => (readNatural? digits).map fun value => (value : Int)
  | digits => (readNatural? digits).map fun value => (value : Int)

/-- Unsigned decimal notation: digits with at most one point among them, at least
one digit in all, and an optional exponent. -/
def readMagnitude? (negative : Bool) (text : List Char) : Option Binary64 := do
  let whole := text.takeWhile isDigit
  let afterWhole := text.dropWhile isDigit
  let (fraction, afterFraction) := match afterWhole with
    | '.' :: rest => (rest.takeWhile isDigit, rest.dropWhile isDigit)
    | rest => ([], rest)
  let exponent ← match afterFraction with
    | [] => some 0
    | mark :: rest => if mark = 'e' ∨ mark = 'E' then readExponent? rest else none
  if whole ++ fraction = [] then none
  else some (ofDecimal negative (digitsValue (whole ++ fraction)) (exponent - fraction.length))

/-- A number in free notation, or one of the words for the special values in any case. -/
def ofText? (text : String) : Option Binary64 :=
  let (negative, body) := match text.toList with
    | '-' :: rest => (true, rest)
    | '+' :: rest => (false, rest)
    | characters => (false, characters)
  let word := String.ofList (body.map Char.toLower)
  if word = "inf" ∨ word = "infinity" then some (.infinite negative)
  else if word = "nan" then some .nan
  else readMagnitude? negative body

/-- A significand of at most 64 bits scaled by a power of ten, rounding first the
significand and then the scaled number; none when the result is infinite.

Scales below `10 ^ -308` are applied in steps of `10 ^ -308`. -/
def ofScaled? (negative : Bool) (significand : Nat) (exponent : Int) : Option Binary64 :=
  let magnitude := scale (ofNat significand) exponent.natAbs
  if magnitude.isFinite then some (if negative then magnitude.negate else magnitude) else none
where
  powerOfTen (exponent : Nat) : Binary64 := ofRatio false (Nat.pow 10 exponent) 1
  scaleDown (value : Binary64) (steps : Nat) : Binary64 :=
    if steps ≤ 308 then value / powerOfTen steps
    else if value.isZero then value
    else scaleDown (value / powerOfTen 308) (steps - 308)
  termination_by steps
  scale (value : Binary64) (steps : Nat) : Binary64 :=
    if 0 ≤ exponent then
      if steps ≤ 308 then value * powerOfTen steps
      else if value.isZero then value
      else .infinite false
    else scaleDown value steps

/-- The longest digit prefix below `2 ^ 64`, and the number of digits left over. -/
def leadingDigits (value : Nat) : List Char → Nat × Nat
  | [] => (value, 0)
  | digit :: rest =>
      let next := value * 10 + digitValue digit
      if next < Word.size 64 then leadingDigits next rest else (value, rest.length + 1)

/-- A literal given by its whole digits, fraction digits and exponent, read in two
roundings; none when it overflows.

Digits past the 64-bit significand are dropped. -/
def ofLiteral? (negative : Bool) (whole fraction : List Char) (exponent : Int) : Option Binary64 :=
  let (significand, exponent) :=
    let (wholePart, dropped) := leadingDigits 0 whole
    let (significand, skipped) := leadingDigits wholePart fraction
    (significand, exponent + dropped - (fraction.length - skipped : Nat))
  ofScaled? negative significand exponent

end Telemetry.Binary64
