import Telemetry.Binary64.Reading

/-!
Contract: writing double precision in decimal notation.

Owns:
- the fewest digits that read back as the same number, and the nearest of those;
- the positional notation of messages (`2`, `0.0000001`, `-0`, `NaN`).

Does not own: reading decimal notation, and the number literals of JSON.
-/

namespace Telemetry.Binary64

open Telemetry.Text

/-- The exact bounds of the numbers that round to `significand * 2 ^ exponent`, and the
number itself, as multiples of `2 ^ (exponent - 2)`; the bounds belong to the
interval exactly when the significand is even. -/
structure RoundingInterval where
  lower : Nat
  value : Nat
  upper : Nat
  closed : Bool
deriving Repr

def roundingInterval (significand : Nat) (exponent : Int) : RoundingInterval where
  lower :=
    if significand = Nat.pow 2 52 ∧ minExponent < exponent then 4 * significand - 1
    else 4 * significand - 2
  value := 4 * significand
  upper := 4 * significand + 2
  closed := significand % 2 = 0

def RoundingInterval.contains
    (interval : RoundingInterval)
    (numerator denominator : Nat) : Bool :=
  let low := interval.lower * denominator
  let high := interval.upper * denominator
  if interval.closed then low ≤ numerator && numerator ≤ high
  else low < numerator && numerator < high

/-- Which of two decimals stands for a number that lies just between them. -/
inductive TieRule where
  | up
  | even
deriving DecidableEq, Repr

/-- The nearer of a coefficient and the next one, at their distances from the number. -/
def TieRule.nearer (rule : TieRule) (floor belowDistance aboveDistance : Nat) : Nat :=
  if belowDistance < aboveDistance then floor
  else if belowDistance = aboveDistance ∧ rule = .even ∧ floor % 2 = 0 then floor
  else floor + 1

/-- The power of ten at or below a positive ratio, for ratios above `10 ^ -400`. -/
def floorLogTen (numerator denominator : Nat) : Int :=
  (decimalLength (numerator * Nat.pow 10 400 / denominator) : Int) - 401

/-- Of the two decimals with `count` digits around the value, the nearer one that
reads back, as a coefficient and a power of ten. -/
def decimalWithDigits
    (rule : TieRule)
    (interval : RoundingInterval)
    (exponent : Int)
    (leading : Int)
    (count : Nat) : Option (Nat × Int) :=
  let power : Int := leading - count + 1
  -- Everything below is measured in units of `10 ^ power`.
  let (unitNumerator, unitDenominator) :=
    let (twoNumerator, twoDenominator) := scaledRatio 1 1 (-(exponent - 2))
    if 0 ≤ power then (twoNumerator, twoDenominator * Nat.pow 10 power.toNat)
    else (twoNumerator * Nat.pow 10 (-power).toNat, twoDenominator)
  let floor := interval.value * unitNumerator / unitDenominator
  let accepts (coefficient : Nat) : Bool :=
    interval.contains (coefficient * unitDenominator) unitNumerator
  let belowDistance := interval.value * unitNumerator - floor * unitDenominator
  let aboveDistance := (floor + 1) * unitDenominator - interval.value * unitNumerator
  match accepts floor, accepts (floor + 1) with
  | true, true => some (rule.nearer floor belowDistance aboveDistance, power)
  | true, false => some (floor, power)
  | false, true => some (floor + 1, power)
  | false, false => none

/-- The fewest digits that read back, for a significand above zero. -/
def shortestDecimal (rule : TieRule) (significand : Nat) (exponent : Int) : Nat × Int :=
  let interval := roundingInterval significand exponent
  let (numerator, denominator) := magnitudeRatio significand exponent
  let leading := floorLogTen numerator denominator
  let found := (List.range 17).findSome? fun count =>
    decimalWithDigits rule interval exponent leading (count + 1)
  let (coefficient, power) := found.getD (0, 0)
  dropZeros 20 coefficient power
where
  /-- A coefficient rounded up to the next power of ten ends in zeros. -/
  dropZeros : Nat → Nat → Int → Nat × Int
    | 0, coefficient, power => (coefficient, power)
    | limit + 1, coefficient, power =>
        if coefficient ≠ 0 ∧ coefficient % 10 = 0 then dropZeros limit (coefficient / 10) (power + 1)
        else (coefficient, power)

def signText (negative : Bool) : String :=
  if negative then "-" else ""

def zeros (count : Nat) : String :=
  String.ofList (List.replicate count '0')

/-- Digits with a decimal point after `place` of them; `place` may lie outside the digits. -/
def positional (digits : List Char) (place : Int) : String :=
  if place ≤ 0 then "0." ++ zeros (-place).toNat ++ String.ofList digits
  else if place.toNat < digits.length then
    String.ofList (digits.take place.toNat) ++ "." ++ String.ofList (digits.drop place.toNat)
  else String.ofList digits ++ zeros (place.toNat - digits.length)

/-- Positional notation with the fewest digits that read back, never an exponent. Ties go
up. -/
def display : Binary64 → String
  | .nan => "NaN"
  | .infinite negative => signText negative ++ "inf"
  | .finite negative significand exponent =>
      if significand = 0 then signText negative ++ "0"
      else
        let (coefficient, power) := shortestDecimal .up significand exponent
        let digits := Nat.toDigits 10 coefficient
        signText negative ++ positional digits (digits.length + power)

end Telemetry.Binary64
