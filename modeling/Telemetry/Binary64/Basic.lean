/-!
Contract: double-precision binary floating-point numbers as exact data.

Owns:
- the number type, its rounding of exact ratios, and the operations the
  back-off formula and the settings need;
- conversions to and from natural numbers.

Does not own: decimal notation, which is read in `Binary64.Reading` and
written in `Binary64.Shortest`.

Every operation rounds the exact result once, to the nearest representable
number and to the even significand on a tie. A finite number is kept as
`significand * 2 ^ exponent`.
-/

namespace Telemetry

inductive Binary64 where
  | nan
  | infinite (negative : Bool)
  | finite (negative : Bool) (significand : Nat) (exponent : Int)
deriving DecidableEq, Repr, Inhabited

namespace Binary64

/-- Smallest exponent of a finite number. -/
def minExponent : Int := -1074

/-- Largest exponent of a finite number. -/
def maxExponent : Int := 971

/-- The quotient rounded to the nearest natural number, to the even one on a tie. -/
def divideToEven (numerator denominator : Nat) : Nat :=
  let quotient := numerator / denominator
  let remainder := numerator % denominator
  if 2 * remainder < denominator then quotient
  else if denominator < 2 * remainder then quotient + 1
  else if quotient % 2 = 0 then quotient
  else quotient + 1

/-- `numerator / denominator / 2 ^ exponent` as a ratio of natural numbers. -/
def scaledRatio (numerator denominator : Nat) (exponent : Int) : Nat × Nat :=
  if 0 ≤ exponent then (numerator, denominator * Nat.pow 2 exponent.toNat)
  else (numerator * Nat.pow 2 (-exponent).toNat, denominator)

/-- The exponent at which a positive ratio has a significand of 53 bits, or the
smallest exponent when the ratio lies below the normal range. -/
def normalExponent (numerator denominator : Nat) : Int :=
  let estimate : Int := (numerator.log2 : Int) - (denominator.log2 : Int) - 52
  let (scaledNumerator, scaledDenominator) := scaledRatio numerator denominator estimate
  let exponent :=
    if scaledNumerator < scaledDenominator * Nat.pow 2 52 then estimate - 1 else estimate
  max exponent minExponent

/-- The number nearest to a non-negative ratio, with the given sign. -/
def ofRatio (negative : Bool) (numerator denominator : Nat) : Binary64 :=
  if numerator = 0 then .finite negative 0 minExponent
  else
    let exponent := normalExponent numerator denominator
    let (scaledNumerator, scaledDenominator) := scaledRatio numerator denominator exponent
    let significand := divideToEven scaledNumerator scaledDenominator
    if significand = Nat.pow 2 53 then
      if maxExponent < exponent + 1 then .infinite negative
      else .finite negative (Nat.pow 2 52) (exponent + 1)
    else if maxExponent < exponent then .infinite negative
    else .finite negative significand exponent

def ofNat (value : Nat) : Binary64 := ofRatio false value 1

def ofInt (value : Int) : Binary64 := ofRatio (value < 0) value.natAbs 1

def zero : Binary64 := ofNat 0

def one : Binary64 := ofNat 1

def two : Binary64 := ofNat 2

def isFinite : Binary64 → Bool
  | .finite .. => true
  | _ => false

def isZero : Binary64 → Bool
  | .finite _ significand _ => significand == 0
  | _ => false

/-- Finite and above zero. -/
def isPositive : Binary64 → Bool
  | .finite negative significand _ => !negative && 0 < significand
  | _ => false

def negate : Binary64 → Binary64
  | .nan => .nan
  | .infinite negative => .infinite (!negative)
  | .finite negative significand exponent => .finite (!negative) significand exponent

/-- The magnitude `significand * 2 ^ exponent` as a ratio. -/
def magnitudeRatio (significand : Nat) (exponent : Int) : Nat × Nat :=
  scaledRatio significand 1 (-exponent)

protected def mul : Binary64 → Binary64 → Binary64
  | .nan, _ => .nan
  | _, .nan => .nan
  | .infinite left, .infinite right => .infinite (left != right)
  | .infinite left, .finite right significand _ =>
      if significand = 0 then .nan else .infinite (left != right)
  | .finite left significand _, .infinite right =>
      if significand = 0 then .nan else .infinite (left != right)
  | .finite left leftSignificand leftExponent, .finite right rightSignificand rightExponent =>
      let (numerator, denominator) :=
        magnitudeRatio (leftSignificand * rightSignificand) (leftExponent + rightExponent)
      ofRatio (left != right) numerator denominator

protected def div : Binary64 → Binary64 → Binary64
  | .nan, _ => .nan
  | _, .nan => .nan
  | .infinite _, .infinite _ => .nan
  | .infinite left, .finite right _ _ => .infinite (left != right)
  | .finite left _ _, .infinite right => .finite (left != right) 0 minExponent
  | .finite left leftSignificand leftExponent, .finite right rightSignificand rightExponent =>
      if rightSignificand = 0 then
        if leftSignificand = 0 then .nan else .infinite (left != right)
      else
        let (numerator, denominator) :=
          magnitudeRatio leftSignificand (leftExponent - rightExponent)
        ofRatio (left != right) numerator (denominator * rightSignificand)

instance : Mul Binary64 := ⟨Binary64.mul⟩

instance : Div Binary64 := ⟨Binary64.div⟩

/-- Repeated squaring from the lowest bit of the exponent, rounding every product. -/
def powerLoop (result base : Binary64) (exponent : Nat) : Binary64 :=
  let result := if exponent % 2 = 1 then result * base else result
  if exponent / 2 = 0 then result
  else powerLoop result (base * base) (exponent / 2)
termination_by exponent

def power (base : Binary64) (exponent : Nat) : Binary64 :=
  powerLoop one base exponent

/-- The magnitude rounded to the nearest natural number, a half going up. -/
def roundedMagnitude (significand : Nat) (exponent : Int) : Nat :=
  let (numerator, denominator) := magnitudeRatio significand exponent
  (2 * numerator + denominator) / (2 * denominator)

/-- The nearest natural number, a half going away from zero, held between zero
and `limit`; a number that is not a number gives zero. -/
def toNatSaturated (limit : Nat) : Binary64 → Nat
  | .nan => 0
  | .infinite negative => if negative then 0 else limit
  | .finite negative significand exponent =>
      if negative then 0 else min (roundedMagnitude significand exponent) limit

end Binary64

end Telemetry
