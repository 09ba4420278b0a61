import Telemetry.Binary64.Shortest

/-!
Contract: JSON documents as data.

Owns:
- number literals kept digit by digit, so that reading decides nothing about
  their range;
- documents whose strings may hold unpaired surrogate escapes;
- building documents from the values the library writes.

Does not own: text form, which `Json.Reader` reads and `Json.Writer` writes.
-/

namespace Telemetry

/-- A number literal: sign, whole digits, fraction digits if there is a point, and
the value of the exponent if there is one. -/
structure JsonNumber where
  negative : Bool := false
  whole : List Char
  fraction : List Char := []
  exponent : Option Int := none
deriving DecidableEq, Repr, Inhabited

/-- A JSON document. A string is `none` when an escape in it names half of a
surrogate pair, so that it denotes no text. -/
inductive Json where
  | null
  | bool (value : Bool)
  | number (literal : JsonNumber)
  | string (text : Option String)
  | array (items : List Json)
  | object (fields : List (Option String × Json))
deriving Inhabited

namespace JsonNumber

/-- Neither a fraction nor an exponent is written. -/
def isInteger (literal : JsonNumber) : Bool :=
  literal.fraction.isEmpty && literal.exponent.isNone

def ofNat (value : Nat) : JsonNumber :=
  { whole := Nat.toDigits 10 value }

def ofInt (value : Int) : JsonNumber :=
  { negative := value < 0, whole := Nat.toDigits 10 value.natAbs }

/-- A literal without sign, fraction and exponent that is below `2 ^ bits`. -/
def toUnsigned? (bits : Nat) (literal : JsonNumber) : Option Nat :=
  if literal.isInteger && !literal.negative then
    let value := Text.digitsValue literal.whole
    if value < Word.size bits then some value else none
  else none

/-- The double-precision value of the literal; none when it overflows. -/
def toBinary64? (literal : JsonNumber) : Option Binary64 :=
  Binary64.ofLiteral? literal.negative literal.whole literal.fraction (literal.exponent.getD 0)

/-- The literal of a finite number: positional between `10 ^ -5` and `10 ^ 16`, always
with a fraction or an exponent. Ties go to the even digit. -/
def ofBinary64? : Binary64 → Option JsonNumber
  | .nan => none
  | .infinite _ => none
  | .finite negative significand exponent =>
      if significand = 0 then some { negative, whole := ['0'], fraction := ['0'] }
      else
        let (coefficient, power) := Binary64.shortestDecimal .even significand exponent
        let digits := Nat.toDigits 10 coefficient
        let place : Int := digits.length + power
        if 0 ≤ power ∧ place ≤ 16 then
          some {
            negative
            whole := digits ++ List.replicate power.toNat '0'
            fraction := ['0'] }
        else if 0 < place ∧ place ≤ 16 then
          some {
            negative
            whole := digits.take place.toNat
            fraction := digits.drop place.toNat }
        else if -5 < place ∧ place ≤ 0 then
          some {
            negative
            whole := ['0']
            fraction := List.replicate (-place).toNat '0' ++ digits }
        else
          some {
            negative
            whole := digits.take 1
            fraction := digits.drop 1
            exponent := some (place - 1) }

end JsonNumber

namespace Json

def text (value : String) : Json := .string (some value)

def nat (value : Nat) : Json := .number (.ofNat value)

/-- A number; one that is not finite is written as null. -/
def float (value : Binary64) : Json :=
  match JsonNumber.ofBinary64? value with
  | some literal => .number literal
  | none => .null

def texts (values : List String) : Json := .array (values.map text)

/-- An object with the given keys, in order. -/
def fields (entries : List (String × Json)) : Json :=
  .object (entries.map fun (key, value) => (some key, value))

def optional {α : Type} (build : α → Json) : Option α → Json
  | some value => build value
  | none => .null

end Json

end Telemetry
