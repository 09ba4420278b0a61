import Telemetry.Text.Digits

/-!
Contract: generators of event identifiers.

Owns:
- sequential identifiers `evt-<milliseconds>-<process>-<number>`, numbered
  modulo `2 ^ 64`;
- identifiers made of random bits in the layout of a version 4 UUID;
- identifiers taken from a list over and over.

Does not own: the clock, the process number and the source of random bits.
-/

namespace Telemetry

/-- The number that the next sequential identifier gets. -/
structure SequentialIds where
  next : Nat := 0
deriving DecidableEq, Repr

namespace SequentialIds

/-- Numbers from one on. -/
def fromOne : SequentialIds := { next := 1 }

def text (milliseconds process number : Nat) : String :=
  "evt-" ++ Text.decimal milliseconds ++ "-" ++ Text.decimal process ++ "-" ++ Text.decimal number

def generate (ids : SequentialIds) (milliseconds process : Nat) : String × SequentialIds :=
  (text milliseconds process ids.next, { next := (ids.next + 1) % Word.size 64 })

/-- One identifier for each reading of the clock. -/
def generateAll (ids : SequentialIds) (process : Nat) : List Nat → List String
  | [] => []
  | milliseconds :: rest =>
      let (id, ids) := ids.generate milliseconds process
      id :: ids.generateAll process rest

end SequentialIds

namespace RandomId

def hexDigits (width value : Nat) : String :=
  let digits := Nat.toDigits 16 (value % Nat.pow 16 width)
  String.ofList (List.replicate (width - digits.length) '0' ++ digits)

/-- 128 random bits, with the version and the variant put in their places. -/
def text (bits : Nat) : String :=
  "-".intercalate [
    hexDigits 8 (bits / Word.size 96),
    hexDigits 4 (bits / Word.size 80),
    "4" ++ hexDigits 3 (bits / Word.size 64),
    hexDigits 4 (bits / Word.size 48 % Word.size 14 + Word.size 15),
    hexDigits 12 bits]

end RandomId

/-- The identifier number `drawn`: from `names` over and over, or `id-1`, `id-2`, … when
there are none. -/
def namedId (names : List String) (drawn : Nat) : String :=
  match names[drawn % names.length]? with
  | some name => name
  | none => "id-" ++ Text.decimal (drawn + 1)

end Telemetry
