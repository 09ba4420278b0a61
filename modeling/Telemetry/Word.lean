/-!
Contract: numbers that are held in words.

Owns: how many numbers a word of some bits holds, and the largest of them.
-/

namespace Telemetry.Word

/-- A word holds the numbers below its size. -/
def size (bits : Nat) : Nat :=
  Nat.pow 2 bits

/-- The largest number that a word holds. -/
def largest (bits : Nat) : Nat :=
  size bits - 1

end Telemetry.Word
