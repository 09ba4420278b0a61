import Telemetry.Word

/-!
Contract: spans of time, in nanoseconds.

Owns:
- spans and their whole milliseconds, rounded down for reports and up for
  timers, which fire no earlier than they are asked to;
- the instants that a clock can show, each as the span since its origin.

Timers are taken to reach every instant that the clock shows.
-/

namespace Telemetry

structure Duration where
  nanoseconds : Nat
deriving DecidableEq, Repr, Inhabited

namespace Duration

def ofMilliseconds (milliseconds : Nat) : Duration where
  nanoseconds := 1000000 * milliseconds

/-- The largest span: a word of seconds and all nanoseconds below one more. -/
def longest : Duration where
  nanoseconds := Word.largest 64 * 1000000000 + 999999999

/-- Whole milliseconds that have passed after the span. -/
def milliseconds (duration : Duration) : Nat :=
  duration.nanoseconds / 1000000

/-- Nanoseconds beyond the whole milliseconds. -/
def subMilliseconds (duration : Duration) : Nat :=
  duration.nanoseconds % 1000000

/-- Milliseconds that a timer set for the span takes. -/
def timerMilliseconds (duration : Duration) : Nat :=
  (duration.nanoseconds + 999999) / 1000000

instance : LE Duration where
  le left right := left.nanoseconds ≤ right.nanoseconds

instance : LT Duration where
  lt left right := left.nanoseconds < right.nanoseconds

instance (left right : Duration) : Decidable (left ≤ right) :=
  inferInstanceAs (Decidable (left.nanoseconds ≤ right.nanoseconds))

instance (left right : Duration) : Decidable (left < right) :=
  inferInstanceAs (Decidable (left.nanoseconds < right.nanoseconds))

instance : Min Duration where
  min left right := if left ≤ right then left else right

instance : Add Duration where
  add left right := ⟨left.nanoseconds + right.nanoseconds⟩

/-- What is left of a span, nothing of a shorter one. -/
instance : Sub Duration where
  sub left right := ⟨left.nanoseconds - right.nanoseconds⟩

end Duration

namespace Clock

/-- The last instant: a word of seconds with a sign, and all nanoseconds below one more. -/
def latest : Duration where
  nanoseconds := Word.largest 63 * 1000000000 + 999999999

/-- An instant after the last one cannot be computed: what asks for it breaks off. -/
def Shows (instant : Duration) : Prop := instant ≤ latest

instance (instant : Duration) : Decidable (Shows instant) :=
  inferInstanceAs (Decidable (instant ≤ latest))

theorem Shows.trans_le {earlier later : Nat} (shown : Shows (.ofMilliseconds later))
    (before : earlier ≤ later) : Shows (.ofMilliseconds earlier) :=
  Nat.le_trans (Nat.mul_le_mul_left _ before) shown

end Clock

end Telemetry
