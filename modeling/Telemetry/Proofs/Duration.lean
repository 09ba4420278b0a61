import Telemetry.Duration

/-!
Contract: spans of time against whole milliseconds.

Owns:
- the order of spans, and their least one;
- spans rounded up, as timers do it: by when a timer fires, and the timers of
  sums, differences and least spans.
-/

namespace Telemetry

namespace Duration

theorem nanoseconds_min (first second : Duration) :
    (min first second).nanoseconds = min first.nanoseconds second.nanoseconds := by
  change (if first.nanoseconds ≤ second.nanoseconds then first else second).nanoseconds = _
  split <;> omega

theorem ofMilliseconds_le {first second : Nat} (le : first ≤ second) :
    ofMilliseconds first ≤ ofMilliseconds second :=
  Nat.mul_le_mul_left _ le

theorem ofMilliseconds_add (first second : Nat) :
    ofMilliseconds (first + second) = ofMilliseconds first + ofMilliseconds second :=
  congrArg mk (Nat.mul_add _ _ _)

theorem milliseconds_ofMilliseconds (milliseconds : Nat) :
    (ofMilliseconds milliseconds).milliseconds = milliseconds :=
  Nat.mul_div_cancel_left _ (by decide)

theorem le_ofMilliseconds_iff {span : Duration} {milliseconds : Nat} :
    span ≤ .ofMilliseconds milliseconds ↔ span.milliseconds < milliseconds ∨
      span.milliseconds = milliseconds ∧ span.subMilliseconds = 0 := by
  show span.nanoseconds ≤ 1000000 * milliseconds ↔ span.nanoseconds / 1000000 < milliseconds ∨
    span.nanoseconds / 1000000 = milliseconds ∧ span.nanoseconds % 1000000 = 0
  omega

/-! ### Timers -/

/-- A timer fires by a given time exactly if its span is over by then. -/
theorem timerMilliseconds_le_iff {span : Duration} {milliseconds : Nat} :
    span.timerMilliseconds ≤ milliseconds ↔ span ≤ .ofMilliseconds milliseconds := by
  show (span.nanoseconds + 999999) / 1000000 ≤ milliseconds ↔
    span.nanoseconds ≤ 1000000 * milliseconds
  omega

/-- A timer does not fire before its time. -/
theorem le_timerMilliseconds (span : Duration) : span ≤ .ofMilliseconds span.timerMilliseconds :=
  timerMilliseconds_le_iff.mp (Nat.le_refl _)

/-- A timer is late by less than a millisecond. -/
theorem timerMilliseconds_lt (span : Duration) :
    .ofMilliseconds span.timerMilliseconds < span + .ofMilliseconds 1 := by
  show 1000000 * ((span.nanoseconds + 999999) / 1000000) < span.nanoseconds + 1000000 * 1
  omega

theorem timerMilliseconds_ofMilliseconds (milliseconds : Nat) :
    (ofMilliseconds milliseconds).timerMilliseconds = milliseconds := by
  show (1000000 * milliseconds + 999999) / 1000000 = milliseconds
  omega

theorem timerMilliseconds_pos {span : Duration} (some : 0 < span.nanoseconds) :
    0 < span.timerMilliseconds := by
  show 0 < (span.nanoseconds + 999999) / 1000000
  omega

/-- A timer is on time exactly if its span is a whole number of milliseconds. -/
theorem subMilliseconds_eq_zero_iff {span : Duration} :
    span.subMilliseconds = 0 ↔ .ofMilliseconds span.timerMilliseconds ≤ span := by
  show span.nanoseconds % 1000000 = 0 ↔
    1000000 * ((span.nanoseconds + 999999) / 1000000) ≤ span.nanoseconds
  omega

theorem timerMilliseconds_add (milliseconds : Nat) (span : Duration) :
    (ofMilliseconds milliseconds + span).timerMilliseconds =
      milliseconds + span.timerMilliseconds := by
  show (1000000 * milliseconds + span.nanoseconds + 999999) / 1000000 =
    milliseconds + (span.nanoseconds + 999999) / 1000000
  omega

theorem timerMilliseconds_sub (span : Duration) (milliseconds : Nat) :
    (span - ofMilliseconds milliseconds).timerMilliseconds =
      span.timerMilliseconds - milliseconds := by
  show (span.nanoseconds - 1000000 * milliseconds + 999999) / 1000000 =
    (span.nanoseconds + 999999) / 1000000 - milliseconds
  omega

theorem timerMilliseconds_min (first second : Duration) :
    (min first second).timerMilliseconds =
      min first.timerMilliseconds second.timerMilliseconds := by
  unfold timerMilliseconds
  rw [nanoseconds_min]
  omega

end Duration

end Telemetry
