import Telemetry.Duration
import Telemetry.Settings.Basic

/-!
Contract: how long a replay waits for its queue.

Owns: the computed timeout: one batch delay for every round that the tracked
events can need, and two more, but no more than a day.

Counts and spans are held in words, and stay at the largest one when they would
pass it.
-/

namespace Telemetry

/-- A span taken a number of times, held at the longest one. -/
def Duration.repeated (duration : Duration) (times : Nat) : Duration where
  nanoseconds := min (duration.nanoseconds * times) longest.nanoseconds

namespace Drain

/-- Sum and product of counts that words of some bits hold. -/
def heldSum (bits left right : Nat) : Nat :=
  min (left + right) (Word.largest bits)

def heldProduct (bits left right : Nat) : Nat :=
  min (left * right) (Word.largest bits)

/-- A count as one that a word holds. -/
def held (bits value : Nat) : Nat :=
  if value < Word.size bits then value else Word.largest bits

/-- Events that one round of the queue can take, at least one. -/
def perRound (settings : QueueSettings) : Nat :=
  max (heldProduct 64 settings.batchSize settings.concurrency) 1

/-- Rounds that a number of events needs, and two more. -/
def rounds (settings : QueueSettings) (tracked : Nat) : Nat :=
  heldSum 32 (held 32 ((tracked + (perRound settings - 1)) / perRound settings)) 2

/-- The delay that one round is expected to take. -/
def roundDelay (settings : QueueSettings) : Duration :=
  if settings.batchDelay < 100 then .ofMilliseconds 100 else .ofMilliseconds settings.batchDelay

/-- A day. -/
def longestTimeout : Duration := .ofMilliseconds (24 * 60 * 60 * 1000)

def timeout (settings : QueueSettings) (tracked : Nat) : Duration :=
  min ((roundDelay settings).repeated (rounds settings tracked)) longestTimeout

/-- A timeout that is set, or else the computed one. -/
def options (settings : Settings) (tracked : Nat) : WaitOptions :=
  match settings.wait.timeout with
  | some _ => settings.wait
  | none => { settings.wait with
      timeout := some (timeout settings.queue tracked).milliseconds }

end Drain

end Telemetry
