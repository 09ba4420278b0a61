import Telemetry.Duration
import Telemetry.Queue.Basic

/-!
Contract: waiting until a queue is idle.

Owns: the instants at which the queue is looked at, and the end of the wait.

The queue is looked at once at the start, then after every interval, and for the
last time at the deadline or, as timers fire on whole milliseconds, at the first
one after it. A wait whose deadline is past what the clock can show does not
begin.
-/

namespace Telemetry

/-- A wait in progress: the queue is next looked at when it is due. -/
structure IdleWait where
  interval : Duration
  /-- An instant of the clock. -/
  deadline : Duration
  due : Nat
deriving DecidableEq, Repr

namespace IdleWait

def start? (now : Nat) (interval timeout : Duration) : Option IdleWait :=
  let deadline := .ofMilliseconds now + timeout
  if Clock.Shows deadline then some { interval, deadline, due := now } else none

/-- Look at the queue if that is due: either the wait is over, with the answer
whether the queue is idle, or the queue is looked at again later. -/
def poll (wait : IdleWait) (now : Nat) (idle : Bool) : Bool ⊕ IdleWait :=
  if now < wait.due then .inr wait
  else if idle then .inl true
  else if wait.deadline ≤ .ofMilliseconds now then .inl false
  else
    let span := min wait.interval (wait.deadline - .ofMilliseconds now)
    .inr { wait with due := now + span.timerMilliseconds }

end IdleWait

end Telemetry
