import Telemetry.Binary64.Shortest
import Telemetry.Duration
import Telemetry.Error

/-!
Contract: when failed deliveries are tried again.

Owns: the limits and waits of a retry policy, which policies are accepted, and
the wait before each attempt.

Does not own: the attempts themselves.
-/

namespace Telemetry

structure RetryPolicy where
  /-- Calls of the inner transport for one batch. -/
  maxAttempts : Nat := 10
  /-- Time from the first call after which no further call is made. -/
  maxRetry : Option Duration := none
  /-- The wait after the first failure. -/
  minTimeout : Duration := .ofMilliseconds 1000
  /-- The longest single wait. -/
  maxTimeout : Option Duration := none
  /-- The growth of the waits. -/
  retryFactor : Binary64 := .two
deriving DecidableEq, Repr

namespace RetryPolicy

/-- The first reason why a policy cannot be used. -/
def validate (policy : RetryPolicy) : Except TrackerError Unit :=
  if !policy.retryFactor.isPositive then
    .error (.invalidBackoff
      ("retry_factor must be a positive number, got " ++ policy.retryFactor.display))
  else if policy.minTimeout.nanoseconds = 0 then
    .error (.invalidBackoff "min_timeout must be greater than zero")
  else
    match policy.maxTimeout with
    | some maxTimeout =>
        if maxTimeout < policy.minTimeout then
          .error (.invalidBackoff
            ("min_timeout (" ++ Text.decimal policy.minTimeout.milliseconds ++
              "ms) cannot be greater than max_timeout (" ++
              Text.decimal maxTimeout.milliseconds ++ "ms)"))
        else .ok ()
    | none => .ok ()

/-- Milliseconds of the wait number `retry` before the longest wait caps it: the shortest
wait times the factor to that power, rounded once to a whole number. -/
def uncappedMilliseconds (policy : RetryPolicy) (retry : Nat) : Nat :=
  let growth := policy.retryFactor.power (min retry (Word.largest 31))
  let product := Binary64.ofNat policy.minTimeout.milliseconds * growth
  if product.isFinite then product.toNatSaturated (Word.largest 64) else Word.largest 64

/-- The wait after failure number `retry`, counted from zero. -/
def nextTimeout (policy : RetryPolicy) (retry : Nat) : Duration :=
  let timeout := Duration.ofMilliseconds (policy.uncappedMilliseconds retry)
  match policy.maxTimeout with
  | some maxTimeout => min timeout maxTimeout
  | none => timeout

end RetryPolicy

end Telemetry
