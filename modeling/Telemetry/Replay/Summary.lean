import Telemetry.Json.Writer
import Telemetry.Text.Digits

/-!
Contract: what a replay came to.

Owns: the counts of a replay, and their two forms as text.
-/

namespace Telemetry

inductive SummaryFormat where
  | text
  | json
deriving DecidableEq, Repr

structure ReplaySummary where
  /-- Lines that became events. -/
  tracked : Nat := 0
  /-- Lines that describe no event. -/
  malformed : Nat := 0
  /-- Lines whose event was not accepted. -/
  rejected : Nat := 0
  deliveredBatches : Nat := 0
  failedBatches : Nat := 0
  /-- Events still waiting at the end. -/
  pending : Nat := 0
  /-- The queue came to rest in time. -/
  drained : Bool := false
deriving DecidableEq, Repr

namespace ReplaySummary

def toJson (summary : ReplaySummary) : Json :=
  .fields [
    ("tracked", .nat summary.tracked),
    ("malformed", .nat summary.malformed),
    ("rejected", .nat summary.rejected),
    ("delivered_batches", .nat summary.deliveredBatches),
    ("failed_batches", .nat summary.failedBatches),
    ("pending", .nat summary.pending),
    ("drained", .bool summary.drained)]

def text (summary : ReplaySummary) : String :=
  "Tracked " ++ Text.decimal summary.tracked ++ " event(s) (" ++
    Text.decimal summary.malformed ++ " malformed, " ++
    Text.decimal summary.rejected ++ " rejected by plugins)\n" ++
  "Batches delivered: " ++ Text.decimal summary.deliveredBatches ++ ", failed: " ++
    Text.decimal summary.failedBatches ++ "\n" ++
  (if summary.drained then "Queue drained"
    else "Queue not drained: " ++ Text.decimal summary.pending ++ " event(s) still pending")

def render (summary : ReplaySummary) : SummaryFormat → String
  | .text => summary.text
  | .json => summary.toJson.pretty

end ReplaySummary

end Telemetry
