import Telemetry.Json.Basic
import Telemetry.Log
import Telemetry.Text.Quoted

/-!
Contract: what composites, queues and plugins report about their work.

Owns: the reports, their JSON document, and their log entry.
-/

namespace Telemetry

inductive Diagnostic where
  | transportPinned (switch transport : String)
  | noUsableTransport (composite : String) (candidates : List String)
  | retryScheduled (transport : String) (attempt delay : Nat) (error : String)
  | retryExhausted (transport : String) (attempts : Nat)
  | batchDelivered (size duration : Nat)
  | batchFailed (size : Nat) (error : String)
  | deliveryFailed (transport event error : String)
  | validationIssue (plugin event message : String)
deriving DecidableEq, Repr

namespace Diagnostic

def toJson : Diagnostic → Json
  | .transportPinned switch transport => .fields [
      ("kind", .text "transport_pinned"),
      ("switch", .text switch),
      ("transport", .text transport)]
  | .noUsableTransport composite candidates => .fields [
      ("kind", .text "no_usable_transport"),
      ("composite", .text composite),
      ("candidates", .texts candidates)]
  | .retryScheduled transport attempt delay error => .fields [
      ("kind", .text "retry_scheduled"),
      ("transport", .text transport),
      ("attempt", .nat attempt),
      ("delay_ms", .nat delay),
      ("error", .text error)]
  | .retryExhausted transport attempts => .fields [
      ("kind", .text "retry_exhausted"),
      ("transport", .text transport),
      ("attempts", .nat attempts)]
  | .batchDelivered size duration => .fields [
      ("kind", .text "batch_delivered"),
      ("size", .nat size),
      ("duration_ms", .nat duration)]
  | .batchFailed size error => .fields [
      ("kind", .text "batch_failed"),
      ("size", .nat size),
      ("error", .text error)]
  | .deliveryFailed transport event error => .fields [
      ("kind", .text "delivery_failed"),
      ("transport", .text transport),
      ("event_id", .text event),
      ("error", .text error)]
  | .validationIssue plugin event message => .fields [
      ("kind", .text "validation_issue"),
      ("plugin", .text plugin),
      ("event_id", .text event),
      ("message", .text message)]

def logTarget : String := "eventline::observer"

def logEntry : Diagnostic → LogEntry
  | .transportPinned switch transport => {
      level := .debug
      target := logTarget
      message := "Transport switch pinned transport"
      fields := [("switch", .text switch), ("transport", .text transport)] }
  | .noUsableTransport composite candidates => {
      level := .warn
      target := logTarget
      message := "No usable transport found"
      fields := [
        ("composite", .text composite),
        ("candidates", .text (Text.quotedList candidates))] }
  | .retryScheduled transport attempt delay error => {
      level := .debug
      target := logTarget
      message := "Retrying delivery after backoff"
      fields := [
        ("transport", .text transport),
        ("attempt", .number attempt),
        ("delay_ms", .number delay),
        ("error", .text error)] }
  | .retryExhausted transport attempts => {
      level := .warn
      target := logTarget
      message := "Delivery retries exhausted"
      fields := [("transport", .text transport), ("attempts", .number attempts)] }
  | .batchDelivered size duration => {
      level := .debug
      target := logTarget
      message := "Batch delivered"
      fields := [("size", .number size), ("duration_ms", .number duration)] }
  | .batchFailed size error => {
      level := .warn
      target := logTarget
      message := "Batch delivery failed, events stay queued"
      fields := [("size", .number size), ("error", .text error)] }
  | .deliveryFailed transport event error => {
      level := .warn
      target := logTarget
      message := "Event delivery failed"
      fields := [
        ("transport", .text transport),
        ("event_id", .text event),
        ("error", .text error)] }
  | .validationIssue plugin event message => {
      level := .info
      target := logTarget
      message := "Event validation issue"
      fields := [
        ("plugin", .text plugin),
        ("event_id", .text event),
        ("message", .text message)] }

end Diagnostic

end Telemetry
