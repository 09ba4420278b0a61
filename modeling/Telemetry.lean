import Telemetry.Binary64.Basic
import Telemetry.Binary64.Reading
import Telemetry.Binary64.Shortest
import Telemetry.CommandLine.Arguments
import Telemetry.CommandLine.Help
import Telemetry.CommandLine.Scan
import Telemetry.Diagnostic
import Telemetry.Duration
import Telemetry.Error
import Telemetry.Event.Basic
import Telemetry.Event.Context
import Telemetry.Event.Identifier
import Telemetry.Event.Wire
import Telemetry.Failure
import Telemetry.Files.Path
import Telemetry.Files.Tree
import Telemetry.Json.Basic
import Telemetry.Json.Decoding
import Telemetry.Json.Reader
import Telemetry.Json.Writer
import Telemetry.Log
import Telemetry.Logging.Filter
import Telemetry.Logging.Line
import Telemetry.Logging.Logger
import Telemetry.Logging.Options
import Telemetry.Main
import Telemetry.Plugin.ApplicationContext
import Telemetry.Plugin.Basic
import Telemetry.Plugin.Chain
import Telemetry.Plugin.Scripted
import Telemetry.Plugin.UniqueGlobal
import Telemetry.Program
import Telemetry.Proofs.Backlog
import Telemetry.Proofs.Queue.Operations
import Telemetry.Queue.Basic
import Telemetry.Queue.Run
import Telemetry.Queue.Wait
import Telemetry.Registry
import Telemetry.Replay.Drain
import Telemetry.Replay.Run
import Telemetry.Replay.Summary
import Telemetry.Scene
import Telemetry.Session.Activity
import Telemetry.Session.Basic
import Telemetry.Session.Building
import Telemetry.Session.Perform
import Telemetry.Session.Schedule
import Telemetry.Session.Step
import Telemetry.Settings.Basic
import Telemetry.Settings.Environment
import Telemetry.Settings.Layer
import Telemetry.Settings.Load
import Telemetry.Settings.Source
import Telemetry.Settings.Value
import Telemetry.Settings.Wire
import Telemetry.Store
import Telemetry.Text.Blank
import Telemetry.Text.Digits
import Telemetry.Text.Lowercase
import Telemetry.Text.Quoted
import Telemetry.Text.Unprintable
import Telemetry.Timestamp
import Telemetry.Toml.Document
import Telemetry.Toml.Scalar
import Telemetry.Toml.Text
import Telemetry.Toml.Value
import Telemetry.Tracker
import Telemetry.Transport.Basic
import Telemetry.Transport.Call
import Telemetry.Transport.RetryPolicy
import Telemetry.Word
import Telemetry.Proofs.Queue.History
import Telemetry.Proofs.Queue.NoLoss
import Telemetry.Proofs.Queue.Replacement
import Telemetry.Proofs.Queue.RunStep
import Telemetry.Proofs.Queue.Interleaving
import Telemetry.Proofs.Queue.WakeUp
import Telemetry.Proofs.Queue.Simulation
import Telemetry.Proofs.Queue.InFlight
import Telemetry.Proofs.Tracker.Binding
import Telemetry.Proofs.Event.RoundTrip
import Telemetry.Proofs.Event.Distinctness
import Telemetry.Proofs.Transport.Acceptance
import Telemetry.Proofs.Queue.Chunks
import Telemetry.Proofs.Queue.Itinerary
import Telemetry.Proofs.Queue.Solo
import Telemetry.Proofs.Queue.Draining
import Telemetry.Proofs.Queue.Outcomes
import Telemetry.Proofs.Store.Refinement
import Telemetry.Proofs.Queue.Commutation
import Telemetry.Proofs.Plugin.Hooks
import Telemetry.Proofs.Tracker.Pipeline
import Telemetry.Proofs.Session.Growth
import Telemetry.Proofs.Session.Turns
import Telemetry.Proofs.Session.Tracking
import Telemetry.Proofs.Plugin.Contents
import Telemetry.Proofs.Transport.Usability
import Telemetry.Proofs.Transport.NestedRetry
import Telemetry.Proofs.Queue.Rebinding
import Telemetry.Proofs.Registry.Default
import Telemetry.Proofs.Session.Background
import Telemetry.Proofs.Queue.Tally
import Telemetry.Proofs.Queue.Prompt
import Telemetry.Proofs.Replay.Desk
import Telemetry.Proofs.Replay.Course
import Telemetry.Proofs.Replay.Accounting
import Telemetry.Proofs.Replay.Activation
import Telemetry.Proofs.Replay.Attempts
import Telemetry.Proofs.Plugin.Failures
import Telemetry.Proofs.Transport.RetryLoop
import Telemetry.Proofs.Settings.Defaults
import Telemetry.Proofs.Settings.Precedence
import Telemetry.Proofs.Settings.Variables
import Telemetry.Proofs.Settings.Sources
import Telemetry.Proofs.Binary64.Exactness
import Telemetry.Proofs.Transport.BackOff
import Telemetry.Proofs.Queue.Milestones
import Telemetry.Proofs.Queue.Rounds
import Telemetry.Proofs.Settings.Validation
import Telemetry.Proofs.Queue.Pace
import Telemetry.Proofs.Session.Vigil
import Telemetry.Proofs.Replay.Timeout
import Telemetry.Proofs.Plugin.Duplicates
import Telemetry.Proofs.Session.Waiting
import Telemetry.Proofs.Transport.RetrySteps
import Telemetry.Proofs.Transport.RetryPace
import Telemetry.Proofs.Transport.AttemptCounter
import Telemetry.Proofs.Transport.ShortestWait
import Telemetry.Proofs.Timestamp.Calendar
import Telemetry.Proofs.Plugin.Application
import Telemetry.Proofs.Timestamp.Reading
