import Telemetry.CommandLine.Scan
import Telemetry.Replay.Summary

/-!
Contract: the commands of the program.

Owns: its options and commands, and reading them from the words of a command
line.
-/

namespace Telemetry.CommandLine

structure ReplayOptions where
  /-- The file with the events; without one they come from standard input. -/
  input : Option String := none
  applicationId : Option String := none
  batchSize : Option Nat := none
  retrying : Bool := true
  format : SummaryFormat := .text
deriving DecidableEq, Repr

inductive Command where
  | replay (options : ReplayOptions)
  | config
deriving DecidableEq, Repr

structure Arguments where
  command : Command
  workspace : String := "."
  config : Option String := none
  verbose : Bool := false
  logLevel : Option String := none
  logFormat : Option String := none
  logOutput : Option String := none
  logFile : Option String := none
deriving DecidableEq, Repr

namespace Arguments

def grammar : Grammar where
  options := [
    ⟨"workspace", .path⟩,
    ⟨"config", .path⟩,
    ⟨"verbose", .flag⟩,
    ⟨"log-level", .text⟩,
    ⟨"log-format", .text⟩,
    ⟨"log-output", .text⟩,
    ⟨"log-file", .path⟩]
  subcommands := ["replay", "config", "help"]

def replayGrammar : Grammar where
  options := [
    ⟨"application-id", .text⟩,
    ⟨"batch-size", .count⟩,
    ⟨"no-retry", .flag⟩,
    ⟨"format", .choice ["text", "json"]⟩]
  positional := [⟨"input", .path⟩]

def readReplay (words : List String) : Except UsageError Command := do
  let (scan, _) ← Scan.read replayGrammar {} false words
  .ok (.replay {
    input := scan.value? "input"
    applicationId := scan.value? "application-id"
    batchSize := (scan.value? "batch-size").bind fun value => Text.readUnsigned? 64 value.toList
    retrying := !scan.isGiven "no-retry"
    format := if scan.value? "format" = some "json" then .json else .text })

def readConfig (words : List String) : Except UsageError Command := do
  let _ ← Scan.read {} {} false words
  .ok .config

/-- Help is for the program or for one of its commands. -/
def readHelp : List String → UsageError
  | [] => .help
  | [word] => if word ∈ grammar.subcommands then .help else .unknownSubcommand
  | _ => .unknownSubcommand

def readCommand (name : String) (words : List String) : Except UsageError Command :=
  if name = "replay" then readReplay words
  else if name = "config" then readConfig words
  else .error (readHelp words)

/-- The words after the name of the program. -/
def parse (words : List String) : Except UsageError Arguments := do
  match ← Scan.read grammar {} false words with
  | (scan, none) =>
      .error (if scan.given.isEmpty then .nothingGiven else .missingSubcommand)
  | (scan, some (name, words)) =>
      let command ← readCommand name words
      let scan ← scan.settle
      .ok {
        command
        workspace := (scan.value? "workspace").getD "."
        config := scan.value? "config"
        verbose := scan.isGiven "verbose"
        logLevel := scan.value? "log-level"
        logFormat := scan.value? "log-format"
        logOutput := scan.value? "log-output"
        logFile := scan.value? "log-file" }

end Arguments

end Telemetry.CommandLine
