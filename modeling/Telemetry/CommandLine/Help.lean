import Telemetry.CommandLine.Scan

/-!
Contract: what the user is told about the use of the program.

Owns: the help text and the words for usage errors.
-/

namespace Telemetry.CommandLine

def helpText : String :=
  "\n".intercalate [
    "Replay and inspect event instrumentation pipelines",
    "",
    "Usage: eventline [OPTIONS] <COMMAND>",
    "",
    "Commands:",
    "  replay  Track newline-delimited JSON events through a debug transport",
    "  config  Print the effective configuration as JSON",
    "  help    Print this message or the help of the given subcommand(s)",
    "",
    "Options:",
    "      --workspace <WORKSPACE>    Workspace root directory (searched for eventline.toml) [default: .]",
    "      --config <CONFIG>          Configuration file path (overrides default config loading)",
    "      --verbose                  Enable debug logging",
    "      --log-level <LOG_LEVEL>    Log level (trace, debug, info, warn, error, off)",
    "      --log-format <LOG_FORMAT>  Log format (json, text)",
    "      --log-output <LOG_OUTPUT>  Log output (stdout, stderr, file)",
    "      --log-file <LOG_FILE>      Log file path (if output is \"file\")",
    "  -h, --help                     Print help",
    ""]

def UsageError.message : UsageError → String
  | .help => "help was asked for"
  | .nothingGiven => "nothing was given"
  | .missingSubcommand => "a subcommand is required"
  | .unknownSubcommand => "unrecognized subcommand"
  | .unknownArgument => "unexpected argument"
  | .invalidValue => "invalid value"
  | .unreadableValue => "a value is no number"
  | .unexpectedValue => "a flag takes no value"
  | .repeatedOption => "an option was given twice"

/-- What is written on a usage error. -/
def usageText (error : UsageError) : String :=
  "error: " ++ error.message ++ "\n\n" ++
    "Usage: eventline [OPTIONS] <COMMAND>\n\nFor more information, try '--help'.\n"

end Telemetry.CommandLine
