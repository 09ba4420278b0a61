/-!
Contract: failures of commands.

Owns: what went wrong together with what was being done, and its text.
-/

namespace Telemetry

/-- The outermost circumstance comes first, the cause last. -/
structure Failure where
  causes : List String
deriving DecidableEq, Repr

def Failure.message (failure : Failure) : String :=
  ": ".intercalate failure.causes

/-- The message as it is shown to the user. -/
def Failure.report (failure : Failure) : String :=
  "Error: " ++ failure.message

end Telemetry
