import Telemetry.Scene
import Telemetry.Transport.RetryPolicy

/-!
Contract: transports and how they are put together.

Owns:
- the tree of a transport: collectors and the debug log at the leaves,
  switches, groups and retries above them;
- names, usability and construction.

A switch keeps the first member that is usable when it is built, a group keeps
all of those. Both stay as they were built, while a collector may become usable
or unusable at any time.

Does not own: delivering a batch; see `Transport.Call`.
-/

namespace Telemetry

inductive Transport where
  | collector (index : Nat) (name : String)
  | debug (name : String)
  | switch (name : String) (pinned : Option Transport)
  | group (name : String) (members : List Transport)
  | retry (observer : Observer) (policy : RetryPolicy) (inner : Transport)

namespace Transport

def debugName : String := "DebugTransport"

def switchName : String := "TransportSwitch"

def groupName : String := "TransportGroup"

def name : Transport → String
  | .collector _ name => name
  | .debug name => name
  | .switch name _ => name
  | .group name _ => name
  | .retry _ _ inner => "RetryTransport(" ++ inner.name ++ ")"

def isUsable (scene : Scene) : Transport → Bool
  | .collector index _ => scene.collectorUsable index
  | .debug _ => true
  | .switch _ pinned => pinned.isSome
  | .group _ members => !members.isEmpty
  | .retry _ _ inner => inner.isUsable scene

/-- Keep the first usable candidate, and report it. -/
def buildSwitch
    (observer : Observer)
    (name : String)
    (candidates : List Transport)
    (scene : Scene) : Transport × Scene :=
  let pinned := candidates.find? (isUsable scene)
  let report := match pinned with
    | some transport => .transportPinned name transport.name
    | none => .noUsableTransport name (candidates.map Transport.name)
  (.switch name pinned, scene.observe observer report)

/-- Keep the usable candidates, and report when there are none. -/
def buildGroup
    (observer : Observer)
    (name : String)
    (candidates : List Transport)
    (scene : Scene) : Transport × Scene :=
  let members := candidates.filter (isUsable scene)
  let scene :=
    if members.isEmpty then
      scene.observe observer (.noUsableTransport name (candidates.map Transport.name))
    else scene
  (.group name members, scene)

/-- Only an accepted policy makes a transport. -/
def buildRetry
    (observer : Observer)
    (policy : RetryPolicy)
    (inner : Transport) : Except TrackerError Transport :=
  match policy.validate with
  | .ok () => .ok (.retry observer policy inner)
  | .error error => .error error

end Transport

end Telemetry
