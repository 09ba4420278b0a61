import Telemetry.Diagnostic
import Telemetry.Error
import Telemetry.Event.Basic

/-!
Contract: the surroundings in which events are delivered.

Owns:
- the clock, in whole milliseconds;
- collectors, the outside services that transports deliver to, with what they
  answer to each call and how often they were called;
- switches that plugins consult;
- the notes that are taken of what happens, in order.

Does not own: when the clock moves; see `Telemetry.Session`.
-/

namespace Telemetry

/-- What a collector answers to one call: a failure if there is one, after some
milliseconds. -/
structure Reply where
  failure : Option TransportError := none
  duration : Nat := 0

/-- An outside service. Its answer depends on the number of earlier calls. -/
structure Collector where
  name : String
  usable : Bool := true
  answer : Nat → Reply := fun _ => {}
  /-- Notes of its calls show whole events, not only identifiers. -/
  detailed : Bool := false
  calls : Nat := 0
  /-- Calls that it has not answered yet. -/
  active : Nat := 0
  /-- The most calls that were unanswered at once. -/
  peak : Nat := 0

inductive Note where
  | called (time : Nat) (collector : String) (events : List Event) (detailed : Bool)
  | answered (time : Nat) (collector : String) (failure : Option TransportError)
  | observed (time : Nat) (diagnostic : Diagnostic)
  | initialized (plugin tracker application : String)
  | enriching (plugin : String) (contexts : Contexts)
  | validating (plugin : String) (event : Event)
  | logged (entry : LogEntry)

/-- Where diagnostics go: into the notes as they are, or into the log. -/
inductive Observer where
  | notes
  | log
deriving DecidableEq, Repr

/-- The note that an observer takes of a diagnostic. -/
def Observer.noteOf (observer : Observer) (time : Nat) (diagnostic : Diagnostic) : Note :=
  match observer with
  | .notes => .observed time diagnostic
  | .log => .logged diagnostic.logEntry

structure Scene where
  now : Nat := 0
  collectors : List Collector := []
  switches : List (String × Bool) := []
  notes : Array Note := #[]

namespace Scene

def note (scene : Scene) (note : Note) : Scene :=
  { scene with notes := scene.notes.push note }

def log (scene : Scene) (entry : LogEntry) : Scene :=
  scene.note (.logged entry)

def observe (scene : Scene) (observer : Observer) (diagnostic : Diagnostic) : Scene :=
  scene.note (observer.noteOf scene.now diagnostic)

section
variable (scene : Scene) (observer : Observer) (diagnostic : Diagnostic)

@[simp] theorem observe_now : (scene.observe observer diagnostic).now = scene.now := rfl

@[simp] theorem observe_collectors :
    (scene.observe observer diagnostic).collectors = scene.collectors := rfl

end

/-- A switch that was never set is off. -/
def switchedOn (scene : Scene) (switch : String) : Bool :=
  (scene.switches.lookup switch).getD false

def setSwitch (scene : Scene) (switch : String) (value : Bool) : Scene :=
  { scene with switches := (switch, value) :: scene.switches.filter fun entry => entry.1 ≠ switch }

def modifyCollector (scene : Scene) (index : Nat) (change : Collector → Collector) : Scene :=
  match scene.collectors[index]? with
  | some collector => { scene with collectors := scene.collectors.set index (change collector) }
  | none => scene

def collectorUsable (scene : Scene) (index : Nat) : Bool :=
  (scene.collectors[index]?.map (·.usable)).getD false

end Scene

namespace Collector

/-- A call begins: it is counted, and the answer is settled at once. -/
def begin (collector : Collector) : Reply × Collector :=
  (collector.answer collector.calls,
    { collector with
      calls := collector.calls + 1
      active := collector.active + 1
      peak := max collector.peak (collector.active + 1) })

def finish (collector : Collector) : Collector :=
  { collector with active := collector.active - 1 }

end Collector

end Telemetry
