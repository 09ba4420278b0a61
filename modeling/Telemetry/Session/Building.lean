import Telemetry.Session.Basic

/-!
Contract: making transports and plugins from their descriptions.

Owns: the order in which parts are made: members before what holds them, first
to last.
-/

namespace Telemetry

/-- What making something can end with, short of the thing. -/
inductive BuildFailure where
  | refused (error : TrackerError)
  | unknown

def BuildFailure.answer : BuildFailure → Answer
  | .refused error => .failed error
  | .unknown => .unknown

namespace CollectorSpec

def collector (spec : CollectorSpec) : Collector where
  name := spec.name
  usable := spec.usable
  detailed := spec.detailed
  answer := fun call => {
    failure := spec.script[call]?.getD spec.afterwards
    duration := spec.delay }

end CollectorSpec

namespace Session

def addCollector (session : Session) (collector : Collector) : Nat × Session :=
  let index := session.scene.collectors.length
  (index, { session with
    scene := { session.scene with collectors := session.scene.collectors ++ [collector] }
    names := { session.names with
      collectors := (collector.name, index) :: session.names.collectors } })

def buildTransport : TransportSpec → Session → Except BuildFailure Transport × Session
  | .collector spec, session =>
      let (index, session) := session.addCollector spec.collector
      (.ok (.collector index spec.name), session)
  | .named name, session =>
      match session.transportNamed? name with
      | some transport => (.ok transport, session)
      | none => (.error .unknown, session)
  | .debug name, session => (.ok (.debug name), session)
  | .switch observer name members, session =>
      match buildMembers members session with
      | (.ok members, session) =>
          let (transport, scene) := Transport.buildSwitch observer name members session.scene
          (.ok transport, { session with scene })
      | (.error failure, session) => (.error failure, session)
  | .group observer name members, session =>
      match buildMembers members session with
      | (.ok members, session) =>
          let (transport, scene) := Transport.buildGroup observer name members session.scene
          (.ok transport, { session with scene })
      | (.error failure, session) => (.error failure, session)
  | .retry observer policy inner, session =>
      match buildTransport inner session with
      | (.ok inner, session) =>
          match Transport.buildRetry observer policy inner with
          | .ok transport => (.ok transport, session)
          | .error error => (.error (.refused error), session)
      | (.error failure, session) => (.error failure, session)
where
  buildMembers : List TransportSpec → Session → Except BuildFailure (List Transport) × Session
    | [], session => (.ok [], session)
    | spec :: specs, session =>
        match buildTransport spec session with
        | (.error failure, session) => (.error failure, session)
        | (.ok member, session) =>
            match buildMembers specs session with
            | (.error failure, session) => (.error failure, session)
            | (.ok members, session) => (.ok (member :: members), session)

def buildOptionalTransport (spec : Option TransportSpec) (session : Session) :
    Except BuildFailure (Option Transport) × Session :=
  match spec with
  | none => (.ok none, session)
  | some spec =>
      match buildTransport spec session with
      | (.ok transport, session) => (.ok (some transport), session)
      | (.error failure, session) => (.error failure, session)

/-- Making a scripted plugin sets its switch. -/
def buildPlugin (spec : PluginSpec) (session : Session) : Plugin × Session :=
  match spec with
  | .application => (ApplicationContext.plugin, session)
  | .unique => (UniqueGlobal.plugin, session)
  | .scripted script =>
      (script.plugin, { session with scene := session.scene.setSwitch script.switch script.usable })

def buildPlugins : List PluginSpec → Session → List Plugin × Session
  | [], session => ([], session)
  | spec :: specs, session =>
      let (plugin, session) := buildPlugin spec session
      let (plugins, session) := buildPlugins specs session
      (plugin :: plugins, session)

end Session

end Telemetry
