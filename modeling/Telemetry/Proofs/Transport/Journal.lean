import Telemetry.Proofs.Transport.RetryMarks

/-!
Contract: a journal of what the leaves of a transport are asked and answer.

Owns:
- `Transport.Active`, the leaves that a tree reaches, each at its address;
- the journal of starting and of resuming a call, leaf by leaf;
- `Scene.Tells`: the notes that a call leaves on the scene are those of its
  journal, and the collectors stay where they are.

The notes name leaves, and two leaves of a tree may have one name or be one and
the same collector. The journal says by address which leaf each record is of.

Does not own: what the records of a successful call are; see
`Proofs.Transport.Acceptance`.
-/

namespace Telemetry

/-- A leaf that is reached through pinned members of switches, retained members of groups and
inner transports of retries. Its address holds the positions in the groups on the way. -/
inductive Transport.Active : Transport → List Nat → Transport → Prop where
  | collector (index : Nat) (name : String) :
      Active (.collector index name) [] (.collector index name)
  | debug (name : String) : Active (.debug name) [] (.debug name)
  | pinned {name : String} {pinned leaf : Transport} {address : List Nat}
      (active : Active pinned address leaf) : Active (.switch name (some pinned)) address leaf
  | member {name : String} {members : List Transport} {position : Nat} {member leaf : Transport}
      {address : List Nat} (retained : members[position]? = some member)
      (active : Active member address leaf) :
      Active (.group name members) (position :: address) leaf
  | inner {observer : Observer} {policy : RetryPolicy} {inner leaf : Transport}
      {address : List Nat} (active : Active inner address leaf) :
      Active (.retry observer policy inner) address leaf

inductive Exchange where
  | called (events : List Event)
  | answered (failure : Option TransportError)

/-- A leaf was called, or it answered. -/
structure LeafRecord where
  address : List Nat
  leaf : Transport
  exchange : Exchange

/-- The record of a leaf below the member at a position of a group. -/
def LeafRecord.under (position : Nat) (record : LeafRecord) : LeafRecord :=
  { record with address := position :: record.address }

/-! ### Journals -/

namespace Scene

def collectorJournal (scene : Scene) (index : Nat) (name : String) (events : List Event) :
    List LeafRecord :=
  match scene.collectors[index]? with
  | none => []
  | some collector =>
      let reply := collector.begin.1
      ⟨[], .collector index name, .called events⟩ ::
        if reply.duration = 0 then [⟨[], .collector index name, .answered reply.failure⟩] else []

end Scene

/-- The journal of a retry with these marks, given that of each of its calls. -/
def RetryMark.journal (each : Scene → List LeafRecord) : List RetryMark → List LeafRecord
  | [] => []
  | .called _ scene :: marks => each scene ++ journal each marks
  | _ :: marks => journal each marks

namespace Transport

def startJournal (events : List Event) : Transport → Scene → List LeafRecord
  | .collector index name, scene => scene.collectorJournal index name events
  | .debug name, _ => [⟨[], .debug name, .called events⟩, ⟨[], .debug name, .answered none⟩]
  | .switch _ none, _ => []
  | .switch _ (some pinned), scene => pinned.startJournal events scene
  | .group _ members, scene => startAllJournal 0 members scene
  | .retry observer policy inner, scene =>
      let attempt : RetryAttempt :=
        { observer, policy, inner, events, startedAt := scene.now }
      RetryMark.journal (inner.startJournal events) (attempt.makeMarks (inner.start events) scene)
where
  startAllJournal (position : Nat) : List Transport → Scene → List LeafRecord
    | [], _ => []
    | member :: members, scene =>
        (member.startJournal events scene).map (.under position) ++
          startAllJournal (position + 1) members (member.start events scene).2

end Transport

namespace Call

def resumeJournal : Call → Scene → List LeafRecord
  | .settled _, _ => []
  | .collecting index name due failure, scene =>
      if due ≤ scene.now then [⟨[], .collector index name, .answered failure⟩] else []
  | .fanOut _ members, scene => resumeAllJournal 0 members scene
  | .attempting attempt call, scene =>
      call.resumeJournal scene ++
        RetryMark.journal (attempt.inner.startJournal attempt.events)
          ((Call.attempting attempt call).retryMarks scene)
  | .backingOff attempt due, scene =>
      RetryMark.journal (attempt.inner.startJournal attempt.events)
        ((Call.backingOff attempt due).retryMarks scene)
where
  resumeAllJournal (position : Nat) : List Call → Scene → List LeafRecord
    | [], _ => []
    | member :: members, scene =>
        (member.resumeJournal scene).map (.under position) ++
          resumeAllJournal (position + 1) members (member.resume scene).2

end Call

/-! ### Notes -/

def Diagnostic.isRetry : Diagnostic → Bool
  | .retryScheduled .. => true
  | .retryExhausted .. => true
  | _ => false

/-- A way to look at notes that a journal accounts for: what is seen of a leaf's notes is seen
of its records, and nothing is seen of a retry's reports. -/
structure NoteView (α : Type) where
  ofNote : Note → List α
  ofRecord : Transport → Exchange → List α
  called : ∀ time index name events detailed, ofNote (.called time name events detailed) =
    ofRecord (.collector index name) (.called events)
  answered : ∀ time index name failure, ofNote (.answered time name failure) =
    ofRecord (.collector index name) (.answered failure)
  logged : ∀ name events,
    events.flatMap (fun event => ofNote (.logged (Scene.debugEntry name event))) =
      ofRecord (.debug name) (.called events) ++ ofRecord (.debug name) (.answered none)
  retries : ∀ time diagnostic, diagnostic.isRetry = true →
    ofNote (.observed time diagnostic) = [] ∧ ofNote (.logged diagnostic.logEntry) = []

namespace NoteView

/-- The view in which no note shows. -/
def nothing : NoteView Empty where
  ofNote _ := []
  ofRecord _ _ := []
  called _ _ _ _ _ := rfl
  answered _ _ _ _ := rfl
  logged _ _ := by simp
  retries _ _ _ := ⟨rfl, rfl⟩

variable {α : Type} (view : NoteView α)

def ofScene (scene : Scene) : List α :=
  scene.notes.toList.flatMap view.ofNote

def ofJournal (journal : List LeafRecord) : List α :=
  journal.flatMap fun record => view.ofRecord record.leaf record.exchange

@[simp] theorem ofJournal_nil : view.ofJournal [] = [] := rfl

@[simp] theorem ofJournal_append (first second : List LeafRecord) :
    view.ofJournal (first ++ second) = view.ofJournal first ++ view.ofJournal second :=
  List.flatMap_append

@[simp] theorem ofJournal_under (position : Nat) (journal : List LeafRecord) :
    view.ofJournal (journal.map (.under position)) = view.ofJournal journal := by
  simp [ofJournal, List.flatMap_map, LeafRecord.under]

@[simp] theorem ofScene_note (scene : Scene) (note : Note) :
    view.ofScene (scene.note note) = view.ofScene scene ++ view.ofNote note := by
  simp [ofScene, Scene.note]

theorem ofScene_log_entries (name : String) (events : List Event) (scene : Scene) :
    view.ofScene (events.foldl (fun scene event => scene.log (Scene.debugEntry name event)) scene) =
      view.ofScene scene ++
        events.flatMap fun event => view.ofNote (.logged (Scene.debugEntry name event)) := by
  induction events generalizing scene with
  | nil => simp
  | cons event events inductionHypothesis =>
      rw [List.foldl_cons, inductionHypothesis]
      simp [Scene.log]

theorem ofScene_observe_retry {diagnostic : Diagnostic} (retry : diagnostic.isRetry = true)
    (scene : Scene) (observer : Observer) :
    view.ofScene (scene.observe observer diagnostic) = view.ofScene scene := by
  obtain ⟨observed, logged⟩ := view.retries scene.now diagnostic retry
  cases observer <;> simp [Scene.observe, Observer.noteOf, observed, logged]

end NoteView

/-- What a call does to the scene, given its journal. The clock and the number of collectors
stay as they are. -/
structure Scene.Tells {α : Type} (view : NoteView α) (scene after : Scene)
    (journal : List LeafRecord) : Prop where
  clock : after.now = scene.now
  collectors : after.collectors.length = scene.collectors.length
  notes : view.ofScene after = view.ofScene scene ++ view.ofJournal journal

namespace Scene.Tells

variable {α : Type} {view : NoteView α} {scene middle after : Scene}
  {journal laterJournal : List LeafRecord}

theorem refl (view : NoteView α) (scene : Scene) : Tells view scene scene [] :=
  ⟨rfl, rfl, (List.append_nil _).symm⟩

theorem trans (first : Tells view scene middle journal)
    (second : Tells view middle after laterJournal) :
    Tells view scene after (journal ++ laterJournal) where
  clock := second.clock.trans first.clock
  collectors := second.collectors.trans first.collectors
  notes := by rw [second.notes, first.notes, view.ofJournal_append, List.append_assoc]

theorem under (tells : Tells view scene after journal) (position : Nat) :
    Tells view scene after (journal.map (.under position)) :=
  ⟨tells.clock, tells.collectors, by rw [view.ofJournal_under, tells.notes]⟩

theorem observeRetry (scene : Scene) (observer : Observer) {diagnostic : Diagnostic}
    (retry : diagnostic.isRetry = true) :
    Tells view scene (scene.observe observer diagnostic) [] where
  clock := by cases observer <;> rfl
  collectors := by cases observer <;> rfl
  notes := by simp [view.ofScene_observe_retry retry]

theorem modifyCollector_length (scene : Scene) (index : Nat) (change : Collector → Collector) :
    (scene.modifyCollector index change).collectors.length = scene.collectors.length := by
  unfold modifyCollector
  split <;> simp

theorem answered (scene : Scene) (index : Nat) (name : String) (failure : Option TransportError) :
    Tells view scene (scene.answered index name failure)
      [⟨[], .collector index name, .answered failure⟩] where
  clock := by
    unfold Scene.answered modifyCollector
    split <;> rfl
  collectors := modifyCollector_length scene index Collector.finish
  notes := by
    have silent : view.ofScene (scene.modifyCollector index Collector.finish) =
        view.ofScene scene := by
      unfold modifyCollector
      split <;> rfl
    simp [Scene.answered, silent, NoteView.ofJournal, view.answered scene.now index]

theorem callCollector (scene : Scene) (index : Nat) (name : String) (events : List Event) :
    Tells view scene (scene.callCollector index name events).2
      (scene.collectorJournal index name events) := by
  unfold Scene.callCollector collectorJournal
  cases scene.collectors[index]? with
  | none => exact refl view scene
  | some collector =>
      let noted := { scene with
          collectors := scene.collectors.set index collector.begin.2 }.note
        (.called scene.now name events collector.detailed)
      have called : Tells view scene noted [⟨[], .collector index name, .called events⟩] :=
        ⟨rfl, List.length_set, by
          simp [noted, Scene.note, NoteView.ofJournal, NoteView.ofScene,
            view.called scene.now index]⟩
      dsimp only
      by_cases prompt : collector.begin.1.duration = 0
      · simp only [if_pos prompt]
        exact called.trans (answered noted index name collector.begin.1.failure)
      · simp only [if_neg prompt]
        exact called

theorem logEvents (name : String) (events : List Event) (scene : Scene) :
    Tells view scene
      (events.foldl (fun scene event => scene.log (debugEntry name event)) scene)
      [⟨[], .debug name, .called events⟩, ⟨[], .debug name, .answered none⟩] := by
  have kept : ∀ scene : Scene,
      (events.foldl (fun scene event => scene.log (debugEntry name event)) scene).now = scene.now ∧
      (events.foldl (fun scene event => scene.log (debugEntry name event)) scene).collectors =
        scene.collectors := by
    induction events with
    | nil => exact fun scene => ⟨rfl, rfl⟩
    | cons event events inductionHypothesis =>
        exact fun scene => inductionHypothesis (scene.log (debugEntry name event))
  refine ⟨(kept scene).1, congrArg List.length (kept scene).2, ?_⟩
  rw [view.ofScene_log_entries, view.logged]
  simp [NoteView.ofJournal]

theorem schedule (attempt : RetryAttempt) (error : TransportError) (scene : Scene) :
    Tells view scene (attempt.schedule error scene).2.2 [] :=
  observeRetry scene attempt.observer rfl

theorem exhaust (attempt : RetryAttempt) (scene : Scene) :
    Tells view scene (attempt.exhaust scene).2 [] :=
  observeRetry scene attempt.observer rfl

section Attempts

variable {start : Scene → Call × Scene} {attemptJournal : Scene → List LeafRecord}

theorem follows (each : ∀ scene, Tells view scene (start scene).2 (attemptJournal scene))
    {attempt : RetryAttempt} {call : Call} {result : Call × Scene} {marks : List RetryMark}
    (follows : attempt.Follows start call scene result marks) :
    Tells view scene result.2 (RetryMark.journal attemptJournal marks) := by
  induction follows with
  | accepted attempt scene => exact refl view scene
  | rejected attempt error scene => exact refl view scene
  | pending attempt scene waits => exact refl view scene
  | backOff attempt error scene => exact schedule attempt error scene
  | exhaust attempt error scene => exact (schedule attempt error scene).trans (exhaust _ _)
  | again attempt error scene _ _ _ _ inductionHypothesis =>
      exact (schedule attempt error scene).trans ((each _).trans inductionHypothesis)

theorem make (each : ∀ scene, Tells view scene (start scene).2 (attemptJournal scene))
    (attempt : RetryAttempt) (scene : Scene) :
    Tells view scene (attempt.make start scene).2
      (RetryMark.journal attemptJournal (attempt.makeMarks start scene)) := by
  unfold RetryAttempt.make RetryAttempt.makeMarks
  split
  · exact exhaust attempt scene
  · exact (each scene).trans (follows each (attempt.follow_follows _ _ _ _))

end Attempts

variable (view)

mutual

/-- The notes of a call that starts are those of its journal. -/
theorem start (events : List Event) : (transport : Transport) → (scene : Scene) →
    Tells view scene (transport.start events scene).2 (transport.startJournal events scene)
  | .collector index name, scene => callCollector scene index name events
  | .debug name, scene => logEvents name events scene
  | .switch _ none, scene => refl view scene
  | .switch _ (some pinned), scene => start events pinned scene
  | .group _ [], scene => refl view scene
  | .group _ (member :: members), scene =>
      ((start events member scene).under 0).trans (startAll events 1 members _)
  | .retry _ _ inner, scene => make (start events inner) _ scene

theorem startAll (events : List Event) (position : Nat) :
    (members : List Transport) → (scene : Scene) →
    Tells view scene (Transport.start.startAll events members scene).2
      (Transport.startJournal.startAllJournal events position members scene)
  | [], scene => refl view scene
  | member :: members, scene =>
      ((start events member scene).under position).trans (startAll events (position + 1) members _)

end

mutual

/-- The notes of a call that goes on are those of its journal. -/
theorem resume : (call : Call) → (scene : Scene) →
    Tells view scene (call.resume scene).2 (call.resumeJournal scene)
  | .settled _, scene => refl view scene
  | .collecting index name due failure, scene => by
      unfold Call.resume Call.resumeJournal
      split
      · exact answered scene index name failure
      · exact refl view scene
  | .fanOut _ members, scene => resumeAll 0 members scene
  | .attempting attempt call, scene =>
      (resume call scene).trans
        (follows (start view attempt.events attempt.inner) (attempt.follow_follows _ _ _ _))
  | .backingOff attempt due, scene => by
      unfold Call.resume Call.resumeJournal Call.retryMarks
      dsimp only
      split
      · exact make (start view attempt.events attempt.inner) attempt.advance scene
      · exact refl view scene

theorem resumeAll (position : Nat) : (calls : List Call) → (scene : Scene) →
    Tells view scene (Call.resume.resumeAll calls scene).2
      (Call.resumeJournal.resumeAllJournal position calls scene)
  | [], scene => refl view scene
  | call :: calls, scene =>
      ((resume call scene).under position).trans (resumeAll (position + 1) calls _)

end

end Scene.Tells

end Telemetry
