import Telemetry.Proofs.Transport.Serving

/-!
Contract: when a composite accepts a batch, all its leaves have accepted it.

Owns:
- `LeafSign`, what the notes show of leaves;
- `Handled`, a call from its start on, in surroundings that change at will;
- the theorem that ties the outcome of a call to the answers of its leaves.
-/

namespace Telemetry

open Transport (Active)

open LeafRecord (answers)

/-- What the notes show of a leaf. -/
inductive LeafSign where
  | called (name : String) (events : List Event)
  | answered (name : String) (failure : Option TransportError)
  | logged (entry : LogEntry)

namespace LeafSign

def ofNote : Note → List LeafSign
  | .called _ name events _ => [.called name events]
  | .answered _ name failure => [.answered name failure]
  | .logged entry => if entry.target = "eventline::transport::debug" then [.logged entry] else []
  | _ => []

/-- The debug log has no answers, only an entry for each event. -/
def ofRecord : Transport → Exchange → List LeafSign
  | .debug name, .called events => events.map fun event => .logged (Scene.debugEntry name event)
  | .debug _, .answered _ => []
  | leaf, .called events => [.called leaf.name events]
  | leaf, .answered failure => [.answered leaf.name failure]

def view : NoteView LeafSign where
  ofNote := ofNote
  ofRecord := ofRecord
  called _ _ _ _ _ := rfl
  answered _ _ _ _ := rfl
  logged name events := by
    rw [ofRecord, ofRecord, List.append_nil, List.map_eq_flatMap]
    rfl
  retries time diagnostic _ := by
    cases diagnostic <;> exact ⟨rfl, rfl⟩

/-- The signs that were added to a scene. -/
def since (scene after : Scene) : List LeafSign :=
  (view.ofScene after).drop (view.ofScene scene).length

theorem since_of_tells {scene after : Scene} {journal : List LeafRecord}
    (tells : Scene.Tells view scene after journal) :
    since scene after = view.ofJournal journal := by
  rw [since, tells.notes, List.drop_left]

end LeafSign

/-- A transport handles a batch: its call from the start on, with the journal and with the
signs of leaves that it leaves in the notes. Between two looks at the call the surroundings
change at will, except that no collector goes away. -/
inductive Handled (transport : Transport) (events : List Event) :
    List LeafRecord → List LeafSign → Call → Scene → Prop where
  | start (scene : Scene) (known : transport.Known scene.collectors.length) :
      Handled transport events (transport.startJournal events scene)
        (LeafSign.since scene (transport.start events scene).2)
        (transport.start events scene).1 (transport.start events scene).2
  | resume {journal : List LeafRecord} {signs : List LeafSign} {call : Call} {scene : Scene}
      (handled : Handled transport events journal signs call scene) (later : Scene)
      (kept : scene.collectors.length ≤ later.collectors.length) :
      Handled transport events (journal ++ call.resumeJournal later)
        (signs ++ LeafSign.since later (call.resume later).2)
        (call.resume later).1 (call.resume later).2

namespace Handled

variable {transport : Transport} {events : List Event} {journal : List LeafRecord}
  {signs : List LeafSign} {call : Call} {scene : Scene}

theorem signs_eq (handled : Handled transport events journal signs call scene) :
    signs = LeafSign.view.ofJournal journal := by
  induction handled with
  | start scene known => exact LeafSign.since_of_tells (.start _ events transport scene)
  | @resume journal signs call scene _ later _ inductionHypothesis =>
      rw [inductionHypothesis, LeafSign.since_of_tells (.resume _ call later),
        NoteView.ofJournal_append]

theorem extends_nil (handled : Handled transport events journal signs call scene) :
    transport.Known scene.collectors.length ∧ Extends events transport [] call journal := by
  induction handled with
  | start scene known =>
      rw [start_collectors]
      exact ⟨known, Dutiful.every events transport scene [] known⟩
  | @resume journal signs call scene _ later kept inductionHypothesis =>
      obtain ⟨known, earlier⟩ := inductionHypothesis
      have laterKnown := known.mono kept
      have resumed := earlier.serves.resume later laterKnown
      rw [resume_collectors]
      refine ⟨laterKnown, List.forall_mem_append.mpr ⟨earlier.proper, resumed.proper⟩, ?_⟩
      simpa using resumed.serves

end Handled

/-- The notes of a call are those of its journal. All calls in it are calls of active leaves
with the batch as it is. If the transport succeeds, then every active leaf has accepted the
batch, its last answer being a success, and at least one was called. -/
theorem success_means_every_active_leaf_accepted {transport : Transport} {events : List Event}
    {journal : List LeafRecord} {signs : List LeafSign} {call : Call} {scene : Scene}
    (handled : Handled transport events journal signs call scene) :
    signs = LeafSign.view.ofJournal journal ∧
    (∀ record ∈ journal, Active transport record.address record.leaf ∧
      ∀ sent, record.exchange = .called sent → sent = events) ∧
    (call.outcome? = some none →
      (∀ address leaf, Active transport address leaf →
        none ∈ answers address journal ∧ (answers address journal).getLast? = some none) ∧
      ∃ address leaf, Active transport address leaf ∧
        ⟨address, leaf, .called events⟩ ∈ journal) := by
  have proper := handled.extends_nil.2.proper
  have serves := handled.extends_nil.2.serves
  refine ⟨handled.signs_eq, ?_, ?_⟩
  · intro record member
    exact ⟨(proper record member).active, (proper record member).batch⟩
  · intro success
    have accepted := serves.accepted_of_settled success
    rw [List.nil_append] at accepted
    refine ⟨fun address leaf active => ?_, accepted.asked⟩
    have last := accepted.last address leaf active
    exact ⟨List.mem_of_getLast? last, last⟩

/-- Two collectors. The first is busy at its second call. The other is busy at its first, and
takes its time to say so. -/
def busyScene : Scene where
  collectors := [
    { name := "a"
      answer := fun calls =>
        if calls = 1 then { failure := some (.retryable "a" "busy") } else {} },
    { name := "b"
      answer := fun calls =>
        if calls = 0 then { failure := some (.retryable "b" "busy"), duration := 5 } else {} }]

def relay : Transport :=
  .retry .notes {} (.group "all"
    [.switch "first" (some (.collector 0 "a")), .collector 1 "b", .debug "log"])

theorem relay_known : relay.Known busyScene.collectors.length := by
  rintro address index name (_ | _ | _ | _ | active)
  cases active with
  | @member _ _ position _ _ _ retained active =>
      match position with
      | 0 =>
          cases retained
          cases active with
          | pinned active =>
              cases active
              decide
      | 1 =>
          cases retained
          cases active
          decide
      | 2 =>
          cases retained
          cases active
      | _ + 3 => cases retained

def resumeAt (now : Nat) (handling : Call × Scene) : Call × Scene :=
  handling.1.resume { handling.2 with now }

theorem Handled.resumedAt {transport : Transport} {events : List Event}
    {handling : Call × Scene}
    (handled : ∃ journal signs, Handled transport events journal signs handling.1 handling.2)
    (now : Nat) :
    ∃ journal signs, Handled transport events journal signs
      (resumeAt now handling).1 (resumeAt now handling).2 := by
  obtain ⟨journal, signs, handled⟩ := handled
  exact ⟨_, _, handled.resume { handling.2 with now } (Nat.le_refl _)⟩

def press : List Event := [.make { type := "PressEvent" } "e-1" 1]

/-- The first attempt fails for one collector, the second for the other, the third for none. -/
def relayed : Call × Scene :=
  resumeAt 3005 (resumeAt 1005 (resumeAt 5 (relay.start press busyScene)))

theorem relay_accepts_at_the_third_attempt :
    ∃ journal signs, Handled relay press journal signs relayed.1 relayed.2 ∧
      relayed.1.outcome? = some none ∧ Active relay [0] (.collector 0 "a") ∧
      none ∈ answers [0] journal ∧ (answers [0] journal).getLast? = some none := by
  have settled : relayed.1.outcome?.map Option.isNone = some true := by decide +kernel
  obtain ⟨failure, outcome, noFailure⟩ := Option.map_eq_some_iff.mp settled
  rw [Option.isNone_iff_eq_none] at noFailure
  subst noFailure
  have active : Active relay [0] (.collector 0 "a") :=
    .inner (.member rfl (.pinned (.collector 0 "a")))
  have started : ∃ journal signs, Handled relay press journal signs
      (relay.start press busyScene).1 (relay.start press busyScene).2 :=
    ⟨_, _, .start busyScene relay_known⟩
  obtain ⟨journal, signs, handled⟩ :=
    Handled.resumedAt (Handled.resumedAt (Handled.resumedAt started 5) 1005) 3005
  exact ⟨journal, signs, handled, outcome, active,
    ((success_means_every_active_leaf_accepted handled).2.2 outcome).1 _ _ active⟩

end Telemetry
