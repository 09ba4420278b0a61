import Telemetry.Proofs.Queue.Milestones
import Telemetry.Proofs.Session.Background
import Telemetry.Replay.Run

/-!
Contract: the sessions that a replay goes through.

Owns:
- `Replay.Desk`, what changes in the session of a replay, and the session itself;
- `setUp_eq`: accepted settings lead to such a session, with the tracker active
  or not;
- what the line of an event, a malformed line and a blank line do to it, and how
  the wait for the queue begins and what is counted after it.

A replay has one queue, one store and one tracker, each with the number zero, so
that looking one of them up in the session computes.
-/

namespace Telemetry

/-- What the parts of a replay need of the settings. -/
structure Settings.Accepted (settings : Settings) : Prop where
  named : Text.isBlank settings.tracker.applicationId = false
  queue : settings.queue.validate = .ok ()
  attempts : 1 ≤ settings.retry.maxAttempts
  policy : settings.retry.policy.validate = .ok ()

theorem Settings.accepted_of_issues_eq_nil {settings : Settings} (valid : settings.issues = []) :
    settings.Accepted := by
  simp only [issues, List.append_eq_nil_iff] at valid
  obtain ⟨⟨⟨tracker, queue⟩, retry⟩, -⟩ := valid
  simp only [trackerIssues, List.append_eq_nil_iff, ite_eq_right_iff, List.cons_ne_nil, imp_false,
    Bool.not_eq_true] at tracker
  simp only [retryIssues, List.append_eq_nil_iff, ite_eq_right_iff, List.cons_ne_nil,
    imp_false] at retry
  refine ⟨tracker.1, ?_, Nat.one_le_iff_ne_zero.mpr retry.1.1, ?_⟩
  · unfold queueIssues at queue
    split at queue
    · assumption
    · cases queue
  · have policy := retry.2
    split at policy
    · assumption
    · cases policy

/-- A step that needs no waiting is performed as it begins. -/
theorem Session.perform_of_answer {session next : Session} {step : Step} {answer : Answer}
    (begun : session.begin step = next.answer answer) :
    session.perform step = (answer, next) := by
  simp only [perform, resume, begun, Session.answer]

namespace Replay

/-- The tracker of a replay, to be active or not. -/
def trackerThatIs (active : Bool) (settings : Settings) (identifiers : List String) :
    TrackerSpec :=
  { Replay.tracker settings identifiers with active := active }

/-- The transport that the batches of a replay go to. -/
def line (settings : Settings) (retrying : Bool) : Transport :=
  if retrying then .retry .log settings.retry.policy (.debug Transport.debugName)
  else .debug Transport.debugName

/-- The tracker of a replay, once it has made some events. -/
def agent (settings : Settings) (retrying : Bool) (identifiers : List String) (active : Bool)
    (drawn : Nat) : Tracker :=
  let id := settings.tracker.trackerId.getD settings.tracker.applicationId
  { id
    applicationId := settings.tracker.applicationId
    transport := some (line settings retrying)
    chain :=
      { host :=
          { trackerId := id, applicationId := settings.tracker.applicationId, observer := .log }
        plugins := [ApplicationContext.plugin] }
    observer := .log
    active
    waitDefaults := settings.wait
    identifier := namedId identifiers
    drawn }

/-- What that tracker is built from. -/
def plan (settings : Settings) (retrying : Bool) (identifiers : List String) (active : Bool) :
    Tracker.Plan where
  applicationId := settings.tracker.applicationId
  trackerId := settings.tracker.trackerId
  transport := some (line settings retrying)
  observer := .log
  active
  waitDefaults := settings.wait
  identifier := namedId identifiers

/-- What changes in the session of a replay. -/
structure Desk where
  station : Station
  /-- Events made so far. -/
  drawn : Nat := 0
  tasks : List Task := []
  ready : List Nat := []
  yielded : List Nat := []
  sleeping : List Nat := []

variable (settings : Settings) (retrying : Bool) (identifiers : List String) (active : Bool)

/-- The session of a replay. -/
def Desk.session (desk : Desk) : Session where
  scene := desk.station.scene
  stores := [desk.station.store]
  queues := [⟨desk.station.queue, 0⟩]
  trackers := [⟨agent settings retrying identifiers active desk.drawn, some 0⟩]
  names := {
    transports := [(name, line settings retrying)]
    queues := [(name, 0)]
    trackers := [(name, 0)] }
  tasks := desk.tasks
  ready := desk.ready
  yielded := desk.yielded
  sleeping := desk.sleeping

/-- The queue of a replay before anything is pushed. The tracker binds it when it is active. -/
def openingQueue : Queue where
  settings := settings.queue
  observer := .log
  processor := if active then some (line settings retrying) else none

theorem line_usable (scene : Scene) : (line settings retrying).isUsable scene = true := by
  cases retrying <;> rfl

/-- The session of a replay once it has a queue, and once it has a transport too. -/
def queueReady (scene : Scene) : Session where
  scene := scene
  stores := [{}]
  queues := [⟨{ settings := settings.queue, observer := .log }, 0⟩]
  names := { queues := [(name, 0)] }

def transportReady (scene : Scene) : Session where
  scene := scene
  stores := [{}]
  queues := [⟨{ settings := settings.queue, observer := .log }, 0⟩]
  names := { transports := [(name, line settings retrying)], queues := [(name, 0)] }

theorem prepare_of_answer {session next : Session} {step : Step} {answer : Answer}
    (begun : session.begin step = next.answer answer) (fine : ∀ error, answer ≠ .failed error)
    (circumstance : String) : prepare session circumstance step = (.ok (), next) := by
  rw [prepare, Session.perform_of_answer begun]
  cases answer with
  | failed error => exact absurd rfl (fine error)
  | _ => rfl

variable {settings} (accepted : settings.Accepted)

include accepted

theorem begin_queue (scene : Scene) :
    Session.begin { scene } (.queue name settings.queue none .log) =
      (queueReady settings scene).answer .done := by
  simp only [Session.begin, Session.makeQueue, Queue.make, accepted.queue]
  rfl

theorem begin_transport (scene : Scene) :
    (queueReady settings scene).begin (.transport name (transport settings retrying)) =
      (transportReady settings retrying scene).answer
        (.transport (line settings retrying).name true) := by
  cases retrying with
  | false => rfl
  | true =>
      simp only [Session.begin, Session.makeTransport, transport, if_true, Session.buildTransport,
        Transport.buildRetry, accepted.policy]
      rfl

/-- The tracker is built, and the queue is bound if the tracker is active. -/
theorem build_eq (before : Scene) :
    ∃ scene, Tracker.build (plan settings retrying identifiers active)
        ((transportReady settings retrying before).site (some 0)) =
      (.ok (agent settings retrying identifiers active 0),
        { tasks := true
          channel := some (openingQueue settings retrying active, {})
          scene }) ∧
      scene.now = before.now := by
  have named : ¬ Text.isBlank (plan settings retrying identifiers active).applicationId = true := by
    simpa [plan] using accepted.named
  rw [Tracker.build, if_neg named]
  cases active with
  | false => exact ⟨before, rfl, rfl⟩
  | true =>
      have opened : (transportReady settings retrying before).site (some 0) =
          { tasks := true
            channel := some ({ settings := settings.queue, observer := .log }, {})
            scene := before } := rfl
      simp only [plan, Tracker.combinedTransport, if_true, Tracker.setActive, Bool.false_eq_true,
        if_false, opened, line_usable]
      exact ⟨_, rfl, rfl⟩

theorem begin_tracker (before : Scene) :
    ∃ scene, (transportReady settings retrying before).begin
        (.tracker name (trackerThatIs active settings identifiers)) =
      (Desk.session settings retrying identifiers active
        { station := ⟨openingQueue settings retrying active, {}, scene⟩ }).answer
          (.text (agent settings retrying identifiers active 0).id) ∧
      scene.now = before.now := by
  obtain ⟨scene, built, clock⟩ := build_eq retrying identifiers active accepted before
  refine ⟨scene, ?_, clock⟩
  have planned : (transportReady settings retrying before).plannedQueue
      (trackerThatIs active settings identifiers).queue = some (some 0) := rfl
  have connected : (transportReady settings retrying before).buildOptionalTransport
      (trackerThatIs active settings identifiers).transport =
        (.ok (some (line settings retrying)), transportReady settings retrying before) := rfl
  have unrecorded : (transportReady settings retrying before).buildOptionalTransport
      (trackerThatIs active settings identifiers).recorder =
        (.ok none, transportReady settings retrying before) := rfl
  have unplugged : (trackerThatIs active settings identifiers).plugins = none := rfl
  simp only [Session.begin, Session.makeTracker, planned, connected, unrecorded, unplugged]
  simp only [plan] at built
  simp only [trackerThatIs, tracker, built]
  rfl

theorem setUp_eq (start : Nat) :
    ∃ scene, setUp settings retrying (trackerThatIs active settings identifiers) start =
      (.ok (), Desk.session settings retrying identifiers active
        { station := ⟨openingQueue settings retrying active, {}, scene⟩ }) ∧
      scene.now = start := by
  obtain ⟨scene, built, clock⟩ :=
    begin_tracker retrying identifiers active accepted { now := start }
  refine ⟨scene, ?_, clock⟩
  rw [setUp, prepare_of_answer (begin_queue accepted _) (by simp)]
  dsimp only
  rw [prepare_of_answer (begin_transport retrying accepted _) (by simp)]
  exact prepare_of_answer built (by simp) _

omit accepted

/-! ### Lines -/

variable {retrying identifiers active} {desk : Desk} {summary : ReplaySummary} {line : Nat × String}

/-- Time passes or something is logged. -/
def Desk.withScene (desk : Desk) (scene : Scene) : Desk :=
  { desk with station := { desk.station with scene } }

/-- An event was made and pushed, and a run asked for. -/
def Desk.pushed (desk : Desk) (after : Station) : Desk :=
  { desk with
    station := after
    drawn := desk.drawn + 1
    tasks := desk.tasks ++ [.active (.backgroundRun 0 none)]
    ready := desk.ready ++ [desk.tasks.length] }

theorem trackLine_of_blank (blank : Text.trim line.2 = "") (session : Session) :
    trackLine (summary, session) line = (summary, session) := by
  simp only [trackLine, blank, if_true]

theorem trackLine_of_malformed (content : Text.trim line.2 ≠ "")
    (malformed : EventAttributes.parse? (Text.trim line.2) = none) :
    ∃ scene, trackLine (summary, desk.session settings retrying identifiers active) line =
      ({ summary with malformed := summary.malformed + 1 },
        (desk.withScene scene).session settings retrying identifiers active) ∧
      scene.now = desk.station.scene.now := by
  simp only [trackLine, content, if_false, malformed]
  exact ⟨_, rfl, rfl⟩

variable {attributes : EventAttributes}

theorem trackLine_of_answer {session next : Session} {event : Event}
    (content : Text.trim line.2 ≠ "")
    (parsed : EventAttributes.parse? (Text.trim line.2) = some attributes)
    (begun : session.begin (.track name (.attributes attributes) {}) =
      next.answer (.event event)) :
    trackLine (summary, session) line =
      ({ summary with tracked := summary.tracked + 1 }, next) := by
  simp only [trackLine, content, if_false, parsed, Session.perform_of_answer begun]

/-- An active tracker pushes the event and asks for a run. -/
theorem begin_track_of_active (faultless : desk.station.store.Faultless) :
    ∃ event scene after, event.id = namedId identifiers desk.drawn ∧
      (Station.mk desk.station.queue desk.station.store scene).push true [event] =
          (.ok (), after) ∧
        (desk.session settings retrying identifiers true).begin
            (.track name (.attributes attributes) {}) =
          ((desk.pushed after).session settings retrying identifiers true).answer
            (.event event) ∧
        after.scene.now = desk.station.scene.now := by
  let tracker := agent settings retrying identifiers true desk.drawn
  let site := (desk.session settings retrying identifiers true).site (some 0)
  let made := tracker.madeEvent attributes desk.station.scene.now
  let event := made.derive (ApplicationContext.enrich tracker.chain.host made.contexts)
  let scene := ApplicationContext.validate tracker.chain.host event desk.station.scene
  have prepared : tracker.prepare (tracker.madeEvent attributes desk.station.scene.now)
      site.scene = (.ok event, scene) := rfl
  rcases push : (Station.mk desk.station.queue desk.station.store scene).push true [event] with
    ⟨result, after⟩
  have stored : (Station.mk desk.station.queue desk.station.store scene).store.Faultless :=
    faultless
  obtain ⟨rfl, -⟩ := Station.push_of_faultless stored push
  have delivered : tracker.deliver event { site with scene } =
      { site.withStation after with jobs := [.run] } :=
    Tracker.deliver_of_push_ok rfl (line_usable settings retrying scene) rfl push
  have tracked : tracker.track attributes desk.station.scene.now site =
      (.queued event, tracker.drew, { site.withStation after with jobs := [.run] }) := by
    rw [Tracker.track_of_active rfl, prepared]
    dsimp only
    rw [delivered]
    rfl
  have called := @Session.trackAttributes_eq (desk.session settings retrying identifiers true) 0
    ⟨tracker, some 0⟩ attributes {} _ _ _ tracked
  have clock : scene.now = desk.station.scene.now := by
    show (ApplicationContext.validate _ _ _).now = _
    unfold ApplicationContext.validate
    split <;> rfl
  exact ⟨event, scene, after, rfl, push, called, (Station.push_now push).trans clock⟩

/-- An inactive tracker makes the event and leaves it. -/
theorem begin_track_of_inactive :
    ∃ event scene, (desk.session settings retrying identifiers false).begin
        (.track name (.attributes attributes) {}) =
      (({ desk with drawn := desk.drawn + 1 }.withScene scene).session settings retrying
        identifiers false).answer (.event event) ∧
      scene.now = desk.station.scene.now := by
  have known : (desk.session settings retrying identifiers false).trackers[0]? =
      some ⟨agent settings retrying identifiers false desk.drawn, some 0⟩ := rfl
  exact ⟨_, _, Session.trackAttributes_of_inactive {} known rfl, rfl⟩

/-! ### The wait -/

/-- The clock can show the end of the wait that follows when some events were tracked. -/
def Timely (settings : Settings) (tracked now : Nat) : Prop :=
  Clock.Shows (.ofMilliseconds now +
    .ofMilliseconds ((Drain.options settings tracked).timeoutFor settings.queue))

theorem timeoutFor_options (settings : Settings) (tracked : Nat) :
    (Drain.options settings tracked).timeoutFor settings.queue =
      settings.wait.timeout.getD (Drain.timeout settings.queue tracked).milliseconds := by
  unfold Drain.options WaitOptions.timeoutFor
  cases set : settings.wait.timeout with
  | none => rfl
  | some timeout => rw [set, Option.getD_some]; rfl

/-- A wait that words describe is far from the end of the clock. -/
theorem timely_of_words (tracked : Nat) {now : Nat} (held : now < Word.size 64)
    (heldTimeout : ∀ timeout ∈ settings.wait.timeout, timeout < Word.size 64) :
    Timely settings tracked now := by
  have computed : (Drain.timeout settings.queue tracked).milliseconds < Word.size 64 := by
    rw [Drain.timeout, Duration.milliseconds, Duration.nanoseconds_min]
    have day : Drain.longestTimeout.nanoseconds / 1000000 < Word.size 64 := by decide
    exact Nat.lt_of_le_of_lt (Nat.div_le_div_right (Nat.min_le_right _ _)) day
  have timeout : (Drain.options settings tracked).timeoutFor settings.queue < Word.size 64 := by
    rw [timeoutFor_options]
    cases set : settings.wait.timeout with
    | none => exact computed
    | some timeout => exact heldTimeout timeout set
  have twice : Clock.Shows (.ofMilliseconds (2 * Word.size 64)) := by decide
  rw [Timely, ← Duration.ofMilliseconds_add]
  exact twice.trans_le (by omega)

/-- A wait that can begin looks at the queue at once. -/
theorem resume_drain {tracked : Nat} {wait : IdleWait}
    (begins : (Drain.options settings tracked).start? desk.station.queue.settings
      desk.station.scene.now = some wait) :
    (desk.session settings retrying identifiers active).resume (.step (drain settings tracked)) =
      (desk.session settings retrying identifiers active).resume (.waitIdle 0 wait) := by
  let session := desk.session settings retrying identifiers active
  let entry : TrackerEntry := ⟨agent settings retrying identifiers active desk.drawn, some 0⟩
  have known : session.trackerNamed? name = some (0, entry) := rfl
  have asked : session.trackerWait? entry (Drain.options settings tracked) =
      ((Drain.options settings tracked).start? desk.station.queue.settings
        desk.station.scene.now).map fun wait => .inr (0, wait) := rfl
  rw [begins, Option.map_some] at asked
  have begun : session.begin (drain settings tracked) = session.goOn (.waitIdle 0 wait) := by
    show session.waitForTracker name (some (Drain.options settings tracked)) = _
    simp only [Session.waitForTracker, known, Option.getD_some, asked]
  show session.resume _ = _
  simp only [Session.resume, begun]
  rfl

/-- The queue was found idle. -/
def isDrained : Answer → Bool
  | .flag idle => idle
  | _ => false

/-- What the summary says once the wait is over. -/
theorem conclude_eq (rested : Answer) :
    (conclude summary rested (desk.session settings retrying identifiers active)).1 =
      { summary with
        deliveredBatches := desk.station.queue.deliveredBatches
        failedBatches := desk.station.queue.failedBatches
        pending := desk.station.store.length
        drained := isDrained rested } := by
  cases rested <;> rfl

end Replay

end Telemetry
