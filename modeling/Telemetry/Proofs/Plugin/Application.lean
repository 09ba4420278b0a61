import Telemetry.Proofs.Event.RoundTrip
import Telemetry.Proofs.Tracker.Pipeline

/-!
Contract: the application context of the events of a tracker with default plugins.

Owns:
- how enriching and validating count the contexts that name an application;
- `Scene.Quietly`: what happens is noted, but no note reports an issue;
- `Tracker.HasDefaultPlugins`, kept by everything a tracker does;
- the theorem about the global contexts of a tracked event, and the issue that is
  reported about them.

The enriching hook asks whether such a context is there, and the validating hook
how many are. Between the two lie the owner's contexts, which come last, and the
kinds, which do not matter to either.
-/

namespace Telemetry

/-! ### Application contexts -/

namespace ApplicationContext

/-- How many contexts of a list name an application. -/
def count (contexts : List Context) : Nat :=
  contexts.countP fun context => context.type = contextType

theorem count_map_withKind (kind : ContextKind) (contexts : List Context) :
    count (contexts.map (Context.withKind kind)) = count contexts := by
  rw [count, List.countP_map]
  rfl

theorem occurrences_eq_count (event : Event) :
    occurrences event = count event.contexts.globalContexts :=
  List.countP_eq_length_filter.symm

theorem hasGlobal_iff (contexts : Contexts) :
    contexts.hasGlobal contextType = true ↔ 0 < count contexts.globalContexts := by
  rw [count, List.countP_pos_iff, Contexts.hasGlobal, List.any_eq_true]

theorem enrich_of_absent (host : PluginHost) {contexts : Contexts}
    (absent : count contexts.globalContexts = 0) :
    enrich host contexts = { contexts with
      globalContexts := contexts.globalContexts ++ [.global contextType host.applicationId] } := by
  have missing : ¬contexts.hasGlobal contextType = true := by
    rw [hasGlobal_iff]
    omega
  rw [enrich, if_neg missing]

theorem enrich_of_present (host : PluginHost) {contexts : Contexts}
    (present : 0 < count contexts.globalContexts) : enrich host contexts = contexts := by
  rw [enrich, if_pos ((hasGlobal_iff contexts).mpr present)]

/-- Enriched contexts name an application. -/
theorem count_enrich (host : PluginHost) (contexts : Contexts) :
    count (enrich host contexts).globalContexts = max 1 (count contexts.globalContexts) := by
  by_cases absent : count contexts.globalContexts = 0
  · rw [enrich_of_absent host absent, absent]
    have added : count (contexts.globalContexts ++ [.global contextType host.applicationId]) =
        count contexts.globalContexts + 1 := by
      rw [count, List.countP_append]
      rfl
    rw [added, absent]
    rfl
  · rw [enrich_of_present host (by omega)]
    omega

theorem enrich_sorted (host : PluginHost) {contexts : Contexts} (sorted : contexts.Sorted) :
    (enrich host contexts).Sorted := by
  unfold enrich
  split
  · exact sorted
  · refine ⟨sorted.locations, ?_⟩
    intro context member
    rcases List.mem_append.mp member with own | added
    · exact sorted.globals context own
    · rw [List.mem_singleton.mp added]
      rfl

theorem issue?_of_one {event : Event} (one : count event.contexts.globalContexts = 1) :
    issue? event = none := by
  rw [issue?, occurrences_eq_count, one]
  rfl

theorem issue?_of_several {event : Event} {found : Nat}
    (several : count event.contexts.globalContexts = found) (two : 2 ≤ found) :
    issue? event =
      some ("ApplicationContext must be present once, found " ++ Text.decimal found) := by
  obtain ⟨more, rfl⟩ : ∃ more, found = more + 2 := ⟨found - 2, by omega⟩
  rw [issue?, occurrences_eq_count, several]
  rfl

/-- What is said of several is not that there are none. -/
theorem several_ne_missing (found : Nat) :
    "ApplicationContext is missing" ≠
      "ApplicationContext must be present once, found " ++ Text.decimal found := by
  intro same
  have letters := congrArg (fun text : String => text.toList.take 20) same
  simp only [String.toList_append] at letters
  rw [List.take_append_of_le_length (by decide)] at letters
  exact absurd letters (by decide)

/-- The report about an event's application contexts, if there is one, is the only note. -/
theorem validate_notes (host : PluginHost) (event : Event) (scene : Scene) :
    (validate host event scene).notes.toList = scene.notes.toList ++
      (issue? event).toList.map fun message =>
        host.observer.noteOf scene.now (.validationIssue pluginName event.id message) := by
  unfold validate
  cases issue? event with
  | none => exact (List.append_nil _).symm
  | some message =>
      show (scene.observe host.observer _).notes.toList = _
      rw [Scene.observe]
      exact Array.toList_push

end ApplicationContext

/-! ### Issues among the notes -/

/-- The note reports an issue of an event, as it is or in the log. -/
def Note.ReportsIssue (note : Note) : Prop :=
  ∃ plugin event message,
    (∃ time, note = .observed time (.validationIssue plugin event message)) ∨
      note = .logged (Diagnostic.validationIssue plugin event message).logEntry

theorem not_reportsIssue_of_message {entry : LogEntry}
    (other : entry.message ≠ "Event validation issue") : ¬(Note.logged entry).ReportsIssue := by
  rintro ⟨plugin, event, message, ⟨time, same⟩ | same⟩
  · cases same
  · cases same
    exact other rfl

namespace Scene

/-- Notes were added, none of which reports an issue. -/
def Quietly (scene after : Scene) : Prop :=
  ∃ others : List Note, after.notes.toList = scene.notes.toList ++ others ∧
    ∀ note ∈ others, ¬note.ReportsIssue

namespace Quietly

variable {scene now after : Scene}

theorem refl (scene : Scene) : scene.Quietly scene :=
  ⟨[], (List.append_nil _).symm, List.forall_mem_nil _⟩

theorem note (quietly : scene.Quietly after) {note : Note} (other : ¬note.ReportsIssue) :
    scene.Quietly (after.note note) := by
  obtain ⟨others, notes, quiet⟩ := quietly
  refine ⟨others ++ [note], ?_, ?_⟩
  · rw [← List.append_assoc, ← notes]
    exact Array.toList_push
  · intro entry member
    rcases List.mem_append.mp member with earlier | last
    · exact quiet entry earlier
    · rw [List.mem_singleton.mp last]
      exact other

theorem log (quietly : scene.Quietly after) {entry : LogEntry}
    (other : entry.message ≠ "Event validation issue") : scene.Quietly (after.log entry) :=
  quietly.note (not_reportsIssue_of_message other)

/-- A delivery that fails is reported, but it is no issue of the event. -/
theorem deliveryFailed (quietly : scene.Quietly after) (observer : Observer)
    (transport event error : String) :
    scene.Quietly (after.observe observer (.deliveryFailed transport event error)) := by
  cases observer with
  | notes =>
      refine quietly.note ?_
      rintro ⟨plugin, id, message, ⟨time, same⟩ | same⟩ <;> cases same
  | log =>
      refine quietly.log ?_
      show "Event delivery failed" ≠ "Event validation issue"
      decide

end Quietly

end Scene

theorem Station.push_quietly (station : Station) (tasks : Bool) (events : List Event) :
    station.scene.Quietly (station.push tasks events).2.scene := by
  unfold push
  split
  · exact .refl _
  · have enqueued : "Enqueued events" ≠ "Event validation issue" := by decide
    have deferred :
        "No async runtime available, queue run deferred" ≠ "Event validation issue" := by
      decide
    cases tasks with
    | true => exact (Scene.Quietly.refl _).log enqueued
    | false => exact ((Scene.Quietly.refl _).log enqueued).log deferred

namespace Tracker

/-- Whatever comes of handing an event over, no issue is reported. -/
theorem deliver_quietly (tracker : Tracker) (event : Event) (site : Site) :
    site.scene.Quietly (tracker.deliver event site).scene := by
  by_cases usable : tracker.transport.any (Transport.isUsable site.scene)
  · obtain ⟨transport, given, usable⟩ := (Option.any_eq_true _ _).mp usable
    cases channel : site.channel with
    | none =>
        rw [deliver_of_no_channel given usable channel]
        split
        · exact .refl _
        · exact (Scene.Quietly.refl _).deliveryFailed ..
    | some pair =>
        obtain ⟨queue, store⟩ := pair
        have quietly := (Station.mk queue store site.scene).push_quietly site.tasks [event]
        rcases push : (Station.mk queue store site.scene).push site.tasks [event] with
          ⟨error | _, station⟩
        · rw [push] at quietly
          rw [deliver_of_push_error given usable channel push]
          exact quietly.deliveryFailed ..
        · rw [push] at quietly
          rw [deliver_of_push_ok given usable channel push]
          exact quietly
  · rw [deliver_of_unusable usable]
    exact .refl _

/-! ### Default plugins -/

/-- The tracker has the plugins that it gets when none are given. -/
def HasDefaultPlugins (tracker : Tracker) : Prop :=
  tracker.chain = .make defaultPlugins {
    trackerId := tracker.id
    applicationId := tracker.applicationId
    observer := tracker.observer }

theorem HasDefaultPlugins.setActive {tracker : Tracker} (defaults : tracker.HasDefaultPlugins)
    (active : Bool) (site : Site) : (tracker.setActive active site).1.HasDefaultPlugins := by
  unfold Tracker.setActive
  split
  · exact defaults
  · cases active <;> exact defaults

/-- Only the number of events is changed. -/
theorem track_tracker (tracker : Tracker) (attributes : EventAttributes) (time : Nat)
    (site : Site) : (tracker.track attributes time site).2.1 = tracker.drew := by
  cases active : tracker.active with
  | false => rw [track_of_inactive active]
  | true =>
      rw [track_of_active active]
      split
      · rfl
      · dsimp only
        split <;> rfl

theorem HasDefaultPlugins.steps {start state : Tracker × Site} {history : List Bool}
    (defaults : start.1.HasDefaultPlugins) (steps : Steps start history state) :
    state.1.HasDefaultPlugins := by
  induction steps with
  | start => exact defaults
  | step _ step inductionHypothesis =>
      cases step with
      | setActive tracker site active => exact inductionHypothesis.setActive active site
      | track tracker site attributes time =>
          rw [track_tracker]
          exact inductionHypothesis
      | pass => exact inductionHypothesis

theorem HasDefaultPlugins.of_build {plan : Plan} {site opened : Site} {tracker : Tracker}
    (unset : plan.plugins = none) (built : build plan site = (.ok tracker, opened)) :
    tracker.HasDefaultPlugins := by
  obtain ⟨fresh, unlit, builtOff, -, -, switched⟩ := build_eq_ok built
  have defaults : fresh.HasDefaultPlugins := by
    unfold build at builtOff
    by_cases blank : Text.isBlank plan.applicationId = true
    · simp [blank] at builtOff
    · simp only [blank, if_false, Bool.false_eq_true, unset, Option.getD_none] at builtOff
      cases builtOff
      rfl
  rw [show tracker = (fresh.setActive plan.active unlit).1 from congrArg Prod.fst switched]
  exact defaults.setActive plan.active unlit

/-- The event that an attempt to track gives, unless a plugin failed. -/
def Progress.event? : Progress → Option Event
  | .over (.ok event) => some event
  | .over (.error _) => none
  | .queued event => some event

section Default

variable {tracker : Tracker} (defaults : tracker.HasDefaultPlugins)

include defaults

theorem HasDefaultPlugins.enrich (contexts : Contexts) (scene : Scene) :
    tracker.chain.enrich contexts scene =
      { contexts := ApplicationContext.enrich tracker.chain.host contexts, scene } := by
  rw [defaults]
  rfl

theorem HasDefaultPlugins.accepts (event : Event) (scene : Scene) :
    let contexts := ApplicationContext.enrich tracker.chain.host event.contexts
    tracker.chain.Accepts event scene contexts scene
      (ApplicationContext.validate tracker.chain.host (event.derive contexts) scene) := by
  rw [defaults]
  exact ⟨.call rfl (.done _), .call rfl (.done _)⟩

/-- The default plugins let every event through, with the contexts that enriching gives it. -/
theorem HasDefaultPlugins.track (active : tracker.active = true) (attributes : EventAttributes)
    (time : Nat) (site : Site) :
    ∃ event, (tracker.track attributes time site).1.event? = some event ∧
      event.contexts = ApplicationContext.enrich tracker.chain.host
        (tracker.madeEvent attributes time).contexts ∧
      Scene.Quietly (ApplicationContext.validate tracker.chain.host event site.scene)
        (tracker.track attributes time site).2.2.scene := by
  have accepts := defaults.accepts (tracker.madeEvent attributes time) site.scene
  rw [track_of_accepts active accepts]
  refine ⟨_, ?_, ?_, tracker.deliver_quietly _ _⟩
  · dsimp only
    split <;> rfl
  · apply Contexts.normalized_eq_self_iff.mpr
    exact ApplicationContext.enrich_sorted _ (Contexts.normalized_sorted _)

end Default

/-- A tracker that was given no plugins keeps the default ones in all that it does. While it is
active, every event gets through them. Its global contexts are the attributes' and then the
owner's; the application's is added if none of them is of its type. One issue is reported if
several are, with their number, and none otherwise: in particular not that there are none. What
was enriched stays as it is when it is enriched again. -/
theorem default_plugins_name_the_application :
    (∀ plan site tracker opened history state, plan.plugins = none →
      build plan site = (.ok tracker, opened) → Steps (tracker, opened) history state →
      state.1.HasDefaultPlugins) ∧
    ∀ (tracker : Tracker) (attributes : EventAttributes) (time : Nat) (site : Site),
      tracker.HasDefaultPlugins → tracker.active = true →
      let globals := attributes.contexts.globalContexts ++ tracker.owner.globalContexts
      let found := globals.countP fun context => context.type = "ApplicationContext"
      let tracked := tracker.track attributes time site
      ∃ event messages others,
        tracked.1.event? = some event ∧
        tracked.2.2.scene.notes.toList = site.scene.notes.toList ++
          messages.map (fun message => tracker.observer.noteOf site.scene.now
            (.validationIssue "ApplicationContextPlugin" event.id message)) ++ others ∧
        (∀ note ∈ others, ¬note.ReportsIssue) ∧
        (found = 0 →
          event.contexts.globalContexts = globals.map (Context.withKind .global) ++
            [.global "ApplicationContext" tracker.applicationId] ∧ messages = []) ∧
        (found = 1 →
          event.contexts.globalContexts = globals.map (Context.withKind .global) ∧
            messages = []) ∧
        (2 ≤ found →
          event.contexts.globalContexts = globals.map (Context.withKind .global) ∧
            messages =
              ["ApplicationContext must be present once, found " ++ Text.decimal found]) ∧
        "ApplicationContext is missing" ∉ messages ∧
        ∀ scene, tracker.chain.enrich event.contexts scene =
          { contexts := event.contexts, scene } := by
  constructor
  · intro plan site tracker opened history state unset built steps
    exact (HasDefaultPlugins.of_build unset built).steps steps
  · intro tracker attributes time site defaults active globals found tracked
    obtain ⟨event, given, contexts, others, notes, quiet⟩ :=
      defaults.track active attributes time site
    have counted : ApplicationContext.count
        (tracker.madeEvent attributes time).contexts.globalContexts = found :=
      ApplicationContext.count_map_withKind .global globals
    have countEvent : ApplicationContext.count event.contexts.globalContexts = max 1 found := by
      rw [contexts, ApplicationContext.count_enrich, counted]
    have unchanged (present : 0 < found) :
        event.contexts.globalContexts = globals.map (Context.withKind .global) := by
      rw [contexts, ApplicationContext.enrich_of_present _ (counted ▸ present)]
      rfl
    have silent (few : found ≤ 1) : (ApplicationContext.issue? event).toList = [] := by
      rw [ApplicationContext.issue?_of_one (by omega)]
      rfl
    have several (many : 2 ≤ found) : (ApplicationContext.issue? event).toList =
        ["ApplicationContext must be present once, found " ++ Text.decimal found] := by
      rw [ApplicationContext.issue?_of_several (by omega) many]
      rfl
    refine ⟨event, (ApplicationContext.issue? event).toList, others, given, ?_, quiet, ?_, ?_, ?_,
      ?_, ?_⟩
    · rw [notes, ApplicationContext.validate_notes, defaults]
      rfl
    · intro none
      refine ⟨?_, silent (by omega)⟩
      rw [contexts, ApplicationContext.enrich_of_absent _ (counted.trans none), defaults]
      rfl
    · exact fun one => ⟨unchanged (by omega), silent (by omega)⟩
    · exact fun many => ⟨unchanged (by omega), several many⟩
    · rcases Nat.lt_or_ge found 2 with few | many
      · rw [silent (by omega)]
        exact List.not_mem_nil
      · rw [several many, List.mem_singleton]
        exact ApplicationContext.several_ne_missing found
    · intro scene
      rw [defaults.enrich, ApplicationContext.enrich_of_present _ (by omega)]

/-- A tracker without plugins of its own, whose owner names another application. -/
def rivalPlan : Plan where
  applicationId := "shop"
  owner := { globalContexts := [.location "ApplicationContext" "mall"] }
  observer := .log
  identifier := namedId ["first"]

def rivalAttributes : EventAttributes where
  type := "PressEvent"
  contexts :=
    { globalContexts := [.global "ApplicationContext" "kiosk", .location "PathContext" "/"] }

/-- A site without a queue. -/
def bareSite : Site where
  tasks := false
  channel := none
  scene := {}

/-- Neither of the two is taken away, and the tracker's own does not come third. -/
theorem rival_applications_are_reported :
    ∃ tracker opened event others,
      build rivalPlan bareSite = (.ok tracker, opened) ∧
      tracker.HasDefaultPlugins ∧ tracker.active = true ∧
      (tracker.track rivalAttributes 7 opened).1.event? = some event ∧
      event.contexts.globalContexts = [.global "ApplicationContext" "kiosk",
        .global "PathContext" "/", .global "ApplicationContext" "mall"] ∧
      (tracker.track rivalAttributes 7 opened).2.2.scene.notes.toList =
        opened.scene.notes.toList ++ [.logged (Diagnostic.validationIssue
          "ApplicationContextPlugin" event.id
          "ApplicationContext must be present once, found 2").logEntry] ++ others ∧
      ∀ note ∈ others, ¬note.ReportsIssue := by
  obtain ⟨keeps, tracks⟩ := default_plugins_name_the_application
  have defaults := keeps rivalPlan bareSite _ _ _ _ rfl rfl .start
  obtain ⟨event, messages, others, given, notes, quiet, -, -, several, -⟩ :=
    tracks _ rivalAttributes 7 (build rivalPlan bareSite).2 defaults rfl
  obtain ⟨globals, rfl⟩ := several (by decide)
  exact ⟨_, _, event, others, rfl, defaults, rfl, given, globals, notes, quiet⟩

end Tracker

end Telemetry
