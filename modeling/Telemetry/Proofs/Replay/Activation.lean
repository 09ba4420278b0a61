import Telemetry.Proofs.Replay.Course

/-!
Contract: a replay and the setting that makes its tracker active.

Owns:
- `Replay.configured`, the tracker with all settings that the configuration has
  for it;
- that with an inactive tracker nothing happens to any event;
- when a replay, whose tracker is always active, behaves like one with the
  configured tracker.
-/

namespace Telemetry

open Occurrence

namespace Replay

/-- A tracker with all the settings that the configuration has for it. -/
def configured (settings : Settings) (identifiers : List String) : TrackerSpec where
  applicationId := settings.tracker.applicationId
  trackerId := settings.tracker.trackerId
  active := settings.tracker.active
  queue := some name
  transport := some (.named name)
  observer := .log
  waitDefaults := settings.wait
  identifiers := identifiers

theorem configured_eq (settings : Settings) (identifiers : List String) :
    configured settings identifiers =
      trackerThatIs settings.tracker.active settings identifiers := rfl

/-- The summary of a replay that has counted its lines and done nothing else. -/
def idleSummary (text : String) : ReplaySummary where
  tracked := (contents text).countP describesEvent
  malformed := (contents text).countP fun content => !describesEvent content
  drained := true

/-- It makes no difference whether the tracker is active: it is to be active, or there is no
event for it. -/
def Indifferent (settings : Settings) (text : String) : Prop :=
  settings.tracker.active = true ∨ (contents text).countP describesEvent = 0

variable {settings : Settings} {retrying : Bool} {identifiers : List String} {active : Bool}
  {start : Nat} {text : String} {summary : ReplaySummary} {history : List Occurrence} {desk : Desk}

theorem Outcome.eq_idleSummary
    (outcome : Outcome settings retrying identifiers active text summary history desk)
    (nothing : pushes history = []) : summary = idleSummary text := by
  have untouched : history = [] := (outcome.kept.untouched nothing).2
  have drained := outcome.rested nothing
  have delivered : summary.deliveredBatches = 0 := by rw [outcome.delivered_eq, untouched]; rfl
  have failed : summary.failedBatches = 0 := by rw [outcome.failed_eq, untouched]; rfl
  have pending : summary.pending = 0 := by
    rw [outcome.pending]
    exact List.length_eq_zero_iff.mpr (outcome.drained drained)
  obtain ⟨tracked, malformed, rejected⟩ := outcome.tallied
  cases summary
  simp_all [idleSummary]

/-- An inactive tracker leaves its events where they are, and without events there is nothing to
do. -/
theorem MayReturn.eq_idleSummary (accepted : settings.Accepted)
    (may : MayReturn (trackerThatIs active settings identifiers) settings retrying start text
      summary)
    (nothing : active = false ∨ (contents text).countP describesEvent = 0) :
    summary = idleSummary text := by
  obtain ⟨history, desk, outcome⟩ := may.outcome accepted
  refine outcome.eq_idleSummary ?_
  have drawn := outcome.kept.drawn
  rcases nothing with inactive | noEvent
  · simpa [inactive] using drawn
  · rw [outcome.counted, outcome.tallied.tracked, noEvent] at drawn
    simpa using drawn

/-- An active tracker with an event does something. -/
theorem MayReturn.ne_idleSummary (accepted : settings.Accepted)
    (may : MayReturn (trackerThatIs true settings identifiers) settings retrying start text summary)
    (event : (contents text).countP describesEvent ≠ 0) : summary ≠ idleSummary text := by
  obtain ⟨history, desk, outcome⟩ := may.outcome accepted
  rintro rfl
  have undelivered : deliveries history = [] :=
    List.length_eq_zero_iff.mp outcome.delivered_eq.symm
  exact event (outcome.tracked_eq_zero_of_undelivered accepted undelivered rfl)

theorem MayReturn.indifferent (accepted : settings.Accepted)
    (may : MayReturn (tracker settings identifiers) settings retrying start text summary)
    (mayAsConfigured : MayReturn (configured settings identifiers) settings retrying start text
      summary) : Indifferent settings text := by
  rw [configured_eq] at mayAsConfigured
  by_contra differs
  obtain ⟨inactive, event⟩ := not_or.mp differs
  have idle := mayAsConfigured.eq_idleSummary accepted (.inl (Bool.eq_false_iff.mpr inactive))
  exact @MayReturn.ne_idleSummary settings retrying identifiers start text summary accepted may
    event idle

/-- Nothing that a replay does depends on whether its tracker is to be active. -/
theorem run_withActive (settings : Settings) (active retrying : Bool) (identifiers : List String)
    (start : Nat) (input : Except FileError String) :
    run { settings with tracker := { settings.tracker with active } } retrying identifiers start
      input = run settings retrying identifiers start input := by
  have sameTracker : tracker { settings with tracker := { settings.tracker with active } }
      identifiers = tracker settings identifiers := rfl
  have sameDrain : Drain.options { settings with tracker := { settings.tracker with active } } =
      Drain.options settings := rfl
  simp only [run, runThrough, setUp, settle, drain, transport, sameTracker, sameDrain]

/-- A replay takes no notice of whether its tracker is to be active. With an inactive tracker it
would do nothing but count lines. So it does what its settings say exactly if the tracker is to
be active or no line describes an event, if the clock can show the end of its wait, and otherwise
no course of it comes to a summary that the configured tracker can come to. -/
theorem replay_follows_active_setting_iff (settings : Settings) (retrying : Bool)
    (identifiers : List String) (start : Nat) (text : String) (valid : settings.issues = []) :
    (∀ active, run { settings with tracker := { settings.tracker with active } } retrying
        identifiers start (.ok text) = run settings retrying identifiers start (.ok text)) ∧
      (settings.tracker.active = false → ∀ summary,
        MayReturn (configured settings identifiers) settings retrying start text summary →
          summary = idleSummary text) ∧
      (Timely settings ((contents text).countP describesEvent) start →
        ((run settings retrying identifiers start (.ok text)).1 =
            (runThrough (configured settings identifiers) settings retrying start (.ok text)).1 ↔
          Indifferent settings text)) ∧
      ∀ summary, MayReturn (tracker settings identifiers) settings retrying start text summary →
        MayReturn (configured settings identifiers) settings retrying start text summary →
          Indifferent settings text := by
  have accepted := Settings.accepted_of_issues_eq_nil valid
  refine ⟨fun active => run_withActive settings active retrying identifiers start _,
    fun inactive summary mayReturn => ?_, fun timely => ?_,
    fun summary => MayReturn.indifferent accepted⟩
  · rw [configured_eq] at mayReturn
    exact mayReturn.eq_idleSummary accepted (.inl inactive)
  · obtain ⟨summary, entries, returned, may⟩ :=
      runThrough_mayReturn retrying identifiers true accepted timely
    obtain ⟨summaryAsConfigured, entriesAsConfigured, returnedAsConfigured, mayAsConfigured⟩ :=
      runThrough_mayReturn retrying identifiers settings.tracker.active accepted timely
    have returns : run settings retrying identifiers start (.ok text) = (.ok summary, entries) :=
      returned
    rw [returns, configured_eq, returnedAsConfigured]
    constructor
    · intro same
      cases same
      exact MayReturn.indifferent accepted may mayAsConfigured
    · rintro (isActive | noEvent)
      · rw [isActive, returned] at returnedAsConfigured
        cases returnedAsConfigured
        rfl
      · rw [may.eq_idleSummary accepted (.inr noEvent),
          mayAsConfigured.eq_idleSummary accepted (.inr noEvent)]

/-- Without an event an inactive tracker goes unnoticed, also between other lines. -/
theorem inactive_replay_without_events :
    let settings : Settings := { tracker := { active := false } }
    let text := "no event\n\n\x7b\x7d\n"
    settings.issues = [] ∧
      (run settings true [] 0 (.ok text)).1 =
        (runThrough (configured settings []) settings true 0 (.ok text)).1 := by
  intro settings text
  have valid : settings.issues = [] := by decide +kernel
  have noEvent : Indifferent settings text := .inr (by decide +kernel)
  have timely : Timely settings ((contents text).countP describesEvent) 0 :=
    timely_of_words _ (by decide) nofun
  obtain ⟨-, -, follows, -⟩ := replay_follows_active_setting_iff settings true [] 0 text valid
  exact ⟨valid, (follows timely).mpr noEvent⟩

/-- One event is delivered although the tracker is not to be active, which would have left it
alone. -/
theorem inactive_replay_delivers_event :
    let settings : Settings := { tracker := { active := false } }
    let text := "\x7b\"type\": \"PressEvent\"\x7d"
    settings.issues = [] ∧
      (run settings false [] 0 (.ok text)).1.toOption =
        some { tracked := 1, deliveredBatches := 1, drained := true } ∧
      ∀ summary, MayReturn (configured settings []) settings false 0 text summary →
        summary = { tracked := 1, drained := true } := by
  intro settings text
  have valid : settings.issues = [] := by decide +kernel
  have idle : idleSummary text = { tracked := 1, drained := true } := by decide +kernel
  refine ⟨valid, ?_, fun summary may => ?_⟩
  · simp only [run, runThrough]
    rw [numberedLines_eq]
    decide +kernel
  · rw [← idle]
    exact may.eq_idleSummary (Settings.accepted_of_issues_eq_nil valid) (.inl rfl)

end Replay

end Telemetry
