import Telemetry.Proofs.Replay.Course
import Telemetry.Proofs.Transport.RetryMarks

/-!
Contract: whether accepted settings lead to attempts at delivery.

Owns:
- `Transport.innerCalls`, the calls that a retry makes of its inner transport
  while it handles a batch;
- that there is one exactly if the policy leaves any time for it;
- what this comes to in a replay: no batch fails, or none is delivered.
-/

namespace Telemetry

/-! ### Calls of the inner transport -/

namespace Transport

/-- The calls of the inner transport while a retry handles a batch. -/
def innerCalls (observer : Observer) (policy : RetryPolicy) (inner : Transport)
    (events : List Event) (changes : List (Scene → Scene)) (scene : Scene) : List RetryMark :=
  (retryMarks observer policy inner events changes scene).filter RetryMark.isCall

variable {observer : Observer} {policy : RetryPolicy} {inner : Transport} {events : List Event}
  {changes : List (Scene → Scene)} {scene : Scene}

theorem start_of_no_time (observer : Observer) (inner : Transport) (events : List Event)
    (scene : Scene) (untimed : policy.maxRetry = some ⟨0⟩) :
    ∃ after, (Transport.retry observer policy inner).start events scene =
      (.settled (some (.retryExhausted 0 [])), after) :=
  ⟨_, Prod.ext (Prompt.retry_of_no_time untimed events scene) rfl⟩

/-- A retry without any time makes no attempt, however often it is looked at. -/
theorem innerCalls_of_no_time (untimed : policy.maxRetry = some ⟨0⟩) :
    innerCalls observer policy inner events changes scene = [] := by
  rcases retryMarks_cases observer policy inner events changes scene with
    ⟨-, marks⟩ | ⟨allowed, rest, -⟩
  · rw [innerCalls, marks]
    rfl
  · rw [RetryAttempt.isExhausted_of_no_time untimed] at allowed
    cases allowed

/-- A retry that may make an attempt makes it at once. -/
theorem innerCalls_ne_nil_iff (allowed : 1 ≤ policy.maxAttempts) :
    innerCalls observer policy inner events changes scene ≠ [] ↔ policy.maxRetry ≠ some ⟨0⟩ := by
  constructor
  · intro called untimed
    exact called (innerCalls_of_no_time untimed)
  · intro timed
    rcases retryMarks_cases observer policy inner events changes scene with
      ⟨exhausted, -⟩ | ⟨-, rest, marks⟩
    · rw [RetryAttempt.isExhausted_first rfl allowed timed] at exhausted
      cases exhausted
    · rw [innerCalls, marks, List.filter_cons_of_pos rfl]
      exact List.cons_ne_nil _ _

/-- A retry without any time gives up on every batch. -/
theorem handle_of_no_time (untimed : policy.maxRetry = some ⟨0⟩) :
    ((Transport.retry observer policy inner).handle events changes scene).1 =
      .settled (some (.retryExhausted 0 [])) := by
  obtain ⟨after, started⟩ := start_of_no_time observer inner events scene untimed
  rw [handle, started, pursue_settled]

end Transport

/-! ### Outcomes of a replay -/

namespace Replay

open Occurrence

variable {settings : Settings} {retrying : Bool} {identifiers : List String} {active : Bool}
  {text : String} {summary : ReplaySummary} {history : List Occurrence} {desk : Desk}

theorem verdict_eq_none (timed : ¬(retrying = true ∧ settings.retry.maxRetry = some 0)) :
    verdict settings retrying = none := if_neg timed

theorem verdict_of_no_time (untimed : settings.retry.maxRetry = some 0) :
    verdict settings true = some (.retryExhausted 0 []) := if_pos ⟨rfl, untimed⟩

theorem Outcome.no_failure
    (outcome : Outcome settings retrying identifiers active text summary history desk)
    (accepts : verdict settings retrying = none) : summary.failedBatches = 0 := by
  rw [outcome.failed_eq, List.length_eq_zero_iff, failures, List.filter_eq_nil_iff]
  intro settlement member
  rw [outcome.kept.verdicts settlement member, accepts]
  exact Bool.false_ne_true

theorem Outcome.no_delivery {error : TransportError}
    (outcome : Outcome settings retrying identifiers active text summary history desk)
    (fails : verdict settings retrying = some error) : deliveries history = [] := by
  rw [deliveries, List.filterMap_eq_nil_iff]
  intro settlement member
  rw [outcome.kept.verdicts settlement member, fails]
  rfl

/-- Accepted settings always make a retry, which calls its inner transport at least once for every
batch exactly if they do not set its time to zero. So a replay has no failed batch, unless it
retries without any time: then it delivers nothing, and comes to rest only if there was nothing
to deliver. -/
theorem accepted_settings_attempt_delivery_iff (settings : Settings)
    (valid : settings.issues = []) :
    (∀ observer inner,
      Transport.buildRetry observer settings.retry.policy inner =
          .ok (.retry observer settings.retry.policy inner) ∧
        ∀ events changes scene,
          (Transport.innerCalls observer settings.retry.policy inner events changes scene ≠ [] ↔
              settings.retry.maxRetry ≠ some 0) ∧
            (settings.retry.maxRetry = some 0 →
              ((Transport.retry observer settings.retry.policy inner).handle events changes
                scene).1 = .settled (some (.retryExhausted 0 [])))) ∧
      ∀ retrying identifiers start text,
        (Timely settings ((contents text).countP describesEvent) start → ∃ summary entries,
          run settings retrying identifiers start (.ok text) = (.ok summary, entries) ∧
            MayReturn (tracker settings identifiers) settings retrying start text summary) ∧
        ∀ summary, MayReturn (tracker settings identifiers) settings retrying start text summary →
          (¬(retrying = true ∧ settings.retry.maxRetry = some 0) → summary.failedBatches = 0) ∧
            (retrying = true → settings.retry.maxRetry = some 0 →
              summary.deliveredBatches = 0 ∧ (summary.drained = true → summary.tracked = 0)) := by
  have accepted := Settings.accepted_of_issues_eq_nil valid
  refine ⟨fun observer inner => ⟨?_, fun events changes scene => ?_⟩,
    fun retrying identifiers start text => ⟨?_, fun summary may => ?_⟩⟩
  · simp only [Transport.buildRetry, accepted.policy]
  · rw [ne_eq settings.retry.maxRetry, ← policy_maxRetry_eq_zero_iff]
    exact ⟨Transport.innerCalls_ne_nil_iff accepted.attempts, Transport.handle_of_no_time⟩
  · exact runThrough_mayReturn retrying identifiers true accepted
  · obtain ⟨history, desk, outcome⟩ :=
      @MayReturn.outcome settings retrying identifiers true start text summary accepted may
    refine ⟨fun timed => outcome.no_failure (verdict_eq_none timed), ?_⟩
    rintro rfl untimed
    have undelivered := outcome.no_delivery (verdict_of_no_time untimed)
    refine ⟨?_, outcome.tracked_eq_zero_of_undelivered accepted undelivered⟩
    rw [outcome.delivered_eq, undelivered]
    rfl

/-- One attempt and one millisecond are enough. -/
theorem tightest_retry_attempts_delivery :
    let settings : Settings := { retry := { maxAttempts := 1, maxRetry := some 1 } }
    let text := "\x7b\"type\": \"PressEvent\"\x7d\n\x7b\"type\": \"PressEvent\"\x7d"
    settings.issues = [] ∧
      Transport.innerCalls .log settings.retry.policy (.debug "inner") [] [] {} ≠ [] ∧
      ∃ summary entries, run settings true [] 0 (.ok text) = (.ok summary, entries) ∧
        summary.failedBatches = 0 := by
  intro settings text
  have valid : settings.issues = [] := by decide +kernel
  obtain ⟨retries, replays⟩ := accepted_settings_attempt_delivery_iff settings valid
  obtain ⟨returns, every⟩ := replays true [] 0 text
  obtain ⟨summary, entries, returned, may⟩ :=
    returns (timely_of_words _ (by decide) nofun)
  refine ⟨valid, ((retries .log (.debug "inner")).2 [] [] {}).1.mpr (by decide), summary, entries,
    returned, (every summary may).1 ?_⟩
  rintro ⟨-, untimed⟩
  cases untimed

/-- Accepted settings leave a retry no time, so the event of a replay is never delivered, although
its transport does not fail. -/
theorem retry_without_time_delivers_nothing :
    let settings : Settings := { retry := { maxRetry := some 0 }, wait := { timeout := some 1500 } }
    let text := "\x7b\"type\": \"PressEvent\"\x7d"
    settings.issues = [] ∧
      (∀ events changes scene, Transport.innerCalls .log settings.retry.policy
        (.debug Transport.debugName) events changes scene = []) ∧
      (run settings true [] 0 (.ok text)).1.toOption =
        some { tracked := 1, failedBatches := 2, pending := 1 } := by
  intro settings text
  refine ⟨by decide +kernel, fun _ _ _ => Transport.innerCalls_of_no_time rfl, ?_⟩
  simp only [run, runThrough]
  rw [numberedLines_eq]
  decide +kernel

end Replay

end Telemetry
