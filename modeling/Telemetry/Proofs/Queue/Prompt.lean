import Telemetry.Proofs.Queue.Itinerary
import Telemetry.Proofs.Queue.Rebinding
import Telemetry.Proofs.Queue.Solo
import Telemetry.Proofs.Transport.NestedRetry

/-!
Contract: runs whose transport answers at once, and always the same.

Owns:
- `Transport.Prompt`, which transports these are: the debug log, and a retry
  around one of them, whose answer depends on whether it may make a call at all;
- `Run.Serves`: a run with such a transport never has a batch under way between
  two steps, and settles every batch with that answer.
-/

namespace Telemetry

/-- Without any time, no attempt is made, not even the first. -/
theorem RetryAttempt.isExhausted_of_no_time {attempt : RetryAttempt}
    (untimed : attempt.policy.maxRetry = some ⟨0⟩) (now : Nat) :
    attempt.isExhausted now = true := by
  rw [isExhausted, Bool.or_eq_true]
  right
  simp only [untimed]
  exact decide_eq_true (Nat.zero_le _)

/-- Every batch is settled at once, with the same outcome. -/
def Transport.Prompt (transport : Transport) (failure : Option TransportError) : Prop :=
  ∀ events scene, (transport.start events scene).1 = .settled failure

namespace Transport.Prompt

theorem debug (name : String) : Prompt (.debug name) none := fun _ _ => rfl

variable {observer : Observer} {policy : RetryPolicy} {inner : Transport}

/-- A retry that may make a call passes on that it was accepted. -/
theorem retry (prompt : inner.Prompt none) (allowed : 1 ≤ policy.maxAttempts)
    (timed : policy.maxRetry ≠ some ⟨0⟩) : (Transport.retry observer policy inner).Prompt none := by
  intro events scene
  have accepted : (inner.handle events [] scene).1 = .settled none := prompt events scene
  have calm : (inner.handle events [] scene).1.asksAgain = false := by
    rw [accepted]
    rfl
  have handled := @RetryAttempt.handle_retry observer _ _ events [] scene allowed timed calm
  rw [accepted] at handled
  exact congrArg Prod.fst handled

/-- A retry without any time is exhausted before its first attempt, whatever it is around. -/
theorem retry_of_no_time (untimed : policy.maxRetry = some ⟨0⟩) :
    (Transport.retry observer policy inner).Prompt (some (.retryExhausted 0 [])) := by
  intro events scene
  have exhausted : RetryAttempt.isExhausted
      { observer, policy, inner, events, startedAt := scene.now } scene.now = true :=
    RetryAttempt.isExhausted_of_no_time untimed scene.now
  have noneBefore : (1 + Word.largest 32) % Word.size 32 = 0 := by decide
  simp only [Transport.start, RetryAttempt.make, exhausted, if_true, RetryAttempt.exhaust,
    RetryAttempt.previous, noneBefore]

end Transport.Prompt

namespace Run

/-- The run hands its batches to a transport, and has none under way. -/
structure Serves (transport : Transport) (run : Run) : Prop where
  processor : run.processor = transport
  nothing : run.stage.flights = []

namespace Serves

variable {transport : Transport} {run next : Run} {station after : Station}

theorem wake (serves : run.Serves transport) : run.wake.Serves transport where
  processor := by rw [wake_processor, serves.processor]
  nothing := by
    have nothing := serves.nothing
    unfold Run.wake
    split <;> rename_i stage
    · rfl
    · simpa [stage, RunStage.flights, goTo] using nothing
    · exact nothing

/-- A step leaves no batch under way, and the outcome of a batch is that of the transport. -/
theorem step {failure : Option TransportError} (prompt : transport.Prompt failure)
    (serves : run.Serves transport) (faultless : station.store.Faultless)
    (stepped : run.step? station = some (next, after)) :
    next.Serves transport ∧
      ∀ batch outcome, run.occurrence? station = some (.settled batch outcome) →
        outcome = failure := by
  have processor : next.processor = transport :=
    (step?_move stepped).keeps_processor.trans serves.processor
  have nothing := serves.nothing
  have transit := step?_transit faultless stepped
  generalize run.occurrence? station = label, after.scene = scene at transit ⊢
  cases transit with
  | quiet quiet =>
      refine ⟨⟨processor, ?_⟩, by simp⟩
      generalize run.stage = stage at quiet nothing
      cases quiet with
      | handedOver flight flights => cases nothing
      | _ => rfl
  | takeFlag => exact ⟨⟨processor, rfl⟩, by simp⟩
  | full => exact ⟨⟨processor, rfl⟩, by simp⟩
  | exhausted => exact ⟨⟨processor, rfl⟩, by simp⟩
  | take => exact ⟨⟨processor, rfl⟩, by simp⟩
  | settleAtOnce stage outcome =>
      rw [serves.processor, prompt] at outcome
      cases outcome
      rw [stage] at nothing
      refine ⟨⟨processor, nothing⟩, ?_⟩
      rintro batch outcome same
      cases same
      rfl
  | handOver stage pending =>
      rw [serves.processor, prompt] at pending
      cases pending
  | settle stage | lookOn stage =>
      rw [stage] at nothing
      cases nothing

end Serves

end Run

end Telemetry
