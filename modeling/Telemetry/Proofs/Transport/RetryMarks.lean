import Telemetry.Transport.Call

/-!
Contract: the turns of the loop of a retry, mark by mark.

Owns:
- `RetryMark`: what a retry does, with the attempt and the time of each of its
  acts, and for a call the scene on which it is made;
- the marks of each look at a retry, the only account of its turns;
- `RetryAttempt.Follows`, everything that following a call of the inner transport
  can come to, with its marks.

What else is told of a retry is told of its marks: the records of leaves that its
calls leave (`Proofs.Transport.Journal`), the steps from one moment to the next
(`Proofs.Transport.RetrySteps`), and the number of the calls.
-/

namespace Telemetry

/-- An act of a retry: a call of the inner transport, a failure that asks for another attempt, the
end of a wait, or giving up. -/
inductive RetryMark where
  | called (attempt : RetryAttempt) (scene : Scene)
  | failed (attempt : RetryAttempt) (time : Nat)
  | awoke (attempt : RetryAttempt) (time : Nat)
  | gaveUp (attempt : RetryAttempt) (time : Nat)

def RetryMark.isCall : RetryMark → Bool
  | .called _ _ => true
  | _ => false

namespace RetryAttempt

/-- Hand the batch to the inner transport. -/
def startInner (attempt : RetryAttempt) (scene : Scene) : Call × Scene :=
  attempt.inner.start attempt.events scene

/-- The marks of `follow`. -/
def followMarks
    (start : Scene → Call × Scene)
    (turns : Nat)
    (attempt : RetryAttempt)
    (call : Call)
    (scene : Scene) : List RetryMark :=
  match call with
  | .settled (some error) =>
      if error.isRetryable then
        let (scheduled, due, after) := attempt.schedule error scene
        .failed attempt scene.now ::
          match turns with
          | 0 => []
          | turns + 1 =>
              if after.now < due then []
              else
                let next := scheduled.advance
                .awoke scheduled after.now ::
                  if next.isExhausted after.now then [.gaveUp next after.now]
                  else
                    .called next after ::
                      followMarks start turns next (start after).1 (start after).2
      else []
  | _ => []

/-- The marks of `make`. -/
def makeMarks (start : Scene → Call × Scene) (attempt : RetryAttempt) (scene : Scene) :
    List RetryMark :=
  if attempt.isExhausted scene.now then [.gaveUp attempt scene.now]
  else
    .called attempt scene ::
      attempt.followMarks start attempt.policy.maxAttempts (start scene).1 (start scene).2

/-- What following a call of the inner transport comes to, with its marks. -/
inductive Follows (start : Scene → Call × Scene) :
    RetryAttempt → Call → Scene → Call × Scene → List RetryMark → Prop where
  | accepted (attempt : RetryAttempt) (scene : Scene) :
      Follows start attempt (.settled none) scene (.settled none, scene) []
  | rejected (attempt : RetryAttempt) (error : TransportError) (scene : Scene)
      (final : error.isRetryable = false) :
      Follows start attempt (.settled (some error)) scene (.settled (some error), scene) []
  | pending (attempt : RetryAttempt) {call : Call} (scene : Scene) (waits : call.outcome? = none) :
      Follows start attempt call scene (.attempting attempt call, scene) []
  | backOff (attempt : RetryAttempt) (error : TransportError) (scene : Scene)
      (retryable : error.isRetryable = true) :
      Follows start attempt (.settled (some error)) scene
        (.backingOff (attempt.schedule error scene).1 (attempt.schedule error scene).2.1,
          (attempt.schedule error scene).2.2)
        [.failed attempt scene.now]
  | exhaust (attempt : RetryAttempt) (error : TransportError) (scene : Scene)
      (retryable : error.isRetryable = true)
      (come : (attempt.schedule error scene).2.1 ≤ (attempt.schedule error scene).2.2.now)
      (exhausted : (attempt.schedule error scene).1.advance.isExhausted
        (attempt.schedule error scene).2.2.now = true) :
      Follows start attempt (.settled (some error)) scene
        ((attempt.schedule error scene).1.advance.exhaust (attempt.schedule error scene).2.2)
        [.failed attempt scene.now,
          .awoke (attempt.schedule error scene).1 (attempt.schedule error scene).2.2.now,
          .gaveUp (attempt.schedule error scene).1.advance (attempt.schedule error scene).2.2.now]
  | again (attempt : RetryAttempt) (error : TransportError) (scene : Scene) {result : Call × Scene}
      {marks : List RetryMark} (retryable : error.isRetryable = true)
      (come : (attempt.schedule error scene).2.1 ≤ (attempt.schedule error scene).2.2.now)
      (allowed : (attempt.schedule error scene).1.advance.isExhausted
        (attempt.schedule error scene).2.2.now = false)
      (follows : Follows start (attempt.schedule error scene).1.advance
        (start (attempt.schedule error scene).2.2).1 (start (attempt.schedule error scene).2.2).2
        result marks) :
      Follows start attempt (.settled (some error)) scene result
        (.failed attempt scene.now ::
          .awoke (attempt.schedule error scene).1 (attempt.schedule error scene).2.2.now ::
          .called (attempt.schedule error scene).1.advance (attempt.schedule error scene).2.2 ::
          marks)

/-- A call that is not settled is waited for, and one that is settled for good is passed on. -/
theorem follow_follows_of_not_refused (start : Scene → Call × Scene) (turns : Nat)
    (attempt : RetryAttempt) {call : Call} (scene : Scene)
    (notRefused : ¬∃ error, call = .settled (some error) ∧ error.isRetryable = true) :
    Follows start attempt call scene (attempt.follow start turns call scene)
      (attempt.followMarks start turns call scene) := by
  unfold follow followMarks
  cases call with
  | settled failure =>
      cases failure with
      | none => exact .accepted attempt scene
      | some error =>
          have final : ¬error.isRetryable = true := fun retryable =>
            notRefused ⟨error, rfl, retryable⟩
          simp only [if_neg final]
          exact .rejected attempt error scene (eq_false_of_ne_true final)
  | collecting | fanOut | attempting | backingOff => exact .pending attempt scene rfl

theorem follow_follows (start : Scene → Call × Scene) (turns : Nat) (attempt : RetryAttempt)
    (call : Call) (scene : Scene) :
    Follows start attempt call scene (attempt.follow start turns call scene)
      (attempt.followMarks start turns call scene) := by
  induction turns generalizing attempt call scene with
  | zero =>
      by_cases refused : ∃ error, call = .settled (some error) ∧ error.isRetryable = true
      · obtain ⟨error, rfl, retryable⟩ := refused
        simp only [follow, followMarks, if_pos retryable]
        exact .backOff attempt error scene retryable
      · exact follow_follows_of_not_refused _ _ _ _ refused
  | succ turns inductionHypothesis =>
      by_cases refused : ∃ error, call = .settled (some error) ∧ error.isRetryable = true
      · obtain ⟨error, rfl, retryable⟩ := refused
        simp only [follow, followMarks, if_pos retryable]
        split
        · exact .backOff attempt error scene retryable
        · rename_i late
          have come := Nat.le_of_not_lt late
          split
          · exact .exhaust attempt error scene retryable come ‹_›
          · exact .again attempt error scene retryable come (eq_false_of_ne_true ‹_›)
              (inductionHypothesis _ _ _)
      · exact follow_follows_of_not_refused _ _ _ _ refused

end RetryAttempt

namespace Call

/-- The marks of a retry that is looked at again. -/
def retryMarks : Call → Scene → List RetryMark
  | .attempting attempt call, scene =>
      attempt.followMarks attempt.startInner attempt.policy.maxAttempts (call.resume scene).1
        (call.resume scene).2
  | .backingOff attempt due, scene =>
      if due ≤ scene.now then
        .awoke attempt scene.now :: attempt.advance.makeMarks attempt.startInner scene
      else []
  | _, _ => []

/-- The marks of a retry that is looked at again and again. -/
def retryMarksAlong : List (Scene → Scene) → Call × Scene → List RetryMark
  | [], _ => []
  | change :: changes, (call, scene) =>
      call.retryMarks (change scene) ++ retryMarksAlong changes (call.resume (change scene))

theorem retryMarksAlong_settled (changes : List (Scene → Scene))
    (failure : Option TransportError) (scene : Scene) :
    retryMarksAlong changes (.settled failure, scene) = [] := by
  induction changes generalizing scene with
  | nil => rfl
  | cons change changes inductionHypothesis => exact inductionHypothesis (change scene)

end Call

namespace Transport

/-- The marks of a retry while it handles a batch. -/
def retryMarks (observer : Observer) (policy : RetryPolicy) (inner : Transport)
    (events : List Event) (changes : List (Scene → Scene)) (scene : Scene) : List RetryMark :=
  RetryAttempt.makeMarks (inner.start events)
      { observer, policy, inner, events, startedAt := scene.now } scene ++
    Call.retryMarksAlong changes ((Transport.retry observer policy inner).start events scene)

/-- A retry gives up at once, or its first mark is a call. -/
theorem retryMarks_cases (observer : Observer) (policy : RetryPolicy) (inner : Transport)
    (events : List Event) (changes : List (Scene → Scene)) (scene : Scene) :
    let first : RetryAttempt := { observer, policy, inner, events, startedAt := scene.now }
    (first.isExhausted scene.now = true ∧
        retryMarks observer policy inner events changes scene = [.gaveUp first scene.now]) ∨
      (first.isExhausted scene.now = false ∧
        ∃ rest, retryMarks observer policy inner events changes scene =
          .called first scene :: rest) := by
  intro first
  unfold retryMarks RetryAttempt.makeMarks
  cases exhausted : first.isExhausted scene.now with
  | true =>
      have started : (Transport.retry observer policy inner).start events scene =
          first.exhaust scene := if_pos exhausted
      left
      rw [if_pos rfl, started, RetryAttempt.exhaust, Call.retryMarksAlong_settled]
      exact ⟨rfl, rfl⟩
  | false =>
      right
      rw [if_neg Bool.false_ne_true]
      exact ⟨rfl, _, rfl⟩

end Transport

end Telemetry
