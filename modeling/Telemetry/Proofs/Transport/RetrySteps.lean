import Mathlib.Logic.Relation
import Telemetry.Proofs.Transport.RetryLoop

/-!
Contract: a retry step by step, whatever happens between two looks at it.

Owns:
- `RetryMoment.Step`, one turn of the loop at a time: decide, call, wait;
- that every course of a retry is a sequence of these steps
  (`Transport.retryMarks_reached`).

One look at a retry may take many turns of the loop, or none. The marks say which
turns were taken, and the steps are the same however they are divided among the
looks. Between two looks others may act, but the clock is not set back.

Does not own: what the counter of the attempts holds, or how long the waits are.
-/

namespace Telemetry

namespace RetryAttempt

theorem startInner_now (attempt : RetryAttempt) (scene : Scene) :
    (attempt.startInner scene).2.now = scene.now :=
  (Scene.Tells.start .nothing attempt.events attempt.inner scene).clock

theorem schedule_due (attempt : RetryAttempt) (error : TransportError) (scene : Scene) :
    (attempt.schedule error scene).2.1 =
      scene.now + (attempt.policy.nextTimeout attempt.previous).timerMilliseconds :=
  rfl

end RetryAttempt

/-- None of the changes sets the clock back. -/
def Onward (changes : List (Scene → Scene)) : Prop :=
  ∀ change ∈ changes, ∀ scene : Scene, scene.now ≤ (change scene).now

/-! ### Steps -/

inductive RetryStage where
  /-- Another attempt is made or not. -/
  | deciding
  | calling (call : Call)
  | waiting (due : Nat)
  | finished (failure : Option TransportError)

/-- Where a retry is, and all that it did. -/
structure RetryMoment where
  attempt : RetryAttempt
  stage : RetryStage
  scene : Scene
  marks : List RetryMark

namespace RetryMoment

inductive Step : RetryMoment → RetryMoment → Prop where
  | giveUp {attempt : RetryAttempt} {scene : Scene} {marks : List RetryMark}
      (exhausted : attempt.isExhausted scene.now = true) :
      Step ⟨attempt, .deciding, scene, marks⟩
        ⟨attempt, .finished (some (.retryExhausted attempt.previous attempt.errors)),
          (attempt.exhaust scene).2, marks ++ [.gaveUp attempt scene.now]⟩
  | call {attempt : RetryAttempt} {scene : Scene} {marks : List RetryMark}
      (allowed : attempt.isExhausted scene.now = false) :
      Step ⟨attempt, .deciding, scene, marks⟩
        ⟨attempt, .calling (attempt.startInner scene).1, (attempt.startInner scene).2,
          marks ++ [.called attempt scene]⟩
  /-- The call goes on, on a scene that others may have changed. -/
  | goOn {attempt : RetryAttempt} {call : Call} {scene later : Scene} {marks : List RetryMark}
      (onward : scene.now ≤ later.now) :
      Step ⟨attempt, .calling call, scene, marks⟩
        ⟨attempt, .calling (call.resume later).1, (call.resume later).2, marks⟩
  | pass {attempt : RetryAttempt} {failure : Option TransportError} {scene : Scene}
      {marks : List RetryMark} :
      Step ⟨attempt, .calling (.settled failure), scene, marks⟩
        ⟨attempt, .finished failure, scene, marks⟩
  | fail {attempt : RetryAttempt} {error : TransportError} {scene : Scene}
      {marks : List RetryMark} (retryable : error.isRetryable = true) :
      Step ⟨attempt, .calling (.settled (some error)), scene, marks⟩
        ⟨(attempt.schedule error scene).1, .waiting (attempt.schedule error scene).2.1,
          (attempt.schedule error scene).2.2, marks ++ [.failed attempt scene.now]⟩
  | wait {attempt : RetryAttempt} {due : Nat} {scene later : Scene} {marks : List RetryMark}
      (onward : scene.now ≤ later.now) :
      Step ⟨attempt, .waiting due, scene, marks⟩ ⟨attempt, .waiting due, later, marks⟩
  | awake {attempt : RetryAttempt} {due : Nat} {scene : Scene} {marks : List RetryMark}
      (come : due ≤ scene.now) :
      Step ⟨attempt, .waiting due, scene, marks⟩
        ⟨attempt.advance, .deciding, scene, marks ++ [.awoke attempt scene.now]⟩
  | rest {attempt : RetryAttempt} {failure : Option TransportError} {scene later : Scene}
      {marks : List RetryMark} (onward : scene.now ≤ later.now) :
      Step ⟨attempt, .finished failure, scene, marks⟩ ⟨attempt, .finished failure, later, marks⟩

/-- Any number of steps. -/
abbrev Reaches : RetryMoment → RetryMoment → Prop := Relation.ReflTransGen Step

/-- The call and the scene that a retry shows when it has to wait or is over. -/
inductive Shows : RetryMoment → Call × Scene → Prop where
  | calling (attempt : RetryAttempt) (call : Call) (scene : Scene) (marks : List RetryMark) :
      Shows ⟨attempt, .calling call, scene, marks⟩ (.attempting attempt call, scene)
  | waiting (attempt : RetryAttempt) (due : Nat) (scene : Scene) (marks : List RetryMark) :
      Shows ⟨attempt, .waiting due, scene, marks⟩ (.backingOff attempt due, scene)
  | finished (attempt : RetryAttempt) (failure : Option TransportError) (scene : Scene)
      (marks : List RetryMark) :
      Shows ⟨attempt, .finished failure, scene, marks⟩ (.settled failure, scene)

/-- Steps with these marks lead to a moment that shows the course. -/
def Leads (moment : RetryMoment) (course : Call × Scene) (marks : List RetryMark) : Prop :=
  ∃ later, moment.Reaches later ∧ later.Shows course ∧ later.marks = moment.marks ++ marks

section Leads

variable {moment next : RetryMoment} {course : Call × Scene} {first rest : List RetryMark}

theorem Shows.leads (shows : moment.Shows course) : moment.Leads course [] :=
  ⟨moment, .refl, shows, (List.append_nil _).symm⟩

theorem Leads.after (leads : next.Leads course rest) (step : Step moment next)
    (marked : next.marks = moment.marks ++ first) : moment.Leads course (first ++ rest) := by
  obtain ⟨later, reaches, shows, marks⟩ := leads
  refine ⟨later, .head step reaches, shows, ?_⟩
  rw [marks, marked, List.append_assoc]

theorem Leads.after_silent (leads : next.Leads course rest) (step : Step moment next)
    (marked : next.marks = moment.marks) : moment.Leads course rest :=
  leads.after step (marked.trans (List.append_nil _).symm)

end Leads

/-! ### Looks are steps -/

theorem follows_leads {start : Scene → Call × Scene} {attempt : RetryAttempt} {call : Call}
    {scene : Scene} {course : Call × Scene} {marks : List RetryMark}
    (follows : attempt.Follows start call scene course marks) (own : start = attempt.startInner)
    (before : List RetryMark) : Leads ⟨attempt, .calling call, scene, before⟩ course marks := by
  induction follows generalizing before with
  | accepted attempt scene => exact (Shows.finished _ _ _ _).leads.after_silent .pass rfl
  | rejected attempt error scene final =>
      exact (Shows.finished _ _ _ _).leads.after_silent .pass rfl
  | pending attempt scene waits => exact (Shows.calling _ _ _ _).leads
  | backOff attempt error scene retryable =>
      exact (Shows.waiting _ _ _ _).leads.after (.fail retryable) rfl
  | exhaust attempt error scene retryable come exhausted =>
      apply Leads.after _ (.fail retryable) rfl
      apply Leads.after _ (.awake come) rfl
      exact (Shows.finished _ _ _ _).leads.after (.giveUp exhausted) rfl
  | again attempt error scene retryable come allowed _ inductionHypothesis =>
      subst own
      apply Leads.after _ (.fail retryable) rfl
      apply Leads.after _ (.awake come) rfl
      exact (inductionHypothesis rfl _).after (.call allowed) rfl

theorem make_leads (attempt : RetryAttempt) (scene : Scene) (marks : List RetryMark) :
    Leads ⟨attempt, .deciding, scene, marks⟩ (attempt.make attempt.startInner scene)
      (attempt.makeMarks attempt.startInner scene) := by
  unfold RetryAttempt.make RetryAttempt.makeMarks
  split
  next exhausted => exact (Shows.finished _ _ _ _).leads.after (.giveUp exhausted) rfl
  next allowed =>
    exact (follows_leads (attempt.follow_follows _ _ _ _) rfl _).after
      (.call (eq_false_of_ne_true allowed)) rfl

/-- One more look at a retry. -/
theorem Shows.resume_leads {moment : RetryMoment} {course : Call × Scene}
    (shows : moment.Shows course) {later : Scene} (onward : course.2.now ≤ later.now) :
    moment.Leads (course.1.resume later) (course.1.retryMarks later) := by
  cases shows with
  | calling attempt call scene marks =>
      exact (follows_leads (attempt.follow_follows _ _ _ _) rfl _).after_silent (.goOn onward) rfl
  | waiting attempt due scene marks =>
      have waits :
          Step ⟨attempt, .waiting due, scene, marks⟩ ⟨attempt, .waiting due, later, marks⟩ :=
        .wait onward
      unfold Call.resume Call.retryMarks
      dsimp only
      split
      next come =>
        exact ((make_leads _ _ _).after (.awake come) rfl).after_silent waits rfl
      · exact (Shows.waiting _ _ _ _).leads.after_silent waits rfl
  | finished attempt failure scene marks =>
      exact (Shows.finished _ _ _ _).leads.after_silent (.rest onward) rfl

theorem Leads.along {moment : RetryMoment} {course : Call × Scene} {marks : List RetryMark}
    (leads : moment.Leads course marks) {changes : List (Scene → Scene)} (onward : Onward changes) :
    moment.Leads (pursue Call.resume changes course)
      (marks ++ Call.retryMarksAlong changes course) := by
  induction changes generalizing course marks with
  | nil =>
      rw [Call.retryMarksAlong, List.append_nil]
      exact leads
  | cons change changes inductionHypothesis =>
      obtain ⟨between, reaches, shows, marked⟩ := leads
      obtain ⟨later, reachesToo, showsToo, markedToo⟩ :=
        shows.resume_leads (onward change (List.mem_cons_self ..) course.2)
      rw [Call.retryMarksAlong, ← List.append_assoc]
      apply inductionHypothesis _ fun later member => onward later (List.mem_cons_of_mem _ member)
      refine ⟨later, reaches.trans reachesToo, showsToo, ?_⟩
      rw [markedToo, marked, List.append_assoc]

end RetryMoment

/-- Every course of a retry is a sequence of steps, which leave the marks of the course. -/
theorem Transport.retryMarks_reached (observer : Observer) (policy : RetryPolicy)
    (inner : Transport) (events : List Event) (scene : Scene) {changes : List (Scene → Scene)}
    (onward : Onward changes) :
    ∃ last : RetryMoment,
      RetryMoment.Reaches
        ⟨{ observer, policy, inner, events, startedAt := scene.now }, .deciding, scene, []⟩ last ∧
      last.Shows ((Transport.retry observer policy inner).handle events changes scene) ∧
      last.marks = retryMarks observer policy inner events changes scene :=
  (RetryMoment.make_leads _ scene []).along onward

end Telemetry
