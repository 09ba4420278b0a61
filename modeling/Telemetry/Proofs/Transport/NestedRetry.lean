import Telemetry.Proofs.Transport.Acceptance

/-!
Contract: retries inside retries.

Owns:
- `pursue`, the course of something that is resumed again and again;
- `Call.OfRetry`: a retry never ends with an error that asks for another attempt;
- `RetryAttempt.around`: an attempt keeps step with the call that it follows, as
  long as that call does not ask for another attempt;
- `Parts`, a nesting of groups and switches with the calls of its members, which
  shows a member's outcome even after the group has put all of them together.

All courses are compared under the same changes of the scene, so that equal
scenes mean equal calls of the collectors at equal times.
-/

namespace Telemetry

/-! ### Courses -/

section Pursue

variable {α β : Type}

/-- Resume again and again. Between two looks the scene changes: time passes, or others act. -/
def pursue (resume : α → Scene → α × Scene) : List (Scene → Scene) → α × Scene → α × Scene
  | [], course => course
  | change :: changes, (item, scene) => pursue resume changes (resume item (change scene))

variable {resume : α → Scene → α × Scene} {resumeOther : β → Scene → β × Scene}

theorem pursue_append (changes later : List (Scene → Scene)) (course : α × Scene) :
    pursue resume (changes ++ later) course =
      pursue resume later (pursue resume changes course) := by
  induction changes generalizing course with
  | nil => rfl
  | cons change changes inductionHypothesis => exact inductionHypothesis _

/-- What one look keeps between two courses, all looks keep. -/
theorem pursue_related {related : α × Scene → β × Scene → Prop}
    (step : ∀ (change : Scene → Scene) first second, related first second →
      related (resume first.1 (change first.2)) (resumeOther second.1 (change second.2)))
    (changes : List (Scene → Scene)) {first : α × Scene} {second : β × Scene}
    (start : related first second) :
    related (pursue resume changes first) (pursue resumeOther changes second) := by
  induction changes generalizing first second with
  | nil => exact start
  | cons change changes inductionHypothesis =>
      exact inductionHypothesis (step change first second start)

theorem pursue_keeps {good : α → Prop}
    (step : ∀ {item}, good item → ∀ scene, good (resume item scene).1)
    (changes : List (Scene → Scene)) {course : α × Scene} (start : good course.1) :
    good (pursue resume changes course).1 := by
  induction changes generalizing course with
  | nil => exact start
  | cons change changes inductionHypothesis =>
      exact inductionHypothesis (step start (change course.2))

end Pursue

/-- Hand a batch to a transport and pursue the call. -/
def Transport.handle (events : List Event) (changes : List (Scene → Scene))
    (transport : Transport) (scene : Scene) : Call × Scene :=
  pursue Call.resume changes (transport.start events scene)

/-- A settled call has nothing more to do with the scene. -/
theorem pursue_settled (changes : List (Scene → Scene)) (failure : Option TransportError)
    (scene : Scene) :
    pursue Call.resume changes (.settled failure, scene) =
      (.settled failure, changes.foldl (fun scene change => change scene) scene) := by
  induction changes generalizing scene with
  | nil => rfl
  | cons change changes inductionHypothesis => exact inductionHypothesis (change scene)

/-! ### Calls of retries -/

/-- The call has failed, and a retry above it would make another attempt. -/
def Call.asksAgain : Call → Bool
  | .settled (some error) => error.isRetryable
  | _ => false

/-- The forms that the call of a retry has. -/
inductive Call.OfRetry : Call → Prop where
  | accepted : OfRetry (.settled none)
  | failed {error : TransportError} (final : error.isRetryable = false) :
      OfRetry (.settled (some error))
  | attempting (attempt : RetryAttempt) (call : Call) : OfRetry (.attempting attempt call)
  | backingOff (attempt : RetryAttempt) (due : Nat) : OfRetry (.backingOff attempt due)

namespace Call.OfRetry

theorem asksAgain {call : Call} (ofRetry : call.OfRetry) : call.asksAgain = false := by
  cases ofRetry with
  | failed final => exact final
  | _ => rfl

theorem follow (start : Scene → Call × Scene) (turns : Nat) (attempt : RetryAttempt) (call : Call)
    (scene : Scene) : (attempt.follow start turns call scene).1.OfRetry := by
  -- The cases are the ends of a call, each with what the retry does then.
  fun_induction RetryAttempt.follow start turns attempt call scene with
  | case1 => exact .accepted
  | case2 => exact .backingOff _ _
  | case3 => exact .backingOff _ _
  | case4 => exact .failed rfl
  | case5 => assumption
  | case6 _ _ _ _ final => exact .failed (eq_false_of_ne_true final)
  | case7 => exact .attempting _ _

theorem make (start : Scene → Call × Scene) (attempt : RetryAttempt) (scene : Scene) :
    (attempt.make start scene).1.OfRetry := by
  unfold RetryAttempt.make
  split
  · exact .failed rfl
  · exact .follow _ _ _ _ _

theorem resume {call : Call} (ofRetry : call.OfRetry) (scene : Scene) :
    (call.resume scene).1.OfRetry := by
  cases ofRetry with
  | accepted => exact .accepted
  | failed final => exact .failed final
  | attempting attempt call => exact .follow _ _ _ _ _
  | backingOff attempt due =>
      unfold Call.resume
      split
      · exact .make _ _ _
      · exact .backingOff attempt due

theorem handle (observer : Observer) (policy : RetryPolicy) (inner : Transport)
    (events : List Event) (changes : List (Scene → Scene)) (scene : Scene) :
    ((Transport.retry observer policy inner).handle events changes scene).1.OfRetry :=
  pursue_keeps resume changes (make _ _ scene)

end Call.OfRetry

/-! ### Attempts that keep step -/

namespace RetryAttempt

/-- The call of a retry whose attempt is this one and has the given call under way. -/
def around (attempt : RetryAttempt) : Call → Call
  | .settled failure => .settled failure
  | call => .attempting attempt call

theorem around_outcome? (attempt : RetryAttempt) (call : Call) :
    (attempt.around call).outcome? = call.outcome? := by
  cases call <;> rfl

theorem around_deadline? (attempt : RetryAttempt) (call : Call) :
    (attempt.around call).deadline? = call.deadline? := by
  cases call <;> rfl

theorem follow_eq_around (start : Scene → Call × Scene) (turns : Nat) (attempt : RetryAttempt)
    {call : Call} (scene : Scene) (calm : call.asksAgain = false) :
    attempt.follow start turns call scene = (attempt.around call, scene) := by
  unfold follow
  split
  · rfl
  next error =>
    have final : error.isRetryable = false := calm
    rw [final]
    rfl
  next notAccepted notFailed =>
    cases call with
    | settled failure => cases failure <;> simp at notAccepted notFailed
    | _ => rfl

/-- The attempt has the call under way, unless the call has come to ask for another one. -/
def KeepsStep (attempt : RetryAttempt) (course attempted : Call × Scene) : Prop :=
  course.1.asksAgain = false → attempted = (attempt.around course.1, course.2)

theorem KeepsStep.resume {attempt : RetryAttempt} (change : Scene → Scene)
    (course attempted : Call × Scene) (keepsStep : attempt.KeepsStep course attempted) :
    attempt.KeepsStep (course.1.resume (change course.2))
      (attempted.1.resume (change attempted.2)) := by
  obtain ⟨call, scene⟩ := course
  intro calm
  cases call with
  | settled failure =>
      -- A call that asked for another attempt would still do so.
      rw [keepsStep calm]
      rfl
  | _ =>
      rw [keepsStep rfl]
      exact follow_eq_around _ _ _ _ calm

/-- A retry that follows a call to an end that it accepts does what the call does, no more. -/
theorem pursue_follow (start : Scene → Call × Scene) (turns : Nat) (attempt : RetryAttempt)
    (changes : List (Scene → Scene)) (course : Call × Scene)
    (calm : (pursue Call.resume changes course).1.asksAgain = false) :
    pursue Call.resume changes (attempt.follow start turns course.1 course.2) =
      (attempt.around (pursue Call.resume changes course).1,
        (pursue Call.resume changes course).2) :=
  pursue_related KeepsStep.resume changes (follow_eq_around start turns attempt course.2) calm

theorem make_eq_follow (start : Scene → Call × Scene) {attempt : RetryAttempt} {scene : Scene}
    (made : attempt.isExhausted scene.now = false) :
    attempt.make start scene =
      attempt.follow start attempt.policy.maxAttempts (start scene).1 (start scene).2 := by
  rw [make, made]
  rfl

/-- The first attempt is made if one is allowed and there is time for it at all. -/
theorem isExhausted_first {attempt : RetryAttempt} (first : attempt.count = 1)
    (allowed : 1 ≤ attempt.policy.maxAttempts) (timed : attempt.policy.maxRetry ≠ some ⟨0⟩) :
    attempt.isExhausted attempt.startedAt = false := by
  rw [isExhausted, first, Bool.or_eq_false_iff]
  refine ⟨decide_eq_false (Nat.not_lt.mpr allowed), ?_⟩
  split
  next limit limited =>
    refine decide_eq_false fun reached => timed ?_
    have noTime : limit.nanoseconds ≤ 1000000 * (attempt.startedAt - attempt.startedAt) := reached
    rw [Nat.sub_self, Nat.mul_zero, Nat.le_zero] at noTime
    rw [limited, ← noTime]
  · rfl

/-- A retry that may make a call at all does what its inner transport does, if that comes to an
end that the retry accepts. -/
theorem handle_retry {observer : Observer} {policy : RetryPolicy} {inner : Transport}
    (events : List Event) (changes : List (Scene → Scene)) (scene : Scene)
    (allowed : 1 ≤ policy.maxAttempts) (timed : policy.maxRetry ≠ some ⟨0⟩)
    (calm : (inner.handle events changes scene).1.asksAgain = false) :
    (Transport.retry observer policy inner).handle events changes scene =
      (around { observer, policy, inner, events, startedAt := scene.now }
        (inner.handle events changes scene).1, (inner.handle events changes scene).2) := by
  let attempt : RetryAttempt := { observer, policy, inner, events, startedAt := scene.now }
  have made : attempt.isExhausted scene.now = false := isExhausted_first rfl allowed timed
  show pursue Call.resume changes (attempt.make (inner.start events) scene) = _
  rw [make_eq_follow _ made]
  exact pursue_follow _ _ attempt changes _ calm

end RetryAttempt

/-! ### Errors of groups -/

theorem allRetryable_eq_all (failures : List TransportError) :
    TransportError.isRetryable.allRetryable failures = failures.all TransportError.isRetryable := by
  induction failures with
  | nil => rfl
  | cons failure failures inductionHypothesis =>
      rw [TransportError.isRetryable.allRetryable, inductionHypothesis, List.all_cons]

/-- One failure that asks for no other attempt is enough. -/
theorem groupOutcome_final (name : String) {outcomes : List (Option TransportError)}
    {failure : TransportError} (present : some failure ∈ outcomes)
    (final : failure.isRetryable = false) :
    ∃ error, Call.groupOutcome name outcomes = some error ∧ error.isRetryable = false := by
  have failed : failure ∈ outcomes.filterMap fun failure => failure :=
    List.mem_filterMap.mpr ⟨some failure, present, rfl⟩
  unfold Call.groupOutcome
  split
  next noFailure =>
    rw [noFailure] at failed
    cases failed
  next failures _ =>
    refine ⟨_, rfl, ?_⟩
    rw [TransportError.isRetryable, allRetryable_eq_all, Bool.and_eq_false_iff]
    exact .inr (List.all_eq_false.mpr ⟨failure, failed, ne_true_of_eq_false final⟩)

/-! ### Nestings -/

/-- A nesting of groups and switches, with the call of each member that is neither. -/
inductive Parts where
  | whole (transport : Transport) (call : Call)
  | apart (group : String) (members : List Parts)

namespace Parts

@[induction_eliminator]
theorem memberwise {motive : Parts → Prop}
    (whole : ∀ transport call, motive (.whole transport call))
    (apart : ∀ group members, (∀ part ∈ members, motive part) → motive (.apart group members)) :
    (parts : Parts) → motive parts
  | .whole transport call => whole transport call
  | .apart group members => apart group members fun part _ => memberwise whole apart part

/-- The call of the nesting itself. -/
def call : Parts → Call
  | .whole _ call => call
  | .apart group members => .joined group (calls members)
where
  calls : List Parts → List Call
    | [] => []
    | part :: parts => part.call :: calls parts

/-- A member that is a retry has failed. -/
def hasFailedRetry : Parts → Bool
  | .whole (.retry _ _ _) (.settled (some _)) => true
  | .whole _ _ => false
  | .apart _ members => anyFailed members
where
  anyFailed : List Parts → Bool
    | [] => false
    | part :: parts => part.hasFailedRetry || anyFailed parts

def resume : Parts → Scene → Parts × Scene
  | .whole transport call, scene =>
      let (call, scene) := call.resume scene
      (.whole transport call, scene)
  | .apart group members, scene =>
      let (members, scene) := resumeAll members scene
      (.apart group members, scene)
where
  resumeAll : List Parts → Scene → List Parts × Scene
    | [], scene => ([], scene)
    | part :: parts, scene =>
        let (part, scene) := part.resume scene
        let (parts, scene) := resumeAll parts scene
        (part :: parts, scene)

/-- The calls of members that are retries have the forms that such calls have. -/
inductive Proper : Parts → Prop where
  | whole {transport : Transport} {call : Call}
      (ofRetry : ∀ observer policy inner, transport = .retry observer policy inner →
        call.OfRetry) : Proper (.whole transport call)
  | apart (group : String) {members : List Parts} (each : ∀ part ∈ members, Proper part) :
      Proper (.apart group members)

end Parts

namespace Transport

/-- Hand a batch to the members of a nesting, in the order in which the nesting does. -/
def startParts (events : List Event) : Transport → Scene → Parts × Scene
  | .switch _ (some pinned), scene => pinned.startParts events scene
  | .group name (member :: members), scene =>
      let (part, scene) := member.startParts events scene
      let (parts, scene) := startAllParts members scene
      (.apart name (part :: parts), scene)
  | transport, scene =>
      let (call, scene) := transport.start events scene
      (.whole transport call, scene)
where
  startAllParts : List Transport → Scene → List Parts × Scene
    | [], scene => ([], scene)
    | member :: members, scene =>
        let (part, scene) := member.startParts events scene
        let (parts, scene) := startAllParts members scene
        (part :: parts, scene)

def handleParts (events : List Event) (changes : List (Scene → Scene)) (transport : Transport)
    (scene : Scene) : Parts × Scene :=
  pursue Parts.resume changes (transport.startParts events scene)

end Transport

/-! ### Taking apart changes nothing -/

namespace Parts

theorem calls_eq_map (members : List Parts) : call.calls members = members.map call := by
  induction members with
  | nil => rfl
  | cons part parts inductionHypothesis => exact congrArg (part.call :: ·) inductionHypothesis

theorem resumeAll_eq_sweep (members : List Parts) (scene : Scene) :
    resume.resumeAll members scene = sweep resume members scene := by
  induction members generalizing scene with
  | nil => rfl
  | cons part parts inductionHypothesis =>
      simp only [resume.resumeAll, sweep, inductionHypothesis]

theorem startAllParts_eq_sweep (events : List Event) (members : List Transport) (scene : Scene) :
    Transport.startParts.startAllParts events members scene =
      sweep (Transport.startParts events) members scene := by
  induction members generalizing scene with
  | nil => rfl
  | cons member members inductionHypothesis =>
      simp only [Transport.startParts.startAllParts, sweep, inductionHypothesis]

theorem sweep_idle {members : List Parts}
    (idle : ∀ part ∈ members, ∀ scene, part.resume scene = (part, scene)) (scene : Scene) :
    sweep resume members scene = (members, scene) := by
  induction members with
  | nil => rfl
  | cons part parts inductionHypothesis =>
      rw [List.forall_mem_cons] at idle
      simp only [sweep, idle.1 scene, inductionHypothesis idle.2]

theorem sweep_calls (members : List Parts) (scene : Scene) :
    sweep Call.resume (call.calls members) scene =
      sweep (fun part => part.call.resume) members scene := by
  induction members generalizing scene with
  | nil => rfl
  | cons part parts inductionHypothesis => simp only [call.calls, sweep, inductionHypothesis]

/-- Where all calls of a group are settled, each member has its outcome among them. -/
theorem settled_member {members : List Parts} {outcomes : List (Option TransportError)}
    (calls : call.calls members = outcomes.map .settled) {part : Parts} (member : part ∈ members) :
    ∃ outcome ∈ outcomes, part.call.outcome? = some outcome := by
  rw [calls_eq_map] at calls
  have settled : part.call ∈ outcomes.map Call.settled := by
    rw [← calls]
    exact List.mem_map_of_mem member
  obtain ⟨outcome, present, same⟩ := List.mem_map.mp settled
  refine ⟨outcome, present, ?_⟩
  rw [← same]
  rfl

/-- A group forgets the calls of its members once they are all settled. The parts keep them, to
no effect. -/
theorem resume_of_settled {parts : Parts} {outcome : Option TransportError}
    (settled : parts.call.outcome? = some outcome) (scene : Scene) :
    parts.resume scene = (parts, scene) := by
  induction parts generalizing outcome scene with
  | whole transport call =>
      obtain rfl : call = .settled outcome := Call.eq_settled_of_outcome? settled
      rfl
  | apart group members inductionHypothesis =>
      rw [resume, resumeAll_eq_sweep, sweep_idle]
      intro part member
      obtain ⟨outcomes, calls, -⟩ := Call.outcome?_joined settled
      obtain ⟨memberOutcome, -, memberSettled⟩ := settled_member calls member
      exact inductionHypothesis part member memberSettled

/-- The parts stand for the call, on the same scene. -/
structure Shows (shown : Parts × Scene) (course : Call × Scene) : Prop where
  call : shown.1.call = course.1
  scene : shown.2 = course.2
  proper : shown.1.Proper

namespace Shows

/-- Members that are started or resumed one after the other. -/
theorem swept {α : Type} {items : List α} {take : α → Scene → Parts × Scene}
    {act : α → Scene → Call × Scene}
    (each : ∀ item ∈ items, ∀ scene, Shows (take item scene) (act item scene))
    (group : String) (scene : Scene) :
    Shows (.apart group (sweep take items scene).1, (sweep take items scene).2)
      (.joined group (sweep act items scene).1, (sweep act items scene).2) := by
  have members : call.calls (sweep take items scene).1 = (sweep act items scene).1 ∧
      (sweep take items scene).2 = (sweep act items scene).2 ∧
      ∀ part ∈ (sweep take items scene).1, part.Proper := by
    induction items generalizing scene with
    | nil => exact ⟨rfl, rfl, List.forall_mem_nil _⟩
    | cons item items inductionHypothesis =>
        rw [List.forall_mem_cons] at each
        have first := each.1 scene
        obtain ⟨calls, later, proper⟩ := inductionHypothesis each.2 (take item scene).2
        rw [first.scene] at calls later
        simp only [sweep]
        refine ⟨?_, ?_, List.forall_mem_cons.mpr ⟨first.proper, proper⟩⟩
        · rw [call.calls, first.call, first.scene, calls]
        · rw [first.scene, later]
  exact ⟨congrArg (Call.joined group) members.1, members.2.1, .apart group members.2.2⟩

/-- A transport that is not taken apart. -/
theorem whole {transport : Transport} {events : List Event} {scene : Scene}
    (kept : transport.startParts events scene =
      (.whole transport (transport.start events scene).1, (transport.start events scene).2)) :
    Shows (transport.startParts events scene) (transport.start events scene) := by
  rw [kept]
  refine ⟨rfl, rfl, .whole ?_⟩
  rintro observer policy inner rfl
  exact .make _ _ scene

mutual

theorem start (events : List Event) : (transport : Transport) → (scene : Scene) →
    Shows (transport.startParts events scene) (transport.start events scene)
  | .collector _ _, _ => whole rfl
  | .debug _, _ => whole rfl
  | .switch _ none, _ => whole rfl
  | .switch _ (some pinned), scene => start events pinned scene
  | .group _ [], _ => whole rfl
  | .group name (first :: others), scene => by
      have members := swept (startEach events (first :: others)) name scene
      rw [start_group_eq_joined]
      simp only [Transport.startParts, startAllParts_eq_sweep]
      exact members
  | .retry _ _ _, _ => whole rfl

theorem startEach (events : List Event) : (members : List Transport) →
    ∀ member ∈ members, ∀ scene,
      Shows (member.startParts events scene) (member.start events scene)
  | [] => List.forall_mem_nil _
  | first :: others => List.forall_mem_cons.mpr ⟨start events first, startEach events others⟩

end

theorem resume_call {parts : Parts} (proper : parts.Proper) (scene : Scene) :
    Shows (parts.resume scene) (parts.call.resume scene) := by
  induction proper generalizing scene with
  | whole ofRetry =>
      refine ⟨rfl, rfl, .whole ?_⟩
      intro observer policy inner same
      exact (ofRetry observer policy inner same).resume scene
  | @apart group members each inductionHypothesis =>
      rcases Call.joined_cases group (call.calls members) with ⟨joined, -⟩ | ⟨outcomes, -, joined⟩
      · have resumed := swept inductionHypothesis group scene
        rw [← sweep_calls] at resumed
        rw [Parts.resume, Parts.resumeAll_eq_sweep, Parts.call, joined, Call.resume,
          Telemetry.resumeAll_eq_sweep]
        exact resumed
      · have settled : (Parts.apart group members).call.outcome? = some _ :=
          congrArg Call.outcome? joined
        rw [resume_of_settled settled, Call.eq_settled_of_outcome? settled]
        exact ⟨Call.eq_settled_of_outcome? settled, rfl, .apart group each⟩

theorem resume (change : Scene → Scene) (shown : Parts × Scene) (course : Call × Scene)
    (shows : Shows shown course) :
    Shows (shown.1.resume (change shown.2)) (course.1.resume (change course.2)) := by
  rw [← shows.call, ← shows.scene]
  exact resume_call shows.proper _

theorem handle (events : List Event) (changes : List (Scene → Scene)) (transport : Transport)
    (scene : Scene) :
    Shows (transport.handleParts events changes scene) (transport.handle events changes scene) :=
  pursue_related resume changes (start events transport scene)

end Shows

/-! ### Failed retries -/

theorem exists_of_anyFailed {members : List Parts}
    (failed : hasFailedRetry.anyFailed members = true) :
    ∃ part ∈ members, part.hasFailedRetry = true := by
  induction members with
  | nil => cases failed
  | cons part parts inductionHypothesis =>
      rw [hasFailedRetry.anyFailed, Bool.or_eq_true] at failed
      rcases failed with first | later
      · exact ⟨part, List.mem_cons_self, first⟩
      · obtain ⟨other, member, failed⟩ := inductionHypothesis later
        exact ⟨other, List.mem_cons_of_mem _ member, failed⟩

/-- A retry that has failed keeps every group around it from asking for another attempt. -/
theorem Proper.failed {parts : Parts} (proper : parts.Proper)
    (hasFailed : parts.hasFailedRetry = true) {outcome : Option TransportError}
    (settled : parts.call.outcome? = some outcome) :
    ∃ error, outcome = some error ∧ error.isRetryable = false := by
  induction proper generalizing outcome with
  | @whole transport call ofRetry =>
      unfold hasFailedRetry at hasFailed
      split at hasFailed
      next observer policy inner error same =>
        obtain ⟨rfl, rfl⟩ := same
        cases settled
        exact ⟨error, rfl, (ofRetry observer policy inner rfl).asksAgain⟩
      · cases hasFailed
      next same => cases same
  | @apart group members _ inductionHypothesis =>
      obtain ⟨part, member, partFailed⟩ := exists_of_anyFailed hasFailed
      obtain ⟨outcomes, calls, rfl⟩ := Call.outcome?_joined settled
      obtain ⟨memberOutcome, present, memberSettled⟩ := settled_member calls member
      obtain ⟨error, rfl, final⟩ := inductionHypothesis part member partFailed memberSettled
      exact groupOutcome_final group present final

end Parts

/-! ### Retries do not multiply -/

/-- A retry ends with no error that asks for another attempt. So a second retry around it, if it
may make a call at all, changes nothing: the scenes are the same, hence the calls and their times,
and so are the next time to look and the outcome. The same holds of a nesting of groups and
switches, shown with the calls of its members, once a retry in it has failed: when the nesting
settles, it fails with an error that asks for no other attempt, and a retry that follows the call
ends with that error and never acts again. -/
theorem retries_do_not_multiply :
    (∀ observer policy inner events changes scene error,
      ((Transport.retry observer policy inner).handle events changes scene).1.outcome? =
        some (some error) → error.isRetryable = false) ∧
    (∀ observer policy outer outerPolicy inner events changes scene,
      1 ≤ outerPolicy.maxAttempts → outerPolicy.maxRetry ≠ some ⟨0⟩ →
      let single := (Transport.retry observer policy inner).handle events changes scene
      let double := (Transport.retry outer outerPolicy (.retry observer policy inner)).handle events
        changes scene
      double.2 = single.2 ∧ double.1.outcome? = single.1.outcome? ∧
        double.1.deadline? = single.1.deadline?) ∧
    (∀ (attempt : RetryAttempt) turns changes scene,
      let start := attempt.inner.start attempt.events
      let nesting := attempt.inner.handle attempt.events changes scene
      let shown := attempt.inner.handleParts attempt.events changes scene
      (shown.1.call, shown.2) = nesting ∧
      (shown.1.hasFailedRetry = true → ∀ outcome, nesting.1.outcome? = some outcome →
        ∃ error, outcome = some error ∧ error.isRetryable = false ∧ ∀ later,
          pursue Call.resume (changes ++ later)
              (attempt.follow start turns (start scene).1 (start scene).2) =
            (.settled (some error),
              later.foldl (fun scene change => change scene) nesting.2))) := by
  refine ⟨?_, ?_, ?_⟩
  · intro observer policy inner events changes scene error failed
    have calm := (Call.OfRetry.handle observer policy inner events changes scene).asksAgain
    rw [Call.eq_settled_of_outcome? failed] at calm
    exact calm
  · intro observer policy outer outerPolicy inner events changes scene allowed timed single double
    have calm : single.1.asksAgain = false :=
      (Call.OfRetry.handle observer policy inner events changes scene).asksAgain
    have keepsStep : double = (_, single.2) :=
      RetryAttempt.handle_retry events changes scene allowed timed calm
    rw [keepsStep]
    exact ⟨rfl, RetryAttempt.around_outcome? _ _, RetryAttempt.around_deadline? _ _⟩
  · intro attempt turns changes scene start nesting shown
    have shows : Parts.Shows shown nesting := .handle attempt.events changes attempt.inner scene
    refine ⟨Prod.ext shows.call shows.scene, ?_⟩
    intro hasFailed outcome settled
    have shownSettled : shown.1.call.outcome? = some outcome := by rw [shows.call, settled]
    obtain ⟨error, rfl, final⟩ := shows.proper.failed hasFailed shownSettled
    refine ⟨error, rfl, final, ?_⟩
    intro later
    have failed : nesting.1 = .settled (some error) := Call.eq_settled_of_outcome? settled
    have calm : nesting.1.asksAgain = false := by
      rw [failed]
      exact final
    rw [pursue_append, RetryAttempt.pursue_follow _ _ _ changes _ calm]
    show pursue Call.resume later (attempt.around nesting.1, nesting.2) = _
    rw [failed]
    exact pursue_settled later (some error) nesting.2

/-- Both collectors are always busy, and one of them is slow to say so. -/
def crowdedScene : Scene where
  collectors := [
    { name := "busy", answer := fun _ => { failure := some (.retryable "busy" "try later") } },
    { name := "slow"
      answer := fun _ => { failure := some (.retryable "slow" "try later"), duration := 500 } }]

def crowdedRetry : Transport :=
  .retry .notes { maxAttempts := 2 } (.collector 0 "busy")

/-- An attempt at a group that has the retry behind a switch. -/
def crowdedAttempt : RetryAttempt where
  observer := .log
  policy := {}
  inner := .group "all" [.switch "first" (some crowdedRetry), .collector 1 "slow"]
  events := press
  startedAt := 0

def crowdedLooks : List (Scene → Scene) :=
  [500, 1000, 3000].map fun now scene => { scene with now }

/-- The retry has used up its attempts at 3000, and one more retry around it ends as it does. The
group then fails with the errors of both members, and an attempt at it is the last one. -/
theorem crowded_group_is_not_tried_again :
    ∃ exhausted error,
      (crowdedRetry.handle press crowdedLooks crowdedScene).1.outcome? = some (some exhausted) ∧
      exhausted.isRetryable = false ∧
      ((Transport.retry .log {} crowdedRetry).handle press crowdedLooks
        crowdedScene).1.outcome? = some (some exhausted) ∧
      (crowdedAttempt.inner.handleParts crowdedAttempt.events crowdedLooks
        crowdedScene).1.hasFailedRetry = true ∧
      (crowdedAttempt.inner.handle crowdedAttempt.events crowdedLooks crowdedScene).1.outcome? =
        some (some error) ∧
      error.isRetryable = false ∧
      pursue Call.resume (crowdedLooks ++ [fun scene => { scene with now := 9000 }])
          (crowdedAttempt.make (crowdedAttempt.inner.start crowdedAttempt.events) crowdedScene) =
        (.settled (some error),
          { (crowdedAttempt.inner.handle crowdedAttempt.events crowdedLooks crowdedScene).2 with
            now := 9000 }) := by
  have retryFailed : (crowdedRetry.handle press crowdedLooks
      crowdedScene).1.outcome?.join.isSome = true := by decide +kernel
  have hasFailed : (crowdedAttempt.inner.handleParts crowdedAttempt.events crowdedLooks
      crowdedScene).1.hasFailedRetry = true := by decide +kernel
  have groupFailed : (crowdedAttempt.inner.handle crowdedAttempt.events crowdedLooks
      crowdedScene).1.outcome?.join.isSome = true := by decide +kernel
  obtain ⟨exhausted, exhaustedFound⟩ := Option.isSome_iff_exists.mp retryFailed
  have exhaustedOutcome := Option.join_eq_some_iff.mp exhaustedFound
  obtain ⟨groupError, errorFound⟩ := Option.isSome_iff_exists.mp groupFailed
  have groupOutcome := Option.join_eq_some_iff.mp errorFound
  have same := retries_do_not_multiply.2.1 .notes { maxAttempts := 2 } .log {}
    (.collector 0 "busy") press crowdedLooks crowdedScene (by decide) (by decide)
  obtain ⟨error, sameError, final, stops⟩ :=
    (retries_do_not_multiply.2.2 crowdedAttempt crowdedAttempt.policy.maxAttempts crowdedLooks
      crowdedScene).2 hasFailed _ groupOutcome
  have made : crowdedAttempt.isExhausted crowdedScene.now = false :=
    RetryAttempt.isExhausted_first rfl (by decide) (by decide)
  refine ⟨exhausted, error, exhaustedOutcome,
    retries_do_not_multiply.1 _ _ _ _ _ _ _ exhaustedOutcome, same.2.1.trans exhaustedOutcome,
    hasFailed, groupOutcome.trans (congrArg some sameError), final, ?_⟩
  rw [RetryAttempt.make_eq_follow _ made]
  exact stops [fun scene => { scene with now := 9000 }]

end Telemetry
