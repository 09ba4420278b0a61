import Telemetry.Proofs.Transport.BackOff
import Telemetry.Proofs.Transport.RetrySteps

/-!
Contract: how often a retry calls the inner transport, and how early.

Owns:
- `RetryPolicy.waited`, the time that the waits after so many failures take, and
  `RetryPolicy.Permits`, whether a call may follow them;
- `RetryMoment.Paced`: the number of the attempt is the number of the calls, held in
  32 bits, no call comes before the waits before it are over, and each is permitted;
- the converse: a collector that refuses every call at once is called as often as
  the policy permits (`RetryAttempt.Refused.calls`).

Does not own: whether the numbers stay below the limit of 32 bits.
-/

namespace Telemetry

namespace RetryPolicy

/-- The time that the waits after so many failures take together. The policy is asked for a wait
by a number that is held in 32 bits. -/
def waited (policy : RetryPolicy) : Nat → Nat
  | 0 => 0
  | failures + 1 =>
      policy.waited failures + (policy.nextTimeout (failures % Word.size 32)).timerMilliseconds

theorem waited_le {earlier later : Nat} (before : earlier ≤ later) (policy : RetryPolicy) :
    policy.waited earlier ≤ policy.waited later := by
  induction before with
  | refl => exact Nat.le_refl _
  | step _ inductionHypothesis => exact Nat.le_trans inductionHypothesis (Nat.le_add_right _ _)

/-- Another call may be made after so many failures, if only the waits between them took time. -/
def Permits (policy : RetryPolicy) (failures : Nat) : Prop :=
  (failures + 1) % Word.size 32 ≤ policy.maxAttempts ∧
    ∀ limit ∈ policy.maxRetry, .ofMilliseconds (policy.waited failures) < limit

end RetryPolicy

theorem Duration.ofMilliseconds_lt_of_le {first second : Nat} {limit : Duration}
    (le : first ≤ second) (below : .ofMilliseconds second < limit) :
    .ofMilliseconds first < limit :=
  Nat.lt_of_le_of_lt (ofMilliseconds_le le) below

namespace RetryAttempt

theorem isExhausted_eq_false_iff {attempt : RetryAttempt} {now : Nat} :
    attempt.isExhausted now = false ↔ attempt.count ≤ attempt.policy.maxAttempts ∧
      ∀ limit ∈ attempt.policy.maxRetry,
        .ofMilliseconds (now - attempt.startedAt) < limit := by
  rw [isExhausted, Bool.or_eq_false_iff, decide_eq_false_iff_not, Nat.not_lt]
  cases attempt.policy.maxRetry with
  | none => simp
  | some limit =>
      refine and_congr_right fun _ => ?_
      rw [decide_eq_false_iff_not]
      simp only [Option.mem_def, Option.some.injEq, forall_eq']
      exact Nat.not_le

theorem number_held {failures : Nat} (small : failures < Word.largest 32) :
    (failures + 1) % Word.size 32 = failures + 1 := by
  apply Nat.mod_eq_of_lt
  rw [size_eq]
  omega

/-- The attempt's number is held in 32 bits, and so is the one before it. -/
theorem previous_eq {attempt : RetryAttempt} {failures : Nat}
    (counted : attempt.count = (failures + 1) % Word.size 32) :
    attempt.previous = failures % Word.size 32 := by
  rw [previous, counted, Nat.mod_add_mod, Nat.add_assoc, Nat.add_comm 1, ← size_eq,
    Nat.add_mod_right]

theorem advance_count {attempt : RetryAttempt} {calls : Nat}
    (counted : attempt.count = calls % Word.size 32) :
    attempt.advance.count = (calls + 1) % Word.size 32 := by
  show (attempt.count + 1) % Word.size 32 = _
  rw [counted, Nat.mod_add_mod]

end RetryAttempt

namespace RetryPolicy

variable {policy : RetryPolicy} {failures : Nat}

/-- The time for the attempts is over when the waits after so many failures are. -/
def EndsBy (policy : RetryPolicy) (failures : Nat) : Prop :=
  ∃ limit ∈ policy.maxRetry, limit ≤ .ofMilliseconds (policy.waited failures)

theorem EndsBy.not_permits (ends : policy.EndsBy failures) :
    ¬policy.Permits failures := by
  rintro ⟨-, inTime⟩
  obtain ⟨limit, set, reached⟩ := ends
  exact Nat.not_lt.mpr reached (inTime limit set)

theorem permits_of_not_endsBy {last : Nat}
    (within : (failures + 1) % Word.size 32 ≤ policy.maxAttempts) (goesOn : ¬policy.EndsBy last)
    (before : failures ≤ last) : policy.Permits failures := by
  refine ⟨within, ?_⟩
  intro limit set
  apply Duration.ofMilliseconds_lt_of_le (waited_le before policy)
  exact Nat.not_le.mp fun reached => goesOn ⟨limit, set, reached⟩

theorem not_permits_of_lt (small : failures < Word.largest 32)
    (most : policy.maxAttempts ≤ failures) : ¬policy.Permits failures := by
  rintro ⟨within, -⟩
  rw [RetryAttempt.number_held small] at within
  omega

end RetryPolicy

/-- The attempt of the mark is one of the calls, or for the last mark the one that is not made. -/
def RetryMark.NumberedIn (calls : Nat) : RetryMark → Prop
  | .called attempt _ | .failed attempt _ | .awoke attempt _ =>
      ∃ failures < calls, attempt.count = (failures + 1) % Word.size 32
  | .gaveUp attempt _ => ∃ failures ≤ calls, attempt.count = (failures + 1) % Word.size 32

theorem RetryMark.NumberedIn.mono {mark : RetryMark} {calls more : Nat}
    (numbered : mark.NumberedIn calls) (le : calls ≤ more) : mark.NumberedIn more := by
  cases mark with
  | gaveUp attempt time =>
      obtain ⟨failures, within, counted⟩ := numbered
      exact ⟨failures, Nat.le_trans within le, counted⟩
  | _ =>
      obtain ⟨failures, within, counted⟩ := numbered
      exact ⟨failures, Nat.lt_of_lt_of_le within le, counted⟩

namespace RetryMoment

/-- After so many calls, their number is that of the attempt, and the waits after the failures are
over, or will be when the retry awakes. -/
def OnTime (moment : RetryMoment) (calls : Nat) : Prop :=
  match moment.stage with
  | .deciding =>
      moment.attempt.count = (calls + 1) % Word.size 32 ∧
        moment.attempt.startedAt + moment.attempt.policy.waited calls ≤ moment.scene.now
  | .calling _ =>
      ∃ failures, calls = failures + 1 ∧ moment.attempt.count = (failures + 1) % Word.size 32 ∧
        moment.attempt.startedAt + moment.attempt.policy.waited failures ≤ moment.scene.now
  | .waiting due =>
      ∃ failures, calls = failures + 1 ∧ moment.attempt.count = (failures + 1) % Word.size 32 ∧
        moment.attempt.startedAt + moment.attempt.policy.waited (failures + 1) ≤ due
  | .finished _ => True

structure Paced (moment : RetryMoment) (calls : Nat) : Prop where
  counted : moment.marks.countP RetryMark.isCall = calls
  onTime : moment.OnTime calls
  permitted : ∀ failures < calls, moment.attempt.policy.Permits failures
  numbered : ∀ mark ∈ moment.marks, mark.NumberedIn calls

theorem numbered_append {marks : List RetryMark} {mark : RetryMark} {calls more : Nat}
    (numbered : ∀ earlier ∈ marks, earlier.NumberedIn calls) (le : calls ≤ more)
    (last : mark.NumberedIn more) : ∀ earlier ∈ marks ++ [mark], earlier.NumberedIn more := by
  intro earlier member
  rcases List.mem_append.mp member with before | same
  · exact (numbered earlier before).mono le
  · rw [List.mem_singleton.mp same]
    exact last

theorem countP_append_silent (marks : List RetryMark) {mark : RetryMark}
    (silent : mark.isCall = false) :
    (marks ++ [mark]).countP RetryMark.isCall = marks.countP RetryMark.isCall := by
  simp [silent]

/-- A call that is made is permitted, since it is not made before the waits are over. -/
theorem permits_of_not_isExhausted {attempt : RetryAttempt} {now failures : Nat}
    (counted : attempt.count = (failures + 1) % Word.size 32)
    (waited : attempt.startedAt + attempt.policy.waited failures ≤ now)
    (allowed : attempt.isExhausted now = false) : attempt.policy.Permits failures := by
  obtain ⟨within, inTime⟩ := RetryAttempt.isExhausted_eq_false_iff.mp allowed
  refine ⟨counted ▸ within, ?_⟩
  intro limit set
  apply Duration.ofMilliseconds_lt_of_le _ (inTime limit set)
  omega

theorem Paced.step {moment next : RetryMoment} {calls : Nat} (paced : moment.Paced calls)
    (step : Step moment next) : ∃ more, next.Paced more := by
  obtain ⟨counted, onTime, permitted, numbered⟩ := paced
  cases step with
  | giveUp exhausted =>
      refine ⟨calls, (countP_append_silent _ rfl).trans counted, trivial, permitted, ?_⟩
      exact numbered_append numbered (Nat.le_refl _) ⟨calls, Nat.le_refl _, onTime.1⟩
  | @call attempt scene marks allowed =>
      obtain ⟨number, waited⟩ := onTime
      refine ⟨calls + 1, ?_, ⟨calls, rfl, number, ?_⟩, ?_, ?_⟩
      · simp [counted, RetryMark.isCall]
      · show _ ≤ (attempt.startInner scene).2.now
        rw [attempt.startInner_now]
        exact waited
      · intro failures before
        rcases Nat.lt_succ_iff_lt_or_eq.mp before with earlier | rfl
        · exact permitted failures earlier
        · exact permits_of_not_isExhausted number waited allowed
      · exact numbered_append numbered (Nat.le_succ _) ⟨calls, Nat.lt_succ_self _, number⟩
  | @goOn attempt call scene later marks onward =>
      obtain ⟨failures, made, number, waited⟩ := onTime
      refine ⟨calls, counted, ⟨failures, made, number, ?_⟩, permitted, numbered⟩
      show _ ≤ (call.resume later).2.now
      rw [(Scene.Tells.resume .nothing call later).clock]
      exact Nat.le_trans waited onward
  | pass => exact ⟨calls, counted, trivial, permitted, numbered⟩
  | @fail attempt error scene marks retryable =>
      obtain ⟨failures, made, number, waited⟩ := onTime
      refine ⟨calls, (countP_append_silent _ rfl).trans counted, ⟨failures, made, number, ?_⟩,
        permitted, numbered_append numbered (Nat.le_refl _) ⟨failures, by omega, number⟩⟩
      show attempt.startedAt + attempt.policy.waited (failures + 1) ≤
        (attempt.schedule error scene).2.1
      rw [attempt.schedule_due, RetryAttempt.previous_eq number, RetryPolicy.waited,
        ← Nat.add_assoc]
      exact Nat.add_le_add_right waited _
  | wait onward => exact ⟨calls, counted, onTime, permitted, numbered⟩
  | awake come =>
      obtain ⟨failures, rfl, number, waited⟩ := onTime
      refine ⟨failures + 1, (countP_append_silent _ rfl).trans counted,
        ⟨RetryAttempt.advance_count number, Nat.le_trans waited come⟩, permitted, ?_⟩
      exact numbered_append numbered (Nat.le_refl _) ⟨failures, Nat.lt_succ_self _, number⟩
  | rest onward => exact ⟨calls, counted, trivial, permitted, numbered⟩

theorem Paced.reaches {moment last : RetryMoment} {calls : Nat} (paced : moment.Paced calls)
    (reaches : moment.Reaches last) : ∃ more, last.Paced more := by
  induction reaches with
  | refl => exact ⟨calls, paced⟩
  | tail _ step inductionHypothesis =>
      obtain ⟨more, pacedSo⟩ := inductionHypothesis
      exact pacedSo.step step

theorem Reaches.policy_eq {moment last : RetryMoment} (reaches : moment.Reaches last) :
    last.attempt.policy = moment.attempt.policy := by
  induction reaches with
  | refl => rfl
  | tail _ step inductionHypothesis =>
      rw [← inductionHypothesis]
      cases step <;> rfl

end RetryMoment

/-- Each call of a retry is permitted after those before it, and each mark has the number of one
of the calls. -/
theorem Transport.retryMarks_paced (observer : Observer) (policy : RetryPolicy)
    (inner : Transport) (events : List Event) (scene : Scene) {changes : List (Scene → Scene)}
    (onward : Onward changes) :
    let marks := retryMarks observer policy inner events changes scene
    let calls := marks.countP RetryMark.isCall
    (∀ failures < calls, policy.Permits failures) ∧ ∀ mark ∈ marks, mark.NumberedIn calls := by
  obtain ⟨last, reaches, -, marked⟩ := retryMarks_reached observer policy inner events scene onward
  have paced : RetryMoment.Paced
      ⟨{ observer, policy, inner, events, startedAt := scene.now }, .deciding, scene, []⟩ 0 := by
    refine ⟨rfl, ⟨(by decide : 1 = (0 + 1) % Word.size 32), Nat.le_refl _⟩, ?_, ?_⟩
    · intro failures none
      exact absurd none (Nat.not_lt_zero _)
    · intro mark member
      cases member
  obtain ⟨calls, counted, -, permitted, numbered⟩ := paced.reaches reaches
  dsimp only
  rw [← marked, counted, ← show last.attempt.policy = policy from reaches.policy_eq]
  exact ⟨permitted, numbered⟩

/-! ### As often as permitted -/

namespace Call

/-- After the marks that there are, some course of the call goes on so that all begin with these. -/
def MayMark (course : Call × Scene) (there marks : List RetryMark) : Prop :=
  ∃ changes, Onward changes ∧ marks <+: there ++ retryMarksAlong changes course

namespace MayMark

variable {course : Call × Scene} {there marks : List RetryMark}

theorem of_begins (course : Call × Scene) (begins : marks <+: there) :
    MayMark course there marks := by
  refine ⟨[], ?_, begins.trans (List.prefix_append _ _)⟩
  intro change member
  cases member

theorem cons (mark : RetryMark) (may : MayMark course there marks) :
    MayMark course (mark :: there) (mark :: marks) := by
  obtain ⟨changes, onward, begins⟩ := may
  exact ⟨changes, onward, List.cons_prefix_cons.mpr ⟨rfl, begins⟩⟩

/-- Nothing happens until a time, when the call is looked at. -/
theorem waitUntil {call : Call} {scene : Scene} (time : Nat)
    (may : MayMark (call.resume (scene.waitUntil time)) (call.retryMarks (scene.waitUntil time))
      marks) : MayMark (call, scene) [] marks := by
  obtain ⟨changes, onward, begins⟩ := may
  refine ⟨(·.waitUntil time) :: changes, ?_, begins⟩
  intro change member
  rcases List.mem_cons.mp member with rfl | later
  · exact fun scene => Nat.le_max_left _ _
  · exact onward change later

end MayMark

end Call

namespace RetryAttempt

/-- Some course of the attempt begins with these marks, whether the attempt is made in a look of
its own or among other turns of a look. -/
structure MayBegin (attempt : RetryAttempt) (scene : Scene) (marks : List RetryMark) : Prop where
  made : Call.MayMark (attempt.make attempt.startInner scene)
    (attempt.makeMarks attempt.startInner scene) marks
  followed : attempt.isExhausted scene.now = false → ∀ course there,
    attempt.Follows attempt.startInner (attempt.startInner scene).1 (attempt.startInner scene).2
      course there → Call.MayMark course (.called attempt scene :: there) marks

namespace MayBegin

variable {attempt : RetryAttempt} {scene after : Scene} {marks : List RetryMark}

theorem nil (attempt : RetryAttempt) (scene : Scene) : attempt.MayBegin scene [] where
  made := .of_begins _ List.nil_prefix
  followed _ _ _ _ := .of_begins _ List.nil_prefix

/-- A look of its own follows the call in one of the possible ways. -/
theorem of_followed (allowed : attempt.isExhausted scene.now = false)
    (followed : ∀ course there,
      attempt.Follows attempt.startInner (attempt.startInner scene).1 (attempt.startInner scene).2
        course there → Call.MayMark course (.called attempt scene :: there) marks) :
    attempt.MayBegin scene marks := by
  refine ⟨?_, fun _ => followed⟩
  have notExhausted : ¬attempt.isExhausted scene.now = true := ne_true_of_eq_false allowed
  unfold make makeMarks
  rw [if_neg notExhausted, if_neg notExhausted]
  exact followed _ _ (attempt.follow_follows _ _ _ _)

theorem called (allowed : attempt.isExhausted scene.now = false) :
    attempt.MayBegin scene [.called attempt scene] := by
  apply of_followed allowed
  intro course there follows
  exact .of_begins _ (List.prefix_append [_] _)

/-- A retry that waits is looked at when the wait is over. -/
theorem backingOff {due : Nat} (next : attempt.advance.MayBegin (scene.waitUntil due) marks) :
    Call.MayMark (.backingOff attempt due, scene) []
      (.awoke attempt (scene.waitUntil due).now :: marks) := by
  apply Call.MayMark.waitUntil due
  have come := scene.le_now_waitUntil due
  unfold Call.resume Call.retryMarks
  dsimp only
  rw [if_pos come, if_pos come]
  exact next.made.cons _

/-- A call that fails at once, and all that may follow when the wait after it is over. -/
theorem again (allowed : attempt.isExhausted scene.now = false) {error : TransportError}
    (refused : attempt.startInner scene = (.settled (some error), after))
    (retryable : error.isRetryable = true)
    (next : (attempt.schedule error after).1.advance.MayBegin
      ((attempt.schedule error after).2.2.waitUntil (attempt.schedule error after).2.1) marks) :
    attempt.MayBegin scene
      (.called attempt scene :: .failed attempt after.now ::
        .awoke (attempt.schedule error after).1
          ((attempt.schedule error after).2.2.waitUntil (attempt.schedule error after).2.1).now ::
        marks) := by
  apply of_followed allowed
  intro course there follows
  rw [refused] at follows
  apply Call.MayMark.cons
  cases follows with
  | rejected _ _ _ final => exact absurd (retryable.symm.trans final) Bool.noConfusion
  | pending _ _ waits => cases waits
  | backOff => exact next.backingOff.cons _
  | exhaust _ _ _ _ come exhausted =>
      rw [Scene.waitUntil_of_le come] at next ⊢
      have made := next.made
      unfold make makeMarks at made
      rw [if_pos exhausted, if_pos exhausted] at made
      exact (made.cons _).cons _
  | again _ _ _ _ come allowedNext follows =>
      rw [Scene.waitUntil_of_le come] at next ⊢
      exact ((next.followed allowedNext _ _ follows).cons _).cons _

end MayBegin

end RetryAttempt

/-! ### A collector that refuses every call -/

/-- The failure of a collector that asks for another attempt. -/
def Collector.refusal : TransportError := .retryable "collector" "busy"

/-- A collector that refuses every call at once. -/
def Collector.refusing : Collector where
  name := "collector"
  answer _ := { failure := some refusal }

namespace Scene

def refusing : Scene where
  collectors := [.refusing]

/-- The first collector is the refusing one, however often it was called. -/
def Refuses (scene : Scene) : Prop :=
  ∃ collector, scene.collectors[0]? = some collector ∧
    ∀ number, collector.answer number = { failure := some Collector.refusal }

theorem Refuses.start {scene : Scene} (refuses : scene.Refuses) (events : List Event) :
    ∃ after, (Transport.collector 0 "collector").start events scene =
        (.settled (some Collector.refusal), after) ∧
      after.now = scene.now ∧ after.Refuses := by
  obtain ⟨collector, present, answers⟩ := refuses
  have inside : 0 < scene.collectors.length := (List.getElem?_eq_some_iff.mp present).1
  let called := { scene with collectors := scene.collectors.set 0 collector.begin.2 }.note
    (.called scene.now "collector" events collector.begin.2.detailed)
  have still : called.collectors[0]? = some collector.begin.2 := List.getElem?_set_self inside
  obtain ⟨clock, -, answeredBy⟩ :=
    Collector.answered_spec still "collector" (some Collector.refusal)
  refine ⟨called.answered 0 "collector" (some Collector.refusal), ?_, clock, _, answeredBy, answers⟩
  have replied : collector.begin.1 = { failure := some Collector.refusal } := answers _
  simp only [Transport.start, Scene.callCollector, present, replied, called]
  rfl

end Scene

namespace RetryAttempt

/-- A retry of the refusing collector, about to call it after so many refusals and no other time
than that of the waits. -/
structure Refused (attempt : RetryAttempt) (policy : RetryPolicy) (failures : Nat) (scene : Scene) :
    Prop where
  policy_eq : attempt.policy = policy
  inner_eq : attempt.inner = .collector 0 "collector"
  startedAt_eq : attempt.startedAt = 0
  count_eq : attempt.count = (failures + 1) % Word.size 32
  now_eq : scene.now = policy.waited failures
  refuses : scene.Refuses

theorem schedule_waitUntil (attempt : RetryAttempt) (error : TransportError) (scene : Scene) :
    let later :=
      (attempt.schedule error scene).2.2.waitUntil (attempt.schedule error scene).2.1
    later.now = (attempt.schedule error scene).2.1 ∧ later.collectors = scene.collectors := by
  unfold schedule
  dsimp only
  rw [Scene.observe]
  exact ⟨Nat.max_eq_right (Nat.le_add_right _ _), rfl⟩

namespace Refused

variable {attempt : RetryAttempt} {policy : RetryPolicy} {failures : Nat} {scene : Scene}

theorem not_isExhausted (refused : attempt.Refused policy failures scene)
    (permits : policy.Permits failures) : attempt.isExhausted scene.now = false := by
  rw [isExhausted_eq_false_iff, refused.policy_eq, refused.startedAt_eq, refused.count_eq,
    refused.now_eq, Nat.sub_zero]
  exact permits

/-- A permitted call is refused, and the next one comes right after the wait. -/
theorem again (refused : attempt.Refused policy failures scene)
    (permits : policy.Permits failures) :
    ∃ woken next later, woken.count = attempt.count ∧
      RetryAttempt.Refused next policy (failures + 1) later ∧
      ∀ marks, next.MayBegin later marks →
        attempt.MayBegin scene
          (.called attempt scene :: .failed attempt scene.now :: .awoke woken later.now ::
            marks) := by
  obtain ⟨after, starts, clock, refuses⟩ := refused.refuses.start attempt.events
  rw [← refused.inner_eq] at starts
  obtain ⟨laterNow, laterCollectors⟩ := attempt.schedule_waitUntil Collector.refusal after
  have due : (attempt.schedule Collector.refusal after).2.1 = policy.waited (failures + 1) := by
    rw [attempt.schedule_due, clock, refused.now_eq, previous_eq refused.count_eq,
      refused.policy_eq, RetryPolicy.waited]
  refine ⟨(attempt.schedule Collector.refusal after).1,
    (attempt.schedule Collector.refusal after).1.advance,
    (attempt.schedule Collector.refusal after).2.2.waitUntil
      (attempt.schedule Collector.refusal after).2.1, rfl, ?_, ?_⟩
  · refine ⟨refused.policy_eq, refused.inner_eq, refused.startedAt_eq,
      advance_count refused.count_eq, laterNow.trans due, ?_⟩
    rw [Scene.Refuses, laterCollectors]
    exact refuses
  · intro marks may
    have begins := may.again (refused.not_isExhausted permits) starts rfl
    rw [clock] at begins
    exact begins

/-- The refusing collector is called as often as the policy permits, and the attempt has the number
of each of these calls when the wait after it is over. -/
theorem calls (more : Nat) (refused : attempt.Refused policy failures scene)
    (permitted : ∀ number, failures ≤ number → number < failures + more → policy.Permits number) :
    ∃ marks, attempt.MayBegin scene marks ∧ marks.countP RetryMark.isCall = more ∧
      ∀ number, failures ≤ number → number < failures + more →
        ∃ woken time, .awoke woken time ∈ marks ∧ woken.count = (number + 1) % Word.size 32 := by
  induction more generalizing attempt scene failures with
  | zero =>
      refine ⟨[], .nil attempt scene, rfl, ?_⟩
      intro number above below
      omega
  | succ more inductionHypothesis =>
      obtain ⟨woken, next, later, counted, refusedNext, goesOn⟩ :=
        refused.again (permitted failures (Nat.le_refl _) (by omega))
      have permittedNext (number : Nat) (above : failures + 1 ≤ number)
          (below : number < failures + 1 + more) : policy.Permits number :=
        permitted number (by omega) (by omega)
      obtain ⟨marks, may, called, awakes⟩ := inductionHypothesis refusedNext permittedNext
      refine ⟨_ :: _ :: _ :: marks, goesOn marks may, ?_, ?_⟩
      · rw [List.countP_cons_of_pos rfl, List.countP_cons_of_neg Bool.false_ne_true,
          List.countP_cons_of_neg Bool.false_ne_true, called]
      · intro number above below
        rcases Nat.eq_or_lt_of_le above with rfl | above
        · exact ⟨_, _, .tail _ (.tail _ (.head _)), counted.trans refused.count_eq⟩
        · obtain ⟨other, time, member, numbered⟩ := awakes number above (by omega)
          exact ⟨other, time, .tail _ (.tail _ (.tail _ member)), numbered⟩

end Refused

end RetryAttempt

namespace Transport

/-- The marks of a retry of the refusing collector. -/
def refusedMarks (policy : RetryPolicy) (changes : List (Scene → Scene)) : List RetryMark :=
  retryMarks .notes policy (.collector 0 "collector") [] changes .refusing

/-- What the first attempt may begin with, some course of the retry begins with. -/
theorem exists_refused (policy : RetryPolicy) :
    ∃ first : RetryAttempt, first.Refused policy 0 .refusing ∧
      ∀ marks, first.MayBegin .refusing marks →
        ∃ changes, Onward changes ∧ marks <+: refusedMarks policy changes := by
  let first : RetryAttempt :=
    { observer := .notes, policy, inner := .collector 0 "collector", events := [], startedAt := 0 }
  refine ⟨first, ?_, fun _ mayBegin => mayBegin.made⟩
  refine ⟨rfl, rfl, rfl, ?_, rfl, _, rfl, fun _ => rfl⟩
  exact (by decide : 1 = (0 + 1) % Word.size 32)

end Transport

end Telemetry
