import Mathlib.Order.Bounds.Basic
import Mathlib.Order.Nat
import Telemetry.Proofs.Duration
import Telemetry.Proofs.Transport.NestedRetry

/-!
Contract: a retry from its first call to its end.

Owns:
- `Call.Comes`: what a call comes to on a clock that jumps to whatever is due
  next, when nobody else acts;
- `Transport.Behaves`: what a transport does when it is called time and again;
- the times of the calls and their number, said by the policy and the replies
  alone: `RetryPolicy.beginning` and `RetryPolicy.StopsAfter`;
- the theorem that a retry makes these calls and ends as they say.

Calls are numbered from zero, so that call number `number` is attempt
`number + 1`, and the wait after it is the policy's timeout `number`. The clock
counts whole milliseconds. A timer that is set for a fraction fires at the next
one.
-/

namespace Telemetry

/-! ### Calls on a clock that jumps -/

/-- Time passes until a time, unless it has come. -/
def Scene.waitUntil (scene : Scene) (time : Nat) : Scene :=
  { scene with now := max scene.now time }

theorem Scene.waitUntil_of_le {scene : Scene} {time : Nat} (come : time ≤ scene.now) :
    scene.waitUntil time = scene := by
  rw [waitUntil, Nat.max_eq_left come]

theorem Scene.le_now_waitUntil (scene : Scene) (time : Nat) : time ≤ (scene.waitUntil time).now :=
  Nat.le_max_right _ _

/-- What a call comes to, and on which scene, if it is looked at whenever something is due. -/
inductive Call.Comes : Call × Scene → Option TransportError × Scene → Prop where
  | settled (failure : Option TransportError) (scene : Scene) :
      Comes (.settled failure, scene) (failure, scene)
  | look {call : Call} {scene : Scene} {due : Nat} {ending : Option TransportError × Scene}
      (waits : call.deadline? = some due)
      (rest : Comes (call.resume (scene.waitUntil due)) ending) : Comes (call, scene) ending

theorem Call.Comes.unique {course : Call × Scene} {ending other : Option TransportError × Scene}
    (comes : Comes course ending) (comesToo : Comes course other) : other = ending := by
  induction comes with
  | settled failure scene =>
      cases comesToo with
      | settled => rfl
      | look waits _ => cases waits
  | look waits _ inductionHypothesis =>
      cases comesToo with
      | settled => cases waits
      | look waitsToo rest =>
          rw [waits, Option.some.injEq] at waitsToo
          subst waitsToo
          exact inductionHypothesis rest

/-! ### Transports that are called time and again -/

/-- The retry above would make another attempt. -/
def Reply.asksAgain (reply : Reply) : Bool :=
  reply.failure.any TransportError.isRetryable

theorem Reply.asksAgain_iff {reply : Reply} : reply.asksAgain = true ↔
    ∃ error, reply.failure = some error ∧ error.isRetryable = true := by
  rw [asksAgain]
  cases reply.failure <;> simp

theorem Reply.asksAgain_settled (reply : Reply) :
    (Call.settled reply.failure).asksAgain = reply.asksAgain := by
  rw [asksAgain]
  cases reply.failure <;> rfl

/-- What a transport does: its reply to each call, the notes of the call by its number and the time
at which it begins, and what the collectors are like when so many calls have been answered. -/
structure Transport.Behaviour where
  reply : Nat → Reply
  notes : Nat → Nat → List Note
  ready : Nat → List Collector → Prop

/-- Each call comes to its reply after the time that the reply takes. -/
def Transport.Behaves (transport : Transport) (events : List Event)
    (behaviour : Transport.Behaviour) : Prop :=
  ∀ number scene, behaviour.ready number scene.collectors → ∃ after,
    Call.Comes (transport.start events scene) ((behaviour.reply number).failure, after) ∧
      after.now = scene.now + (behaviour.reply number).duration ∧
      after.notes.toList = scene.notes.toList ++ behaviour.notes number scene.now ∧
      behaviour.ready (number + 1) after.collectors

namespace Collector

/-- A collector replies as it answers, whatever these answers are. -/
def behaviour (collector : Collector) (index : Nat) (name : String) (events : List Event) :
    Transport.Behaviour where
  reply number := collector.answer (collector.calls + number)
  notes number time :=
    let reply := collector.answer (collector.calls + number)
    [.called time name events collector.detailed,
      .answered (time + reply.duration) name reply.failure]
  ready number collectors := ∃ found, collectors[index]? = some found ∧
    found.answer = collector.answer ∧ found.detailed = collector.detailed ∧
    found.calls = collector.calls + number

theorem answered_spec {scene : Scene} {index : Nat} {collector : Collector}
    (present : scene.collectors[index]? = some collector) (name : String)
    (failure : Option TransportError) :
    let after := scene.answered index name failure
    after.now = scene.now ∧
      after.notes.toList = scene.notes.toList ++ [.answered scene.now name failure] ∧
      after.collectors[index]? = some collector.finish := by
  have inside : index < scene.collectors.length := (List.getElem?_eq_some_iff.mp present).1
  simp only [Scene.answered, Scene.modifyCollector, present, Scene.note, Array.toList_push,
    List.getElem?_set_self inside, and_self]

theorem behaves (collector : Collector) (index : Nat) (name : String) (events : List Event) :
    (Transport.collector index name).Behaves events (collector.behaviour index name events) := by
  rintro number scene ⟨found, present, answers, detailed, calls⟩
  have inside : index < scene.collectors.length := (List.getElem?_eq_some_iff.mp present).1
  let reply := collector.answer (collector.calls + number)
  let called := { scene with collectors := scene.collectors.set index found.begin.2 }.note
    (.called scene.now name events collector.detailed)
  let done := called.waitUntil (scene.now + reply.duration)
  have still : done.collectors[index]? = some found.begin.2 := List.getElem?_set_self inside
  have doneNow : done.now = scene.now + reply.duration := Nat.max_eq_right (Nat.le_add_right _ _)
  obtain ⟨clock, noted, answeredBy⟩ := answered_spec still name reply.failure
  refine ⟨done.answered index name reply.failure, ?_, clock.trans doneNow, ?_,
    found.begin.2.finish, answeredBy, answers, detailed, ?_⟩
  · have replied : found.begin.1 = reply := by rw [begin, answers, calls]
    have start : (Transport.collector index name).start events scene =
        if reply.duration = 0 then
          (.settled reply.failure, called.answered index name reply.failure)
        else (.collecting index name (scene.now + reply.duration) reply.failure, called) := by
      simp only [Transport.start, Scene.callCollector, present, ← replied, called, ← detailed]
      rfl
    rw [start]
    split
    next prompt =>
      have atOnce : done = called := Scene.waitUntil_of_le (by rw [prompt]; exact Nat.le_refl _)
      rw [atOnce]
      exact .settled _ _
    · refine .look rfl ?_
      show Call.Comes (if scene.now + reply.duration ≤ done.now then _ else _) _
      rw [if_pos (Nat.le_of_eq doneNow.symm)]
      exact .settled _ _
  · rw [noted, doneNow]
    simp [done, called, Scene.waitUntil, Scene.note, behaviour, reply]
  · rw [finish, begin, calls]
    exact Nat.add_assoc _ _ _

end Collector

/-! ### Times and number of the calls -/

namespace RetryPolicy

variable (policy : RetryPolicy) (reply : Nat → Reply) (start : Nat)

/-- When a call begins, if all calls before it ask for another one. -/
def beginning : Nat → Nat
  | 0 => start
  | number + 1 =>
      beginning number + (reply number).duration + (policy.nextTimeout number).timerMilliseconds

/-- When a call is answered. -/
def answered (number : Nat) : Nat :=
  policy.beginning reply start number + (reply number).duration

/-- Another call is asked for after so many: there was none yet, or the last one asks for it. -/
def asksOn : Nat → Bool
  | 0 => true
  | number + 1 => (reply number).asksAgain

/-- So many calls are enough: the last one asks for no other, the attempts are used up, or the
time for them is over when the next one would begin. -/
def StopsAfter (calls : Nat) : Prop :=
  asksOn reply calls = false ∨ calls = policy.maxAttempts ∨
    ∃ limit ∈ policy.maxRetry, limit ≤ .ofMilliseconds (policy.beginning reply start calls - start)

instance : DecidablePred (policy.StopsAfter reply start) := fun calls =>
  inferInstanceAs (Decidable (asksOn reply calls = false ∨ calls = policy.maxAttempts ∨
    ∃ limit ∈ policy.maxRetry,
      limit ≤ .ofMilliseconds (policy.beginning reply start calls - start)))

theorem stopsAfter_zero :
    policy.StopsAfter reply start 0 ↔ policy.maxAttempts = 0 ∨ policy.maxRetry = some ⟨0⟩ := by
  have noTime (limit : Duration) :
      limit ≤ .ofMilliseconds (policy.beginning reply start 0 - start) ↔ limit = ⟨0⟩ := by
    show limit.nanoseconds ≤ 1000000 * (start - start) ↔ _
    rw [Nat.sub_self, Nat.mul_zero, Nat.le_zero, Duration.mk.injEq]
  simp only [StopsAfter, asksOn, noTime, Bool.true_eq_false, false_or, eq_comm (a := 0),
    Option.mem_def, exists_eq_right]

/-- The failures of so many calls, the most recent one first. -/
def failures (calls : Nat) : List TransportError :=
  ((List.range calls).filterMap fun number => (reply number).failure).reverse

theorem failures_succ {number : Nat} {error : TransportError}
    (failed : (reply number).failure = some error) :
    failures reply (number + 1) = error :: failures reply number := by
  simp [failures, List.range_succ, failed]

end RetryPolicy

/-! ### The course of a retry -/

namespace RetryAttempt

open RetryPolicy (failures asksOn)

variable (attempt : RetryAttempt) (behaviour : Transport.Behaviour) (origin : Scene)

/-- The report of a call, if it asks for another one. -/
def report (reply : Nat → Reply) (number : Nat) : List Note :=
  match (reply number).failure with
  | some error =>
      if error.isRetryable then
        [attempt.observer.noteOf (attempt.policy.answered reply attempt.startedAt number)
          (.retryScheduled attempt.name (number + 1)
            (attempt.policy.nextTimeout number).milliseconds error.message)]
      else []
  | none => []

/-- The notes of so many calls, each with its report. -/
def notesOf (calls : Nat) : List Note :=
  (List.range calls).flatMap fun number =>
    behaviour.notes number
        (attempt.policy.beginning behaviour.reply attempt.startedAt number) ++
      attempt.report behaviour.reply number

/-- How a retry ends after so many calls: with the reply to the last one as it is, or else, when
the next one would begin, with all errors and a last report. -/
structure Concludes (calls : Nat) (failure : Option TransportError) (after : Scene) : Prop where
  failure_eq : failure =
    if asksOn behaviour.reply calls then
      some (.retryExhausted calls (failures behaviour.reply calls))
    else (behaviour.reply (calls - 1)).failure
  now_eq : after.now =
    if asksOn behaviour.reply calls then
      attempt.policy.beginning behaviour.reply attempt.startedAt calls
    else attempt.policy.answered behaviour.reply attempt.startedAt (calls - 1)
  notes_eq : after.notes.toList = origin.notes.toList ++ attempt.notesOf behaviour calls ++
    if asksOn behaviour.reply calls then
      [attempt.observer.noteOf after.now (.retryExhausted attempt.name calls)]
    else []

/-- The scene on which a call is about to be made, after so many that asked for another one. -/
structure Reaches (number : Nat) (scene : Scene) : Prop where
  now_eq : scene.now = attempt.policy.beginning behaviour.reply attempt.startedAt number
  notes_eq : scene.notes.toList = origin.notes.toList ++ attempt.notesOf behaviour number
  ready : behaviour.ready number scene.collectors
  asked : ∀ earlier < number, (behaviour.reply earlier).asksAgain = true

/-- The attempt whose call has this number. -/
def numbered (reply : Nat → Reply) (number : Nat) : RetryAttempt :=
  { attempt with count := number + 1, errors := failures reply number }

section Numbered

variable {attempt behaviour origin} {number calls : Nat} {scene : Scene}

theorem Reaches.asksOn (reaches : attempt.Reaches behaviour origin number scene) :
    RetryPolicy.asksOn behaviour.reply number = true := by
  cases number with
  | zero => rfl
  | succ earlier => exact reaches.asked earlier (Nat.lt_succ_self earlier)

theorem Reaches.isExhausted_iff (reaches : attempt.Reaches behaviour origin number scene)
    (within : number ≤ attempt.policy.maxAttempts) :
    (attempt.numbered behaviour.reply number).isExhausted scene.now = true ↔
      attempt.policy.StopsAfter behaviour.reply attempt.startedAt number := by
  have usedUp : attempt.policy.maxAttempts < number + 1 ↔ number = attempt.policy.maxAttempts := by
    omega
  rw [isExhausted, RetryPolicy.StopsAfter, reaches.asksOn, Bool.or_eq_true, decide_eq_true_iff,
    ← reaches.now_eq, or_iff_right Bool.false_ne_true.symm]
  refine or_congr usedUp ?_
  simp only [numbered]
  cases attempt.policy.maxRetry with
  | none => simp
  | some limit => exact decide_eq_true_iff.trans (by simp)

theorem size_eq : Word.size 32 = Word.largest 32 + 1 := by decide

theorem numbered_previous (reply : Nat → Reply) (small : number ≤ Word.largest 32) :
    (attempt.numbered reply number).previous = number := by
  show (number + 1 + Word.largest 32) % Word.size 32 = number
  rw [size_eq, Nat.add_assoc, Nat.add_comm 1, Nat.add_mod_right]
  exact Nat.mod_eq_of_lt (Nat.lt_succ_of_le small)

theorem numbered_advance (reply : Nat → Reply) (small : number + 2 ≤ Word.largest 32)
    {error : TransportError} (failed : (reply number).failure = some error) (scene : Scene) :
    ((attempt.numbered reply number).schedule error scene).1.advance =
      attempt.numbered reply (number + 1) := by
  have counted : (number + 1 + 1) % Word.size 32 = number + 1 + 1 := by
    rw [size_eq]
    exact Nat.mod_eq_of_lt (Nat.lt_succ_of_le small)
  simp only [numbered, schedule, advance, counted, RetryPolicy.failures_succ reply failed]

end Numbered

section Following

variable {attempt : RetryAttempt} {ending : Option TransportError × Scene}

/-- Following a call comes to what following its outcome comes to. -/
theorem follow_comes {course : Call × Scene} {stop : Option TransportError × Scene}
    (comes : Call.Comes course stop)
    (next : ∀ turns, Call.Comes (attempt.follow (attempt.inner.start attempt.events) turns
      (.settled stop.1) stop.2) ending) (turns : Nat) :
    Call.Comes (attempt.follow (attempt.inner.start attempt.events) turns course.1 course.2)
      ending := by
  induction comes generalizing turns with
  | settled failure scene => exact next turns
  | @look call scene due stop waits rest inductionHypothesis =>
      have pending : attempt.follow (attempt.inner.start attempt.events) turns call scene =
          (.attempting attempt call, scene) := by
        cases call with
        | settled failure => cases waits
        | _ => exact follow_eq_around _ _ _ _ rfl
      rw [pending]
      exact .look waits (inductionHypothesis next attempt.policy.maxAttempts)

/-- What an attempt comes to that is about to be made. Made at once after another one, it has any
number of turns left. -/
structure Runs (attempt : RetryAttempt) (scene : Scene) (ending : Option TransportError × Scene) :
    Prop where
  made : Call.Comes (attempt.make (attempt.inner.start attempt.events) scene) ending
  followed : attempt.isExhausted scene.now = false → ∀ turns,
    Call.Comes (attempt.follow (attempt.inner.start attempt.events) turns
      (attempt.inner.start attempt.events scene).1
      (attempt.inner.start attempt.events scene).2) ending

variable {scene : Scene}

theorem Runs.of_exhausted (exhausted : attempt.isExhausted scene.now = true) :
    attempt.Runs scene (some (.retryExhausted attempt.previous attempt.errors),
      scene.note (attempt.observer.noteOf scene.now
        (.retryExhausted attempt.name attempt.previous))) := by
  refine ⟨?_, fun notExhausted => absurd exhausted (ne_true_of_eq_false notExhausted)⟩
  rw [make, if_pos exhausted, exhaust, Scene.observe]
  exact .settled _ _

theorem Runs.of_reply {stop : Option TransportError × Scene}
    (notExhausted : attempt.isExhausted scene.now = false)
    (comes : Call.Comes (attempt.inner.start attempt.events scene) stop)
    (next : ∀ turns, Call.Comes (attempt.follow (attempt.inner.start attempt.events) turns
      (.settled stop.1) stop.2) ending) : attempt.Runs scene ending := by
  refine ⟨?_, fun _ => follow_comes comes next⟩
  rw [make_eq_follow _ notExhausted]
  exact follow_comes comes next _

/-- A failure that asks for another attempt is followed by a wait, which may take no time, and by
whatever the next attempt comes to. -/
theorem Runs.again {error : TransportError} (retryable : error.isRetryable = true)
    (runs : (attempt.schedule error scene).1.advance.Runs
      ((attempt.schedule error scene).2.2.waitUntil (attempt.schedule error scene).2.1) ending)
    (turns : Nat) :
    Call.Comes (attempt.follow (attempt.inner.start attempt.events) turns (.settled (some error))
      scene) ending := by
  have backedOff : Call.Comes (.backingOff (attempt.schedule error scene).1
      (attempt.schedule error scene).2.1, (attempt.schedule error scene).2.2) ending := by
    refine .look rfl ?_
    rw [Call.resume, if_pos (Scene.le_now_waitUntil _ _)]
    exact runs.made
  cases turns with
  | zero =>
      simp only [follow, if_pos retryable]
      exact backedOff
  | succ turns =>
      simp only [follow, if_pos retryable]
      split
      · exact backedOff
      next come =>
        rw [Scene.waitUntil_of_le (Nat.le_of_not_lt come)] at runs
        split
        next exhausted =>
          have gaveUp := runs.made
          rw [make, if_pos exhausted] at gaveUp
          exact gaveUp
        next notExhausted => exact runs.followed (eq_false_of_ne_true notExhausted) turns

end Following

section Course

variable {attempt : RetryAttempt} {behaviour : Transport.Behaviour} {origin : Scene}
  {number calls : Nat} {scene ended : Scene}

theorem notesOf_succ (number : Nat) : attempt.notesOf behaviour (number + 1) =
    attempt.notesOf behaviour number ++ behaviour.notes number
      (attempt.policy.beginning behaviour.reply attempt.startedAt number) ++
        attempt.report behaviour.reply number := by
  simp [notesOf, List.range_succ]

/-- What is known when a call has been answered. -/
structure Answered (attempt : RetryAttempt) (behaviour : Transport.Behaviour) (origin : Scene)
    (number : Nat) (ended : Scene) : Prop where
  now_eq : ended.now = attempt.policy.answered behaviour.reply attempt.startedAt number
  notes_eq : ended.notes.toList = origin.notes.toList ++ attempt.notesOf behaviour number ++
    behaviour.notes number (attempt.policy.beginning behaviour.reply attempt.startedAt number)
  ready : behaviour.ready (number + 1) ended.collectors

theorem Reaches.answered (behaves : attempt.inner.Behaves attempt.events behaviour)
    (reaches : attempt.Reaches behaviour origin number scene) :
    ∃ ended, Call.Comes (attempt.inner.start attempt.events scene)
        ((behaviour.reply number).failure, ended) ∧
      attempt.Answered behaviour origin number ended := by
  obtain ⟨ended, comes, clock, noted, ready⟩ := behaves number scene reaches.ready
  refine ⟨ended, comes, ?_, ?_, ready⟩
  · rw [clock, reaches.now_eq, RetryPolicy.answered]
  · rw [noted, reaches.notes_eq, reaches.now_eq]

/-- After the report and the wait, the next call is about to be made. -/
theorem Answered.reaches_next (answered : attempt.Answered behaviour origin number ended)
    (asked : ∀ earlier < number, (behaviour.reply earlier).asksAgain = true)
    (small : number ≤ Word.largest 32) {error : TransportError}
    (failed : (behaviour.reply number).failure = some error)
    (retryable : error.isRetryable = true) :
    let scheduled := (attempt.numbered behaviour.reply number).schedule error ended
    attempt.Reaches behaviour origin (number + 1) (scheduled.2.2.waitUntil scheduled.2.1) := by
  intro scheduled
  have due : scheduled.2.1 = ended.now + (attempt.policy.nextTimeout number).timerMilliseconds := by
    simp only [scheduled, schedule, numbered_previous _ small]
    rfl
  have reported : scheduled.2.2 = ended.note (attempt.observer.noteOf ended.now
      (.retryScheduled attempt.name (number + 1) (attempt.policy.nextTimeout number).milliseconds
        error.message)) := by
    simp only [scheduled, schedule, numbered_previous _ small, Scene.observe]
    rfl
  rw [due, reported]
  refine ⟨?_, ?_, answered.ready, ?_⟩
  · show max ended.now _ = _
    rw [Nat.max_eq_right (Nat.le_add_right _ _), answered.now_eq]
    rfl
  · have report : attempt.report behaviour.reply number = [attempt.observer.noteOf ended.now
        (.retryScheduled attempt.name (number + 1)
          (attempt.policy.nextTimeout number).milliseconds error.message)] := by
      simp only [RetryAttempt.report, failed, if_pos retryable, answered.now_eq]
    show (ended.notes.push _).toList = _
    rw [Array.toList_push, answered.notes_eq, notesOf_succ, report]
    simp only [List.append_assoc]
  · intro earlier before
    rcases Nat.lt_succ_iff_lt_or_eq.mp before with long | rfl
    · exact asked earlier long
    · exact Reply.asksAgain_iff.mpr ⟨error, failed, retryable⟩

/-- The retry gives up when the next call would begin. -/
theorem Reaches.concludes (reaches : attempt.Reaches behaviour origin calls scene) :
    attempt.Concludes behaviour origin calls
      (some (.retryExhausted calls (failures behaviour.reply calls)))
      (scene.note (attempt.observer.noteOf scene.now (.retryExhausted attempt.name calls))) := by
  refine ⟨?_, ?_, ?_⟩
  · rw [if_pos reaches.asksOn]
  · rw [if_pos reaches.asksOn]
    exact reaches.now_eq
  · rw [if_pos reaches.asksOn, ← reaches.notes_eq]
    exact Array.toList_push

/-- The retry passes on the reply to its last call. -/
theorem Answered.concludes (answered : attempt.Answered behaviour origin number ended)
    (final : (behaviour.reply number).asksAgain = false) :
    attempt.Concludes behaviour origin (number + 1) (behaviour.reply number).failure ended := by
  have settled : ¬asksOn behaviour.reply (number + 1) = true := ne_true_of_eq_false final
  refine ⟨?_, ?_, ?_⟩
  · rw [if_neg settled]
    rfl
  · rw [if_neg settled]
    exact answered.now_eq
  · have silent : attempt.report behaviour.reply number = [] := by
      rw [Reply.asksAgain] at final
      unfold RetryAttempt.report
      split
      next error failed =>
        rw [failed] at final
        exact if_neg (ne_true_of_eq_false final)
      · rfl
    rw [if_neg settled, notesOf_succ, silent, answered.notes_eq]
    simp only [List.append_nil, List.append_assoc]

/-- From any of its calls on, a retry goes through the rest of them to its end. -/
theorem Reaches.runs (behaves : attempt.inner.Behaves attempt.events behaviour)
    (bounded : attempt.policy.maxAttempts < Word.largest 32)
    (least : IsLeast {calls | attempt.policy.StopsAfter behaviour.reply attempt.startedAt calls}
      calls)
    (reaches : attempt.Reaches behaviour origin number scene) (within : number ≤ calls) :
    ∃ ending, (attempt.numbered behaviour.reply number).Runs scene ending ∧
      attempt.Concludes behaviour origin calls ending.1 ending.2 := by
  have allowed : calls ≤ attempt.policy.maxAttempts := least.2 (.inr (.inl rfl))
  have exhausted_iff := reaches.isExhausted_iff (Nat.le_trans within allowed)
  -- The induction is on the calls that are left.
  induction left : calls - number generalizing number scene with
  | zero =>
      obtain rfl : number = calls := by omega
      have runs := Runs.of_exhausted (exhausted_iff.mpr least.1)
      rw [numbered_previous _ (by omega)] at runs
      exact ⟨_, runs, reaches.concludes⟩
  | succ left inductionHypothesis =>
      have notExhausted :
          (attempt.numbered behaviour.reply number).isExhausted scene.now = false := by
        refine eq_false_of_ne_true fun exhausted => ?_
        have enough := least.2 (exhausted_iff.mp exhausted)
        omega
      obtain ⟨ended, comes, answered⟩ := reaches.answered behaves
      cases again : (behaviour.reply number).asksAgain with
      | false =>
          obtain rfl : calls = number + 1 := by
            have enough : calls ≤ number + 1 := least.2 (.inl again)
            omega
          have passes : ∀ turns, Call.Comes ((attempt.numbered behaviour.reply number).follow
              (attempt.inner.start attempt.events) turns
              (.settled (behaviour.reply number).failure) ended)
              ((behaviour.reply number).failure, ended) := by
            intro turns
            rw [follow_eq_around _ _ _ _ ((Reply.asksAgain_settled _).trans again)]
            exact .settled _ _
          exact ⟨_, .of_reply notExhausted comes passes, answered.concludes again⟩
      | true =>
          obtain ⟨error, failed, retryable⟩ := Reply.asksAgain_iff.mp again
          have next := answered.reaches_next reaches.asked (by omega) failed retryable
          obtain ⟨ending, runs, concludes⟩ := inductionHypothesis next (by omega)
            (next.isExhausted_iff (by omega)) (by omega)
          rw [← numbered_advance _ (by omega) failed ended] at runs
          rw [failed] at comes
          exact ⟨ending, .of_reply notExhausted comes (Runs.again retryable runs), concludes⟩

end Course

end RetryAttempt

/-! ### From the first call to the end -/

namespace RetryPolicy

variable {policy : RetryPolicy} {reply : Nat → Reply} {start calls : Nat}

/-- Before the last of the calls that are made, each one asks for another. -/
theorem asksAgain_of_isLeast (least : IsLeast {calls | policy.StopsAfter reply start calls} calls)
    (asks : asksOn reply calls = true) : ∀ number < calls, (reply number).asksAgain = true := by
  intro number before
  rcases Nat.lt_or_eq_of_le (Nat.succ_le_of_lt before) with long | last
  · refine eq_true_of_ne_false fun final => ?_
    exact Nat.not_le_of_lt long (least.2 (.inl final))
  · rw [← last] at asks
    exact asks

/-- There is one failure for each call, and each of them asks for another attempt. -/
theorem failures_spec (asked : ∀ number < calls, (reply number).asksAgain = true) :
    (failures reply calls).map some =
        ((List.range calls).map fun number => (reply number).failure).reverse ∧
      ∀ error ∈ failures reply calls, error.isRetryable = true := by
  induction calls with
  | zero => exact ⟨rfl, List.forall_mem_nil _⟩
  | succ calls inductionHypothesis =>
      obtain ⟨each, retryable⟩ := inductionHypothesis fun number before => asked number (by omega)
      obtain ⟨error, failed, last⟩ := Reply.asksAgain_iff.mp (asked calls (Nat.lt_succ_self calls))
      rw [failures_succ reply failed]
      refine ⟨?_, List.forall_mem_cons.mpr ⟨last, retryable⟩⟩
      simp [List.range_succ, each, failed]

/-- Between the answer to a call and the beginning of the next one lies the policy's timeout, in
whole milliseconds. -/
theorem wait_spec (policy : RetryPolicy) (reply : Nat → Reply) (start number : Nat) :
    let wait := Duration.ofMilliseconds
      (policy.beginning reply start (number + 1) - policy.answered reply start number)
    policy.nextTimeout number ≤ wait ∧
      wait.nanoseconds < (policy.nextTimeout number).nanoseconds + 1000000 ∧
      (wait = policy.nextTimeout number ↔ (policy.nextTimeout number).subMilliseconds = 0) := by
  have gap : policy.beginning reply start (number + 1) - policy.answered reply start number =
      (policy.nextTimeout number).timerMilliseconds := Nat.add_sub_cancel_left _ _
  dsimp only
  rw [gap, Duration.subMilliseconds_eq_zero_iff]
  have enough := Duration.le_timerMilliseconds (policy.nextTimeout number)
  refine ⟨enough, Duration.timerMilliseconds_lt _, ?_⟩
  constructor
  · intro same
    rw [same]
    exact Nat.le_refl _
  · intro onTime
    exact congrArg Duration.mk (Nat.le_antisymm onTime enough)

end RetryPolicy

/-- A retry comes to an end after the least number of calls that is enough. -/
theorem Transport.retry_concludes (observer : Observer) {policy : RetryPolicy}
    {inner : Transport} {events : List Event} {behaviour : Behaviour} {scene : Scene}
    {calls : Nat} (bounded : policy.maxAttempts < Word.largest 32)
    (behaves : inner.Behaves events behaviour) (ready : behaviour.ready 0 scene.collectors)
    (least : IsLeast {calls | policy.StopsAfter behaviour.reply scene.now calls} calls) :
    ∃ failure after,
      Call.Comes ((retry observer policy inner).start events scene) (failure, after) ∧
        RetryAttempt.Concludes { observer, policy, inner, events, startedAt := scene.now }
          behaviour scene calls failure after := by
  let attempt : RetryAttempt := { observer, policy, inner, events, startedAt := scene.now }
  have first : attempt.Reaches behaviour scene 0 scene := by
    refine ⟨rfl, (List.append_nil _).symm, ready, ?_⟩
    intro earlier before
    exact absurd before (Nat.not_lt_zero earlier)
  obtain ⟨⟨failure, after⟩, runs, concludes⟩ :=
    first.runs behaves bounded least (Nat.zero_le _)
  exact ⟨failure, after, runs.made, concludes⟩

/-- Whatever the inner transport does, a retry calls it until a call is accepted or fails for good,
the attempts are used up, or their time is over when the next one would begin; each call begins one
timeout after the answer to the one before it, as a timer rounds it up to whole milliseconds. The
retry then ends with the reply to its last call as it is, or gives up with the errors of all its
calls. On the way it reports each failure that asks for another attempt once, and at the end that
it gives up, if it does. -/
theorem retry_calls_until_settled_or_exhausted (observer : Observer) (policy : RetryPolicy)
    (inner : Transport) (events : List Event) (behaviour : Transport.Behaviour) (scene : Scene)
    (bounded : policy.maxAttempts < Word.largest 32) (behaves : inner.Behaves events behaviour)
    (ready : behaviour.ready 0 scene.collectors) :
    let attempt : RetryAttempt := { observer, policy, inner, events, startedAt := scene.now }
    (∀ number,
      let wait := Duration.ofMilliseconds
        (policy.beginning behaviour.reply scene.now (number + 1) -
          policy.answered behaviour.reply scene.now number)
      policy.nextTimeout number ≤ wait ∧
        wait.nanoseconds < (policy.nextTimeout number).nanoseconds + 1000000 ∧
        (wait = policy.nextTimeout number ↔ (policy.nextTimeout number).subMilliseconds = 0)) ∧
    ∃ calls failure after,
      IsLeast {calls | policy.StopsAfter behaviour.reply scene.now calls} calls ∧
      (calls = 0 ↔ policy.maxAttempts = 0 ∨ policy.maxRetry = some ⟨0⟩) ∧
      (∀ ending, Call.Comes ((Transport.retry observer policy inner).start events scene) ending ↔
        ending = (failure, after)) ∧
      attempt.Concludes behaviour scene calls failure after ∧
      (RetryPolicy.asksOn behaviour.reply calls = true →
        (RetryPolicy.failures behaviour.reply calls).map some =
            ((List.range calls).map fun number => (behaviour.reply number).failure).reverse ∧
          ∀ error ∈ RetryPolicy.failures behaviour.reply calls, error.isRetryable = true) := by
  intro attempt
  refine ⟨fun number => policy.wait_spec behaviour.reply scene.now number, ?_⟩
  have enough : ∃ calls, policy.StopsAfter behaviour.reply scene.now calls :=
    ⟨policy.maxAttempts, .inr (.inl rfl)⟩
  have least := Nat.isLeast_find enough
  obtain ⟨failure, after, comes, concludes⟩ :=
    Transport.retry_concludes observer bounded behaves ready least
  refine ⟨Nat.find enough, failure, after, least, ?_, ?_, concludes, ?_⟩
  · rw [Nat.find_eq_zero]
    exact policy.stopsAfter_zero behaviour.reply scene.now
  · intro ending
    constructor
    · exact comes.unique
    · rintro rfl
      exact comes
  · intro asks
    exact RetryPolicy.failures_spec (RetryPolicy.asksAgain_of_isLeast least asks)

/-- A collector that is busy at first, and slow to say so the first time. -/
def depot : Collector where
  name := "depot"
  answer number :=
    if number = 0 then { failure := some (.retryable "depot" "busy"), duration := 500 }
    else if number = 1 then { failure := some (.retryable "depot" "still busy") }
    else {}

/-- The time is over when the third call would begin. -/
def hastyPolicy : RetryPolicy :=
  { maxRetry := some (.ofMilliseconds 3500) }

/-- The first two calls fail, and there is no time left for the third, which would succeed. -/
theorem hasty_retry_gives_up :
    let retry := Transport.retry .notes hastyPolicy (.collector 0 "depot")
    ∃ after,
      Call.Comes (retry.start press { collectors := [depot] })
        (some (.retryExhausted 2
          [.retryable "depot" "still busy", .retryable "depot" "busy"]), after) ∧
      after.now = 3500 ∧
      after.notes.toList = [
        .called 0 "depot" press false,
        .answered 500 "depot" (some (.retryable "depot" "busy")),
        .observed 500 (.retryScheduled "RetryTransport(depot)" 1 1000
          "Retryable send failure in 'depot': busy"),
        .called 1500 "depot" press false,
        .answered 1500 "depot" (some (.retryable "depot" "still busy")),
        .observed 1500 (.retryScheduled "RetryTransport(depot)" 2 2000
          "Retryable send failure in 'depot': still busy"),
        .observed 3500 (.retryExhausted "RetryTransport(depot)" 2)] := by
  intro retry
  obtain ⟨-, calls, failure, after, least, -, comes, concludes, -⟩ :=
    retry_calls_until_settled_or_exhausted .notes hastyPolicy (.collector 0 "depot") press
      (depot.behaviour 0 "depot" press) { collectors := [depot] } (by decide)
      (depot.behaves 0 "depot" press) ⟨depot, rfl, rfl, rfl, rfl⟩
  have enough : hastyPolicy.StopsAfter (depot.behaviour 0 "depot" press).reply 0 2 := by
    decide +kernel
  have few : ∀ number < 2,
      ¬hastyPolicy.StopsAfter (depot.behaviour 0 "depot" press).reply 0 number := by
    decide +kernel
  have two : IsLeast
      {calls | hastyPolicy.StopsAfter (depot.behaviour 0 "depot" press).reply 0 calls} 2 :=
    ⟨enough, fun number stops => Nat.le_of_not_lt fun fewer => few number fewer stops⟩
  obtain rfl : calls = 2 := least.unique two
  have first : hastyPolicy.nextTimeout 0 = .ofMilliseconds 1000 := by decide +kernel
  have second : hastyPolicy.nextTimeout 1 = .ofMilliseconds 2000 := by decide +kernel
  have begins : hastyPolicy.beginning (depot.behaviour 0 "depot" press).reply 0 1 = 1500 := by
    decide +kernel
  have ends : hastyPolicy.beginning (depot.behaviour 0 "depot" press).reply 0 2 = 3500 := by
    decide +kernel
  have asks : RetryPolicy.asksOn (depot.behaviour 0 "depot" press).reply 2 = true := by decide
  have now : after.now = 3500 := (concludes.now_eq.trans (if_pos asks)).trans ends
  refine ⟨after, (comes _).mpr ?_, now, ?_⟩
  · rw [concludes.failure_eq, if_pos asks]
    rfl
  · rw [concludes.notes_eq, if_pos asks, now]
    simp only [RetryAttempt.notesOf, RetryAttempt.report, RetryPolicy.answered,
      show List.range 2 = [0, 1] from rfl, List.flatMap_cons, List.flatMap_nil, begins, first,
      second]
    rfl

/-- From the first call to the beginning of another one, if no timer rounded the waits. -/
def RetryPolicy.exactly (policy : RetryPolicy) (reply : Nat → Reply) : Nat → Duration
  | 0 => ⟨0⟩
  | number + 1 => exactly policy reply number + .ofMilliseconds (reply number).duration +
      policy.nextTimeout number

/-- The time is over half a millisecond after the third call should begin. -/
def tardyPolicy : RetryPolicy where
  maxRetry := some (.ofMilliseconds 503)
  minTimeout := .ofMilliseconds 1
  maxTimeout := some ⟨1500000⟩

/-- The wait after the second call is rounded up, so that there is no time left for the third,
which would succeed. -/
theorem tardy_retry_loses_a_call :
    let reply := (depot.behaviour 0 "depot" press).reply
    let retry := Transport.retry .notes tardyPolicy (.collector 0 "depot")
    tardyPolicy.validate = .ok () ∧ tardyPolicy.exactly reply 1 = .ofMilliseconds 501 ∧
      tardyPolicy.exactly reply 2 = ⟨502500000⟩ ∧
      tardyPolicy.exactly reply 2 < .ofMilliseconds 503 ∧ (reply 2).failure = none ∧
      ∃ after,
        Call.Comes (retry.start press { collectors := [depot] })
          (some (.retryExhausted 2
            [.retryable "depot" "still busy", .retryable "depot" "busy"]), after) ∧
        after.now = 503 := by
  intro reply retry
  have enough : tardyPolicy.StopsAfter reply 0 2 := by decide +kernel
  have few : ∀ number < 2, ¬tardyPolicy.StopsAfter reply 0 number := by decide +kernel
  have two : IsLeast {calls | tardyPolicy.StopsAfter reply 0 calls} 2 :=
    ⟨enough, fun number stops => Nat.le_of_not_lt fun fewer => few number fewer stops⟩
  have bounded : tardyPolicy.maxAttempts < Word.largest 32 := by decide
  have behaves := depot.behaves 0 "depot" press
  obtain ⟨failure, after, comes, concludes⟩ :=
    @Transport.retry_concludes .notes tardyPolicy (.collector 0 "depot") press
      (depot.behaviour 0 "depot" press) { collectors := [depot] } 2 bounded behaves
      ⟨depot, rfl, rfl, rfl, rfl⟩ two
  have asks : RetryPolicy.asksOn reply 2 = true := by decide
  have ends : tardyPolicy.beginning reply 0 2 = 503 := by decide +kernel
  refine ⟨by decide +kernel, by decide +kernel, by decide +kernel, by decide +kernel, rfl, after,
    ?_, (concludes.now_eq.trans (if_pos asks)).trans ends⟩
  rw [concludes.failure_eq, if_pos asks] at comes
  exact comes

end Telemetry
