import Mathlib.Order.Bounds.Basic
import Mathlib.Order.Nat
import Telemetry.Proofs.Session.Background

/-!
Contract: the instants at which a wait looks at its queue, and its answer.

Owns:
- `Session.Takes`, the turns of an activity on a clock that stops whenever the
  activity is due, in a session that others change in any way;
- the theorem that a wait ends at the first instant at which its look finds the
  queue idle, or else at the first one that is not before its deadline.

A look finds the queue as others have made it by then. What they do later, even
in the same instant, comes too late for it.

Does not own: the instants themselves; see `Proofs.Queue.Polling`. When a queue
becomes idle; see `Proofs.Session.Vigil`.
-/

namespace Telemetry

/-- The turns of an activity until its answer. It has one at the given time, and the next one when
it is due. At each time the session is what others have made of it by then. -/
inductive Session.Takes (world : Nat → Session) : Activity → Nat → List Nat → Answer → Prop where
  | ended {activity : Activity} {time : Nat} {session : Session} {answer : Answer}
      (ended : (world time).resume activity = session.answer answer) :
      Takes world activity time [time] answer
  | again {activity next : Activity} {time due : Nat} {session : Session} {times : List Nat}
      {answer : Answer} (goesOn : (world time).resume activity = session.goOn next)
      (waits : next.awaited = .at due) (rest : Takes world next due times answer) :
      Takes world activity time (time :: times) answer

namespace Session.Takes

variable {world : Nat → Session} {activity next : Activity} {time due : Nat} {session : Session}
  {times : List Nat} {answer result : Answer}

theorem of_answer_iff (ended : (world time).resume activity = session.answer answer) :
    Takes world activity time times result ↔ times = [time] ∧ result = answer := by
  constructor
  · intro takes
    cases takes with
    | ended endedSo =>
        rw [ended] at endedSo
        cases endedSo
        exact ⟨rfl, rfl⟩
    | again goesOn =>
        rw [ended] at goesOn
        cases goesOn
  · rintro ⟨rfl, rfl⟩
    exact .ended ended

theorem of_goOn_iff (goesOn : (world time).resume activity = session.goOn next)
    (waits : next.awaited = .at due) :
    Takes world activity time times result ↔
      ∃ later, times = time :: later ∧ Takes world next due later result := by
  constructor
  · intro takes
    cases takes with
    | ended ended =>
        rw [goesOn] at ended
        cases ended
    | again goesOnSo waitsSo rest =>
        rw [goesOn] at goesOnSo
        cases goesOnSo
        rw [waits] at waitsSo
        cases waitsSo
        exact ⟨_, rfl, rest⟩
  · rintro ⟨later, rfl, rest⟩
    exact .again goesOn waits rest

/-- The first turn of a step is that of the activity which it begins. -/
theorem of_begin_iff {step : Step} {number : Nat} {wait : IdleWait}
    (begins : (world time).begin step = (world time).goOn (.waitIdle number wait)) :
    Takes world (.step step) time times result ↔
      Takes world (.waitIdle number wait) time times result := by
  have same : (world time).resume (.step step) = (world time).resume (.waitIdle number wait) := by
    simp only [resume, begins, goOn]
  constructor
  · intro takes
    cases takes with
    | ended ended => exact .ended (same.symm.trans ended)
    | again goesOn waits rest => exact .again (same.symm.trans goesOn) waits rest
  · intro takes
    cases takes with
    | ended ended => exact .ended (same.trans ended)
    | again goesOn waits rest => exact .again (same.trans goesOn) waits rest

end Session.Takes

/-- The answer of a step that is answered with yes or no. -/
def Answer.flag? : Answer → Option Bool
  | .flag value => some value
  | _ => none

namespace Session

open IdleWait (before)

variable {world : Nat → Session} {start number look last : Nat} {interval timeout : Duration}

/-- A step that needs no waiting has its answer at the first turn. -/
theorem resume_of_answer {session next : Session} {step : Step} {answer : Answer}
    (begun : session.begin step = next.answer answer) :
    session.resume (.step step) = next.answer answer := by
  simp only [resume, begun, Session.answer]

theorem begin_waitIdle {session : Session} {name : String}
    (known : session.names.queues.lookup name = some number) (interval timeout : Duration) :
    session.begin (.waitIdle name interval timeout) =
      (IdleWait.start? session.now interval timeout).elim (session.answer .broken)
        fun wait => session.goOn (.waitIdle number wait) := by
  simp only [begin, waitForQueue, known]
  cases IdleWait.start? session.now interval timeout <;> rfl

/-- The look finds the queue idle, or is the first one that is not before the deadline. -/
def EndsWait (world : Nat → Session) (number start : Nat) (interval timeout : Duration)
    (look : Nat) : Prop :=
  (world (before start interval timeout look).due).queueIdle number = true ∨
    (before start interval timeout look).due = start + timeout.timerMilliseconds

/-- From any look on that is not past the last one, a wait takes the looks that are left. -/
theorem takes_iff (clock : ∀ time, (world time).now = time)
    (least : IsLeast {look | EndsWait world number start interval timeout look} last)
    (within : look ≤ last) (times : List Nat) (result : Answer) :
    Takes world (.waitIdle number (before start interval timeout look))
        (before start interval timeout look).due times result ↔
      times = (List.range' look (last + 1 - look)).map
          (fun look => (before start interval timeout look).due) ∧
        result = .flag ((world (before start interval timeout last).due).queueIdle number) := by
  -- The induction is on the looks that are left.
  induction left : last - look generalizing look times with
  | zero =>
      obtain rfl : look = last := by omega
      have polled : (before start interval timeout look).poll
          (world (before start interval timeout look).due).now
          ((world (before start interval timeout look).due).queueIdle number) =
            .inl ((world (before start interval timeout look).due).queueIdle number) := by
        rw [clock]
        exact IdleWait.poll_last least.1
      rw [Takes.of_answer_iff (resume_waitIdle_of_inl polled), Nat.add_sub_cancel_left]
      rfl
  | succ left inductionHypothesis =>
      have notLast : ¬ EndsWait world number start interval timeout look := by
        intro ends
        have enough : last ≤ look := least.2 ends
        omega
      rw [EndsWait, not_or, Bool.not_eq_true] at notLast
      have polled : (before start interval timeout look).poll
          (world (before start interval timeout look).due).now
          ((world (before start interval timeout look).due).queueIdle number) =
            .inr (before start interval timeout (look + 1)) := by
        rw [clock, notLast.1]
        exact IdleWait.poll_next notLast.2
      have nextWithin : look + 1 ≤ last := by omega
      have rest := fun later => inductionHypothesis nextWithin later (by omega)
      have count : last + 1 - look = (last + 1 - (look + 1)) + 1 := by omega
      rw [Takes.of_goOn_iff (resume_waitIdle_of_inr polled) rfl, count, List.range'_succ,
        List.map_cons]
      constructor
      · rintro ⟨later, rfl, takes⟩
        obtain ⟨rfl, same⟩ := (rest later).mp takes
        exact ⟨rfl, same⟩
      · rintro ⟨rfl, same⟩
        exact ⟨_, rfl, (rest _).mpr ⟨rfl, same⟩⟩

/-- The last look is the first that finds the queue idle, or else the first that is not before
the deadline. -/
theorem isLeast_idle_or_deadline
    (least : IsLeast {look | EndsWait world number start interval timeout look} last) :
    let idle look := (world (before start interval timeout look).due).queueIdle number
    (idle last = true ∧ IsLeast {look | idle look = true} last) ∨
      (idle last = false ∧ (∀ look, idle look = false) ∧
        IsLeast {look | .ofMilliseconds start + timeout ≤
          .ofMilliseconds (before start interval timeout look).due} last) := by
  intro idle
  cases found : idle last with
  | true =>
      refine .inl ⟨rfl, found, ?_⟩
      intro look idleThen
      exact least.2 (.inl idleThen)
  | false =>
      have atDeadline : (before start interval timeout last).due =
          start + timeout.timerMilliseconds :=
        least.1.resolve_left (ne_true_of_eq_false found)
      refine .inr ⟨rfl, ?_, IdleWait.due_eq_lastDue_iff.mp atDeadline, ?_⟩
      · intro look
        rcases Nat.lt_or_ge look last with fewer | later
        · apply eq_false_of_ne_true
          intro idleThen
          exact Nat.not_le_of_lt fewer (least.2 (.inl idleThen))
        · show (world (before start interval timeout look).due).queueIdle number = false
          rw [show (before start interval timeout look).due = start + timeout.timerMilliseconds from
            IdleWait.instant_of_deadline atDeadline later, ← atDeadline]
          exact found
      · intro look notBefore
        exact least.2 (.inr (IdleWait.due_eq_lastDue_iff.mpr notBefore))

/-- However the queue changes, a wait for it ends. It looks at the queue at its start and then after
every interval, but for the last time when its timeout is over, both as timers round them up, and
at no other time. It ends at the first of these looks that finds the queue idle, the last one
included, or else at the first one that is not before the deadline. That is less than a millisecond
late, and on time for every timeout of whole milliseconds and no other. A wait whose deadline the
clock cannot show breaks off at once. -/
theorem waits_look_until_idle_or_deadline (world : Nat → Session)
    (clock : ∀ time, (world time).now = time) (start number : Nat) (interval timeout : Duration)
    (pauses : 0 < interval.nanoseconds) (step : Step)
    (begins : (world start).begin step = (IdleWait.start? start interval timeout).elim
      ((world start).answer .broken) fun wait => (world start).goOn (.waitIdle number wait)) :
    let deadline := .ofMilliseconds start + timeout
    let instant look := start + min (look * interval.timerMilliseconds) timeout.timerMilliseconds
    let idle look := (world (instant look)).queueIdle number
    (¬ Clock.Shows deadline → ∀ times result,
      Takes world (.step step) start times result ↔ times = [start] ∧ result = .broken) ∧
    (Clock.Shows deadline → ∃ last answer,
      (∀ times result, Takes world (.step step) start times result ↔
        times = (List.range (last + 1)).map instant ∧ result = .flag answer) ∧
      (∀ look, .ofMilliseconds (instant look) < deadline + .ofMilliseconds 1) ∧
      ((∀ look, .ofMilliseconds (instant look) ≤ deadline) ↔ timeout.subMilliseconds = 0) ∧
      ((answer = true ∧ IsLeast {look | idle look = true} last) ∨
        (answer = false ∧ (∀ look, idle look = false) ∧
          IsLeast {look | deadline ≤ .ofMilliseconds (instant look)} last))) := by
  intro deadline instant idle
  constructor
  · intro beyond times result
    rw [IdleWait.start?_eq_none beyond] at begins
    exact Takes.of_answer_iff (resume_of_answer begins)
  · intro shown
    rw [IdleWait.start?_eq_some shown] at begins
    have pausesSo := Duration.timerMilliseconds_pos pauses
    have enough : ∃ look, EndsWait world number start interval timeout look :=
      ⟨timeout.timerMilliseconds,
        .inr (IdleWait.instant_eq_deadline_iff.mpr (Nat.le_mul_of_pos_right _ pausesSo))⟩
    obtain ⟨last, least⟩ : ∃ last,
        IsLeast {look | EndsWait world number start interval timeout look} last := by
      classical
      exact ⟨_, Nat.isLeast_find enough⟩
    refine ⟨last, idle last, ?_, IdleWait.due_lt start interval timeout,
      IdleWait.due_le_iff pausesSo, isLeast_idle_or_deadline least⟩
    intro times result
    rw [Takes.of_begin_iff begins, List.range_eq_range']
    have takes := takes_iff clock least (Nat.zero_le last) times result
    have first : (before start interval timeout 0).due = start := IdleWait.instant_zero
    rw [first] at takes
    exact takes

/-- A session whose only queue holds an event for a quarter of a second, and none from then on. -/
def lateDelivery (time : Nat) : Session where
  scene := { now := time }
  stores := [
    if time < 250 then { backlog := Backlog.write {} [.make { type := "PressEvent" } "e-1" 1] }
    else {}]
  queues := [{ queue := { settings := {}, observer := .notes }, store := 0 }]
  names := { queues := [("q", 0)] }

/-- The last look comes when the timeout is over, after less than an interval. -/
theorem late_delivery_is_seen_at_the_deadline :
    Takes lateDelivery (.step (.waitIdle "q" ⟨99500000⟩ ⟨249500000⟩)) 0 [0, 100, 200, 250]
      (.flag true) := by
  obtain ⟨-, ends⟩ := waits_look_until_idle_or_deadline lateDelivery (fun _ => rfl) 0 0 ⟨99500000⟩
    ⟨249500000⟩ (by decide) (.waitIdle "q" ⟨99500000⟩ ⟨249500000⟩) (begin_waitIdle rfl _ _)
  obtain ⟨last, answer, takes, -, -, outcome⟩ := ends (by decide)
  have busy : ∀ look < 3, (lateDelivery (0 + min (look * 100) 250)).queueIdle 0 = false := by
    decide +kernel
  have idle : (lateDelivery (0 + min (3 * 100) 250)).queueIdle 0 = true := by decide +kernel
  have three : IsLeast
      {look | (lateDelivery (0 + min (look * 100) 250)).queueIdle 0 = true} 3 := by
    refine ⟨idle, fun look found => Nat.le_of_not_lt fun fewer => ?_⟩
    exact Bool.false_ne_true ((busy look fewer).symm.trans found)
  rcases outcome with ⟨rfl, least⟩ | ⟨-, never, -⟩
  · obtain rfl : last = 3 := least.unique three
    exact (takes _ _).mpr ⟨rfl, rfl⟩
  · exact absurd (idle.symm.trans (never 3)) (by decide)

/-- A session whose only queue has one event, for a transport that takes a tenth of a second. -/
def slowDelivery : Session where
  scene := { collectors := [{ name := "m", answer := fun _ => { duration := 100 } }] }
  stores := [{ backlog := Backlog.write {} [.make { type := "PressEvent" } "e-1" 1] }]
  queues := [{
    queue := { settings := {}, observer := .notes, processor := some (.collector 0 "m") }
    store := 0 }]
  names := { queues := [("q", 0)] }
  tasks := [.active (.backgroundRun 0 none)]
  ready := [0]

/-- A wait for a millisecond and a half lasts for two, and one for the longest span breaks off. A
wait that lasts as long as the delivery does not see it, as the run has its turn in the same instant
only after the last look. -/
theorem waits_overstay_break_off_and_miss_a_delivery :
    Takes lateDelivery (.step (.waitIdle "q" ⟨1000000⟩ ⟨1500000⟩)) 0 [0, 1, 2] (.flag false) ∧
      Takes lateDelivery (.step (.waitIdle "q" ⟨1000000⟩ .longest)) 0 [0] .broken ∧
      let waited := slowDelivery.perform
        (.waitIdle "q" (.ofMilliseconds 100) (.ofMilliseconds 100))
      waited.1.flag? = some false ∧ waited.2.now = 100 ∧
        (waited.2.turnTask 0).now = 100 ∧ (waited.2.turnTask 0).queueIdle 0 = true := by
  refine ⟨?_, ?_, by decide +kernel⟩
  · have shown : Clock.Shows (.ofMilliseconds (lateDelivery 0).now + ⟨1500000⟩) := by decide
    have begun := @begin_waitIdle 0 (lateDelivery 0) "q" rfl ⟨1000000⟩ ⟨1500000⟩
    rw [IdleWait.start?_eq_some shown] at begun
    have first : (before 0 ⟨1000000⟩ ⟨1500000⟩ 0).poll (lateDelivery 0).now
        ((lateDelivery 0).queueIdle 0) = .inr (before 0 ⟨1000000⟩ ⟨1500000⟩ 1) := by
      decide +kernel
    have second : (before 0 ⟨1000000⟩ ⟨1500000⟩ 1).poll (lateDelivery 1).now
        ((lateDelivery 1).queueIdle 0) = .inr (before 0 ⟨1000000⟩ ⟨1500000⟩ 2) := by
      decide +kernel
    have third : (before 0 ⟨1000000⟩ ⟨1500000⟩ 2).poll (lateDelivery 2).now
        ((lateDelivery 2).queueIdle 0) = .inl false := by
      decide +kernel
    rw [Takes.of_begin_iff begun]
    exact .again (resume_waitIdle_of_inr first) rfl
      (.again (resume_waitIdle_of_inr second) rfl (.ended (resume_waitIdle_of_inl third)))
  · have beyond : ¬ Clock.Shows (.ofMilliseconds (lateDelivery 0).now + .longest) := by decide
    have begun := @begin_waitIdle 0 (lateDelivery 0) "q" rfl ⟨1000000⟩ .longest
    rw [IdleWait.start?_eq_none beyond] at begun
    exact .ended (resume_of_answer begun)

end Session

end Telemetry
