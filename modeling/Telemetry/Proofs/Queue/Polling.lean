import Telemetry.Proofs.Duration
import Telemetry.Queue.Wait

/-!
Contract: one look of a wait at its queue, on whole milliseconds.

Owns:
- `IdleWait.poll_eq`: a look depends on the interval and the deadline only as
  timers round them;
- `IdleWait.instant`, the instants of a wait, said by its interval and timeout
  alone, and the step from one to the next;
- `IdleWait.Attends`, a wait that is not overdue.

The deadline is an instant itself, whether or not it is a multiple of the
interval. A multiple that is not before the deadline is replaced by it, so the
instants stay there from some look on.
-/

namespace Telemetry

namespace IdleWait

/-- The time of the last look. -/
def lastDue (wait : IdleWait) : Nat :=
  wait.deadline.timerMilliseconds

theorem lastDue_with_due (wait : IdleWait) (due : Nat) :
    lastDue { wait with due } = wait.lastDue :=
  rfl

theorem poll_eq (wait : IdleWait) (now : Nat) (idle : Bool) :
    wait.poll now idle =
      if now < wait.due then .inr wait
      else if idle then .inl true
      else if wait.lastDue ≤ now then .inl false
      else .inr { wait with
        due := now + min wait.interval.timerMilliseconds (wait.lastDue - now) } := by
  simp only [poll, lastDue, Duration.timerMilliseconds_le_iff, Duration.timerMilliseconds_min,
    Duration.timerMilliseconds_sub]

theorem poll_of_idle {wait : IdleWait} {now : Nat} (due : wait.due ≤ now) :
    wait.poll now true = .inl true := by
  rw [poll, if_neg (Nat.not_lt.mpr due), if_pos rfl]

/-- A wait that is not overdue and looks at the queue again until its deadline. -/
structure Attends (wait : IdleWait) (deadline now : Nat) : Prop where
  until_deadline : wait.lastDue = deadline
  pauses : 0 < wait.interval.timerMilliseconds
  now_le : now ≤ wait.due
  due_le : wait.due ≤ deadline

/-- A wait that finds the queue busy before the deadline looks again later. -/
theorem Attends.poll_of_busy {wait : IdleWait} {deadline now : Nat}
    (attends : wait.Attends deadline now) (due : wait.due ≤ now) (early : now < deadline) :
    ∃ later, wait.poll now false = .inr later ∧ later.Attends deadline now ∧ now < later.due := by
  obtain ⟨rfl, pauses, -, -⟩ := attends
  refine ⟨{ wait with due := now + min wait.interval.timerMilliseconds (wait.lastDue - now) },
    ?_, ?_, ?_⟩
  · rw [poll_eq, if_neg (Nat.not_lt.mpr due), if_neg Bool.false_ne_true,
      if_neg (Nat.not_le.mpr early)]
  · exact ⟨lastDue_with_due wait _, pauses, Nat.le_add_right _ _, by dsimp only; omega⟩
  · dsimp only
    omega

/-! ### The instants of a wait -/

/-- When a wait looks at its queue for the time with this number, counted from zero. -/
def instant (start interval timeout look : Nat) : Nat :=
  start + min (look * interval) timeout

section Instants

variable {start interval timeout look : Nat}

theorem instant_zero : instant start interval timeout 0 = start := by
  simp [instant]

theorem instant_le (start interval timeout look : Nat) :
    instant start interval timeout look ≤ start + timeout := by
  unfold instant
  omega

theorem instant_eq_deadline_iff :
    instant start interval timeout look = start + timeout ↔ timeout ≤ look * interval := by
  unfold instant
  omega

/-- The instants stay at the deadline once they have come to it. -/
theorem instant_of_deadline {earlier : Nat}
    (come : instant start interval timeout earlier = start + timeout) (later : earlier ≤ look) :
    instant start interval timeout look = start + timeout := by
  rw [instant_eq_deadline_iff] at come ⊢
  exact Nat.le_trans come (Nat.mul_le_mul_right _ later)

/-- From an instant before the deadline, one interval leads to the next, or the rest of the time to
the deadline. -/
theorem instant_succ (early : instant start interval timeout look < start + timeout) :
    instant start interval timeout look +
        min interval (start + timeout - instant start interval timeout look) =
      instant start interval timeout (look + 1) := by
  unfold instant at early ⊢
  rw [Nat.succ_mul]
  omega

end Instants

/-- The wait when it is about to look for the time with this number. -/
def before (start : Nat) (interval timeout : Duration) (look : Nat) : IdleWait where
  interval := interval
  deadline := .ofMilliseconds start + timeout
  due := instant start interval.timerMilliseconds timeout.timerMilliseconds look

variable {start look : Nat} {interval timeout : Duration}

theorem start?_eq_some (shown : Clock.Shows (.ofMilliseconds start + timeout)) :
    start? start interval timeout = some (before start interval timeout 0) := by
  rw [start?, if_pos shown, before, instant_zero]

theorem start?_eq_none (beyond : ¬ Clock.Shows (.ofMilliseconds start + timeout)) :
    start? start interval timeout = none :=
  if_neg beyond

theorem before_lastDue :
    (before start interval timeout look).lastDue = start + timeout.timerMilliseconds :=
  Duration.timerMilliseconds_add start timeout

/-- The last look is the one that is not before the deadline. -/
theorem due_eq_lastDue_iff :
    (before start interval timeout look).due = start + timeout.timerMilliseconds ↔
      .ofMilliseconds start + timeout ≤
        .ofMilliseconds (before start interval timeout look).due := by
  have within : (before start interval timeout look).due ≤ start + timeout.timerMilliseconds :=
    instant_le _ _ _ _
  rw [← Duration.timerMilliseconds_le_iff, Duration.timerMilliseconds_add]
  omega

/-- No look is late by a millisecond. -/
theorem due_lt (start : Nat) (interval timeout : Duration) (look : Nat) :
    .ofMilliseconds (before start interval timeout look).due <
      .ofMilliseconds start + timeout + .ofMilliseconds 1 := by
  have within : (before start interval timeout look).due ≤ start + timeout.timerMilliseconds :=
    instant_le _ _ _ _
  have late := Duration.timerMilliseconds_lt (.ofMilliseconds start + timeout)
  rw [Duration.timerMilliseconds_add] at late
  exact Nat.lt_of_le_of_lt (Duration.ofMilliseconds_le within) late

/-- The looks are all on time exactly if the timeout is a whole number of milliseconds. -/
theorem due_le_iff (pauses : 0 < interval.timerMilliseconds) :
    (∀ look, .ofMilliseconds (before start interval timeout look).due ≤
        .ofMilliseconds start + timeout) ↔ timeout.subMilliseconds = 0 := by
  rw [Duration.subMilliseconds_eq_zero_iff]
  constructor
  · intro onTime
    have last : (before start interval timeout timeout.timerMilliseconds).due =
        start + timeout.timerMilliseconds :=
      instant_eq_deadline_iff.mpr (Nat.le_mul_of_pos_right _ pauses)
    have lastOnTime := onTime timeout.timerMilliseconds
    rw [last, Duration.ofMilliseconds_add] at lastOnTime
    exact Nat.le_of_add_le_add_left lastOnTime
  · intro whole look
    have within : (before start interval timeout look).due ≤ start + timeout.timerMilliseconds :=
      instant_le _ _ _ _
    apply Nat.le_trans (Duration.ofMilliseconds_le within)
    rw [Duration.ofMilliseconds_add]
    exact Nat.add_le_add_left whole _

/-- A look that finds the queue idle, or comes at the deadline, is the last. -/
theorem poll_last {idle : Bool} (last : idle = true ∨
      (before start interval timeout look).due = start + timeout.timerMilliseconds) :
    (before start interval timeout look).poll (before start interval timeout look).due idle =
      .inl idle := by
  rw [poll_eq, if_neg (Nat.lt_irrefl _)]
  cases idle with
  | true => rfl
  | false =>
      have due := last.resolve_left Bool.false_ne_true
      rw [if_neg Bool.false_ne_true, before_lastDue, if_pos (Nat.le_of_eq due.symm)]

/-- Any other look is followed by the next one. -/
theorem poll_next
    (early : (before start interval timeout look).due ≠ start + timeout.timerMilliseconds) :
    (before start interval timeout look).poll (before start interval timeout look).due false =
      .inr (before start interval timeout (look + 1)) := by
  have sooner : (before start interval timeout look).due < start + timeout.timerMilliseconds :=
    Nat.lt_of_le_of_ne (instant_le _ _ _ _) early
  rw [poll_eq, if_neg (Nat.lt_irrefl _), if_neg Bool.false_ne_true, before_lastDue,
    if_neg (Nat.not_le.mpr sooner)]
  exact congrArg (fun due => Sum.inr { before start interval timeout look with due })
    (instant_succ sooner)

end IdleWait

end Telemetry
