import Telemetry.Proofs.Queue.Pace
import Telemetry.Proofs.Queue.Polling
import Telemetry.Proofs.Queue.Prompt
import Telemetry.Session.Activity

/-!
Contract: a run and a wait for its queue, side by side on a virtual clock.

Owns:
- `Vigil`, the two with the queue, and its steps: both go on in any order, and
  the clock moves only while both wait, and not past what they wait for;
- `Vigil.Inevitable`, what every way of going on leads to;
- the theorem that a wait sees the queue idle if its deadline is later than the
  last delivery, whatever the order of the steps;
- that no wait ever does if a round needs too much room.

Does not own: the deadline that a replay computes; see `Replay.Timeout`.
-/

namespace Telemetry

open Occurrence

/-! ### Steps -/

/-- What a run waits for, unless it has ended or has broken off. -/
def Run.awaited? (run : Run) : Option Wake :=
  match run.stage with
  | .finished | .broken => none
  | _ => some run.awaited

/-- A run and a wait for the queue it runs. -/
structure Vigil where
  run : Run
  station : Station
  /-- The wait, or its answer. -/
  wait : Bool ⊕ IdleWait

namespace Vigil

def now (vigil : Vigil) : Nat := vigil.station.scene.now

/-- What the run and the wait wait for. -/
def awaited (vigil : Vigil) : List Wake :=
  vigil.run.awaited?.toList ++ vigil.wait.elim (fun _ => []) fun wait => [.at wait.due]

inductive Step (vigil : Vigil) : Vigil → Prop where
  | work {next : Run} {after : Station}
      (stepped : vigil.run.step? vigil.station = some (next, after)) :
      Step vigil { vigil with run := next, station := after }
  /-- The run looks again at what it waited for. -/
  | wake (stuck : vigil.run.step? vigil.station = none)
      (due : vigil.run.awaited? = some .yielded ∨
        ∃ due, vigil.run.awaited? = some (.at due) ∧ due ≤ vigil.now) :
      Step vigil { vigil with run := vigil.run.wake }
  /-- The wait looks at the queue. -/
  | look {wait : IdleWait} (waits : vigil.wait = .inr wait) (due : wait.due ≤ vigil.now) :
      Step vigil { vigil with wait := wait.poll vigil.now vigil.station.isIdle }
  | clock (time : Nat) (stuck : vigil.run.step? vigil.station = none) (later : vigil.now < time)
      (asleep : ∀ wake ∈ vigil.awaited, ∃ due, wake = .at due ∧ time ≤ due) :
      Step vigil
        { vigil with
          station := { vigil.station with scene := { vigil.station.scene with now := time } } }

inductive Reached (first : Vigil) : Vigil → Prop where
  | first : Reached first first
  | step {vigil next : Vigil} (reached : Reached first vigil) (step : Step vigil next) :
      Reached first next

/-- Whatever is done next, it comes to the goal. -/
inductive Inevitable (goal : Vigil → Prop) : Vigil → Prop where
  | now {vigil : Vigil} (holds : goal vigil) : Inevitable goal vigil
  | later {vigil : Vigil} (goesOn : ∃ next, Step vigil next)
      (always : ∀ next, Step vigil next → Inevitable goal next) : Inevitable goal vigil

/-- Every batch that the run hands over is delivered at once. -/
def Swift (first : Vigil) : Prop :=
  ∀ vigil, Reached first vigil → Solo.DeliversNext vigil.run vigil.station.scene

theorem Reached.processor_eq {first vigil : Vigil} (reached : Reached first vigil) :
    vigil.run.processor = first.run.processor := by
  induction reached with
  | first => rfl
  | step _ step inductionHypothesis =>
      rw [← inductionHypothesis]
      cases step with
      | work stepped => exact (Run.step?_move stepped).keeps_processor
      | wake => exact Run.wake_processor _
      | look => rfl
      | clock => rfl

theorem Swift.of_prompt {first : Vigil} (prompt : first.run.processor.Prompt none) :
    Swift first := by
  intro vigil reached batch batches flights stage
  rw [reached.processor_eq, prompt]
  rfl

/-- A goal is inevitable if there is always a step and every step descends towards it. -/
theorem Inevitable.of_descent {goal : Vigil → Prop} {Rank : Type} {Lower : Rank → Rank → Prop}
    (wellFounded : WellFounded Lower) (Kept : Rank → Vigil → Prop)
    (goesOn : ∀ {rank vigil}, Kept rank vigil → ∃ next, Step vigil next)
    (descends : ∀ {rank vigil next}, Kept rank vigil → Step vigil next →
      goal next ∨ ∃ lesser, Lower lesser rank ∧ Kept lesser next)
    {rank : Rank} {vigil : Vigil} (kept : Kept rank vigil) : Inevitable goal vigil := by
  induction rank using wellFounded.induction generalizing vigil with
  | _ rank inductionHypothesis =>
      refine .later (goesOn kept) fun next step => ?_
      rcases descends kept step with holds | ⟨lesser, lower, keptThere⟩
      · exact .now holds
      · exact inductionHypothesis lesser lower keptThere

end Vigil

namespace Vigil

/-! ### A queue that is idle in time -/

variable {first : Vigil} {start : Station} {limit deadline : Nat} {watch : Watch}
  {wait : IdleWait}

/-- The queue was found idle by the deadline. -/
def Succeeded (deadline : Nat) (vigil : Vigil) : Prop :=
  vigil.wait = .inl true ∧ vigil.station.isIdle = true ∧ vigil.now ≤ deadline

/-- The watched run with a wait in progress. -/
def of (watch : Watch) (wait : IdleWait) : Vigil where
  run := watch.run
  station := watch.station
  wait := .inr wait

theorem forall_awaited {property : Wake → Prop} :
    (∀ wake ∈ (of watch wait).awaited, property wake) ↔
      (∀ wake ∈ watch.run.awaited?, property wake) ∧ property (.at wait.due) := by
  show (∀ wake ∈ watch.run.awaited?.toList ++ [.at wait.due], property wake) ↔ _
  rw [List.forall_mem_append, List.forall_mem_singleton]
  simp only [Option.mem_toList, Option.mem_def]

/-- The vigil of a run in time with a wait in progress. -/
structure Tended (first : Vigil) (start : Station) (limit deadline : Nat) (watch : Watch)
    (wait : IdleWait) : Prop where
  reached : Reached first (of watch wait)
  paced : Paced start limit watch
  attends : wait.Attends deadline watch.station.scene.now

/-- The time until the deadline, what the run has left to do, and whether the wait has to look
at the queue. -/
def unrest (start : Station) (deadline : Nat) (watch : Watch) (wait : IdleWait) :
    Nat × (Nat × Nat) × Nat :=
  (deadline - watch.station.scene.now, Paced.workLeft start watch,
    if wait.due ≤ watch.station.scene.now then 1 else 0)

abbrev Calmer : Nat × (Nat × Nat) × Nat → Nat × (Nat × Nat) × Nat → Prop :=
  Prod.Lex (· < ·) (Prod.Lex (Prod.Lex (· < ·) (· < ·)) (· < ·))

theorem calmer_wellFounded : WellFounded Calmer :=
  (Prod.lex Nat.lt_wfRel (Prod.lex (Prod.lex Nat.lt_wfRel Nat.lt_wfRel) Nat.lt_wfRel)).wf

/-- A vigil that is tended, with its unrest. -/
def TendedWith (first : Vigil) (start : Station) (limit deadline : Nat)
    (rank : Nat × (Nat × Nat) × Nat) (vigil : Vigil) : Prop :=
  ∃ watch wait, vigil = of watch wait ∧ rank = unrest start deadline watch wait ∧
    Tended first start limit deadline watch wait

namespace Tended

section

variable (tended : Tended first start limit deadline watch wait)

include tended

theorem exists_step : ∃ next, Step (of watch wait) next := by
  by_cases due : wait.due ≤ watch.station.scene.now
  · exact ⟨_, .look rfl due⟩
  have soon : watch.station.scene.now + 1 ≤ wait.due := Nat.succ_le_of_lt (Nat.lt_of_not_le due)
  cases stepped : watch.run.step? watch.station with
  | some result => exact ⟨_, .work stepped⟩
  | none =>
      rcases tended.paced.stuck_cases stepped with stage | ⟨waking, stage, early⟩ | stage
      · have awaits : watch.run.awaited? = some .yielded := by
          simp [Run.awaited?, Run.awaited, stage]
        exact ⟨_, .wake stepped (.inl awaits)⟩
      · have awaits : watch.run.awaited? = some (.at waking) := by
          simp [Run.awaited?, Run.awaited, stage]
        refine ⟨_, .clock (watch.station.scene.now + 1) stepped (Nat.lt_succ_self _)
          (forall_awaited.mpr ⟨?_, wait.due, rfl, soon⟩)⟩
        rw [awaits]
        rintro wake ⟨⟩
        exact ⟨waking, rfl, early⟩
      · have awaits : watch.run.awaited? = none := by simp [Run.awaited?, stage]
        refine ⟨_, .clock (watch.station.scene.now + 1) stepped (Nat.lt_succ_self _)
          (forall_awaited.mpr ⟨?_, wait.due, rfl, soon⟩)⟩
        rw [awaits]
        rintro wake ⟨⟩

theorem work (ready : start.Ready) (swift : Swift first) {next : Run} {after : Station}
    (stepped : watch.run.step? watch.station = some (next, after)) :
    ∃ calm, Calmer calm (unrest start deadline watch wait) ∧
      TendedWith first start limit deadline calm
        { of watch wait with run := next, station := after } := by
  have delivers := swift _ tended.reached
  have clock := (Run.step?_beat stepped).2.1
  have paced := tended.paced.step ready delivers stepped
  have attends := tended.attends
  rw [← clock] at attends
  refine ⟨_, ?_, watch.onward next after, wait, rfl, rfl, .step tended.reached (.work stepped),
    paced, attends⟩
  unfold unrest
  rw [show (watch.onward next after).station.scene.now = _ from clock]
  exact .right _ (.left _ _ (tended.paced.workLeft_step ready delivers stepped))

/-- A run that looks again has let others go first. -/
theorem wake (stuck : watch.run.step? watch.station = none)
    (due : watch.run.awaited? = some .yielded ∨
      ∃ due, watch.run.awaited? = some (.at due) ∧ due ≤ watch.station.scene.now) :
    ∃ calm, Calmer calm (unrest start deadline watch wait) ∧
      TendedWith first start limit deadline calm
        { of watch wait with run := watch.run.wake } := by
  have yielded : watch.run.stage = .yielded := by
    rcases tended.paced.stuck_cases stuck with stage | ⟨waking, stage, early⟩ | stage
    · exact stage
    · simp only [Run.awaited?, Run.awaited, stage] at due
      rcases due with impossible | ⟨time, same, passed⟩
      · cases impossible
      · cases same
        exact absurd passed (Nat.not_le.mpr early)
    · simp [Run.awaited?, stage] at due
  have awake : watch.run.wake.stage = .gather := by simp [Run.wake, yielded, Run.goTo]
  have nearer (pending : List (List Event)) :
      RunStage.gather.distance start.queue.settings.concurrency pending <
        RunStage.yielded.distance start.queue.settings.concurrency pending := by
    simp only [RunStage.distance]
    omega
  refine ⟨_, ?_, { watch with run := watch.run.wake }, wait, rfl, rfl,
    .step tended.reached (.wake stuck due), tended.paced.wake yielded, tended.attends⟩
  refine .right _ (.left _ _ ?_)
  unfold Paced.workLeft
  rw [awake, yielded]
  exact .right _ (nearer _)

/-- A look finds the queue idle, or leaves the wait to look again later. -/
theorem look (ready : start.Ready) (inTime : limit < deadline)
    (due : wait.due ≤ watch.station.scene.now) :
    Succeeded deadline
        { of watch wait with
          wait := wait.poll watch.station.scene.now watch.station.isIdle } ∨
      ∃ calm, Calmer calm (unrest start deadline watch wait) ∧
        TendedWith first start limit deadline calm
          { of watch wait with
            wait := wait.poll watch.station.scene.now watch.station.isIdle } := by
  have attends := tended.attends
  have reached := Reached.step tended.reached (.look rfl due)
  simp only [of, now] at reached ⊢
  cases idle : watch.station.isIdle with
  | true =>
      refine .inl ⟨IdleWait.poll_of_idle due, idle, ?_⟩
      exact Nat.le_trans attends.now_le attends.due_le
  | false =>
      have early := Nat.lt_of_le_of_lt (tended.paced.now_le ready idle) inTime
      obtain ⟨later, polled, attendsLater, dueLater⟩ := attends.poll_of_busy due early
      rw [idle, polled] at reached
      rw [polled]
      refine .inr ⟨_, ?_, watch, later, rfl, rfl, reached, tended.paced, attendsLater⟩
      unfold unrest
      rw [if_pos due, if_neg (Nat.not_le.mpr dueLater)]
      exact .right _ (.right _ Nat.one_pos)

theorem clock {time : Nat} (stuck : watch.run.step? watch.station = none)
    (later : watch.station.scene.now < time)
    (asleep : ∀ wake ∈ (of watch wait).awaited, ∃ due, wake = .at due ∧ time ≤ due) :
    ∃ calm, Calmer calm (unrest start deadline watch wait) ∧
      TendedWith first start limit deadline calm
        { of watch wait with station :=
          { watch.station with scene := { watch.station.scene with now := time } } } := by
  obtain ⟨runAsleep, due, same, early⟩ := forall_awaited.mp asleep
  cases same
  have attends := tended.attends
  have waits : watch.run.stage = .finished ∨
      ∃ due, watch.run.stage = .delayed due ∧ time ≤ due := by
    rcases tended.paced.stuck_cases stuck with stage | ⟨waking, stage, -⟩ | stage
    · obtain ⟨due, impossible, -⟩ :=
        runAsleep .yielded (by simp [Run.awaited?, Run.awaited, stage])
      cases impossible
    · obtain ⟨due, same, before⟩ :=
        runAsleep (.at waking) (by simp [Run.awaited?, Run.awaited, stage])
      cases same
      exact .inr ⟨waking, stage, before⟩
    · exact .inl stage
  have paced := tended.paced.clock time waits
  refine ⟨_, .left _ _ ?_, _, wait, ?_, rfl, ?_, paced, { attends with now_le := early }⟩
  · have inTime := attends.due_le
    show deadline - time < deadline - watch.station.scene.now
    omega
  · rfl
  · exact .step tended.reached (.clock time stuck later asleep)

end

/-- A wait with a deadline after the limit of the run finds the queue idle. -/
theorem succeeds (ready : start.Ready) (swift : Swift first) (inTime : limit < deadline)
    (tended : Tended first start limit deadline watch wait) :
    Inevitable (Succeeded deadline) (of watch wait) := by
  -- The clock only moves towards the deadline; while it stands, the run gets on until it has to
  -- wait, and the wait looks once.
  refine Inevitable.of_descent calmer_wellFounded (TendedWith first start limit deadline)
    ?_ ?_ ⟨watch, wait, rfl, rfl, tended⟩
  · rintro rank vigil ⟨watch, wait, rfl, -, tended⟩
    exact tended.exists_step
  · rintro rank vigil next ⟨watch, wait, rfl, rfl, tended⟩ step
    cases step with
    | work stepped => exact .inr (tended.work ready swift stepped)
    | wake stuck due => exact .inr (tended.wake stuck due)
    | look same due =>
        cases same
        exact tended.look ready inTime due
    | clock time stuck later asleep => exact .inr (tended.clock stuck later asleep)

end Tended

/-- A queue that is idle when the run begins is found idle by a look that is due. -/
theorem succeeds_of_idle {run : Run} {station : Station} (stage : run.stage = .check)
    (idle : station.isIdle = true) (due : wait.due = station.scene.now)
    (inTime : station.scene.now ≤ deadline) :
    Inevitable (Succeeded deadline) { run, station, wait := .inr wait } := by
  refine Inevitable.of_descent Nat.lt_wfRel.wf
    (fun rank vigil => vigil.wait = .inr wait ∧ vigil.station = station ∧
      rank = vigil.run.stage.distance 0 [] ∧
        (vigil.run.stage = .check ∨ vigil.run.stage = .finished))
    ?_ ?_ ⟨rfl, rfl, rfl, .inl stage⟩
  · rintro rank vigil ⟨waits, rfl, -, -⟩
    exact ⟨_, .look waits (Nat.le_of_eq due)⟩
  · rintro rank vigil next ⟨waits, rfl, rfl, early⟩ step
    cases step with
    | @work next after stepped =>
        rcases early with stage | stage
        · cases (Run.Branch.retire stage idle).step?.symm.trans stepped
          refine .inr ⟨_, ?_, waits, rfl, rfl, .inr rfl⟩
          rw [stage]
          exact Nat.one_pos
        · cases (Run.step?_eq_none_iff.mpr (stage ▸ .finished)).symm.trans stepped
    | wake stuck waking =>
        rcases early with stage | stage
        · cases (Run.Branch.retire stage idle).step?.symm.trans stuck
        · simp [Run.awaited?, stage] at waking
    | @look waiting same passed =>
        refine .inl ⟨?_, idle, inTime⟩
        rw [idle]
        exact IdleWait.poll_of_idle passed
    | clock time stuck later asleep =>
        -- The wait looks at the queue before the clock moves.
        obtain ⟨time, same, before⟩ := asleep (.at wait.due) (by simp [awaited, waits])
        cases same
        rw [due] at before
        exact absurd before (Nat.not_le.mpr later)

/-- A wait that begins with a run finds the queue idle if its deadline is later than the latest
delivery. -/
theorem succeeds_after_latest {run : Run} {station : Station}
    (accepted : station.queue.settings.validate = .ok ()) (faultless : station.store.Faultless)
    (indexed : station.store.backlog.Indexed) (nothing : station.queue.inFlight = [])
    (free : station.queue.running = false)
    (past : ∀ ended, station.queue.lastRound = some ended → ended ≤ station.scene.now)
    (roomy : station.Roomy) (shown : Clock.Shows (.ofMilliseconds station.latest))
    (begun : Run.start station.queue = .ok run) (due : wait.due = station.scene.now)
    (pauses : 0 < wait.interval.timerMilliseconds) (inTime : station.latest < wait.lastDue)
    (swift : Swift { run, station, wait := .inr wait }) :
    Inevitable (Succeeded wait.lastDue) { run, station, wait := .inr wait } := by
  have soon : station.scene.now ≤ station.latest := by
    unfold Station.latest
    omega
  by_cases stored : station.store.backlog.events = []
  · have idle : station.isIdle = true := by
      simp [Station.isIdle, Queue.isIdle, Store.isEmpty, Backlog.isEmpty, Backlog.length, stored,
        nothing]
    exact succeeds_of_idle (Run.stage_of_start begun) idle due (by omega)
  · have ready : station.Ready := ⟨accepted, faultless, indexed, stored, nothing, free⟩
    exact Tended.succeeds ready swift inTime
      ⟨.first, Paced.begin ready roomy shown begun past, rfl, pauses, Nat.le_of_eq due.symm,
        by omega⟩

/-! ### A queue that is never idle -/

/-- The run of a vigil, watched from its beginning. -/
theorem Reached.watched {run : Run} {station : Station} {wait : Bool ⊕ IdleWait} {vigil : Vigil}
    (ready : station.Ready) (begun : Run.start station.queue = .ok run)
    (crowded : Run.mostBatches < station.queue.settings.concurrency)
    (reached : Reached { run, station, wait } vigil) :
    ∃ watch, vigil.run = watch.run ∧ vigil.station = watch.station ∧ Solo station watch ∧
      Rationed station watch := by
  induction reached with
  | first => exact ⟨_, rfl, rfl, .begin ready begun, .begin begun⟩
  | @step vigil next _ step inductionHypothesis =>
      obtain ⟨watch, sameRun, sameStation, solo, rationed⟩ := inductionHypothesis
      cases step with
      | @work nextRun after stepped =>
          rw [sameRun, sameStation] at stepped
          exact ⟨watch.onward nextRun after, rfl, rfl, solo.step ready stepped,
            rationed.step crowded solo stepped⟩
      | wake stuck due =>
          exact ⟨{ watch with run := watch.run.wake }, congrArg Run.wake sameRun, sameStation,
            solo.wake, rationed.wake⟩
      | look waits due => exact ⟨watch, sameRun, sameStation, solo, rationed⟩
      | clock time stuck later asleep =>
          refine ⟨watch.withScene { vigil.station.scene with now := time }, sameRun, ?_,
            solo.withScene _, rationed.withScene _⟩
          rw [Watch.withScene, ← sameStation]

/-- If a round needs too much room, the queue never gets idle. -/
theorem busy_of_crowded {run : Run} {station : Station} {wait : Bool ⊕ IdleWait} {vigil : Vigil}
    (ready : station.Ready) (begun : Run.start station.queue = .ok run)
    (crowded : ¬ station.Roomy) (reached : Reached { run, station, wait } vigil) :
    vigil.station.isIdle = false := by
  rw [Station.roomy_iff (QueueSettings.positive_of_validate ready.accepted).1, not_or, Nat.not_le,
    Nat.not_le] at crowded
  obtain ⟨watch, -, sameStation, solo, rationed⟩ := reached.watched ready begun crowded.1
  have left := rationed.remaining_ne_nil solo crowded.2
  have stored : watch.station.store.backlog.events ≠ [] := by
    rw [solo.stored]
    exact mt (ready.cut_remaining watch.history).flatten_eq_nil_iff.mp left
  rw [sameStation]
  simp [Station.isIdle, Queue.isIdle, Store.isEmpty, Backlog.isEmpty, Backlog.length, stored]

theorem Reached.after_step {vigil next last : Vigil} (step : Step vigil next)
    (reached : Reached next last) : Reached vigil last := by
  induction reached with
  | first => exact .step .first step
  | step _ later inductionHypothesis => exact .step inductionHypothesis later

/-- What is inevitable is reached. -/
theorem Inevitable.exists_reached {goal : Vigil → Prop} {vigil : Vigil}
    (inevitable : Inevitable goal vigil) : ∃ last, Reached vigil last ∧ goal last := by
  induction inevitable with
  | now holds => exact ⟨_, .first, holds⟩
  | later goesOn _ inductionHypothesis =>
      obtain ⟨next, step⟩ := goesOn
      obtain ⟨last, reached, holds⟩ := inductionHypothesis next step
      exact ⟨last, reached.after_step step, holds⟩

theorem not_succeeds_of_crowded {run : Run} {station : Station} {wait : Bool ⊕ IdleWait}
    (ready : station.Ready) (begun : Run.start station.queue = .ok run)
    (crowded : ¬ station.Roomy) (deadline : Nat) :
    ¬ Inevitable (Succeeded deadline) { run, station, wait } := by
  intro inevitable
  obtain ⟨last, reached, -, idle, -⟩ := inevitable.exists_reached
  rw [busy_of_crowded ready begun crowded reached] at idle
  cases idle

end Vigil

end Telemetry
