import Telemetry.Proofs.Queue.Draining
import Telemetry.Proofs.Queue.Milestones

/-!
Contract: when a run that is alone with a queue breaks off.

Owns:
- `Run.Breaks`, the two ways in which a round breaks off: the end of the batch
  delay is past what the clock can show, or no list has room for the batches;
- that a run which has ended or has broken off stays so;
- `Rationed`: if the settings ask for more batches than a list has room for, a run
  delivers no more than the one part of a round before the first delivery;
- the theorem that a run drains its queue exactly if the clock suffices and no
  round needs too much room (`Fair.exists_drained_iff`), and what is left behind
  otherwise.
-/

namespace Telemetry

open Occurrence

namespace Run

/-- The next step of the run is that its round breaks off. -/
def Breaks (run : Run) (station : Station) : Prop :=
  (run.stage = .pause ∧ ∃ ended, station.queue.lastRound = some ended ∧
      ¬ Clock.Shows (.ofMilliseconds (ended + station.queue.settings.batchDelay))) ∨
    run.stage = .gather ∧ mostBatches < station.queue.effectiveConcurrency

variable {run next : Run} {station after : Station} {label : Option Occurrence}

theorem step?_of_breaks (breaks : run.Breaks station) :
    run.step? station = some (run.goTo .broken, station) := by
  rcases breaks with ⟨stage, ended, previous, beyond⟩ | ⟨stage, many⟩
  · exact (Branch.outrun stage previous beyond).step?
  · exact (Branch.overload stage many).step?

theorem Transit.breaks {scene : Scene} (transit : Transit run station label next scene)
    (broken : next.stage = .broken) : run.Breaks station := by
  cases transit with
  | @quiet stage quiet =>
      obtain rfl : stage = .broken := broken
      unfold Breaks
      generalize run.stage = stage at quiet ⊢
      cases quiet with
      | outrun previous beyond => exact .inl ⟨rfl, _, previous, beyond⟩
      | overload many => exact .inr ⟨rfl, many⟩
  | _ => cases broken

/-- A step keeps to the room of its stage, where a delivery gives some up, or it makes room for
a round. -/
theorem Move.ration (move : Move run station label next after) :
    (deliveries label.toList).length + next.stage.capacity ≤ run.stage.capacity ∨
      label = none ∧ next.stage.capacity = station.queue.effectiveConcurrency ∧
        station.queue.effectiveConcurrency ≤ mostBatches := by
  have silent {stage : RunStage} (room : stage.capacity ≤ run.stage.capacity) :
      0 + stage.capacity ≤ run.stage.capacity := by
    rwa [Nat.zero_add]
  cases move with
  | gather stage few => exact .inr ⟨rfl, Nat.zero_add _, few⟩
  | proceed _ _ _ _ _ _ room => exact .inl (silent room)
  | read _ _ _ _ _ _ _ _ room => exact .inl (silent room)
  | misread _ _ _ _ _ _ _ _ room => exact .inl (silent room)
  | settle _ _ _ failure _ _ _ _ room =>
      left
      cases failure with
      | none =>
          show 1 + _ ≤ _
          rw [Nat.add_comm]
          exact room
      | some error => exact silent (Nat.le_of_lt room)
  | _ => exact .inl (Nat.zero_le _)

/-- Before the first delivery nothing is delivered. -/
theorem Move.undelivered (move : Move run station label next after)
    (notYet : after.queue.firstBatchSucceeded = false) :
    station.queue.firstBatchSucceeded = false ∧ deliveries label.toList = [] := by
  cases move with
  | read _ _ _ _ _ _ read =>
      rw [Station.readBatch_queue_of_ok read] at notYet
      exact ⟨notYet, rfl⟩
  | misread _ _ _ _ _ _ failed =>
      rw [Station.readBatch_queue_of_error failed] at notYet
      exact ⟨notYet, rfl⟩
  | settle _ _ _ failure =>
      rw [Station.settle_queue] at notYet
      obtain ⟨before, failed⟩ := Bool.or_eq_false_iff.mp notYet
      cases failure with
      | none => cases failed
      | some error => exact ⟨before, rfl⟩
  | _ => exact ⟨notYet, rfl⟩

end Run

namespace Occurrence

theorem mem_deliveries {history : List Occurrence} {batch : List Event}
    (delivered : .settled batch none ∈ history) : batch ∈ deliveries history := by
  simp only [deliveries, settlements, List.mem_filterMap]
  exact ⟨(batch, none), ⟨_, delivered, rfl⟩, rfl⟩

end Occurrence

/-! ### Room for the batches -/

namespace Station

/-- No round needs more room than there is: the settings ask for none that does, or all that is
stored is delivered by a round before the first delivery, which has one batch. -/
def Roomy (station : Station) : Prop :=
  station.queue.settings.concurrency ≤ Run.mostBatches ∨
    station.store.backlog.events.length ≤
      if station.queue.firstBatchSucceeded then 0 else station.queue.settings.batchSize

/-- The parts that rounds of one batch deliver. -/
def ration (station : Station) : Nat :=
  if station.queue.firstBatchSucceeded then 0 else 1

theorem roomy_iff {station : Station} (positive : 0 < station.queue.settings.batchSize) :
    station.Roomy ↔ station.queue.settings.concurrency ≤ Run.mostBatches ∨
      station.parts.length ≤ station.ration := by
  have parts_le (count : Nat) : station.parts.length ≤ count ↔
      station.store.backlog.events.length ≤ count * station.queue.settings.batchSize := by
    rw [parts, length_chunks, ← Nat.lt_succ_iff, Nat.div_lt_iff_lt_mul positive, Nat.succ_mul]
    omega
  rw [parts_le, Roomy, ration]
  cases station.queue.firstBatchSucceeded <;> simp

end Station

/-- What a run has delivered if the settings ask for more batches than a list has room for. -/
structure Rationed (start : Station) (watch : Watch) : Prop where
  few : (deliveries watch.history).length + watch.run.stage.capacity ≤ start.ration
  early : watch.station.queue.firstBatchSucceeded = false →
    start.ration = 1 ∧ deliveries watch.history = []

namespace Rationed

variable {start : Station} {watch : Watch}

theorem begin {run : Run} (begun : Run.start start.queue = .ok run) :
    Rationed start { run, station := start } := by
  unfold Run.start at begun
  split at begun <;> cases begun
  refine ⟨Nat.zero_le _, fun notYet => ⟨?_, rfl⟩⟩
  rw [Station.ration, if_neg (by simpa using notYet)]

theorem step (crowded : Run.mostBatches < start.queue.settings.concurrency)
    (solo : Solo start watch) (rationed : Rationed start watch) {next : Run} {after : Station}
    (stepped : watch.run.step? watch.station = some (next, after)) :
    Rationed start (watch.onward next after) := by
  have move := Run.step?_move stepped
  have few := rationed.few
  unfold Watch.onward
  generalize watch.run.occurrence? watch.station = label at move ⊢
  refine ⟨?_, fun notYet => ?_⟩
  · rw [deliveries_append, List.length_append, Nat.add_assoc]
    rcases move.ration with within | ⟨rfl, fresh, fits⟩
    · exact Nat.le_trans (Nat.add_le_add_left within _) few
    · -- A round that there is room for is one before the first delivery.
      have notYet : watch.station.queue.firstBatchSucceeded = false := by
        cases succeeded : watch.station.queue.firstBatchSucceeded with
        | false => rfl
        | true =>
            rw [Queue.effectiveConcurrency, if_pos succeeded,
              solo.recorded.reached.settings_eq] at fits
            exact absurd fits (Nat.not_le.mpr crowded)
      obtain ⟨one, nothing⟩ := rationed.early notYet
      rw [Queue.effectiveConcurrency, if_neg (by simp [notYet])] at fresh
      rw [one, nothing, fresh]
      exact Nat.le_refl 1
  · obtain ⟨before, silent⟩ := move.undelivered notYet
    obtain ⟨one, nothing⟩ := rationed.early before
    exact ⟨one, by rw [deliveries_append, nothing, silent, List.append_nil]⟩

theorem withScene (rationed : Rationed start watch) (scene : Scene) :
    Rationed start (watch.withScene scene) :=
  ⟨rationed.few, rationed.early⟩

theorem wake (rationed : Rationed start watch) :
    Rationed start { watch with run := watch.run.wake } := by
  refine ⟨?_, rationed.early⟩
  rw [watch.run.wake_stage.2.2]
  exact rationed.few

theorem after (crowded : Run.mostBatches < start.queue.settings.concurrency)
    (ready : start.Ready) {first : Watch} (solo : Solo start first)
    (rationed : Rationed start first) (weather : Nat → Scene → Scene) (count : Nat) :
    Rationed start (first.after weather count) := by
  induction count with
  | zero => exact rationed
  | succ count inductionHypothesis =>
      have there := solo.after ready weather count
      rw [Watch.after, Watch.next]
      split
      next run after stepped =>
        exact (inductionHypothesis.withScene _).step crowded (there.withScene _) stepped
      · exact (inductionHypothesis.withScene _).wake

/-- If the ration is less than all there is, something is always left. -/
theorem remaining_ne_nil (rationed : Rationed start watch) (solo : Solo start watch)
    (more : start.ration < start.parts.length) : remaining start.parts watch.history ≠ [] := by
  intro nothing
  have balance := solo.balance.length_eq
  have few := rationed.few
  rw [nothing, List.append_nil] at balance
  omega

end Rationed

/-- A round that needs too much room comes after a delivery, with something left. -/
theorem Solo.not_roomy_of_overload {start : Station} {watch : Watch} (ready : start.Ready)
    (solo : Solo start watch) (stage : watch.run.stage = .gather)
    (many : Run.mostBatches < watch.station.queue.effectiveConcurrency) : ¬ start.Roomy := by
  have left : remaining start.parts watch.history ≠ [] := by
    have fits := solo.fits
    rw [stage] at fits
    exact fits
  have someLeft := List.length_pos_iff.mpr left
  have balance := solo.balance.length_eq
  rw [List.length_append] at balance
  have crowded := Nat.lt_of_lt_of_le many (solo.effectiveConcurrency ready).2
  have succeeded : watch.station.queue.firstBatchSucceeded = true := by
    cases notYet : watch.station.queue.firstBatchSucceeded with
    | true => rfl
    | false =>
        rw [Queue.effectiveConcurrency, if_neg (by simp [notYet])] at many
        exact absurd many (by decide)
  rw [Station.roomy_iff (QueueSettings.positive_of_validate ready.accepted).1, not_or,
    Nat.not_le, Nat.not_le, Station.ration]
  refine ⟨crowded, ?_⟩
  cases before : start.queue.firstBatchSucceeded with
  | true =>
      simp only [if_true]
      omega
  | false =>
      obtain ⟨batch, delivered⟩ := solo.recorded.reached.delivered before succeeded
      have some := List.length_pos_of_mem (mem_deliveries delivered)
      simp only [Bool.false_eq_true, if_false]
      omega

/-! ### The end of a run -/

namespace Watch

variable {start : Station} {watch first : Watch} {weather : Nat → Scene → Scene}

theorem next_of_ended {stage : RunStage} (ended : stage = .finished ∨ stage = .broken)
    (there : watch.run.stage = stage) (weather : Scene → Scene) :
    (watch.next weather).run.stage = stage := by
  have halts : Run.Halts (watch.withScene (weather watch.station.scene)).station
      watch.run.stage := by
    rw [there]
    rcases ended with rfl | rfl
    · exact .finished
    · exact .broken
  rw [next_of_halts halts]
  rcases ended with rfl | rfl <;> simp only [Run.wake, there]

/-- A run that has ended or has broken off stays so. -/
theorem after_of_ended {stage : RunStage} (ended : stage = .finished ∨ stage = .broken)
    {count later : Nat} (there : (first.after weather count).run.stage = stage)
    (before : count ≤ later) : (first.after weather later).run.stage = stage := by
  induction before with
  | refl => exact there
  | step _ inductionHypothesis => exact next_of_ended ended inductionHypothesis _

theorem next_broken_iff (ready : start.Ready) (solo : Solo start watch)
    (weather : Scene → Scene) :
    (watch.next weather).run.stage = .broken ↔
      watch.run.stage = .broken ∨ watch.run.Breaks watch.station := by
  constructor
  · intro broken
    rcases next_cases ready solo weather with ⟨next, after, label, transit, moved⟩ | ⟨-, moved⟩
    · rw [moved] at broken
      exact .inr (transit.breaks broken)
    · rw [moved] at broken
      left
      dsimp only at broken
      unfold Run.wake at broken
      split at broken
      · cases broken
      · cases broken
      · exact broken
  · rintro (broken | breaks)
    · exact next_of_ended (.inr rfl) broken weather
    · have changed : watch.run.Breaks (watch.withScene (weather watch.station.scene)).station :=
        breaks
      have stepped := Run.step?_of_breaks changed
      unfold next
      dsimp only
      split
      next run after same =>
        rw [show (watch.withScene (weather watch.station.scene)).run = watch.run from rfl,
          stepped] at same
        cases same
        rfl
      next stuck => exact absurd (stuck.symm.trans stepped) nofun

/-- A run breaks off exactly if one of its rounds does. -/
theorem exists_broken_iff (ready : start.Ready) (solo : Solo start first)
    (whole : first.run.stage ≠ .broken) :
    (∃ count, (first.after weather count).run.stage = .broken) ↔
      ∃ count, (first.after weather count).run.Breaks (first.after weather count).station := by
  constructor
  · rintro ⟨count, broken⟩
    induction count with
    | zero => exact absurd broken whole
    | succ count inductionHypothesis =>
        rcases (next_broken_iff ready (solo.after ready weather count) _).mp broken with
          before | breaks
        · exact inductionHypothesis before
        · exact ⟨count, breaks⟩
  · rintro ⟨count, breaks⟩
    exact ⟨count + 1, (next_broken_iff ready (solo.after ready weather count) _).mpr (.inr breaks)⟩

end Watch

/-- Whenever a round is about to begin, the clock can show the end of the delay before it. -/
def ClockSuffices (first : Watch) (weather : Nat → Scene → Scene) : Prop :=
  ∀ count ended, (first.after weather count).run.stage = .pause →
    (first.after weather count).station.queue.lastRound = some ended →
    Clock.Shows (.ofMilliseconds (ended + first.station.queue.settings.batchDelay))

/-- The last round of a watched run has ended by now. -/
theorem Watch.past_after {first : Watch} {weather : Nat → Scene → Scene}
    (forward : ∀ count, (first.after weather count).station.scene.now ≤
      (weather count (first.after weather count).station.scene).now)
    (past : ∀ ended, first.station.queue.lastRound = some ended →
      ended ≤ first.station.scene.now) (count : Nat) :
    ∀ ended, (first.after weather count).station.queue.lastRound = some ended →
      ended ≤ (first.after weather count).station.scene.now := by
  induction count with
  | zero => exact past
  | succ count inductionHypothesis =>
      have pastThere : ∀ ended, (first.after weather count).station.queue.lastRound = some ended →
          ended ≤ (weather count (first.after weather count).station.scene).now :=
        fun ended previous => Nat.le_trans (inductionHypothesis ended previous) (forward count)
      rw [Watch.after, Watch.next]
      split
      next run after stepped =>
        obtain ⟨beat, clock, -⟩ := Run.step?_beat stepped
        intro ended previous
        show ended ≤ after.scene.now
        rw [clock]
        exact beat.past pastThere ended previous
      · exact pastThere

/-- The clock suffices if it can show the end of a delay after the run. -/
theorem ClockSuffices.of_finished {start : Station} {first : Watch}
    {weather : Nat → Scene → Scene} (ready : start.Ready) (solo : Solo start first)
    (forward : ∀ count, (first.after weather count).station.scene.now ≤
      (weather count (first.after weather count).station.scene).now)
    (past : ∀ ended, first.station.queue.lastRound = some ended →
      ended ≤ first.station.scene.now)
    {count : Nat} (finished : (first.after weather count).run.stage = .finished)
    (shown : Clock.Shows (.ofMilliseconds ((first.after weather count).station.scene.now +
      first.station.queue.settings.batchDelay))) : ClockSuffices first weather := by
  intro earlier ended pause previous
  have before : earlier ≤ count := by
    refine Nat.le_of_not_le fun behind => ?_
    have still := Watch.after_of_ended (.inl rfl) finished behind
    rw [pause] at still
    cases still
  have endedBefore := Watch.past_after forward past earlier ended previous
  have later := Fair.clock_mono ready solo forward before
  exact shown.trans_le (Nat.add_le_add_right (Nat.le_trans endedBefore later) _)

/-- The run has broken off: the running flag stays taken, and something stays in the store. -/
structure Stranded (watch : Watch) : Prop where
  broken : watch.run.stage = .broken
  flag : watch.station.queue.running = true
  left : watch.station.store.backlog.events ≠ []

theorem Solo.stranded {start : Station} {watch : Watch} (ready : start.Ready)
    (solo : Solo start watch) (broken : watch.run.stage = .broken) : Stranded watch := by
  have fits := solo.fits
  have flag := solo.flag
  rw [broken] at fits flag
  refine ⟨broken, flag, ?_⟩
  rw [solo.stored]
  intro nothing
  exact fits ((ready.cut_remaining watch.history).flatten_eq_nil_iff.mp nothing)

namespace Fair

variable {start : Station} {run : Run} {weather : Nat → Scene → Scene}

/-- In fair surroundings a run drains its queue exactly if it does not break off. -/
theorem exists_drained_iff_unbroken (ready : start.Ready) (begun : Run.start start.queue = .ok run)
    (fair : Fair { run, station := start } weather) :
    (∃ count, Drained start (Watch.after { run, station := start } weather count)) ↔
      ¬ ∃ count, (Watch.after { run, station := start } weather count).run.stage = .broken := by
  constructor
  · rintro ⟨count, drained⟩ ⟨other, broken⟩
    have finished :=
      Watch.after_of_ended (.inl rfl) drained.returned.1 (Nat.le_max_left count other)
    have brokenThere := Watch.after_of_ended (.inr rfl) broken (Nat.le_max_right count other)
    rw [finished] at brokenThere
    cases brokenThere
  · intro unbroken
    obtain ⟨count, drained | broken⟩ := fair.drained_or_broken ready begun
    · exact ⟨count, drained⟩
    · exact absurd ⟨count, broken⟩ unbroken

/-- In fair surroundings a run drains its queue exactly if the clock suffices and no round needs
too much room. -/
theorem exists_drained_iff (ready : start.Ready) (begun : Run.start start.queue = .ok run)
    (fair : Fair { run, station := start } weather) :
    (∃ count, Drained start (Watch.after { run, station := start } weather count)) ↔
      ClockSuffices { run, station := start } weather ∧ start.Roomy := by
  have solo := Solo.begin ready begun
  have settings (count : Nat) := (solo.after ready weather count).recorded.reached.settings_eq
  have whole : run.stage ≠ .broken := by
    unfold Run.start at begun
    split at begun <;> cases begun
    exact RunStage.noConfusion
  have unbroken := exists_drained_iff_unbroken ready begun fair
  rw [Watch.exists_broken_iff ready solo whole] at unbroken
  constructor
  · intro drains
    refine ⟨fun count ended pause previous => ?_, ?_⟩
    · refine Decidable.byContradiction fun beyond => ?_
      rw [← settings count] at beyond
      exact unbroken.mp drains ⟨count, .inl ⟨pause, ended, previous, beyond⟩⟩
    · rw [Station.roomy_iff (QueueSettings.positive_of_validate ready.accepted).1]
      refine Decidable.byContradiction fun crowded => ?_
      rw [not_or, Nat.not_le, Nat.not_le] at crowded
      obtain ⟨count, drained⟩ := drains
      have rationed := (Rationed.begin begun).after crowded.1 ready solo weather count
      have delivered := drained.delivered.length_eq
      have few := rationed.few
      omega
  · rintro ⟨inTime, roomy⟩
    refine unbroken.mpr ?_
    rintro ⟨count, ⟨pause, ended, previous, beyond⟩ | ⟨gather, many⟩⟩
    · rw [settings count] at beyond
      exact beyond (inTime count ended pause previous)
    · exact (solo.after ready weather count).not_roomy_of_overload ready gather many roomy

/-- A run that does not drain its queue leaves it stranded for good. -/
theorem stranded (ready : start.Ready) (begun : Run.start start.queue = .ok run)
    (fair : Fair { run, station := start } weather)
    (breaks : ¬ (ClockSuffices { run, station := start } weather ∧ start.Roomy)) :
    ∃ count, ∀ later, count ≤ later →
      Stranded (Watch.after { run, station := start } weather later) := by
  have solo := Solo.begin ready begun
  rw [← fair.exists_drained_iff ready begun] at breaks
  obtain ⟨count, drained | broken⟩ := fair.drained_or_broken ready begun
  · exact absurd ⟨count, drained⟩ breaks
  · refine ⟨count, fun later before => ?_⟩
    exact (solo.after ready weather later).stranded ready
      (Watch.after_of_ended (.inr rfl) broken before)

end Fair

end Telemetry
