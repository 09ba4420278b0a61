import Mathlib.Algebra.Order.Floor.Div
import Telemetry.Proofs.Queue.Breakdown

/-!
Contract: how long a run takes whose batches are delivered at once.

Owns:
- the rounds that a number of parts needs, and the delays before them;
- `RunStage.Timely`: how late a stage may be for the parts that are left to be
  delivered by a limit;
- `Paced`, a run alone with its queue that is never later than that and does not
  break off, and that every step keeps it, and the clock while the run waits;
- `Station.latest`, a limit for every run that begins.

A round that begins takes as many parts as the concurrency allows, and the next
one begins a batch delay after it. So the parts that the round leaves are the
measure of the delays that are still to come.

Does not own: who looks at the queue meanwhile; see `Session.Vigil`.
-/

namespace Telemetry

open Occurrence

/-! ### Rounds and their delays -/

/-- A round takes as many parts as the concurrency allows. -/
theorem ceilDiv_of_pos {concurrency parts : Nat} (positive : 0 < concurrency) (some : 0 < parts) :
    parts ⌈/⌉ concurrency = (parts - concurrency) ⌈/⌉ concurrency + 1 := by
  rw [Nat.ceilDiv_eq_add_pred_div, Nat.ceilDiv_eq_add_pred_div, ← Nat.add_div_right _ positive]
  rcases Nat.le_total parts concurrency with few | many
  · have single (rest : Nat) (short : rest < concurrency) :
        (rest + concurrency) / concurrency = 1 := by
      rw [Nat.add_div_right _ positive, Nat.div_eq_of_lt short]
    rw [Nat.sub_eq_zero_of_le few, Nat.zero_add, single _ (by omega),
      show parts + concurrency - 1 = parts - 1 + concurrency by omega, single _ (by omega)]
  · rw [show parts - concurrency + concurrency - 1 + concurrency = parts + concurrency - 1 by omega]

namespace QueueSettings

/-- The delays before the rounds that a number of parts needs. -/
def span (settings : QueueSettings) (parts : Nat) : Nat :=
  parts ⌈/⌉ settings.concurrency * settings.batchDelay

variable {settings : QueueSettings}

theorem span_zero : settings.span 0 = 0 := by
  rw [span, zero_ceilDiv, Nat.zero_mul]

theorem span_mono {fewer parts : Nat} (positive : 0 < settings.concurrency) (le : fewer ≤ parts) :
    settings.span fewer ≤ settings.span parts :=
  Nat.mul_le_mul_right _ ((gc_mul_ceilDiv positive).monotone_l le)

theorem span_of_pos {parts : Nat} (positive : 0 < settings.concurrency) (some : 0 < parts) :
    settings.span parts = settings.span (parts - settings.concurrency) + settings.batchDelay := by
  rw [span, ceilDiv_of_pos positive some, Nat.add_mul, Nat.one_mul]
  rfl

end QueueSettings

/-- How late a stage may be for the parts that are left to be delivered by the limit. -/
def RunStage.Timely (settings : QueueSettings) (effective : Nat) (lastRound : Option Nat)
    (now limit parts : Nat) : RunStage → Prop
  | .check | .claim | .drain | .pause =>
      parts ≠ 0 → now + settings.span (parts - effective) ≤ limit ∧
        ∀ ended, lastRound = some ended →
          ended + settings.batchDelay + settings.span (parts - effective) ≤ limit
  | .delayed due => now ≤ due ∧ due + settings.span (parts - effective) ≤ limit
  | .yielded | .gather => now + settings.span (parts - effective) ≤ limit
  | .reading _ left batches => now + settings.span (parts - (batches.length + left)) ≤ limit
  | .starting batches _ =>
      now + settings.span (parts - batches.length) ≤ limit ∧
        (batches = [] → effective = settings.concurrency)
  | .awaiting _ _ | .broken => False
  | .release | .finished => True

namespace Solo

variable {start after : Station} {watch : Watch} {next : Run} {limit : Nat}

/-- The stage of the watched run is timely for the parts that are left. -/
def OnTime (start : Station) (limit : Nat) (watch : Watch) : Prop :=
  watch.run.stage.Timely start.queue.settings watch.station.queue.effectiveConcurrency
    watch.station.queue.lastRound watch.station.scene.now limit
    (remaining start.parts watch.history).length

/-- The batch that the run hands over next is delivered at once. -/
def DeliversNext (run : Run) (scene : Scene) : Prop :=
  ∀ batch batches flights, run.stage = .starting (batch :: batches) flights →
    (run.processor.start batch scene).1.outcome? = some none

/-- A step that delivers nothing keeps the parts that are left. -/
theorem onTime_keeps {label : Option Occurrence} {handed : List (List Event)}
    (kept : ∀ parts, remaining parts label.toList = parts) (grounded : next.stage.flights = [])
    (timely : next.stage.Timely start.queue.settings after.queue.effectiveConcurrency
      after.queue.lastRound after.scene.now limit (remaining start.parts watch.history).length) :
    next.stage.flights = [] ∧
      OnTime start limit ⟨next, after, watch.history ++ label.toList, handed⟩ := by
  refine ⟨grounded, ?_⟩
  rw [OnTime, remaining_append, kept]
  exact timely

/-- A batch that is delivered leaves a part less, and the round goes on with full concurrency. -/
theorem onTime_delivered (solo : Solo start watch) (onTime : OnTime start limit watch)
    {batch : List Event} {batches : List (List Event)} {handed : List (List Event)}
    (stage : watch.run.stage = .starting (batch :: batches) []) :
    OnTime start limit
      ⟨watch.run.goTo (.starting batches []),
        { watch.station with
            scene := (watch.run.processor.start batch watch.station.scene).2 }.settle batch
          watch.station.scene.now none,
        watch.history ++ [.settled batch none], handed⟩ := by
  have clock := Transport.start_now watch.run.processor batch watch.station.scene
  have member := solo.fits.unsettled_mem batch (by simp [stage, RunStage.unsettled])
  have settings := solo.recorded.reached.settings_eq
  simp only [OnTime, stage, RunStage.Timely, List.length_cons] at onTime
  have fewer : (remaining start.parts (watch.history ++ [.settled batch none])).length =
      (remaining start.parts watch.history).length - 1 := by
    rw [remaining_append]
    exact List.length_erase_of_mem member
  simp only [OnTime, fewer, (Station.settle_scene ..).1, clock]
  refine ⟨?_, fun _ => ?_⟩
  · rw [Nat.sub_sub, Nat.add_comm 1]
    exact onTime.1
  · rw [Station.settle_queue]
    simp [Queue.effectiveConcurrency, settings]

/-- A round that ends leaves the delay to the next one. -/
theorem timely_of_close {parts effective now : Nat} {settings : QueueSettings}
    (positive : 1 ≤ settings.concurrency) {lastRound : Option Nat} {flights : List Flight}
    (timely : (RunStage.starting [] flights).Timely settings effective lastRound now limit parts) :
    RunStage.drain.Timely settings effective (some now) now limit parts := by
  obtain ⟨inTime, full⟩ := timely
  intro someLeft
  rw [List.length_nil, Nat.sub_zero,
    QueueSettings.span_of_pos positive (Nat.pos_of_ne_zero someLeft)] at inTime
  rw [full rfl]
  refine ⟨by omega, ?_⟩
  rintro ended ⟨⟩
  omega

theorem onTime_step (ready : start.Ready) (roomy : start.Roomy)
    (shown : Clock.Shows (.ofMilliseconds limit)) (solo : Solo start watch)
    (delivers : DeliversNext watch.run watch.station.scene)
    (grounded : watch.run.stage.flights = []) (onTime : OnTime start limit watch)
    (stepped : watch.run.step? watch.station = some (next, after)) :
    next.stage.flights = [] ∧ OnTime start limit (watch.onward next after) := by
  have branch := Run.step?_branch stepped
  have settings := solo.recorded.reached.settings_eq
  have fits := solo.fits
  have timely := onTime
  unfold OnTime at timely
  unfold Watch.onward
  generalize watch.run.occurrence? watch.station = label at branch ⊢
  cases branch with
  | retire | turnAway | leave => exact onTime_keeps (fun _ => rfl) rfl trivial
  | approach stage | takeFlag stage | goOn stage =>
      rw [stage] at timely
      exact onTime_keeps (fun _ => rfl) rfl timely
  | delay stage previous _ early =>
      rw [stage] at timely fits
      have due := (timely (mt List.eq_nil_of_length_eq_zero fits)).2 _ previous
      rw [settings] at early ⊢
      exact onTime_keeps (fun _ => rfl) rfl ⟨Nat.le_of_lt early, due⟩
  | yield stage =>
      rw [stage] at timely fits
      exact onTime_keeps (fun _ => rfl) rfl (timely (mt List.eq_nil_of_length_eq_zero fits)).1
  | outrun stage previous beyond =>
      rw [stage] at timely fits
      have due := (timely (mt List.eq_nil_of_length_eq_zero fits)).2 _ previous
      rw [settings] at beyond
      exact absurd (shown.trans_le (Nat.le_trans (Nat.le_add_right _ _) due)) beyond
  | delayOver stage passed =>
      rw [stage] at timely
      have now := Nat.le_antisymm timely.1 passed
      exact onTime_keeps (fun _ => rfl) rfl (now ▸ timely.2)
  | plan stage =>
      rw [stage] at timely
      refine onTime_keeps (fun _ => rfl) rfl ?_
      show _ + start.queue.settings.span (_ - (0 + _)) ≤ limit
      rw [Nat.zero_add]
      exact timely
  | overload stage many => exact absurd roomy (solo.not_roomy_of_overload ready stage many)
  | full stage =>
      rw [stage] at timely fits
      refine onTime_keeps (fun _ => rfl) rfl ⟨timely, ?_⟩
      rintro rfl
      exact absurd fits.2.2 (Nat.lt_irrefl 0)
  | misread stage failed =>
      rw [Station.readBatch_of_faultless (solo.accounted ready).faultless] at failed
      cases failed
  | exhausted stage read =>
      rw [Station.readBatch_of_faultless (solo.accounted ready).faultless] at read
      obtain ⟨nothing, rfl⟩ := Prod.mk.inj read
      have all := solo.eq_remaining_of_exhausted ready stage (Except.ok.inj nothing)
      rw [stage] at timely fits
      refine onTime_keeps (fun _ => rfl) rfl ⟨?_, ?_⟩
      · rw [all, Nat.sub_self, QueueSettings.span_zero]
        exact Nat.le_trans (Nat.le_add_right _ _) timely
      · rintro rfl
        exact absurd all fits.1
  | @take concurrency left batches batch _ stage read something =>
      rw [Station.readBatch_of_faultless (solo.accounted ready).faultless] at read
      obtain ⟨-, rfl⟩ := Prod.mk.inj read
      rw [stage] at timely
      refine onTime_keeps (fun _ => rfl) rfl ?_
      show _ + start.queue.settings.span (_ - ((batches ++ [batch]).length + left)) ≤ limit
      rw [List.length_append, List.length_singleton, Nat.add_assoc, Nat.add_comm 1]
      exact timely
  | handOver stage pending =>
      rw [delivers _ _ _ stage] at pending
      cases pending
  | @settleAtOnce batch batches flights failure stage outcome =>
      rw [stage] at grounded
      obtain rfl : flights = [] := grounded
      obtain rfl := Option.some.inj ((delivers _ _ _ stage).symm.trans outcome)
      exact ⟨rfl, solo.onTime_delivered onTime stage⟩
  | await stage =>
      rw [stage] at grounded
      cases grounded
  | lookOn stage | settle stage =>
      rw [stage] at timely
      exact timely.elim
  | close stage =>
      have positive := (QueueSettings.positive_of_validate ready.accepted).2
      rcases stage with stage | stage
      · rw [stage] at timely
        exact onTime_keeps (fun _ => rfl) rfl (timely_of_close positive timely)
      · rw [stage] at timely
        exact timely.elim
  | release stage =>
      rw [stage] at fits
      have nothing : (remaining start.parts watch.history).length = 0 :=
        List.length_eq_zero_iff.mpr fits
      exact onTime_keeps (fun _ => rfl) rfl fun someLeft => absurd nothing someLeft

end Solo

/-- A run alone with its queue that has nothing under way and can be in time. The clock can show
the limit, and there is room for every round. -/
structure Paced (start : Station) (limit : Nat) (watch : Watch) : Prop where
  roomy : start.Roomy
  shown : Clock.Shows (.ofMilliseconds limit)
  solo : Solo start watch
  grounded : watch.run.stage.flights = []
  onTime : Solo.OnTime start limit watch

/-- When a run that begins now has delivered everything, at the latest: an earlier round may
have ended just now, and the first round takes as many parts as it may. -/
def Station.latest (station : Station) : Nat :=
  station.scene.now + station.queue.settings.batchDelay +
    station.queue.settings.span (station.parts.length - station.queue.effectiveConcurrency)

theorem Run.stage_of_start {queue : Queue} {run : Run} (begun : start queue = .ok run) :
    run.stage = .check := by
  unfold start at begun
  split at begun <;> cases begun
  rfl

namespace Paced

variable {start after : Station} {watch : Watch} {next : Run} {limit : Nat}

theorem begin (ready : start.Ready) (roomy : start.Roomy)
    (shown : Clock.Shows (.ofMilliseconds start.latest)) {run : Run}
    (begun : Run.start start.queue = .ok run)
    (past : ∀ ended, start.queue.lastRound = some ended → ended ≤ start.scene.now) :
    Paced start start.latest { run, station := start } := by
  have solo := Solo.begin ready begun
  have stage := Run.stage_of_start begun
  refine ⟨roomy, shown, solo, by rw [stage]; rfl, ?_⟩
  simp only [Solo.OnTime, stage, RunStage.Timely, Station.latest]
  refine fun _ => ⟨?_, fun ended previous => ?_⟩
  · exact Nat.add_le_add_right (Nat.le_add_right _ _) _
  · exact Nat.add_le_add_right (Nat.add_le_add_right (past ended previous) _) _

theorem step (ready : start.Ready) (paced : Paced start limit watch)
    (delivers : Solo.DeliversNext watch.run watch.station.scene)
    (stepped : watch.run.step? watch.station = some (next, after)) :
    Paced start limit (watch.onward next after) := by
  have kept := paced.solo.onTime_step ready paced.roomy paced.shown delivers paced.grounded
    paced.onTime stepped
  exact ⟨paced.roomy, paced.shown, paced.solo.step ready stepped, kept.1, kept.2⟩

/-- A run that let others go first goes on. -/
theorem wake (paced : Paced start limit watch) (yielded : watch.run.stage = .yielded) :
    Paced start limit { watch with run := watch.run.wake } := by
  have awake : watch.run.wake = watch.run.goTo .gather := by simp [Run.wake, yielded]
  have onTime := paced.onTime
  simp only [Solo.OnTime, yielded, RunStage.Timely] at onTime
  refine ⟨paced.roomy, paced.shown, paced.solo.wake, ?_, ?_⟩
  · rw [awake]
    rfl
  · simp only [Solo.OnTime, awake]
    exact onTime

/-- The clock moves while the run is delayed or has ended. -/
theorem clock (paced : Paced start limit watch) (time : Nat)
    (waits : watch.run.stage = .finished ∨
      ∃ due, watch.run.stage = .delayed due ∧ time ≤ due) :
    Paced start limit (watch.withScene { watch.station.scene with now := time }) := by
  have onTime := paced.onTime
  refine ⟨paced.roomy, paced.shown, paced.solo.withScene _, paced.grounded, ?_⟩
  unfold Watch.withScene
  rcases waits with stage | ⟨due, stage, early⟩
  · simp only [Solo.OnTime, stage, RunStage.Timely]
  · simp only [Solo.OnTime, stage, RunStage.Timely] at onTime ⊢
    exact ⟨early, onTime.2⟩

/-- Something is left to deliver only until the limit. -/
theorem now_le (ready : start.Ready) (paced : Paced start limit watch)
    (busy : watch.station.isIdle = false) : watch.station.scene.now ≤ limit := by
  have fits := paced.solo.fits
  have onTime := paced.onTime
  have left : remaining start.parts watch.history ≠ [] := by
    intro nothing
    have bare : watch.run.stage.unsettled = [] := by
      rw [List.eq_nil_iff_forall_not_mem]
      intro batch member
      have pending := fits.unsettled_mem batch member
      rw [nothing] at pending
      cases pending
    rw [(paced.solo.isIdle_iff ready bare).mpr nothing] at busy
    cases busy
  have someLeft : (remaining start.parts watch.history).length ≠ 0 :=
    fun nothing => left (List.eq_nil_of_length_eq_zero nothing)
  unfold Solo.OnTime at onTime
  generalize watch.run.stage = stage at fits onTime
  cases stage with
  | check | claim | drain | pause =>
      exact Nat.le_trans (Nat.le_add_right _ _) (onTime someLeft).1
  | delayed due => exact Nat.le_trans onTime.1 (Nat.le_trans (Nat.le_add_right _ _) onTime.2)
  | yielded | gather | reading => exact Nat.le_trans (Nat.le_add_right _ _) onTime
  | starting => exact Nat.le_trans (Nat.le_add_right _ _) onTime.1
  | awaiting | broken => exact onTime.elim
  | release | finished => exact absurd fits left

/-- A run that cannot take a step lets others go first, is delayed or has ended. -/
theorem stuck_cases (paced : Paced start limit watch)
    (stuck : watch.run.step? watch.station = none) :
    watch.run.stage = .yielded ∨
      (∃ due, watch.run.stage = .delayed due ∧ watch.station.scene.now < due) ∨
        watch.run.stage = .finished := by
  have onTime := paced.onTime
  have halts := Run.step?_eq_none_iff.mp stuck
  unfold Solo.OnTime at onTime
  generalize watch.run.stage = stage at halts onTime ⊢
  cases halts with
  | yielded => exact .inl rfl
  | delayed early => exact .inr (.inl ⟨_, rfl, early⟩)
  | finished => exact .inr (.inr rfl)
  | awaiting | broken => exact onTime.elim

/-- The parts that are left, and the distance from the next delivery. -/
def workLeft (start : Station) (watch : Watch) : Nat × Nat :=
  ((remaining start.parts watch.history).length,
    watch.run.stage.distance start.queue.settings.concurrency
      (remaining start.parts watch.history))

/-- A batch that the run hands over is delivered, and has been one of the parts that are left. -/
theorem delivery (paced : Paced start limit watch) {scene : Scene} {batch : List Event}
    {failure : Option TransportError}
    (delivers : Solo.DeliversNext watch.run watch.station.scene)
    (transit : Run.Transit watch.run watch.station (some (.settled batch failure)) next scene) :
    failure = none ∧ batch ∈ remaining start.parts watch.history := by
  refine ⟨?_, paced.solo.fits.unsettled_mem batch transit.settled_mem⟩
  cases transit with
  | settleAtOnce stage outcome =>
      rw [delivers _ _ _ stage] at outcome
      exact (Option.some.inj outcome).symm
  | settle stage outcome =>
      have grounded := paced.grounded
      rw [stage] at grounded
      cases grounded

theorem workLeft_step (ready : start.Ready) (paced : Paced start limit watch)
    (delivers : Solo.DeliversNext watch.run watch.station.scene)
    (stepped : watch.run.step? watch.station = some (next, after)) :
    Prod.Lex (· < ·) (· < ·)
      (workLeft start (watch.onward next after)) (workLeft start watch) := by
  have transit := Run.step?_transit (paced.solo.accounted ready).faultless stepped
  unfold Watch.onward
  generalize watch.run.occurrence? watch.station = label at transit ⊢
  by_cases outcome : ∃ batch failure, label = some (.settled batch failure)
  · obtain ⟨batch, failure, rfl⟩ := outcome
    obtain ⟨rfl, member⟩ := paced.delivery delivers transit
    apply Prod.Lex.left
    rw [remaining_append]
    show ((remaining start.parts watch.history).erase batch).length < _
    rw [List.length_erase_of_mem member]
    exact Nat.sub_lt (List.length_pos_of_mem member) Nat.one_pos
  · have undelivered : ∀ batch, label ≠ some (.settled batch none) :=
      fun batch same => outcome ⟨batch, none, same⟩
    have noOutcome : settlements label.toList = [] := by
      match label with
      | some (.settled batch failure) => exact absurd ⟨batch, failure, rfl⟩ outcome
      | none | some (.pushed _) | some .flushed | some (.read _) => rfl
    have elsewhere : watch.run.stage.looksOn = false := by
      have grounded := paced.grounded
      cases stage : watch.run.stage with
      | awaiting later waiting =>
          rw [stage] at grounded
          obtain ⟨rfl, rfl⟩ := List.append_eq_nil_iff.mp grounded
          rfl
      | _ => rfl
    have less := paced.solo.distance_step ready transit elsewhere noOutcome
    have same := (unchanged_of_no_delivery start.parts watch.history undelivered).2
    unfold workLeft
    rw [same] at less ⊢
    exact Prod.Lex.right _ less

end Paced

end Telemetry
