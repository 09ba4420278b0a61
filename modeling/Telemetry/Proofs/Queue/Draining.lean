import Telemetry.Proofs.Queue.Solo

/-!
Contract: a run that is alone with a queue drains it, part by part.

Owns:
- `Fair`, what a run needs of its surroundings and of its transport: the clock
  goes on, calls have outcomes, and only finitely many of them are failures;
- the distance of a stage from the next outcome or from the end of the run;
- that the run ends, and with everything delivered unless a round breaks off.

Does not own: when a round breaks off; see `Queue.Breakdown`.

Two things carry the proof that a run ends. Every outcome either delivers a part
or is one of the finitely many failures; and between two outcomes the distance
falls, except while the run waits for the clock or for its transport.
-/

namespace Telemetry

open Occurrence

/-! ### Between two outcomes -/

/-- How far a run is from the next outcome, or else from its end, if a round has at most
`limit` batches. -/
def RunStage.distance (limit : Nat) (pending : List (List Event)) : RunStage → Nat
  | .finished | .broken => 0
  | .check => if pending = [] then 1 else 9 + 2 * limit
  | .release => 2
  | .drain => if pending = [] then 3 else 7 + 2 * limit
  | .claim => 8 + 2 * limit
  | .pause => 6 + 2 * limit
  | .delayed _ => 5 + 2 * limit
  | .yielded => 5 + 2 * limit
  | .gather => 4 + 2 * limit
  | .reading _ left batches => 3 + batches.length + 2 * left
  | .starting [] [] => 8 + 2 * limit
  | .starting batches _ => 2 + batches.length
  | .awaiting [] [] => 8 + 2 * limit
  | .awaiting _ _ => 1

/-- The run looks at a batch that the transport has in hand. -/
def RunStage.looksOn : RunStage → Bool
  | .awaiting (_ :: _) _ => true
  | _ => false

theorem Solo.distance_step {start : Station} {watch : Watch} {next : Run}
    {label : Option Occurrence} {scene : Scene} (ready : start.Ready) (solo : Solo start watch)
    (transit : Run.Transit watch.run watch.station label next scene)
    (elsewhere : watch.run.stage.looksOn = false)
    (noOutcome : settlements label.toList = []) :
    next.stage.distance start.queue.settings.concurrency
        (remaining start.parts (watch.history ++ label.toList)) <
      watch.run.stage.distance start.queue.settings.concurrency
        (remaining start.parts watch.history) := by
  have idle := solo.isIdle_iff ready
  have fits := solo.fits
  have undelivered : ∀ batch, label ≠ some (.settled batch none) := by
    rintro batch rfl
    cases noOutcome
  rw [(unchanged_of_no_delivery start.parts watch.history undelivered).2]
  generalize pendingEq : remaining start.parts watch.history = pending at idle fits ⊢
  cases transit with
  | @quiet after quiet =>
      have limited := (solo.effectiveConcurrency ready).2
      show after.distance _ _ < _
      generalize watch.run.stage = stage at quiet fits idle ⊢
      cases quiet with
      | retire free =>
          simp only [RunStage.distance, if_pos ((idle rfl).mp free)]
          omega
      | approach busy =>
          have left : pending ≠ [] := fun nothing => by simp [(idle rfl).mpr nothing] at busy
          simp only [RunStage.distance, if_neg left]
          omega
      | leave free =>
          simp only [RunStage.distance, if_pos ((idle rfl).mp free)]
          omega
      | goOn busy =>
          have left : pending ≠ [] := fun nothing => by simp [(idle rfl).mpr nothing] at busy
          simp only [RunStage.distance, if_neg left]
          omega
      | turnAway | delay | yield | outrun | overload | delayOver =>
          simp only [RunStage.distance]
          omega
      | plan =>
          simp only [RunStage.distance, List.length_nil]
          omega
      | handedOver flight flights => simp [RunStage.distance]
      | settledAtOnce | settled =>
          simp only [RunStage.distance]
          split <;> omega
      | release =>
          have nothing : pending = [] := fits
          simp only [RunStage.distance, if_pos nothing]
          omega
  | takeFlag stage free =>
      simp only [stage, RunStage.distance]
      split <;> omega
  | @full concurrency batches stage =>
      rw [stage] at fits
      cases batches with
      | nil => simpa using fits.2.2
      | cons batch batches =>
          simp only [stage, Run.goTo, RunStage.distance, List.length_cons]
          omega
  | @exhausted concurrency left batches stage nothing =>
      rw [stage] at fits
      have all := pendingEq.symm.trans (solo.eq_remaining_of_exhausted ready stage nothing)
      obtain ⟨batch, others, rfl⟩ := List.exists_cons_of_ne_nil (all ▸ fits.1)
      simp only [stage, Run.goTo, RunStage.distance, List.length_cons]
      omega
  | @take concurrency left batches stage something =>
      simp only [stage, Run.goTo, RunStage.distance, List.length_append, List.length_singleton]
      omega
  | settleAtOnce stage outcome => cases noOutcome
  | @handOver batch batches flights stage waits =>
      simp only [stage, Run.goTo, RunStage.distance, List.length_cons]
      cases batches <;> cases flights <;> simp
  | settle stage outcome => cases noOutcome
  | lookOn stage pending =>
      rw [stage] at elsewhere
      cases elsewhere

/-- The stage waits for something, or for nothing any more. -/
def RunStage.mayWait : RunStage → Bool
  | .delayed _ => true
  | .yielded => true
  | .awaiting [] [] => false
  | .awaiting _ _ => true
  | .finished | .broken => true
  | _ => false

theorem Run.exists_step {run : Run} (busy : run.stage.mayWait = false) (station : Station) :
    ∃ next after, run.step? station = some (next, after) := by
  cases stepped : run.step? station with
  | some result => exact ⟨result.1, result.2, rfl⟩
  | none =>
      have halts := step?_eq_none_iff.mp stepped
      generalize run.stage = stage at busy halts
      cases halts <;> cases busy

theorem RunStage.looksOn_eq_false {stage : RunStage} (busy : stage.mayWait = false) :
    stage.looksOn = false := by
  cases stage with
  | awaiting later waiting =>
      cases later with
      | nil => rfl
      | cons flight later => cases busy
  | _ => rfl

/-! ### Surroundings -/

/-- What a run needs of its surroundings and of its transport. The clock goes on, and nobody
else reports batches. While the transport has batches in hand, one of them gets its outcome
some day; only finitely many outcomes are failures. -/
structure Fair (first : Watch) (weather : Nat → Scene → Scene) : Prop where
  forward : ∀ count, (first.after weather count).station.scene.now ≤
    (weather count (first.after weather count).station.scene).now
  endless : ∀ time, ∃ count, time ≤ (first.after weather count).station.scene.now
  silent : ∀ count,
    BatchReport.view.ofScene (weather count (first.after weather count).station.scene) =
      BatchReport.view.ofScene (first.after weather count).station.scene
  answered : ∀ count, (first.after weather count).run.stage.flights ≠ [] →
    ∃ later, (settlements (first.after weather count).history).length <
      (settlements (first.after weather later).history).length
  failing : ∃ most, ∀ count, (failures (first.after weather count).history).length ≤ most

namespace Watch

variable {start : Station} {watch : Watch}

/-- A step of the run, or none. -/
theorem next_cases (ready : start.Ready) (solo : Solo start watch) (weather : Scene → Scene) :
    (∃ next after label, Run.Transit watch.run
          (watch.withScene (weather watch.station.scene)).station label next after.scene ∧
        watch.next weather =
          { run := next
            station := after
            history := watch.history ++ label.toList
            handed := watch.handed ++ watch.run.handed?.toList }) ∨
      watch.run.step? (watch.withScene (weather watch.station.scene)).station = none ∧
        watch.next weather =
          { watch.withScene (weather watch.station.scene) with run := watch.run.wake } := by
  have faultless := (solo.accounted ready).faultless
  cases stepped : watch.run.step? (watch.withScene (weather watch.station.scene)).station with
  | none => exact .inr ⟨rfl, next_of_halts (Run.step?_eq_none_iff.mp stepped)⟩
  | some result =>
      have branch := Run.step?_branch stepped
      exact .inl ⟨result.1, result.2, _, branch.transit faultless, next_of_branch branch⟩

/-- A step takes no time, and reports what it settles. -/
theorem next_scene (ready : start.Ready) (solo : Solo start watch) (weather : Scene → Scene) :
    (watch.next weather).station.scene.now = (weather watch.station.scene).now ∧
      ∃ outcomes, settlements (watch.next weather).history =
          settlements watch.history ++ outcomes ∧
        BatchReport.view.ofScene (watch.next weather).station.scene =
          BatchReport.view.ofScene (weather watch.station.scene) ++ outcomes.map .ofSettlement := by
  rcases next_cases ready solo weather with ⟨next, after, label, transit, same⟩ | ⟨-, same⟩
  · obtain ⟨clock, reports⟩ := transit.scene (solo.accounted ready).faultless
    rw [same]
    exact ⟨clock, settlements label.toList, settlements_append _ _, reports⟩
  · rw [same]
    exact ⟨rfl, [], (List.append_nil _).symm, (List.append_nil _).symm⟩

/-- A run that is delayed goes on when its time has come. -/
theorem next_delayed {due : Nat} (stage : watch.run.stage = .delayed due)
    (weather : Scene → Scene) :
    (watch.next weather).history = watch.history ∧
      (watch.next weather).run.stage =
        if due ≤ (weather watch.station.scene).now then .gather else .delayed due := by
  by_cases passed : due ≤ (weather watch.station.scene).now
  · rw [next_of_branch (.delayOver stage passed), if_pos passed]
    exact ⟨List.append_nil _, rfl⟩
  · rw [next_of_halts (stage ▸ .delayed (Nat.lt_of_not_le passed)), if_neg passed]
    refine ⟨rfl, ?_⟩
    simp only [Run.wake, stage]

theorem next_yielded (stage : watch.run.stage = .yielded) (weather : Scene → Scene) :
    (watch.next weather).history = watch.history ∧
      (watch.next weather).run.stage = .gather := by
  rw [next_of_halts (stage ▸ .yielded)]
  refine ⟨rfl, ?_⟩
  simp only [Run.wake, stage]
  rfl

end Watch

namespace Fair

variable {start : Station} {first : Watch} {weather : Nat → Scene → Scene}

/-- A clock that the surroundings do not set back is not set back at all. -/
theorem clock_mono (ready : start.Ready) (solo : Solo start first)
    (forward : ∀ count, (first.after weather count).station.scene.now ≤
      (weather count (first.after weather count).station.scene).now)
    {earlier later : Nat} (before : earlier ≤ later) :
    (first.after weather earlier).station.scene.now ≤
      (first.after weather later).station.scene.now := by
  induction before with
  | refl => exact Nat.le_refl _
  | @step later _ inductionHypothesis =>
      have clock := (Watch.next_scene ready (solo.after ready weather later) (weather later)).1
      exact Nat.le_trans inductionHypothesis (clock ▸ forward later)

section Clock

variable (ready : start.Ready) (solo : Solo start first) (fair : Fair first weather)

include ready solo fair

/-- A delay is over some day. -/
theorem delay_ends {count due : Nat}
    (stage : (first.after weather count).run.stage = .delayed due) :
    ∃ later, (first.after weather later).history = (first.after weather count).history ∧
      (first.after weather later).run.stage = .gather := by
  obtain ⟨passing, passed⟩ := fair.endless due
  -- Step by step the delay is over or goes on.
  have goes_on (steps : Nat) :
      (∃ later, (first.after weather later).history = (first.after weather count).history ∧
        (first.after weather later).run.stage = .gather) ∨
      (first.after weather (count + steps)).history = (first.after weather count).history ∧
        (first.after weather (count + steps)).run.stage = .delayed due := by
    induction steps with
    | zero => exact .inr ⟨rfl, stage⟩
    | succ steps inductionHypothesis =>
        rcases inductionHypothesis with ended | ⟨sameHistory, delayed⟩
        · exact .inl ended
        · obtain ⟨kept, moved⟩ := Watch.next_delayed delayed (weather (count + steps))
          split at moved
          · exact .inl ⟨count + steps + 1, kept.trans sameHistory, moved⟩
          · exact .inr ⟨kept.trans sameHistory, moved⟩
  rcases goes_on passing with ended | ⟨sameHistory, delayed⟩
  · exact ended
  · obtain ⟨kept, moved⟩ := Watch.next_delayed delayed (weather (count + passing))
    have time : due ≤ (weather (count + passing)
        (first.after weather (count + passing)).station.scene).now :=
      Nat.le_trans passed (Nat.le_trans
        (clock_mono ready solo fair.forward (Nat.le_add_left _ _)) (fair.forward _))
    rw [if_pos time] at moved
    exact ⟨count + passing + 1, kept.trans sameHistory, moved⟩

/-- Every outcome is reported once, and nothing else is. -/
theorem reports (fresh : first.history = []) (count : Nat) :
    BatchReport.view.ofScene (first.after weather count).station.scene =
      BatchReport.view.ofScene first.station.scene ++
        (settlements (first.after weather count).history).map .ofSettlement := by
  induction count with
  | zero => simp [Watch.after, fresh, settlements]
  | succ count inductionHypothesis =>
      obtain ⟨-, outcomes, settled, reported⟩ :=
        Watch.next_scene ready (solo.after ready weather count) (weather count)
      rw [Watch.after, reported, settled, fair.silent, inductionHypothesis, List.map_append,
        List.append_assoc]

end Clock

/-! ### The end of a run -/

/-- The outcomes that are still to come, at most, and the distance from the next one. -/
def effort (start : Station) (most : Nat) (watch : Watch) : Nat × Nat :=
  (most + start.parts.length - (settlements watch.history).length,
    watch.run.stage.distance start.queue.settings.concurrency
      (remaining start.parts watch.history))

section End

variable (ready : start.Ready) (solo : Solo start first) (fair : Fair first weather) {most : Nat}
  (bounded : ∀ count, (failures (first.after weather count).history).length ≤ most)

include ready solo fair bounded

omit fair in
theorem settlements_length_le (count : Nat) :
    (settlements (first.after weather count).history).length ≤ most + start.parts.length := by
  have balance := (solo.after ready weather count).balance.length_eq
  have failed := bounded count
  rw [List.length_append] at balance
  rw [length_settlements]
  omega

omit fair in
theorem effort_lt_of_outcome {count later : Nat}
    (more : (settlements (first.after weather count).history).length <
      (settlements (first.after weather later).history).length) :
    Prod.Lex (· < ·) (· < ·) (effort start most (first.after weather later))
      (effort start most (first.after weather count)) := by
  have bound := settlements_length_le ready solo bounded later
  exact .left _ _ (by omega)

omit ready solo fair bounded in
theorem effort_lt_of_distance {watch closer : Watch}
    (same : settlements closer.history = settlements watch.history)
    (less : closer.run.stage.distance start.queue.settings.concurrency
        (remaining start.parts closer.history) <
      watch.run.stage.distance start.queue.settings.concurrency
        (remaining start.parts watch.history)) :
    Prod.Lex (· < ·) (· < ·) (effort start most closer) (effort start most watch) := by
  unfold effort
  rw [same]
  exact .right _ less

omit fair in
/-- A run that can take a step gets nearer to its end. -/
theorem effort_lt_of_step {count : Nat}
    (busy : (first.after weather count).run.stage.mayWait = false) :
    Prod.Lex (· < ·) (· < ·) (effort start most (first.after weather (count + 1)))
      (effort start most (first.after weather count)) := by
  have soloThere := solo.after ready weather count
  rcases Watch.next_cases ready soloThere (weather count) with
    ⟨next, after, label, transit, moved⟩ | ⟨stuck, -⟩
  · have historyEq : (first.after weather (count + 1)).history =
        (first.after weather count).history ++ label.toList := congrArg Watch.history moved
    by_cases noOutcome : settlements label.toList = []
    · refine effort_lt_of_distance ?_ ?_
      · rw [historyEq, settlements_append, noOutcome, List.append_nil]
      · have changed := soloThere.withScene
          (weather count (first.after weather count).station.scene)
        have less := changed.distance_step ready transit (RunStage.looksOn_eq_false busy) noOutcome
        have runEq : (first.after weather (count + 1)).run = next := congrArg Watch.run moved
        rw [historyEq, runEq]
        exact less
    · refine effort_lt_of_outcome ready solo bounded ?_
      have some_outcome := List.length_pos_iff.mpr noOutcome
      rw [historyEq, settlements_append, List.length_append]
      omega
  · obtain ⟨next, after, stepped⟩ := Run.exists_step busy
      ((first.after weather count).withScene
        (weather count (first.after weather count).station.scene)).station
    rw [stuck] at stepped
    cases stepped

/-- A run that has not ended gets nearer to its end some day. -/
theorem advances {count : Nat} (unfinished : (first.after weather count).run.stage ≠ .finished)
    (whole : (first.after weather count).run.stage ≠ .broken) :
    ∃ later, Prod.Lex (· < ·) (· < ·) (effort start most (first.after weather later))
      (effort start most (first.after weather count)) := by
  cases stage : (first.after weather count).run.stage with
  | finished => exact absurd stage unfinished
  | broken => exact absurd stage whole
  | delayed due =>
      obtain ⟨later, sameHistory, gathers⟩ := fair.delay_ends ready solo stage
      refine ⟨later, effort_lt_of_distance (by rw [sameHistory]) ?_⟩
      rw [gathers, stage, RunStage.distance, RunStage.distance]
      omega
  | yielded =>
      obtain ⟨sameHistory, gathers⟩ := Watch.next_yielded stage (weather count)
      refine ⟨count + 1, effort_lt_of_distance (congrArg settlements sameHistory) ?_⟩
      rw [Watch.after, gathers, stage, RunStage.distance, RunStage.distance]
      omega
  | awaiting later waiting =>
      by_cases none_left : later ++ waiting = []
      · obtain ⟨rfl, rfl⟩ := List.append_eq_nil_iff.mp none_left
        exact ⟨count + 1, effort_lt_of_step ready solo bounded (by rw [stage]; rfl)⟩
      · obtain ⟨later, more⟩ := fair.answered count (by rw [stage]; exact none_left)
        exact ⟨later, effort_lt_of_outcome ready solo bounded more⟩
  | check | claim | drain | pause | gather | reading | starting | release =>
      exact ⟨count + 1, effort_lt_of_step ready solo bounded (by rw [stage]; rfl)⟩

theorem exists_ended (count : Nat) :
    ∃ later, (first.after weather later).run.stage = .finished ∨
      (first.after weather later).run.stage = .broken := by
  by_cases finished : (first.after weather count).run.stage = .finished
  · exact ⟨count, .inl finished⟩
  by_cases broken : (first.after weather count).run.stage = .broken
  · exact ⟨count, .inr broken⟩
  obtain ⟨later, less⟩ := advances ready solo fair bounded finished broken
  exact exists_ended later
termination_by effort start most (first.after weather count)
decreasing_by exact less

end End

end Fair

/-- A run has ended and has delivered what was stored when it began, in the parts that it fell
into there. -/
structure Drained (start : Station) (watch : Watch) : Prop where
  /-- The run has ended, and has held the flag. -/
  returned : watch.run.stage = .finished ∧ watch.run.ran = true
  empty : watch.station.store.backlog.events = []
  nothing : watch.station.queue.inFlight = []
  /-- The transport got nothing but parts, and each call of it had one outcome. -/
  handed : ∀ batch ∈ watch.handed, batch ∈ start.parts
  settled : watch.handed.Perm ((settlements watch.history).map Prod.fst)
  /-- Every part was delivered once. -/
  delivered : (deliveries watch.history).Perm start.parts
  once : start.parts.Nodup
  deliveredBatches : watch.station.queue.deliveredBatches = start.queue.deliveredBatches +
    (start.store.backlog.events.length + start.queue.settings.batchSize - 1) /
      start.queue.settings.batchSize
  failedBatches : watch.station.queue.failedBatches =
    start.queue.failedBatches + (failures watch.history).length
  reports : BatchReport.view.ofScene watch.station.scene = BatchReport.view.ofScene start.scene ++
    (settlements watch.history).map .ofSettlement
  inOrder : start.queue.settings.concurrency = 1 → deliveries watch.history = start.parts

theorem Solo.inFlight_eq_nil {start : Station} {watch : Watch} (ready : start.Ready)
    (solo : Solo start watch) (bare : watch.run.stage.unsettled = []) :
    watch.station.queue.inFlight = [] := by
  rw [List.eq_nil_iff_forall_not_mem]
  intro id marked
  rw [solo.mem_inFlight ready, bare] at marked
  cases marked

theorem Solo.drained {start : Station} {watch : Watch} (ready : start.Ready)
    (solo : Solo start watch) (finished : watch.run.stage = .finished)
    (reports : BatchReport.view.ofScene watch.station.scene =
      BatchReport.view.ofScene start.scene ++ (settlements watch.history).map .ofSettlement) :
    Drained start watch := by
  have nothingLeft : remaining start.parts watch.history = [] := by
    have fits := solo.fits
    rw [finished] at fits
    exact fits
  have delivered := solo.balance
  have handed := solo.handed
  have ran := solo.ran
  have stored := solo.stored
  rw [nothingLeft, List.append_nil] at delivered
  rw [finished] at handed
  rw [nothingLeft] at ran stored
  exact {
    returned := ⟨finished, ran.resolve_right fun before => before.2 rfl⟩
    empty := stored
    nothing := solo.inFlight_eq_nil ready (by rw [finished]; rfl)
    handed := solo.handedParts
    settled := by simpa [RunStage.flights] using handed
    delivered := delivered
    once := ready.parts_nodup
    deliveredBatches := by
      rw [solo.deliveredBatches, delivered.length_eq, Station.parts, length_chunks]
    failedBatches := solo.failedBatches
    reports := reports
    inOrder := fun single => by simpa [nothingLeft] using (solo.ordered single).1 }

/-- A run that is alone with a queue in fair surroundings drains it, unless a round breaks off. -/
theorem Fair.drained_or_broken {start : Station} (ready : start.Ready) {run : Run}
    (begun : Run.start start.queue = .ok run) {weather : Nat → Scene → Scene}
    (fair : Fair { run, station := start } weather) :
    ∃ count, Drained start (Watch.after { run, station := start } weather count) ∨
      (Watch.after { run, station := start } weather count).run.stage = .broken := by
  have solo := Solo.begin ready begun
  obtain ⟨most, bounded⟩ := fair.failing
  obtain ⟨count, finished | broken⟩ := fair.exists_ended ready solo bounded 0
  · have reports := fair.reports ready solo rfl count
    exact ⟨count, .inl ((solo.after ready weather count).drained ready finished reports)⟩
  · exact ⟨count, .inr broken⟩

end Telemetry
