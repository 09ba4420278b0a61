import Telemetry.Proofs.Queue.Solo

/-!
Contract: one round of a queue, as the steps of its run make it.

Owns:
- that the operations of a station and the steps of a run take no time;
- `Round`, what happens from the moment a run comes to the wait before a round to
  the end of the round, and the milestones of a run's steps;
- `Run.Beat`, the kinds of steps as a round sees them, and `Run.step?_beat`;
- `Round.Within`: how the round under way agrees with the stage of its run, and
  that the steps of the run keep it so.

The stores of this module may fail as they like.

Does not own: the rounds of several tasks; see `Queue.Rounds`.
-/

namespace Telemetry

/-! ### Clocks -/

namespace Station

theorem readBatch_leaves {station after : Station} {result : Except StoreError (List Event)}
    (read : station.readBatch = (result, after)) :
    after.scene.now = station.scene.now ∧ after.queue.settings = station.queue.settings ∧
      after.queue.lastRound = station.queue.lastRound := by
  dsimp only [readBatch] at read
  split at read <;> cases read <;> exact ⟨rfl, rfl, rfl⟩

end Station

theorem Station.push_now {station after : Station} {tasks : Bool} {events : List Event}
    {result : Except TrackerError Unit}
    (pushed : station.push tasks events = (result, after)) :
    after.scene.now = station.scene.now := by
  unfold push at pushed
  split at pushed
  · cases pushed
    rfl
  · cases pushed
    cases tasks <;> rfl

theorem Station.flush_now {station after : Station} {result : Except TrackerError Unit}
    (flushed : station.flush = (result, after)) : after.scene.now = station.scene.now := by
  unfold flush at flushed
  split at flushed <;> cases flushed <;> rfl

theorem Transport.start_now (transport : Transport) (events : List Event) (scene : Scene) :
    (transport.start events scene).2.now = scene.now :=
  (Scene.Tells.start BatchReport.view events transport scene).clock

theorem Call.resume_now (call : Call) (scene : Scene) : (call.resume scene).2.now = scene.now :=
  (Scene.Tells.resume BatchReport.view call scene).clock

/-! ### Rounds and their milestones -/

/-- A batch is handed to the transport, or has its outcome. -/
inductive Mark where
  | called (time : Nat) (batch : List Event)
  | settled (time : Nat) (batch : List Event)

def Mark.called? : Mark → Option (List Event)
  | .called _ batch => some batch
  | .settled _ _ => none

def Mark.settled? : Mark → Option (List Event)
  | .called _ _ => none
  | .settled _ batch => some batch

inductive Milestone where
  /-- A run comes to the wait before a round. -/
  | opened (time : Nat)
  | mark (mark : Mark)
  /-- All batches of the round are settled. -/
  | closed (time : Nat)

structure Round where
  /-- The position of the task whose round it is. -/
  task : Nat
  opened : Nat
  marks : List Mark := []
  closed : Option Nat := none

namespace Round

/-- The milestones of the round, in order. -/
def milestones (round : Round) : List Milestone :=
  .opened round.opened :: round.marks.map .mark ++ (round.closed.map .closed).toList

/-- The milestones with the task that they are of. -/
def log (round : Round) : List (Nat × Milestone) :=
  round.milestones.map (Prod.mk round.task)

/-- The batches that were handed over. -/
def called (round : Round) : List (List Event) :=
  round.marks.filterMap Mark.called?

def settled (round : Round) : List (List Event) :=
  round.marks.filterMap Mark.settled?

def add (round : Round) (marks : List Mark) : Round :=
  { round with marks := round.marks ++ marks }

def close (round : Round) (time : Nat) : Round :=
  { round with closed := some time }

/-- A call at this time keeps the delay after the round before, or is not delayed at all. -/
def Due (delay : Nat) (previous : Option Nat) (round : Round) (time : Nat) : Prop :=
  previous.elim (time = round.opened) (· + delay ≤ time)

/-- The round is over: each of its batches was settled before. -/
def Ended (round : Round) : Prop :=
  ∃ ended, round.closed = some ended ∧
    (∀ time batch, .settled time batch ∈ round.marks → time ≤ ended) ∧
    round.called.Perm round.settled

/-- The first round ends, and the calls of the second one keep the delay after that. -/
def Precedes (delay : Nat) (first second : Round) : Prop :=
  ∃ ended, first.closed = some ended ∧
    (∀ time batch, .settled time batch ∈ first.marks → time ≤ ended) ∧
    ∀ time batch, .called time batch ∈ second.marks → ended + delay ≤ time

end Round

namespace RunStage

/-- The run is between the wait before a round and the end of the round. A round that broke
off has no end. -/
def inRound : RunStage → Bool
  | .delayed _ | .yielded | .gather | .reading .. | .starting .. | .awaiting .. | .broken => true
  | _ => false

/-- The wait before the round is over, and batches may be handed over. -/
def mayCall : RunStage → Bool
  | .yielded | .gather | .reading .. | .starting .. => true
  | _ => false

theorem holdsFlag_of_inRound {stage : RunStage} (inside : stage.inRound = true) :
    stage.holdsFlag = true := by
  cases stage <;> first | rfl | cases inside

theorem inRound_of_mayCall {stage : RunStage} (ready : stage.mayCall = true) :
    stage.inRound = true := by
  cases stage <;> first | rfl | cases ready

theorem not_mayCall_of_waits {stage : RunStage} (waiting : stage.waits = true) :
    stage.mayCall = false := by
  cases stage <;> first | rfl | cases waiting

end RunStage

namespace Run

/-- The milestones that the next step of the run is. -/
def milestones (run : Run) (station : Station) : List Milestone :=
  let now := station.scene.now
  match run.stage with
  | .pause => [.opened now]
  | .starting (batch :: _) _ =>
      .mark (.called now batch) ::
        if (run.processor.start batch station.scene).1.outcome?.isSome then
          [.mark (.settled now batch)]
        else []
  | .awaiting (flight :: _) _ =>
      if (flight.call.resume station.scene).1.outcome?.isSome then
        [.mark (.settled now flight.batch)]
      else []
  | .starting [] [] | .awaiting [] [] => [.closed now]
  | _ => []

/-- The kinds of steps, with their milestones, the stage they lead to and the end of the last
round after them. -/
inductive Beat (run : Run) (station : Station) : List Milestone → RunStage → Option Nat → Prop where
  | elsewhere {next : RunStage} (outside : run.stage.inRound = false)
      (stillOutside : next.inRound = false) :
      Beat run station [] next station.queue.lastRound
  | delay {ended : Nat} (stage : run.stage = .pause)
      (previous : station.queue.lastRound = some ended) :
      Beat run station [.opened station.scene.now]
        (.delayed (ended + station.queue.settings.batchDelay)) station.queue.lastRound
  | yield (stage : run.stage = .pause)
      (passed : ∀ ended, station.queue.lastRound = some ended →
        ended + station.queue.settings.batchDelay ≤ station.scene.now) :
      Beat run station [.opened station.scene.now] .yielded station.queue.lastRound
  | outrun {ended : Nat} (stage : run.stage = .pause)
      (previous : station.queue.lastRound = some ended)
      (beyond : ¬ Clock.Shows (.ofMilliseconds (ended + station.queue.settings.batchDelay))) :
      Beat run station [.opened station.scene.now] .broken station.queue.lastRound
  | overload (stage : run.stage = .gather)
      (many : mostBatches < station.queue.effectiveConcurrency) :
      Beat run station [] .broken station.queue.lastRound
  | delayOver {due : Nat} (stage : run.stage = .delayed due) (passed : due ≤ station.scene.now) :
      Beat run station [] .gather station.queue.lastRound
  | prepare {next : RunStage} (ready : run.stage.mayCall = true) (none : run.stage.flights = [])
      (stillReady : next.mayCall = true) (stillNone : next.flights = []) :
      Beat run station [] next station.queue.lastRound
  | call {batches : List (List Event)} {flights : List Flight} (flight : Flight)
      (stage : run.stage = .starting (flight.batch :: batches) flights) :
      Beat run station [.mark (.called station.scene.now flight.batch)]
        (.starting batches (flights ++ [flight])) station.queue.lastRound
  | callSettled {batch : List Event} {batches : List (List Event)} {flights : List Flight}
      (stage : run.stage = .starting (batch :: batches) flights) :
      Beat run station
        [.mark (.called station.scene.now batch), .mark (.settled station.scene.now batch)]
        (.starting batches flights) station.queue.lastRound
  | await {flights : List Flight} (stage : run.stage = .starting [] flights) :
      Beat run station [] (.awaiting [] flights) station.queue.lastRound
  | settle {flight : Flight} {later waiting : List Flight}
      (stage : run.stage = .awaiting (flight :: later) waiting) :
      Beat run station [.mark (.settled station.scene.now flight.batch)]
        (.awaiting later waiting) station.queue.lastRound
  | lookOn {flight : Flight} {later waiting : List Flight} (call : Call)
      (stage : run.stage = .awaiting (flight :: later) waiting) :
      Beat run station [] (.awaiting later (waiting ++ [{ flight with call }]))
        station.queue.lastRound
  | close (stage : run.stage = .starting [] [] ∨ run.stage = .awaiting [] []) :
      Beat run station [.closed station.scene.now] .drain (some station.scene.now)

variable {run next : Run} {station after : Station}

/-- What every step leaves as it is. -/
def Steady (station after : Station) : Prop :=
  after.scene.now = station.scene.now ∧ after.queue.settings = station.queue.settings

theorem Branch.beat {label : Option Occurrence} (branch : Branch run station label next after) :
    Beat run station (run.milestones station) next.stage after.queue.lastRound ∧
      Steady station after := by
  have prepare {here there : RunStage} {middle : Station} (stage : run.stage = here)
      (lastRound : middle.queue.lastRound = station.queue.lastRound) (ready : here.mayCall = true)
      (none : here.flights = []) (stillReady : there.mayCall = true)
      (stillNone : there.flights = []) :
      Beat run station [] there middle.queue.lastRound := by
    rw [lastRound]
    exact .prepare (stage ▸ ready) (stage ▸ none) stillReady stillNone
  cases branch with
  | retire stage | approach stage | turnAway stage | takeFlag stage | leave stage | goOn stage
  | release stage =>
      simp only [milestones, stage]
      exact ⟨.elsewhere (by rw [stage]; rfl) rfl, rfl, rfl⟩
  | delay stage previous shown early =>
      simp only [milestones, stage]
      exact ⟨.delay stage previous, rfl, rfl⟩
  | yield stage passed =>
      simp only [milestones, stage]
      exact ⟨.yield stage fun ended previous => (passed ended previous).2, rfl, rfl⟩
  | outrun stage previous beyond =>
      simp only [milestones, stage]
      exact ⟨.outrun stage previous beyond, rfl, rfl⟩
  | delayOver stage passed =>
      simp only [milestones, stage]
      exact ⟨.delayOver stage passed, rfl, rfl⟩
  | plan stage | full stage =>
      simp only [milestones, stage]
      exact ⟨prepare stage rfl rfl rfl rfl rfl, rfl, rfl⟩
  | overload stage many =>
      simp only [milestones, stage]
      exact ⟨.overload stage many, rfl, rfl⟩
  | misread stage read | exhausted stage read | take stage read =>
      obtain ⟨clock, settings, lastRound⟩ := Station.readBatch_leaves read
      simp only [milestones, stage]
      exact ⟨prepare stage lastRound rfl rfl rfl rfl, clock, settings⟩
  | @handOver batch batches flights stage pending =>
      simp only [milestones, stage, pending]
      exact ⟨.call ⟨batch, station.scene.now, _⟩ stage,
        run.processor.start_now batch station.scene, rfl⟩
  | @settleAtOnce batch batches flights failure stage outcome =>
      simp only [milestones, stage, outcome]
      refine ⟨?_, (Station.settle_scene ..).1.trans
        (run.processor.start_now batch station.scene), ?_⟩
      · rw [Station.settle_queue]
        exact .callSettled stage
      · rw [Station.settle_queue]
  | await stage =>
      simp only [milestones, stage]
      exact ⟨.await stage, rfl, rfl⟩
  | @lookOn flight later waiting stage pending =>
      simp only [milestones, stage, pending]
      exact ⟨.lookOn _ stage, flight.call.resume_now station.scene, rfl⟩
  | @settle flight later waiting failure stage outcome =>
      simp only [milestones, stage, outcome]
      refine ⟨?_, (Station.settle_scene ..).1.trans
        (flight.call.resume_now station.scene), ?_⟩
      · rw [Station.settle_queue]
        exact .settle stage
      · rw [Station.settle_queue]
  | close stage =>
      refine ⟨?_, rfl, rfl⟩
      have closed : run.milestones station = [.closed station.scene.now] := by
        rcases stage with stage | stage <;> simp only [milestones, stage]
      rw [closed]
      exact .close stage

theorem step?_beat (stepped : run.step? station = some (next, after)) :
    Beat run station (run.milestones station) next.stage after.queue.lastRound ∧
      Steady station after :=
  (step?_branch stepped).beat

/-- A run breaks off because the end of its delay cannot be computed, or because no list has
room for the batches of a round. -/
theorem Beat.broken {milestones : List Milestone} {lastRound : Option Nat}
    (beat : Beat run station milestones .broken lastRound) :
    (∃ ended, station.queue.lastRound = some ended ∧
        ¬ Clock.Shows (.ofMilliseconds (ended + station.queue.settings.batchDelay))) ∨
      mostBatches < station.queue.effectiveConcurrency := by
  cases beat with
  | outrun stage previous beyond => exact .inl ⟨_, previous, beyond⟩
  | overload stage many => exact .inr many
  | elsewhere _ stillOutside => cases stillOutside
  | prepare _ _ stillReady => cases stillReady

/-- The last round has ended by now. -/
theorem Beat.past {milestones : List Milestone} {stage : RunStage} {lastRound : Option Nat}
    (beat : Beat run station milestones stage lastRound)
    (past : ∀ ended, station.queue.lastRound = some ended → ended ≤ station.scene.now) :
    ∀ ended, lastRound = some ended → ended ≤ station.scene.now := by
  cases beat with
  | close stage =>
      rintro ended ⟨⟩
      exact Nat.le_refl _
  | _ => exact past

theorem wake_of_outside (run : Run) (outside : run.stage.inRound = false) : run.wake = run := by
  unfold wake
  split
  · next stage =>
      rw [stage] at outside
      cases outside
  · next stage =>
      rw [stage] at outside
      cases outside
  · rfl

end Run

/-! ### The round under way -/

namespace Round

theorem add_nil (round : Round) : round.add [] = round := by
  rw [add, List.append_nil]

theorem log_add {round : Round} (isOpen : round.closed = none) (marks : List Mark) :
    (round.add marks).log = round.log ++ (marks.map Milestone.mark).map (Prod.mk round.task) := by
  simp [log, milestones, add, isOpen]

theorem log_close {round : Round} (isOpen : round.closed = none) (time : Nat) :
    (round.close time).log = round.log ++ [(round.task, .closed time)] := by
  simp [log, milestones, close, isOpen]

/-- How the round under way agrees with the stage of its run. -/
structure Within (delay : Nat) (previous : Option Nat) (now : Nat) (round : Round)
    (stage : RunStage) : Prop where
  inside : stage.inRound = true
  isOpen : round.closed = none
  settledBefore : ∀ time batch, .settled time batch ∈ round.marks → time ≤ now
  callsDue : ∀ time batch, .called time batch ∈ round.marks → round.Due delay previous time
  underWay : round.called.Perm (round.settled ++ stage.flights.map Flight.batch)
  ready : stage.mayCall = true → round.Due delay previous now
  delayed : ∀ due, stage = .delayed due → ∃ ended, previous = some ended ∧ ended + delay = due

variable {delay now : Nat} {previous lastRound : Option Nat} {round : Round}
  {stage next : RunStage}

/-- A step into a further stage of the round, with its marks. -/
theorem Within.add (within : Within delay previous now round stage) {marks : List Mark}
    (inside : next.inRound = true) (notDelayed : ∀ due, next ≠ .delayed due)
    (ready : next.mayCall = true → round.Due delay previous now)
    (settledBefore : ∀ time batch, .settled time batch ∈ marks → time ≤ now)
    (callsDue : ∀ time batch, .called time batch ∈ marks → round.Due delay previous time)
    (underWay : (marks.filterMap Mark.called? ++ stage.flights.map Flight.batch).Perm
      (marks.filterMap Mark.settled? ++ next.flights.map Flight.batch)) :
    Within delay previous now (round.add marks) next where
  inside := inside
  isOpen := within.isOpen
  settledBefore time batch member :=
    (List.mem_append.mp member).elim (within.settledBefore time batch) (settledBefore time batch)
  callsDue time batch member :=
    (List.mem_append.mp member).elim (within.callsDue time batch) (callsDue time batch)
  underWay := by
    simp only [called, settled, Round.add, List.filterMap_append]
    apply (within.underWay.append_right _).trans
    rw [List.append_assoc, List.append_assoc]
    exact (List.perm_append_comm.trans underWay).append_left _
  ready := ready
  delayed due same := absurd same (notDelayed due)

/-- A step without marks. -/
theorem Within.goOn (within : Within delay previous now round stage)
    (inside : next.inRound = true) (notDelayed : ∀ due, next ≠ .delayed due)
    (ready : next.mayCall = true → round.Due delay previous now)
    (underWay : (stage.flights.map Flight.batch).Perm (next.flights.map Flight.batch)) :
    Within delay previous now round next := by
  have added := within.add inside notDelayed ready (fun _ _ => List.not_mem_nil.elim)
    (fun _ _ => List.not_mem_nil.elim) underWay
  rwa [add_nil] at added

/-- A step of the run whose round it is continues the round, or ends it. -/
theorem Within.step {run : Run} {station : Station} {milestones : List Milestone}
    (within : Within station.queue.settings.batchDelay station.queue.lastRound station.scene.now
      round run.stage)
    (beat : run.Beat station milestones next lastRound) :
    (∃ marks, milestones = marks.map .mark ∧ lastRound = station.queue.lastRound ∧
      Within station.queue.settings.batchDelay station.queue.lastRound station.scene.now
        (round.add marks) next) ∨
    (milestones = [.closed station.scene.now] ∧ next.inRound = false ∧
      lastRound = some station.scene.now ∧ (round.close station.scene.now).Ended) := by
  have inside := within.inside
  have quiet {stage : RunStage} (goesOn : Within station.queue.settings.batchDelay
      station.queue.lastRound station.scene.now round stage) :
      Within station.queue.settings.batchDelay station.queue.lastRound station.scene.now
        (round.add []) stage := by
    rwa [add_nil]
  cases beat with
  | elsewhere outside => exact absurd (inside.symm.trans outside) (by decide)
  | delay stage => rw [stage] at inside; cases inside
  | yield stage => rw [stage] at inside; cases inside
  | outrun stage => rw [stage] at inside; cases inside
  | overload stage =>
      refine .inl ⟨[], rfl, rfl, quiet (within.goOn rfl (by simp) (by simp [RunStage.mayCall]) ?_)⟩
      rw [stage]
      rfl
  | @delayOver due stage passed =>
      obtain ⟨ended, previous, rfl⟩ := within.delayed due stage
      refine .inl ⟨[], rfl, rfl, quiet (within.goOn rfl (by simp) ?_ (by rw [stage]; rfl))⟩
      intro _
      rw [previous]
      exact passed
  | prepare ready none stillReady stillNone =>
      have notDelayed (due : Nat) : next ≠ .delayed due := by
        rintro rfl
        cases stillReady
      refine .inl ⟨[], rfl, rfl,
        quiet (within.goOn (RunStage.inRound_of_mayCall stillReady) notDelayed ?_ ?_)⟩
      · exact fun _ => within.ready ready
      · rw [none, stillNone]
  | @call batches flights flight stage =>
      have ready := within.ready (by rw [stage]; rfl)
      refine .inl ⟨[.called station.scene.now flight.batch], rfl, rfl,
        within.add rfl (by simp) (fun _ => ready) (by simp) ?_ ?_⟩
      · simpa using ready
      · rw [stage]
        show (flight.batch :: flights.map Flight.batch).Perm
          ((flights ++ [flight]).map Flight.batch)
        rw [List.map_append]
        exact (List.perm_append_singleton _ _).symm
  | @callSettled batch batches flights stage =>
      have ready := within.ready (by rw [stage]; rfl)
      refine .inl ⟨[.called station.scene.now batch, .settled station.scene.now batch], rfl, rfl,
        within.add rfl (by simp) (fun _ => ready) (by simp) ?_ ?_⟩
      · simpa using ready
      · rw [stage]
        exact .refl _
  | await stage =>
      refine .inl ⟨[], rfl, rfl, quiet (within.goOn rfl (by simp) (by simp [RunStage.mayCall]) ?_)⟩
      rw [stage]
      rfl
  | @settle flight later waiting stage =>
      refine .inl ⟨[.settled station.scene.now flight.batch], rfl, rfl,
        within.add rfl (by simp) (by simp [RunStage.mayCall]) (by simp) (by simp) ?_⟩
      rw [stage]
      exact .refl _
  | @lookOn flight later waiting call stage =>
      refine .inl ⟨[], rfl, rfl, quiet (within.goOn rfl (by simp) (by simp [RunStage.mayCall]) ?_)⟩
      rw [stage]
      show (flight.batch :: (later ++ waiting).map Flight.batch).Perm
        ((later ++ (waiting ++ [{ flight with call }])).map Flight.batch)
      rw [← List.append_assoc]
      generalize later ++ waiting = others
      rw [List.map_append]
      exact (List.perm_append_singleton _ _).symm
  | close stage =>
      have none : run.stage.flights = [] := by
        rcases stage with stage | stage <;> rw [stage] <;> rfl
      refine .inr ⟨rfl, rfl, rfl, station.scene.now, rfl, within.settledBefore, ?_⟩
      have underWay := within.underWay
      rw [none, List.map_nil, List.append_nil] at underWay
      exact underWay

/-- A step of a run that is in no round stays outside, or opens one. -/
theorem within_of_beat {run : Run} {station : Station} {milestones : List Milestone}
    (beat : run.Beat station milestones next lastRound) (outside : run.stage.inRound = false) :
    lastRound = station.queue.lastRound ∧
      ((milestones = [] ∧ next.inRound = false) ∨
        (milestones = [.opened station.scene.now] ∧ run.stage.holdsFlag = true ∧
          ∀ task, Within station.queue.settings.batchDelay station.queue.lastRound
            station.scene.now { task, opened := station.scene.now } next)) := by
  have bare {stage : RunStage} (inside : stage.inRound = true) (none : stage.flights = [])
      (ready : stage.mayCall = true → ∀ ended, station.queue.lastRound = some ended →
        ended + station.queue.settings.batchDelay ≤ station.scene.now)
      (delayed : ∀ due, stage = .delayed due → ∃ ended,
        station.queue.lastRound = some ended ∧ ended + station.queue.settings.batchDelay = due)
      (task : Nat) :
      Within station.queue.settings.batchDelay station.queue.lastRound station.scene.now
        { task, opened := station.scene.now } stage := by
    refine ⟨inside, rfl, fun _ _ => List.not_mem_nil.elim, fun _ _ => List.not_mem_nil.elim, ?_, ?_,
      delayed⟩
    · rw [none]
      exact .refl _
    · intro mayCall
      cases previous : station.queue.lastRound with
      | none => exact rfl
      | some ended => exact ready mayCall ended previous
  cases beat with
  | elsewhere _ stillOutside => exact ⟨rfl, .inl ⟨rfl, stillOutside⟩⟩
  | delay stage previous =>
      refine ⟨rfl, .inr ⟨rfl, by rw [stage]; rfl, bare rfl rfl (by simp [RunStage.mayCall]) ?_⟩⟩
      rintro due ⟨⟩
      exact ⟨_, previous, rfl⟩
  | yield stage passed =>
      exact ⟨rfl, .inr ⟨rfl, by rw [stage]; rfl, bare rfl rfl (fun _ => passed) (by simp)⟩⟩
  | outrun stage =>
      exact ⟨rfl, .inr ⟨rfl, by rw [stage]; rfl,
        bare rfl rfl (by simp [RunStage.mayCall]) (by simp)⟩⟩
  | close stage => rcases stage with stage | stage <;> rw [stage] at outside <;> cases outside
  | prepare ready =>
      exact absurd ((RunStage.inRound_of_mayCall ready).symm.trans outside) (by decide)
  | overload stage => rw [stage] at outside; cases outside
  | delayOver stage => rw [stage] at outside; cases outside
  | call flight stage => rw [stage] at outside; cases outside
  | callSettled stage => rw [stage] at outside; cases outside
  | await stage => rw [stage] at outside; cases outside
  | settle stage => rw [stage] at outside; cases outside
  | lookOn call stage => rw [stage] at outside; cases outside

/-- A new turn of the run. -/
theorem Within.wake {run : Run} (within : Within delay previous now round run.stage) :
    Within delay previous now round run.wake.stage := by
  unfold Run.wake
  split
  · next stage =>
      refine within.goOn rfl (by simp [Run.goTo]) (fun _ => within.ready ?_) ?_ <;> rw [stage] <;>
        rfl
  · next waiting stage =>
      refine within.goOn rfl (by simp [Run.goTo]) (by simp [Run.goTo, RunStage.mayCall]) ?_
      rw [stage]
      simp [Run.goTo, RunStage.flights]
  · exact within

/-- The clock moves while the run waits. -/
theorem Within.later (within : Within delay previous now round stage) (waits : stage.waits = true)
    {later : Nat} (forward : now ≤ later) : Within delay previous later round stage :=
  { within with
    settledBefore := fun time batch member =>
      Nat.le_trans (within.settledBefore time batch member) forward
    ready := fun ready => by
      rw [RunStage.not_mayCall_of_waits waits] at ready
      cases ready }

end Round

end Telemetry
