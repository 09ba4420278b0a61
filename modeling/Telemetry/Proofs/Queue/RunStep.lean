import Telemetry.Proofs.Queue.Branches

/-!
Contract: what one step of a run can do.

Owns:
- the batches that a run has in hand at a stage, how many more it may take, and
  whether it holds the running flag there;
- `Run.Move`, the kinds of steps, and `Run.step?_move`: every step is of one of
  these kinds. What is said of all steps is said of the kinds.

Does not own: several runs of one queue; see `Queue.Interleaving`.
-/

namespace Telemetry

namespace RunStage

/-- The run is between taking the running flag and giving it back. -/
def holdsFlag : RunStage → Bool
  | .check => false
  | .claim => false
  | .finished => false
  | _ => true

def isFinished : RunStage → Bool
  | .finished => true
  | _ => false

theorem isFinished_iff {stage : RunStage} : stage.isFinished = true ↔ stage = .finished := by
  cases stage <;> simp [isFinished]

def isBroken : RunStage → Bool
  | .broken => true
  | _ => false

/-- The run has nothing to do until the clock moves. -/
def waits : RunStage → Bool
  | .delayed _ | .awaiting [] (_ :: _) | .finished | .broken => true
  | _ => false

/-- Batches that the run has read and not settled. -/
def unsettled : RunStage → List (List Event)
  | .reading _ _ batches => batches
  | .starting batches flights => batches ++ flights.map Flight.batch
  | .awaiting later waiting => later.map Flight.batch ++ waiting.map Flight.batch
  | _ => []

/-- The most batches that the run has in hand before the next round. -/
def capacity : RunStage → Nat
  | .reading _ left batches => batches.length + left
  | .starting batches flights => batches.length + flights.length
  | .awaiting later waiting => later.length + waiting.length
  | _ => 0

theorem unsettled_length_le (stage : RunStage) : stage.unsettled.length ≤ stage.capacity := by
  cases stage <;> simp [unsettled, capacity]

theorem unsettled_eq_nil {stage : RunStage} (outside : stage.holdsFlag = false) :
    stage.unsettled = [] := by
  cases stage <;> simp_all [holdsFlag, unsettled]

theorem not_finished_of_holdsFlag {stage : RunStage} (holds : stage.holdsFlag = true) :
    stage.isFinished = false := by
  cases stage <;> first | rfl | simp [holdsFlag] at holds

end RunStage

namespace Run

/-- The batch that the next step hands to the transport. -/
def handed? (run : Run) : Option (List Event) :=
  match run.stage with
  | .starting (batch :: _) _ => some batch
  | _ => none

/-- The kinds of steps of a run, with what happens to the events. -/
inductive Move (run : Run) (station : Station) : Option Occurrence → Run → Station → Prop where
  | retire (stage : run.stage = .check) (idle : station.isIdle = true) :
      Move run station none (run.goTo .finished) station
  | approach (stage : run.stage = .check) :
      Move run station none (run.goTo .claim) station
  | turnAway (stage : run.stage = .claim) (held : station.queue.running = true) :
      Move run station none (run.goTo .finished) station
  | takeFlag (stage : run.stage = .claim) (free : station.queue.running = false) :
      Move run station none { run with ran := true, stage := .drain }
        { station with queue := { station.queue with running := true } }
  | releaseFlag (stage : run.stage = .release) :
      Move run station none (run.goTo .check)
        { station with queue := { station.queue with running := false } }
  | gather (stage : run.stage = .gather)
      (few : station.queue.effectiveConcurrency ≤ mostBatches) :
      Move run station none
        (run.goTo (.reading station.queue.effectiveConcurrency
          station.queue.effectiveConcurrency []))
        station
  /-- Nothing happens to the events. -/
  | proceed (next : RunStage) (lastRound : Option Nat) (scene : Scene)
      (holds : run.stage.holdsFlag = true) (stillHolds : next.holdsFlag = true)
      (same : next.unsettled.Perm run.stage.unsettled)
      (room : next.capacity ≤ run.stage.capacity) :
      Move run station none (run.goTo next)
        { station with queue := { station.queue with lastRound }, scene }
  | read (next : RunStage) (batch : List Event) (after : Station) (scene : Scene)
      (holds : run.stage.holdsFlag = true) (stillHolds : next.holdsFlag = true)
      (read : station.readBatch = (.ok batch, after))
      (more : next.unsettled =
        if batch = [] then run.stage.unsettled else run.stage.unsettled ++ [batch])
      (room : next.capacity ≤ run.stage.capacity) :
      Move run station (some (.read batch)) (run.goTo next) { after with scene }
  | misread (next : RunStage) (error : StoreError) (after : Station) (scene : Scene)
      (holds : run.stage.holdsFlag = true) (stillHolds : next.holdsFlag = true)
      (failed : station.readBatch = (.error error, after))
      (same : next.unsettled = run.stage.unsettled)
      (room : next.capacity ≤ run.stage.capacity) :
      Move run station none (run.goTo next) { after with scene }
  | settle (next : RunStage) (batch : List Event) (startedAt : Nat)
      (failure : Option TransportError) (scene : Scene)
      (holds : run.stage.holdsFlag = true) (stillHolds : next.holdsFlag = true)
      (less : run.stage.unsettled.Perm (batch :: next.unsettled))
      (room : next.capacity < run.stage.capacity) :
      Move run station (some (.settled batch failure)) (run.goTo next)
        ({ station with scene }.settle batch startedAt failure)

variable {run next : Run} {station after : Station}

/-- A step between rounds, with no batch in hand. -/
private theorem quiet_move {here there : RunStage} (stage : run.stage = here)
    (holds : here.holdsFlag = true) (bare : here.unsettled = [])
    (stillHolds : there.holdsFlag = true) (stillBare : there.unsettled = [])
    (noRoom : there.capacity = 0) :
    Move run station none (run.goTo there) station := by
  subst stage
  refine .proceed there station.queue.lastRound station.scene holds stillHolds ?_ ?_
  · rw [bare, stillBare]
  · omega

theorem Branch.move {label : Option Occurrence}
    (branch : Branch run station label next after) : Move run station label next after := by
  cases branch with
  | retire stage idle => exact .retire stage idle
  | approach stage busy => exact .approach stage
  | turnAway stage held => exact .turnAway stage held
  | takeFlag stage free => exact .takeFlag stage free
  | leave stage | goOn stage | delay stage | yield stage | outrun stage | delayOver stage
  | overload stage => exact quiet_move stage rfl rfl rfl rfl rfl
  | plan stage fits => exact .gather stage fits
  | @full concurrency batches stage =>
      refine .proceed (.starting batches []) station.queue.lastRound _ (by rw [stage]; rfl) rfl
        ?_ ?_
      · simp [stage, RunStage.unsettled]
      · simp [stage, RunStage.capacity]
  | @misread concurrency left batches error middle stage failed =>
      refine .misread (.starting batches []) error middle _ (by rw [stage]; rfl) rfl failed ?_ ?_
      · simp [stage, RunStage.unsettled]
      · simp [stage, RunStage.capacity]
  | @exhausted concurrency left batches middle stage read =>
      refine .read (.starting batches []) [] middle _ (by rw [stage]; rfl) rfl read ?_ ?_
      · simp [stage, RunStage.unsettled]
      · simp [stage, RunStage.capacity]
  | @take concurrency left batches batch _ stage read something =>
      refine .read (.reading concurrency left (batches ++ [batch])) batch after after.scene
        (by rw [stage]; rfl) rfl read ?_ ?_
      · simp [stage, RunStage.unsettled, something]
      · simp only [stage, RunStage.capacity, List.length_append, List.length_singleton]
        omega
  | @handOver batch batches flights stage pending =>
      refine .proceed (.starting batches (flights ++ [⟨batch, station.scene.now, _⟩]))
        station.queue.lastRound _ (by rw [stage]; rfl) rfl ?_ ?_
      · simp only [stage, RunStage.unsettled, List.map_append, List.map_cons, List.map_nil,
          ← List.append_assoc]
        exact List.perm_append_comm
      · simp only [stage, RunStage.capacity, List.length_append, List.length_cons,
          List.length_nil]
        omega
  | @settleAtOnce batch batches flights failure stage outcome =>
      refine .settle (.starting batches flights) batch station.scene.now failure _
        (by rw [stage]; rfl) rfl ?_ ?_
      · simp [stage, RunStage.unsettled]
      · simp [stage, RunStage.capacity]
  | @await flight flights stage =>
      refine .proceed (.awaiting [] (flight :: flights)) station.queue.lastRound station.scene
        (by rw [stage]; rfl) rfl ?_ ?_
      · simp [stage, RunStage.unsettled]
      · simp [stage, RunStage.capacity]
  | @lookOn flight later waiting stage pending =>
      refine .proceed (.awaiting later (waiting ++ [{ flight with call := _ }]))
        station.queue.lastRound _ (by rw [stage]; rfl) rfl ?_ ?_
      · simp only [stage, RunStage.unsettled, List.map_append, List.map_cons, List.map_nil,
          ← List.append_assoc]
        exact List.perm_append_comm
      · simp only [stage, RunStage.capacity, List.length_append, List.length_cons,
          List.length_nil]
        omega
  | @settle flight later waiting failure stage outcome =>
      refine .settle (.awaiting later waiting) flight.batch flight.startedAt failure _
        (by rw [stage]; rfl) rfl ?_ ?_
      · simp [stage, RunStage.unsettled]
      · simp [stage, RunStage.capacity]
  | close stage =>
      have holds : run.stage.holdsFlag = true := by
        rcases stage with stage | stage <;> rw [stage] <;> rfl
      have bare : run.stage.unsettled = [] := by
        rcases stage with stage | stage <;> rw [stage] <;> rfl
      refine .proceed .drain (some station.scene.now) station.scene holds rfl ?_ (Nat.zero_le _)
      rw [bare]
      exact .refl _
  | release stage => exact .releaseFlag stage

/-- Every step of a run is of one of the kinds. -/
theorem step?_move (stepped : run.step? station = some (next, after)) :
    Move run station (run.occurrence? station) next after :=
  (step?_branch stepped).move

/-- A new turn changes nothing but where the run looks next. -/
theorem wake_stage (run : Run) :
    run.wake.stage.holdsFlag = run.stage.holdsFlag ∧
      run.wake.stage.unsettled.Perm run.stage.unsettled ∧
        run.wake.stage.capacity = run.stage.capacity := by
  unfold wake
  split <;> rename_i stage
  · simp [stage, goTo, RunStage.holdsFlag, RunStage.unsettled, RunStage.capacity]
  · simp [stage, goTo, RunStage.holdsFlag, RunStage.unsettled, RunStage.capacity]
  · exact ⟨rfl, .refl _, rfl⟩

theorem wake_processor (run : Run) : run.wake.processor = run.processor := by
  unfold wake
  split <;> rfl

theorem wake_isFinished (run : Run) : run.wake.stage.isFinished = run.stage.isFinished := by
  unfold wake
  split <;> rename_i stage
  · rw [stage]
    rfl
  · rw [stage]
    rfl
  · rfl

theorem wake_isBroken (run : Run) : run.wake.stage.isBroken = run.stage.isBroken := by
  unfold wake
  split <;> rename_i stage
  · rw [stage]
    rfl
  · rw [stage]
    rfl
  · rfl

end Run

end Telemetry
