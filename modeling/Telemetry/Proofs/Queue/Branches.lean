import Telemetry.Proofs.Queue.History
import Telemetry.Queue.Run

/-!
Contract: the branches of a step of a run.

Owns:
- what a step does to the events;
- `Run.Branch`, one constructor for each branch, with what it asks for, where the
  run goes and what it leaves;
- `Run.step?_eq_some_iff`: the steps of a run are its branches, no more and no less;
- `Run.Halts` and `Run.step?_eq_none_iff`: when there is none.

What is said of steps elsewhere is said of the branches, so that nothing but this
module depends on how a step is computed.
-/

namespace Telemetry

namespace Run

/-- What a step of the run does to the events of the queue. -/
def occurrence? (run : Run) (station : Station) : Option Occurrence :=
  match run.stage with
  | .reading _ (_ + 1) _ =>
      match station.readBatch with
      | (.ok batch, _) => some (.read batch)
      | (.error _, _) => none
  | .starting (batch :: _) _ =>
      (run.processor.start batch station.scene).1.outcome?.map (.settled batch)
  | .awaiting (flight :: _) _ =>
      (flight.call.resume station.scene).1.outcome?.map (.settled flight.batch)
  | _ => none

/-- The branches of a step, with what happens to the events. -/
inductive Branch (run : Run) (station : Station) : Option Occurrence → Run → Station → Prop where
  | retire (stage : run.stage = .check) (idle : station.isIdle = true) :
      Branch run station none (run.goTo .finished) station
  | approach (stage : run.stage = .check) (busy : station.isIdle = false) :
      Branch run station none (run.goTo .claim) station
  | turnAway (stage : run.stage = .claim) (held : station.queue.running = true) :
      Branch run station none (run.goTo .finished) station
  | takeFlag (stage : run.stage = .claim) (free : station.queue.running = false) :
      Branch run station none { run with ran := true, stage := .drain }
        { station with queue := { station.queue with running := true } }
  | leave (stage : run.stage = .drain) (idle : station.isIdle = true) :
      Branch run station none (run.goTo .release) station
  | goOn (stage : run.stage = .drain) (busy : station.isIdle = false) :
      Branch run station none (run.goTo .pause) station
  | delay {ended : Nat} (stage : run.stage = .pause)
      (previous : station.queue.lastRound = some ended)
      (shown : Clock.Shows (.ofMilliseconds (ended + station.queue.settings.batchDelay)))
      (early : station.scene.now < ended + station.queue.settings.batchDelay) :
      Branch run station none (run.goTo (.delayed (ended + station.queue.settings.batchDelay)))
        station
  | yield (stage : run.stage = .pause)
      (passed : ∀ ended, station.queue.lastRound = some ended →
        Clock.Shows (.ofMilliseconds (ended + station.queue.settings.batchDelay)) ∧
          ended + station.queue.settings.batchDelay ≤ station.scene.now) :
      Branch run station none (run.goTo .yielded) station
  /-- The end of the delay cannot be computed. -/
  | outrun {ended : Nat} (stage : run.stage = .pause)
      (previous : station.queue.lastRound = some ended)
      (beyond : ¬ Clock.Shows (.ofMilliseconds (ended + station.queue.settings.batchDelay))) :
      Branch run station none (run.goTo .broken) station
  | delayOver {due : Nat} (stage : run.stage = .delayed due) (passed : due ≤ station.scene.now) :
      Branch run station none (run.goTo .gather) station
  | plan (stage : run.stage = .gather)
      (fits : station.queue.effectiveConcurrency ≤ mostBatches) :
      Branch run station none
        (run.goTo (.reading station.queue.effectiveConcurrency
          station.queue.effectiveConcurrency []))
        station
  /-- No list has room for the batches. -/
  | overload (stage : run.stage = .gather)
      (many : mostBatches < station.queue.effectiveConcurrency) :
      Branch run station none (run.goTo .broken) station
  /-- The round has as many batches as it may. -/
  | full {concurrency : Nat} {batches : List (List Event)}
      (stage : run.stage = .reading concurrency 0 batches) :
      Branch run station none (run.goTo (.starting batches []))
        (station.log (dispatchEntry concurrency batches))
  | misread {concurrency left : Nat} {batches : List (List Event)} {error : StoreError}
      {after : Station} (stage : run.stage = .reading concurrency (left + 1) batches)
      (failed : station.readBatch = (.error error, after)) :
      Branch run station none (run.goTo (.starting batches []))
        ((after.log (misreadEntry error)).log (dispatchEntry concurrency batches))
  /-- No events are left for another batch. -/
  | exhausted {concurrency left : Nat} {batches : List (List Event)} {after : Station}
      (stage : run.stage = .reading concurrency (left + 1) batches)
      (read : station.readBatch = (.ok [], after)) :
      Branch run station (some (.read [])) (run.goTo (.starting batches []))
        (after.log (dispatchEntry concurrency batches))
  | take {concurrency left : Nat} {batches : List (List Event)} {batch : List Event}
      {after : Station} (stage : run.stage = .reading concurrency (left + 1) batches)
      (read : station.readBatch = (.ok batch, after)) (something : batch ≠ []) :
      Branch run station (some (.read batch))
        (run.goTo (.reading concurrency left (batches ++ [batch]))) after
  | handOver {batch : List Event} {batches : List (List Event)} {flights : List Flight}
      (stage : run.stage = .starting (batch :: batches) flights)
      (pending : (run.processor.start batch station.scene).1.outcome? = none) :
      Branch run station none
        (run.goTo (.starting batches (flights ++
          [⟨batch, station.scene.now, (run.processor.start batch station.scene).1⟩])))
        { station with scene := (run.processor.start batch station.scene).2 }
  | settleAtOnce {batch : List Event} {batches : List (List Event)} {flights : List Flight}
      {failure : Option TransportError} (stage : run.stage = .starting (batch :: batches) flights)
      (outcome : (run.processor.start batch station.scene).1.outcome? = some failure) :
      Branch run station (some (.settled batch failure)) (run.goTo (.starting batches flights))
        ({ station with scene := (run.processor.start batch station.scene).2 }.settle batch
          station.scene.now failure)
  | await {flight : Flight} {flights : List Flight}
      (stage : run.stage = .starting [] (flight :: flights)) :
      Branch run station none (run.goTo (.awaiting [] (flight :: flights))) station
  | lookOn {flight : Flight} {later waiting : List Flight}
      (stage : run.stage = .awaiting (flight :: later) waiting)
      (pending : (flight.call.resume station.scene).1.outcome? = none) :
      Branch run station none
        (run.goTo (.awaiting later (waiting ++
          [{ flight with call := (flight.call.resume station.scene).1 }])))
        { station with scene := (flight.call.resume station.scene).2 }
  | settle {flight : Flight} {later waiting : List Flight} {failure : Option TransportError}
      (stage : run.stage = .awaiting (flight :: later) waiting)
      (outcome : (flight.call.resume station.scene).1.outcome? = some failure) :
      Branch run station (some (.settled flight.batch failure)) (run.goTo (.awaiting later waiting))
        ({ station with scene := (flight.call.resume station.scene).2 }.settle flight.batch
          flight.startedAt failure)
  /-- All batches of the round are settled. -/
  | close (stage : run.stage = .starting [] [] ∨ run.stage = .awaiting [] []) :
      Branch run station none (run.goTo .drain)
        { station with queue := { station.queue with lastRound := some station.scene.now } }
  | release (stage : run.stage = .release) :
      Branch run station none (run.goTo .check)
        { station with queue := { station.queue with running := false } }

variable {run next : Run} {station after : Station}

private theorem pause_branch (stage : run.stage = .pause)
    (stepped : run.step? station = some (next, after)) : Branch run station none next after := by
  simp only [step?, stage] at stepped
  cases previous : station.queue.lastRound with
  | none =>
      rw [previous] at stepped
      cases stepped
      exact .yield stage (by rw [previous]; exact nofun)
  | some ended =>
      rw [previous] at stepped
      dsimp only at stepped
      split at stepped
      · next shown =>
          cases stepped
          split
          · next early => exact .delay stage previous shown early
          · next passed =>
              apply Branch.yield stage
              intro other same
              obtain rfl : ended = other := Option.some.inj (previous.symm.trans same)
              exact ⟨shown, Nat.le_of_not_lt passed⟩
      · next beyond =>
          cases stepped
          exact .outrun stage previous beyond

private theorem reading_branch {concurrency left : Nat} {batches : List (List Event)}
    (stage : run.stage = .reading concurrency left batches)
    (stepped : run.step? station = some (next, after)) :
    Branch run station (run.occurrence? station) next after := by
  cases left with
  | zero =>
      simp only [step?, occurrence?, stage] at stepped ⊢
      cases stepped
      exact .full stage
  | succ left =>
      simp only [step?, occurrence?, stage] at stepped ⊢
      split at stepped
      · next failed =>
          cases stepped
          rw [failed]
          exact .misread stage failed
      · next read =>
          cases stepped
          rw [read]
          exact .exhausted stage read
      · next something read =>
          cases stepped
          rw [read]
          exact .take stage read something

private theorem starting_branch {batches : List (List Event)} {flights : List Flight}
    (stage : run.stage = .starting batches flights)
    (stepped : run.step? station = some (next, after)) :
    Branch run station (run.occurrence? station) next after := by
  cases batches with
  | nil =>
      simp only [step?, occurrence?, stage] at stepped ⊢
      cases flights with
      | nil =>
          cases stepped
          exact .close (.inl stage)
      | cons flight flights =>
          cases stepped
          exact .await stage
  | cons batch batches =>
      simp only [step?, occurrence?, stage] at stepped ⊢
      split at stepped
      · next outcome =>
          cases stepped
          rw [outcome]
          exact .settleAtOnce stage outcome
      · next pending =>
          cases stepped
          rw [pending]
          exact .handOver stage pending

private theorem awaiting_branch {later waiting : List Flight}
    (stage : run.stage = .awaiting later waiting)
    (stepped : run.step? station = some (next, after)) :
    Branch run station (run.occurrence? station) next after := by
  cases later with
  | nil =>
      simp only [step?, occurrence?, stage] at stepped ⊢
      cases waiting with
      | nil =>
          cases stepped
          exact .close (.inr stage)
      | cons flight waiting => cases stepped
  | cons flight later =>
      simp only [step?, occurrence?, stage] at stepped ⊢
      split at stepped
      · next outcome =>
          cases stepped
          rw [outcome]
          exact .settle stage outcome
      · next pending =>
          cases stepped
          rw [pending]
          exact .lookOn stage pending

theorem step?_branch (stepped : run.step? station = some (next, after)) :
    Branch run station (run.occurrence? station) next after := by
  cases stage : run.stage with
  | check =>
      simp only [step?, occurrence?, stage] at stepped ⊢
      cases stepped
      cases idle : station.isIdle with
      | true => exact .retire stage idle
      | false => exact .approach stage idle
  | claim =>
      simp only [step?, occurrence?, stage] at stepped ⊢
      cases held : station.queue.running with
      | true =>
          rw [if_pos held] at stepped
          cases stepped
          exact .turnAway stage held
      | false =>
          rw [if_neg (by rw [held]; exact Bool.false_ne_true)] at stepped
          cases stepped
          exact .takeFlag stage held
  | drain =>
      simp only [step?, occurrence?, stage] at stepped ⊢
      cases stepped
      cases idle : station.isIdle with
      | true => exact .leave stage idle
      | false => exact .goOn stage idle
  | pause =>
      simp only [occurrence?, stage]
      exact pause_branch stage stepped
  | delayed due =>
      simp only [step?, occurrence?, stage] at stepped ⊢
      split at stepped
      · next passed =>
          cases stepped
          exact .delayOver stage passed
      · cases stepped
  | gather =>
      simp only [step?, occurrence?, stage] at stepped ⊢
      split at stepped
      · next fits =>
          cases stepped
          exact .plan stage fits
      · next many =>
          cases stepped
          exact .overload stage (Nat.lt_of_not_le many)
  | reading concurrency left batches => exact reading_branch stage stepped
  | starting batches flights => exact starting_branch stage stepped
  | awaiting later waiting => exact awaiting_branch stage stepped
  | release =>
      simp only [step?, occurrence?, stage] at stepped ⊢
      cases stepped
      exact .release stage
  | yielded | finished | broken => simp [step?, stage] at stepped

theorem Branch.step? {label : Option Occurrence} (branch : Branch run station label next after) :
    run.step? station = some (next, after) := by
  cases branch with
  | retire stage idle => simp only [Run.step?, stage, idle, if_true]
  | approach stage busy => simp [Run.step?, stage, busy]
  | turnAway stage held => simp only [Run.step?, stage, held, if_true]
  | takeFlag stage free => simp [Run.step?, stage, free]
  | leave stage idle => simp only [Run.step?, stage, idle, if_true]
  | goOn stage busy => simp [Run.step?, stage, busy]
  | delay stage previous shown early =>
      simp only [Run.step?, stage, previous, if_pos shown, if_pos early]
  | yield stage passed =>
      cases previous : station.queue.lastRound with
      | none => simp only [Run.step?, stage, previous]
      | some ended =>
          obtain ⟨shown, late⟩ := passed ended previous
          simp only [Run.step?, stage, previous, if_pos shown, if_neg (Nat.not_lt.mpr late)]
  | outrun stage previous beyond => simp only [Run.step?, stage, previous, if_neg beyond]
  | delayOver stage passed => simp only [Run.step?, stage, if_pos passed]
  | plan stage fits => simp only [Run.step?, stage, if_pos fits]
  | overload stage many => simp only [Run.step?, stage, if_neg (Nat.not_le.mpr many)]
  | full stage => simp only [Run.step?, stage, dispatch]
  | misread stage failed => simp only [Run.step?, stage, failed, dispatch]
  | exhausted stage read => simp only [Run.step?, stage, read, dispatch]
  | @take _ _ _ batch _ stage read something =>
      obtain ⟨event, events, rfl⟩ := List.exists_cons_of_ne_nil something
      simp only [Run.step?, stage, read]
  | handOver stage pending => simp only [Run.step?, stage, pending]
  | settleAtOnce stage outcome => simp only [Run.step?, stage, outcome]
  | await stage => simp only [Run.step?, stage]
  | lookOn stage pending => simp only [Run.step?, stage, pending]
  | settle stage outcome => simp only [Run.step?, stage, outcome]
  | close stage =>
      rcases stage with stage | stage
      · simp only [Run.step?, stage, endRound]
      · simp only [Run.step?, stage, endRound]
  | release stage => simp only [Run.step?, stage]

/-- The steps of a run are its branches. -/
theorem step?_eq_some_iff :
    run.step? station = some (next, after) ↔
      Branch run station (run.occurrence? station) next after :=
  ⟨step?_branch, Branch.step?⟩

theorem Branch.label_eq {label : Option Occurrence}
    (branch : Branch run station label next after) : label = run.occurrence? station := by
  cases branch with
  | close stage => rcases stage with stage | stage <;> simp only [occurrence?, stage]
  | _ => simp only [occurrence?, *, Option.map]

/-- What a run without a step waits for, or that it has ended. -/
inductive Halts (station : Station) : RunStage → Prop where
  | delayed {due : Nat} (early : station.scene.now < due) : Halts station (.delayed due)
  | yielded : Halts station .yielded
  | awaiting (flight : Flight) (waiting : List Flight) :
      Halts station (.awaiting [] (flight :: waiting))
  | finished : Halts station .finished
  | broken : Halts station .broken

theorem step?_eq_none_iff : run.step? station = none ↔ Halts station run.stage := by
  constructor
  · intro stuck
    cases stage : run.stage with
    | check | drain | release => simp [step?, stage] at stuck
    | claim | gather =>
        simp only [step?, stage] at stuck
        split at stuck <;> cases stuck
    | pause =>
        simp only [step?, stage] at stuck
        split at stuck
        · split at stuck <;> cases stuck
        · cases stuck
    | delayed due =>
        simp only [step?, stage] at stuck
        split at stuck
        · cases stuck
        · next early => exact .delayed (Nat.lt_of_not_le early)
    | reading concurrency left batches =>
        cases left with
        | zero => simp [step?, stage] at stuck
        | succ left =>
            simp only [step?, stage] at stuck
            split at stuck <;> cases stuck
    | starting batches flights =>
        cases batches with
        | nil => cases flights <;> simp [step?, stage] at stuck
        | cons batch batches =>
            simp only [step?, stage] at stuck
            split at stuck <;> cases stuck
    | awaiting later waiting =>
        cases later with
        | nil =>
            cases waiting with
            | nil => simp [step?, stage] at stuck
            | cons flight waiting => exact .awaiting flight waiting
        | cons flight later =>
            simp only [step?, stage] at stuck
            split at stuck <;> cases stuck
    | yielded => exact .yielded
    | finished => exact .finished
    | broken => exact .broken
  · intro halts
    cases stage : run.stage with
    | delayed due =>
        rw [stage] at halts
        obtain ⟨early⟩ := halts
        simp only [step?, stage, if_neg (Nat.not_le.mpr early)]
    | yielded | finished | broken => simp only [step?, stage]
    | awaiting later waiting =>
        rw [stage] at halts
        cases halts
        simp only [step?, stage]
    | check | claim | drain | pause | gather | reading | starting | release =>
        rw [stage] at halts
        cases halts

end Run

end Telemetry
