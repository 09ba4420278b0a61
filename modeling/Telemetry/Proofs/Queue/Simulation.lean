import Telemetry.Proofs.Queue.Interleaving

/-!
Contract: the tasks of a queue do nothing to its events but the atomic
operations.

Owns: `Crew.Reached.recorded`. What any interleaving of tasks leads to is also
what its history leads to, operation by operation, and the batches that the
tasks have in hand are those that the history leaves without an outcome.

All that is proved of histories therefore holds of tasks. The stores of this
module do not fail.
-/

namespace Telemetry

open Occurrence

namespace Station.Reached

variable {start station : Station} {history : List Occurrence}

theorem rearranged (reached : Reached start history station) (processor : Option Transport)
    (running : Bool) (lastRound : Option Nat) (scene : Scene) :
    Reached start history (station.rearrange processor running lastRound scene) := by
  simpa using reached.step (.rearrange processor running lastRound scene)

theorem withScene (reached : Reached start history station) (scene : Scene) :
    Reached start history { station with scene } :=
  reached.rearranged station.queue.processor station.queue.running station.queue.lastRound scene

end Station.Reached

/-- A history accounts for a station and for the batches that are in hand. -/
structure Recorded (start : Station) (history : List Occurrence) (station : Station)
    (batches : List (List Event)) : Prop where
  reached : Station.Reached start history station
  inHand : batches.Perm (outstanding history)

namespace Recorded

variable {start station after : Station} {history : List Occurrence}
  {batches others : List (List Event)}

theorem perm {regrouped : List (List Event)} (recorded : Recorded start history station batches)
    (same : regrouped.Perm batches) : Recorded start history station regrouped :=
  ⟨recorded.reached, same.trans recorded.inHand⟩

theorem push (recorded : Recorded start history station batches) {tasks : Bool}
    {events : List Event} (pushed : station.push tasks events = (.ok (), after)) :
    Recorded start (history ++ [.pushed events]) after batches where
  reached := recorded.reached.step (.push tasks events pushed)
  inHand := by simpa [track] using recorded.inHand

theorem flush (recorded : Recorded start history station batches)
    (flushed : station.flush = (.ok (), after)) :
    Recorded start (history ++ [.flushed]) after batches where
  reached := recorded.reached.step (.flush flushed)
  inHand := by simpa [track] using recorded.inHand

theorem rearranged (recorded : Recorded start history station batches)
    (processor : Option Transport) (running : Bool) (lastRound : Option Nat) (scene : Scene) :
    Recorded start history (station.rearrange processor running lastRound scene) batches :=
  ⟨recorded.reached.rearranged processor running lastRound scene, recorded.inHand⟩

/-- One step of a run, with the batches that other tasks have in hand. -/
theorem move {run next : Run} {label : Option Occurrence}
    (recorded : Recorded start history station (run.stage.unsettled ++ others))
    (accounted : Station.Accounted history station)
    (move : Run.Move run station label next after) :
    Recorded start (history ++ label.toList) after (next.stage.unsettled ++ others) := by
  cases move with
  | retire stage _ => simpa [stage, Run.goTo, RunStage.unsettled] using recorded
  | approach stage => simpa [stage, Run.goTo, RunStage.unsettled] using recorded
  | turnAway stage _ => simpa [stage, Run.goTo, RunStage.unsettled] using recorded
  | takeFlag stage _ =>
      rw [stage] at recorded
      rw [Option.toList_none, List.append_nil]
      exact recorded.rearranged station.queue.processor true station.queue.lastRound
        station.scene
  | releaseFlag stage =>
      rw [stage] at recorded
      rw [Option.toList_none, List.append_nil]
      exact recorded.rearranged station.queue.processor false station.queue.lastRound
        station.scene
  | gather stage => simpa [stage, Run.goTo, RunStage.unsettled] using recorded
  | proceed next lastRound scene _ _ same =>
      have quiet := recorded.rearranged station.queue.processor station.queue.running lastRound
        scene
      rw [Option.toList_none, List.append_nil]
      exact quiet.perm (same.append_right others)
  | read next batch middle scene _ _ read more =>
      have reached := (recorded.reached.step (.read batch read)).withScene scene
      refine ⟨reached, ?_⟩
      simp only [Run.goTo, Option.toList_some, outstanding_append_one, track]
      rw [more]
      split
      · exact recorded.inHand
      · have regroup : (run.stage.unsettled ++ [batch] ++ others).Perm
            ((run.stage.unsettled ++ others) ++ [batch]) := by
          rw [List.append_assoc, List.append_assoc]
          exact List.perm_append_comm.append_left _
        exact regroup.trans (recorded.inHand.append_right [batch])
  | misread next error middle scene _ _ failed _ =>
      rw [Station.readBatch_of_faultless accounted.faultless] at failed
      cases failed
  | settle next batch startedAt failure scene _ _ less =>
      have inHand : (batch :: (next.unsettled ++ others)).Perm (outstanding history) :=
        (less.append_right others).symm.trans recorded.inHand
      have unsettled : batch ∈ outstanding history := inHand.subset List.mem_cons_self
      have reached := (recorded.reached.withScene scene).step
        (.settle batch startedAt failure unsettled)
      refine ⟨reached, ?_⟩
      simp only [Run.goTo, Option.toList_some, outstanding_append_one, track]
      exact List.cons_perm_iff_perm_erase.mp inHand |>.2

end Recorded

namespace Crew

/-- Batches that the tasks have read and not settled. -/
def unsettled (crew : Crew) : List (List Event) :=
  crew.tasks.flatMap RunTask.unsettled

theorem unsettled_perm (station : Station) (owed : Nat) (earlier later : List RunTask)
    (task : RunTask) :
    (unsettled ⟨station, owed, earlier ++ task :: later⟩).Perm
      (task.unsettled ++ (earlier ++ later).flatMap RunTask.unsettled) := by
  simp only [unsettled, List.flatMap_append, List.flatMap_cons]
  rw [← List.append_assoc, ← List.append_assoc]
  exact List.perm_append_comm.append_right _

variable {start : Station} {crew after : Crew} {history : List Occurrence} {deed : Deed}

/-- A task that begins or wakes keeps the batches it has in hand. -/
theorem recorded_replace {station : Station} {owed : Nat} {earlier later : List RunTask}
    {task next : RunTask}
    (recorded : Recorded start history station
      (unsettled ⟨station, owed, earlier ++ task :: later⟩))
    (same : next.unsettled.Perm task.unsettled) :
    Recorded start history station (unsettled ⟨station, owed, earlier ++ next :: later⟩) := by
  have split := unsettled_perm station owed earlier later
  exact recorded.perm ((split next).trans ((same.append_right _).trans (split task).symm))

/-- Every step of a party is an atomic operation, or none. -/
theorem recorded_step (recorded : Recorded start history crew.station crew.unsettled)
    (accounted : Station.Accounted history crew.station) (step : Step crew deed after) :
    Recorded start (history ++ deed.occurrence?.toList) after.station after.unsettled := by
  have quiet {station : Station} {batches : List (List Event)}
      (same : Recorded start history station batches) :
      Recorded start (history ++ (none : Option Occurrence).toList) station batches := by
    rwa [Option.toList_none, List.append_nil]
  cases step with
  | push events pushed => exact recorded.push pushed
  | pushFails events failed =>
      cases (Station.push_of_faultless accounted.faultless failed).1
  | startOwed =>
      apply quiet
      simpa [unsettled, RunTask.unsettled] using recorded
  | call =>
      apply quiet
      simpa [unsettled, RunTask.unsettled] using recorded
  | flush flushed => exact recorded.flush flushed
  | flushFails failed =>
      cases (Station.flush_of_faultless accounted.faultless failed).1
  | @begin station owed earlier later =>
      refine quiet (recorded_replace recorded (.of_eq ?_))
      rw [(RunTask.begin_outside station.queue).2]
      rfl
  | @advance station after owed earlier later run next stepped =>
      have alone := recorded.perm (unsettled_perm station owed earlier later (.active run)).symm
      have moved := alone.move accounted (Run.step?_move stepped)
      exact moved.perm (unsettled_perm after owed earlier later (.active next))
  | wake earlier later run =>
      exact quiet (recorded_replace recorded run.wake_stage.2.1)
  | @bind station owed tasks transport =>
      exact quiet (recorded.rearranged (some transport) station.queue.running
        station.queue.lastRound _)
  | @pass station owed tasks scene =>
      exact quiet (recorded.rearranged station.queue.processor station.queue.running
        station.queue.lastRound scene)

/-- What tasks lead to, their history leads to as well. -/
theorem Reached.recorded {first : Crew} {deeds : List Deed} (reached : Reached first deeds crew)
    (accounted : Station.Accounted [] first.station) (nothing : first.unsettled = []) :
    Recorded first.station (Deed.history deeds) crew.station crew.unsettled := by
  induction reached with
  | start => exact ⟨.start, .of_eq nothing⟩
  | step _ step inductionHypothesis =>
      rw [Deed.history_append_one]
      exact recorded_step inductionHypothesis (inductionHypothesis.reached.accounted accounted) step

end Crew

end Telemetry
