import Telemetry.Proofs.Queue.RunStep
import Telemetry.Proofs.Transport.Journal

/-!
Contract: the way of a run from stage to stage, and what it leaves in the notes.

Owns:
- `Run.Transit`, the steps of a run over a store that does not fail, with the
  stage that each leads to and the scene it leaves;
- `BatchReport`, what the notes say of settled batches: each settled batch is
  reported once, and nothing else is.

Does not own: what the steps do to the events and to the flag, which
`Run.Move` tells.
-/

namespace Telemetry

namespace Run

/-- A step that only looks where to go on. -/
inductive Quiet (station : Station) : RunStage → RunStage → Prop where
  | retire (idle : station.isIdle = true) : Quiet station .check .finished
  | approach (busy : station.isIdle = false) : Quiet station .check .claim
  | turnAway (held : station.queue.running = true) : Quiet station .claim .finished
  | leave (idle : station.isIdle = true) : Quiet station .drain .release
  | goOn (busy : station.isIdle = false) : Quiet station .drain .pause
  | delay (due : Nat) : Quiet station .pause (.delayed due)
  | yield : Quiet station .pause .yielded
  /-- The end of the delay cannot be computed. -/
  | outrun {ended : Nat} (previous : station.queue.lastRound = some ended)
      (beyond : ¬ Clock.Shows (.ofMilliseconds (ended + station.queue.settings.batchDelay))) :
      Quiet station .pause .broken
  | delayOver {due : Nat} (passed : due ≤ station.scene.now) : Quiet station (.delayed due) .gather
  | plan (fits : station.queue.effectiveConcurrency ≤ mostBatches) : Quiet station .gather
      (.reading station.queue.effectiveConcurrency station.queue.effectiveConcurrency [])
  /-- No list has room for the batches. -/
  | overload (many : mostBatches < station.queue.effectiveConcurrency) :
      Quiet station .gather .broken
  | handedOver (flight : Flight) (flights : List Flight) :
      Quiet station (.starting [] (flight :: flights)) (.awaiting [] (flight :: flights))
  | settledAtOnce : Quiet station (.starting [] []) .drain
  | settled : Quiet station (.awaiting [] []) .drain
  | release : Quiet station .release .check

/-- A step, with what happens to the events and the scene that it leaves. -/
inductive Transit (run : Run) (station : Station) : Option Occurrence → Run → Scene → Prop where
  | quiet {next : RunStage} (quiet : Quiet station run.stage next) :
      Transit run station none (run.goTo next) station.scene
  | takeFlag (stage : run.stage = .claim) (free : station.queue.running = false) :
      Transit run station none { run with ran := true, stage := .drain } station.scene
  /-- The round has as many batches as it may. -/
  | full {concurrency : Nat} {batches : List (List Event)}
      (stage : run.stage = .reading concurrency 0 batches) :
      Transit run station none (run.goTo (.starting batches []))
        (station.scene.log (dispatchEntry concurrency batches))
  /-- No events are left for another batch. -/
  | exhausted {concurrency left : Nat} {batches : List (List Event)}
      (stage : run.stage = .reading concurrency (left + 1) batches)
      (nothing : station.nextBatch = []) :
      Transit run station (some (.read [])) (run.goTo (.starting batches []))
        (station.scene.log (dispatchEntry concurrency batches))
  | take {concurrency left : Nat} {batches : List (List Event)}
      (stage : run.stage = .reading concurrency (left + 1) batches)
      (something : station.nextBatch ≠ []) :
      Transit run station (some (.read station.nextBatch))
        (run.goTo (.reading concurrency left (batches ++ [station.nextBatch]))) station.scene
  | settleAtOnce {batch : List Event} {batches : List (List Event)} {flights : List Flight}
      {failure : Option TransportError} (stage : run.stage = .starting (batch :: batches) flights)
      (outcome : (run.processor.start batch station.scene).1.outcome? = some failure) :
      Transit run station (some (.settled batch failure)) (run.goTo (.starting batches flights))
        ({ station with scene := (run.processor.start batch station.scene).2 }.settle batch
          station.scene.now failure).scene
  | handOver {batch : List Event} {batches : List (List Event)} {flights : List Flight}
      (stage : run.stage = .starting (batch :: batches) flights)
      (pending : (run.processor.start batch station.scene).1.outcome? = none) :
      Transit run station none
        (run.goTo (.starting batches (flights ++
          [⟨batch, station.scene.now, (run.processor.start batch station.scene).1⟩])))
        (run.processor.start batch station.scene).2
  | settle {flight : Flight} {later waiting : List Flight} {failure : Option TransportError}
      (stage : run.stage = .awaiting (flight :: later) waiting)
      (outcome : (flight.call.resume station.scene).1.outcome? = some failure) :
      Transit run station (some (.settled flight.batch failure))
        (run.goTo (.awaiting later waiting))
        ({ station with scene := (flight.call.resume station.scene).2 }.settle flight.batch
          flight.startedAt failure).scene
  | lookOn {flight : Flight} {later waiting : List Flight}
      (stage : run.stage = .awaiting (flight :: later) waiting)
      (pending : (flight.call.resume station.scene).1.outcome? = none) :
      Transit run station none
        (run.goTo (.awaiting later (waiting ++
          [{ flight with call := (flight.call.resume station.scene).1 }])))
        (flight.call.resume station.scene).2

variable {run next : Run} {station after : Station}

theorem Branch.transit {label : Option Occurrence} (faultless : station.store.Faultless)
    (branch : Branch run station label next after) :
    Transit run station label next after.scene := by
  have quiet {here there : RunStage} (stage : run.stage = here)
      (moved : Quiet station here there) :
      Transit run station none (run.goTo there) station.scene :=
    .quiet (stage ▸ moved)
  have read := Station.readBatch_of_faultless faultless
  cases branch with
  | retire stage idle => exact quiet stage (.retire idle)
  | approach stage busy => exact quiet stage (.approach busy)
  | turnAway stage held => exact quiet stage (.turnAway held)
  | takeFlag stage free => exact .takeFlag stage free
  | leave stage idle => exact quiet stage (.leave idle)
  | goOn stage busy => exact quiet stage (.goOn busy)
  | delay stage => exact quiet stage (.delay _)
  | yield stage => exact quiet stage .yield
  | outrun stage previous beyond => exact quiet stage (.outrun previous beyond)
  | delayOver stage passed => exact quiet stage (.delayOver passed)
  | plan stage fits => exact quiet stage (.plan fits)
  | overload stage many => exact quiet stage (.overload many)
  | full stage => exact .full stage
  | misread stage failed =>
      rw [read] at failed
      cases failed
  | exhausted stage taken =>
      obtain ⟨nothing, rfl⟩ := Prod.mk.inj (read.symm.trans taken)
      exact .exhausted stage (Except.ok.inj nothing)
  | take stage taken something =>
      obtain ⟨batch, rfl⟩ := Prod.mk.inj (read.symm.trans taken)
      obtain rfl := Except.ok.inj batch
      exact .take stage something
  | handOver stage pending => exact .handOver stage pending
  | settleAtOnce stage outcome => exact .settleAtOnce stage outcome
  | await stage => exact quiet stage (.handedOver _ _)
  | lookOn stage pending => exact .lookOn stage pending
  | settle stage outcome => exact .settle stage outcome
  | close stage =>
      rcases stage with stage | stage
      · exact quiet stage .settledAtOnce
      · exact quiet stage .settled
  | release stage => exact quiet stage .release

theorem step?_transit (faultless : station.store.Faultless)
    (stepped : run.step? station = some (next, after)) :
    Transit run station (run.occurrence? station) next after.scene :=
  (step?_branch stepped).transit faultless

end Run

/-! ### Reports -/

namespace Occurrence

/-- A batch that got its outcome, and the outcome. -/
def settlement? : Occurrence → Option (List Event × Option TransportError)
  | .settled batch failure => some (batch, failure)
  | _ => none

/-- The batches that got their outcome, in order. -/
def settlements (history : List Occurrence) : List (List Event × Option TransportError) :=
  history.filterMap settlement?

@[simp] theorem settlements_append (before after : List Occurrence) :
    settlements (before ++ after) = settlements before ++ settlements after :=
  List.filterMap_append

end Occurrence

/-- What a queue reports about a batch. -/
inductive BatchReport where
  | delivered (size : Nat)
  | failed (size : Nat) (error : String)

namespace BatchReport

/-- The report that a settled batch deserves. -/
def ofSettlement : List Event × Option TransportError → BatchReport
  | (batch, none) => .delivered batch.length
  | (batch, some error) => .failed batch.length error.message

/-- The report that a log entry holds, if it is one of a queue's observer. -/
def ofEntry (entry : LogEntry) : List BatchReport :=
  if entry.target = Diagnostic.logTarget then
    if entry.message = "Batch delivered" then
      match entry.fields with
      | [(_, .number size), _] => [.delivered size]
      | _ => []
    else if entry.message = "Batch delivery failed, events stay queued" then
      match entry.fields with
      | [(_, .number size), (_, .text error)] => [.failed size error]
      | _ => []
    else []
  else []

def ofNote : Note → List BatchReport
  | .observed _ (.batchDelivered size _) => [.delivered size]
  | .observed _ (.batchFailed size error) => [.failed size error]
  | .logged entry => ofEntry entry
  | _ => []

/-- Transports report no batches. -/
def view : NoteView BatchReport where
  ofNote := ofNote
  ofRecord _ _ := []
  called _ _ _ _ _ := rfl
  answered _ _ _ _ := rfl
  logged _ _ := List.flatMap_eq_nil_iff.mpr fun _ _ => rfl
  retries time diagnostic retry := by
    cases diagnostic with
    | retryScheduled | retryExhausted => exact ⟨rfl, rfl⟩
    | _ => cases retry

theorem view_ofJournal (journal : List LeafRecord) : view.ofJournal journal = [] :=
  List.flatMap_eq_nil_iff.mpr fun _ _ => rfl

theorem view_log (scene : Scene) {entry : LogEntry} (other : entry.target ≠ Diagnostic.logTarget) :
    view.ofScene (scene.log entry) = view.ofScene scene := by
  have unseen : view.ofNote (.logged entry) = [] := if_neg other
  rw [Scene.log, NoteView.ofScene_note, unseen, List.append_nil]

theorem view_observe_delivered (scene : Scene) (observer : Observer) (size duration : Nat) :
    view.ofScene (scene.observe observer (.batchDelivered size duration)) =
      view.ofScene scene ++ [.delivered size] := by
  cases observer <;> exact view.ofScene_note scene _

theorem view_observe_failed (scene : Scene) (observer : Observer) (size : Nat) (error : String) :
    view.ofScene (scene.observe observer (.batchFailed size error)) =
      view.ofScene scene ++ [.failed size error] := by
  cases observer <;> exact view.ofScene_note scene _

/-- Settling a batch reports it, and takes no time. -/
theorem view_settle (station : Station) (faultless : station.store.Faultless) (batch : List Event)
    (startedAt : Nat) (failure : Option TransportError) :
    (station.settle batch startedAt failure).scene.now = station.scene.now ∧
      view.ofScene (station.settle batch startedAt failure).scene =
        view.ofScene station.scene ++ [ofSettlement (batch, failure)] := by
  refine ⟨(station.settle_scene ..).1, ?_⟩
  cases failure with
  | none =>
      simp only [Station.settle, Station.settleDelivered, Store.delete_of_faultless faultless,
        List.length_map]
      exact view_observe_delivered _ _ _ _
  | some error =>
      simp only [Station.settle, Station.settleFailed, List.length_map]
      exact view_observe_failed _ _ _ _

end BatchReport

/-- A step takes no time, and reports the batch that it settles. -/
theorem Run.Transit.scene {run next : Run} {station : Station} {label : Option Occurrence}
    {scene : Scene} (transit : Transit run station label next scene)
    (faultless : station.store.Faultless) :
    scene.now = station.scene.now ∧
      BatchReport.view.ofScene scene = BatchReport.view.ofScene station.scene ++
        (Occurrence.settlements label.toList).map .ofSettlement := by
  have unreported {after : Scene} {journal : List LeafRecord}
      (tells : Scene.Tells BatchReport.view station.scene after journal) :
      after.now = station.scene.now ∧
        BatchReport.view.ofScene after = BatchReport.view.ofScene station.scene := by
    refine ⟨tells.clock, ?_⟩
    rw [tells.notes, BatchReport.view_ofJournal, List.append_nil]
  have logged (concurrency : Nat) (batches : List (List Event)) :
      BatchReport.view.ofScene (station.scene.log (dispatchEntry concurrency batches)) =
        BatchReport.view.ofScene station.scene :=
    BatchReport.view_log _ (show Queue.logTarget ≠ Diagnostic.logTarget by decide)
  cases transit with
  | quiet quiet => exact ⟨rfl, (List.append_nil _).symm⟩
  | takeFlag stage free => exact ⟨rfl, (List.append_nil _).symm⟩
  | full stage => exact ⟨rfl, (logged _ _).trans (List.append_nil _).symm⟩
  | exhausted stage nothing => exact ⟨rfl, (logged _ _).trans (List.append_nil _).symm⟩
  | take stage something => exact ⟨rfl, (List.append_nil _).symm⟩
  | @settleAtOnce batch batches flights failure stage outcome =>
      have started := unreported (.start _ batch run.processor station.scene)
      have settled := BatchReport.view_settle
        { station with scene := (run.processor.start batch station.scene).2 } faultless batch
        station.scene.now failure
      exact ⟨settled.1.trans started.1, settled.2.trans (congrArg (· ++ _) started.2)⟩
  | @handOver batch batches flights stage pending =>
      have started := unreported (.start _ batch run.processor station.scene)
      exact ⟨started.1, started.2.trans (List.append_nil _).symm⟩
  | @settle flight later waiting failure stage outcome =>
      have resumed := unreported (.resume _ flight.call station.scene)
      have settled := BatchReport.view_settle
        { station with scene := (flight.call.resume station.scene).2 } faultless flight.batch
        flight.startedAt failure
      exact ⟨settled.1.trans resumed.1, settled.2.trans (congrArg (· ++ _) resumed.2)⟩
  | @lookOn flight later waiting stage pending =>
      have resumed := unreported (.resume _ flight.call station.scene)
      exact ⟨resumed.1, resumed.2.trans (List.append_nil _).symm⟩

end Telemetry
