import Telemetry.Proofs.Queue.Chunks
import Telemetry.Proofs.Queue.InFlight
import Telemetry.Proofs.Queue.Itinerary

/-!
Contract: one run, alone with a queue that holds events.

Owns:
- `Watch`, a run in surroundings that change, with what it has done so far;
- `Station.Ready`, where such a run may begin, and the parts that the stored
  events fall into there;
- `Solo`, what holds of the run at all times, and that every step keeps it: the
  store holds the parts that were not delivered, and the run has nothing but
  such parts in hand.

Does not own: that the run comes to an end; see `Queue.Draining`.
-/

namespace Telemetry

namespace Occurrence

/-- The batches that were delivered, in order. -/
def deliveries (history : List Occurrence) : List (List Event) :=
  (settlements history).filterMap fun settlement =>
    if settlement.2.isNone then some settlement.1 else none

/-- The outcomes that were failures, in order. -/
def failures (history : List Occurrence) : List (List Event × Option TransportError) :=
  (settlements history).filter fun settlement => settlement.2.isSome

/-- How the parts that are left to deliver change. -/
def leave (parts : List (List Event)) : Occurrence → List (List Event)
  | .settled batch none => parts.erase batch
  | _ => parts

/-- The parts that a history leaves to deliver. -/
def remaining (parts : List (List Event)) (history : List Occurrence) : List (List Event) :=
  history.foldl leave parts

variable (parts : List (List Event)) (history : List Occurrence)

@[simp] theorem deliveries_append (later : List Occurrence) :
    deliveries (history ++ later) = deliveries history ++ deliveries later := by
  rw [deliveries, settlements_append, List.filterMap_append]
  rfl

@[simp] theorem failures_append (later : List Occurrence) :
    failures (history ++ later) = failures history ++ failures later := by
  rw [failures, settlements_append, List.filter_append]
  rfl

theorem length_settlements :
    (settlements history).length = (deliveries history).length + (failures history).length := by
  have each : ∀ outcomes : List (List Event × Option TransportError), outcomes.length =
      (outcomes.filterMap fun settlement =>
        if settlement.2.isNone then some settlement.1 else none).length +
      (outcomes.filter fun settlement => settlement.2.isSome).length := by
    intro outcomes
    induction outcomes with
    | nil => rfl
    | cons settlement outcomes inductionHypothesis =>
        obtain ⟨batch, failure⟩ := settlement
        cases failure <;> simp [inductionHypothesis] <;> omega
  exact each (settlements history)

theorem remaining_append (later : List Occurrence) :
    remaining parts (history ++ later) = remaining (remaining parts history) later :=
  List.foldl_append

/-- Only a delivery changes what is delivered and what is left. -/
theorem unchanged_of_no_delivery {label : Option Occurrence}
    (other : ∀ batch, label ≠ some (.settled batch none)) :
    deliveries (history ++ label.toList) = deliveries history ∧
      remaining parts (history ++ label.toList) = remaining parts history := by
  rw [deliveries_append, remaining_append]
  match label with
  | some (.settled batch none) => exact absurd rfl (other batch)
  | none | some (.settled _ (some _)) | some (.pushed _) | some .flushed | some (.read _) =>
      exact ⟨List.append_nil _, rfl⟩

theorem remaining_sublist : (remaining parts history).Sublist parts := by
  induction history generalizing parts with
  | nil => exact .refl _
  | cons first history inductionHypothesis =>
      refine (inductionHypothesis (leave parts first)).trans ?_
      match first with
      | .settled batch none => exact List.erase_sublist
      | .settled _ (some _) => exact .refl _
      | .pushed _ => exact .refl _
      | .flushed => exact .refl _
      | .read _ => exact .refl _

end Occurrence

open Occurrence

/-! ### Watching a run -/

/-- Batches that the transport has in hand. -/
def RunStage.flights : RunStage → List Flight
  | .starting _ flights => flights
  | .awaiting later waiting => later ++ waiting
  | _ => []

/-- A run with the queue it runs, and what it has done so far. -/
structure Watch where
  run : Run
  station : Station
  /-- What has happened to the events. -/
  history : List Occurrence := []
  /-- Batches that were handed to the transport. -/
  handed : List (List Event) := []

namespace Watch

/-- The watched run after a step of its own. -/
def onward (watch : Watch) (next : Run) (after : Station) : Watch where
  run := next
  station := after
  history := watch.history ++ (watch.run.occurrence? watch.station).toList
  handed := watch.handed ++ watch.run.handed?.toList

def withScene (watch : Watch) (scene : Scene) : Watch :=
  { watch with station := { watch.station with scene } }

/-- The surroundings change, and then the run takes a step. If it can take none, it looks
again at what it waits for. -/
def next (weather : Scene → Scene) (watch : Watch) : Watch :=
  let watch := watch.withScene (weather watch.station.scene)
  match watch.run.step? watch.station with
  | some (run, after) => watch.onward run after
  | none => { watch with run := watch.run.wake }

theorem next_of_branch {watch : Watch} {weather : Scene → Scene} {label : Option Occurrence}
    {next : Run} {after : Station}
    (branch : Run.Branch watch.run (watch.withScene (weather watch.station.scene)).station label
      next after) :
    watch.next weather =
      { run := next
        station := after
        history := watch.history ++ label.toList
        handed := watch.handed ++ watch.run.handed?.toList } := by
  have stepped : (watch.withScene (weather watch.station.scene)).run.step?
      (watch.withScene (weather watch.station.scene)).station = some (next, after) := branch.step?
  simp only [Watch.next, stepped]
  rw [branch.label_eq]
  rfl

theorem next_of_halts {watch : Watch} {weather : Scene → Scene}
    (halts : Run.Halts (watch.withScene (weather watch.station.scene)).station watch.run.stage) :
    watch.next weather =
      { watch.withScene (weather watch.station.scene) with run := watch.run.wake } := by
  have stuck : (watch.withScene (weather watch.station.scene)).run.step?
      (watch.withScene (weather watch.station.scene)).station = none :=
    Run.step?_eq_none_iff.mpr halts
  simp only [Watch.next, stuck]
  rfl

/-- The watched run after a number of steps. -/
def after (first : Watch) (weather : Nat → Scene → Scene) : Nat → Watch
  | 0 => first
  | count + 1 => (first.after weather count).next (weather count)

end Watch

/-! ### What a step does to the queue -/

namespace Run.Move

variable {run next : Run} {station after : Station} {label : Option Occurrence}

/-- Only a delivery changes what is stored. -/
theorem backlog (move : Move run station label next after) (faultless : station.store.Faultless) :
    (∃ batch, label = some (.settled batch none) ∧
        after.store.backlog = station.store.backlog.delete (batch.map Event.id)) ∨
      (∀ batch, label ≠ some (.settled batch none)) ∧
        after.store.backlog = station.store.backlog := by
  cases move with
  | read _ batch middle scene _ _ read =>
      rw [Station.readBatch_of_faultless faultless] at read
      cases read
      exact .inr ⟨fun _ => by simp, rfl⟩
  | misread _ error middle scene _ _ failed =>
      rw [Station.readBatch_of_faultless faultless] at failed
      cases failed
  | settle next batch startedAt failure scene =>
      have faultlessThere : ({ station with scene } : Station).store.Faultless := faultless
      rw [Station.settle_store_of_faultless batch startedAt failure faultlessThere]
      cases failure with
      | none => exact .inl ⟨batch, rfl, rfl⟩
      | some error => exact .inr ⟨fun _ => by simp, rfl⟩
  | _ => exact .inr ⟨fun _ => by simp, rfl⟩

/-- The counters count the outcomes. -/
theorem counters (move : Move run station label next after) :
    after.queue.deliveredBatches =
        station.queue.deliveredBatches + (deliveries label.toList).length ∧
      after.queue.failedBatches =
        station.queue.failedBatches + (failures label.toList).length := by
  cases move with
  | read _ _ _ _ _ _ read =>
      rw [Station.readBatch_queue_of_ok read]
      exact ⟨rfl, rfl⟩
  | misread _ _ _ _ _ _ failed =>
      rw [Station.readBatch_queue_of_error failed]
      exact ⟨rfl, rfl⟩
  | settle _ batch _ failure =>
      rw [Station.settle_queue]
      cases failure <;> exact ⟨rfl, rfl⟩
  | _ => exact ⟨rfl, rfl⟩

end Run.Move

/-! ### Where a run begins -/

namespace Station

/-- The parts that the stored events fall into. -/
def parts (station : Station) : List (List Event) :=
  chunks station.queue.settings.batchSize station.store.backlog.events

/-- A queue with accepted settings and a store that does not fail holds events with distinct
identifiers. Nothing is under way and no run is active. -/
structure Ready (station : Station) : Prop where
  accepted : station.queue.settings.validate = .ok ()
  faultless : station.store.Faultless
  indexed : station.store.backlog.Indexed
  stored : station.store.backlog.events ≠ []
  nothing : station.queue.inFlight = []
  free : station.queue.running = false

namespace Ready

variable {station : Station} (ready : station.Ready)

include ready

theorem accounted : Accounted [] station :=
  .of_nothing_inFlight ready.faultless ready.indexed ready.nothing

theorem flatten_parts : station.parts.flatten = station.store.backlog.events :=
  flatten_chunks (QueueSettings.positive_of_validate ready.accepted).1 _

theorem cut : Cut station.queue.settings.batchSize station.parts :=
  chunks_cut (QueueSettings.positive_of_validate ready.accepted).1 _

theorem cut_remaining (history : List Occurrence) :
    Cut station.queue.settings.batchSize (remaining station.parts history) :=
  ready.cut.sublist (remaining_sublist station.parts history)

theorem parts_ne_nil : station.parts ≠ [] := by
  intro nothing
  have stored := ready.flatten_parts
  rw [nothing] at stored
  exact ready.stored stored.symm

theorem parts_nodup : station.parts.Nodup := by
  refine nodup_of_distinct (fun part member => (ready.cut.sizes part member).1) ?_
  rw [ready.flatten_parts]
  exact ready.indexed.nodup

end Ready

end Station

/-! ### What holds at all times -/

/-- What a stage needs of the parts that are left to deliver. -/
def RunStage.Fits (pending : List (List Event)) : RunStage → Prop
  | .check => True
  | .claim => pending ≠ []
  | .drain => True
  | .pause => pending ≠ []
  | .delayed _ => pending ≠ []
  | .yielded => pending ≠ []
  | .gather => pending ≠ []
  | .reading _ left batches => pending ≠ [] ∧ batches <+: pending ∧ 0 < batches.length + left
  | .starting batches flights =>
      ∀ batch ∈ batches ++ flights.map Flight.batch, batch ∈ pending
  | .awaiting later waiting =>
      ∀ batch ∈ later.map Flight.batch ++ waiting.map Flight.batch, batch ∈ pending
  | .release => pending = []
  | .finished => pending = []
  | .broken => pending ≠ []

theorem RunStage.Fits.unsettled_mem {pending : List (List Event)} {stage : RunStage}
    (fits : stage.Fits pending) : ∀ batch ∈ stage.unsettled, batch ∈ pending := by
  cases stage with
  | reading concurrency left batches => exact fun batch member => fits.2.1.subset member
  | starting batches flights => exact fits
  | awaiting later waiting => exact fits
  | _ => exact List.forall_mem_nil _

/-- A run alone with the queue that was ready at the start. -/
structure Solo (start : Station) (watch : Watch) : Prop where
  recorded : Recorded start watch.history watch.station watch.run.stage.unsettled
  stored : watch.station.store.backlog.events = (remaining start.parts watch.history).flatten
  balance : (deliveries watch.history ++ remaining start.parts watch.history).Perm start.parts
  fits : watch.run.stage.Fits (remaining start.parts watch.history)
  flag : watch.station.queue.running = watch.run.stage.holdsFlag
  /-- A run that has not had the flag is still before it, and has something to do. -/
  ran : watch.run.ran = true ∨
    watch.run.stage.holdsFlag = false ∧ remaining start.parts watch.history ≠ []
  handed : watch.handed.Perm
    ((settlements watch.history).map Prod.fst ++ watch.run.stage.flights.map Flight.batch)
  handedParts : ∀ batch ∈ watch.handed, batch ∈ start.parts
  deliveredBatches : watch.station.queue.deliveredBatches =
    start.queue.deliveredBatches + (deliveries watch.history).length
  failedBatches : watch.station.queue.failedBatches =
    start.queue.failedBatches + (failures watch.history).length
  room : watch.run.stage.capacity ≤ start.queue.settings.concurrency
  /-- One batch at a time is always the first that is left. -/
  ordered : start.queue.settings.concurrency = 1 →
    deliveries watch.history ++ remaining start.parts watch.history = start.parts ∧
      watch.run.stage.unsettled <+: remaining start.parts watch.history

namespace Solo

variable {start : Station} {watch : Watch}

theorem begin (ready : start.Ready) {run : Run} (begun : Run.start start.queue = .ok run) :
    Solo start { run, station := start } := by
  unfold Run.start at begun
  split at begun
  · cases begun
    exact {
      recorded := ⟨.start, .refl _⟩
      stored := ready.flatten_parts.symm
      balance := .refl _
      fits := trivial
      flag := ready.free
      ran := .inr ⟨rfl, ready.parts_ne_nil⟩
      handed := .refl _
      handedParts := List.forall_mem_nil _
      deliveredBatches := rfl
      failedBatches := rfl
      room := Nat.zero_le _
      ordered := fun _ => ⟨rfl, List.nil_prefix⟩ }
  · cases begun

/-- The surroundings do not matter. -/
theorem withScene (solo : Solo start watch) (scene : Scene) :
    Solo start (watch.withScene scene) :=
  { solo with recorded := ⟨solo.recorded.reached.withScene scene, solo.recorded.inHand⟩ }

/-- The run looks elsewhere. -/
theorem restage (solo : Solo start watch) {stage : RunStage}
    (unsettled : stage.unsettled = watch.run.stage.unsettled)
    (flights : stage.flights = watch.run.stage.flights)
    (flag : stage.holdsFlag = watch.run.stage.holdsFlag)
    (room : stage.capacity = watch.run.stage.capacity)
    (fits : stage.Fits (remaining start.parts watch.history)) :
    Solo start { watch with run := watch.run.goTo stage } where
  recorded := solo.recorded.perm (.of_eq unsettled)
  stored := solo.stored
  balance := solo.balance
  fits := fits
  flag := solo.flag.trans flag.symm
  ran := solo.ran.imp_right fun before => ⟨flag.trans before.1, before.2⟩
  handed := by
    show watch.handed.Perm (_ ++ stage.flights.map Flight.batch)
    rw [flights]
    exact solo.handed
  handedParts := solo.handedParts
  deliveredBatches := solo.deliveredBatches
  failedBatches := solo.failedBatches
  room := Nat.le_trans (Nat.le_of_eq room) solo.room
  ordered single := by
    show _ ∧ stage.unsettled <+: _
    rw [unsettled]
    exact solo.ordered single

theorem wake (solo : Solo start watch) : Solo start { watch with run := watch.run.wake } := by
  have fits := solo.fits
  unfold Run.wake
  split
  next stage =>
    rw [stage] at fits
    exact solo.restage (by rw [stage]; rfl) (by rw [stage]; rfl) (by rw [stage]; rfl)
      (by rw [stage]; rfl) fits
  next waiting stage =>
    rw [stage] at fits
    refine solo.restage ?_ ?_ (by rw [stage]; rfl) ?_ ?_
    · simp [stage, RunStage.unsettled]
    · simp [stage, RunStage.flights]
    · simp [stage, RunStage.capacity]
    · simpa [RunStage.Fits] using fits
  · exact solo

section Facts

variable (ready : start.Ready) (solo : Solo start watch)

include ready solo

theorem accounted : Station.Accounted watch.history watch.station :=
  solo.recorded.reached.accounted ready.accounted

theorem distinct : ((remaining start.parts watch.history).flatten.map Event.id).Nodup := by
  rw [← solo.stored]
  exact (solo.accounted ready).indexed.nodup

theorem mem_inFlight (id : String) : id ∈ watch.station.queue.inFlight ↔
    id ∈ watch.run.stage.unsettled.flatten.map Event.id :=
  ((solo.accounted ready).marks.trans (solo.recorded.inHand.flatten.map Event.id).symm).mem_iff

theorem unsettled_nodup : watch.run.stage.unsettled.Nodup := by
  have accounted := solo.accounted ready
  refine solo.recorded.inHand.nodup_iff.mpr (nodup_of_distinct ?_ accounted.batch_marks_nodup)
  exact fun batch member => (accounted.sizes batch member).1

theorem isIdle_iff (bare : watch.run.stage.unsettled = []) :
    watch.station.isIdle = true ↔ remaining start.parts watch.history = [] := by
  have settled : outstanding watch.history = [] := by
    have inHand := solo.recorded.inHand
    rw [bare] at inHand
    exact inHand.symm.eq_nil
  rw [(solo.accounted ready).isIdle_iff, settled,
    ← (ready.cut_remaining watch.history).flatten_eq_nil_iff, ← solo.stored]
  simp [Store.isEmpty, Backlog.isEmpty, Backlog.length]

theorem effectiveConcurrency : 0 < watch.station.queue.effectiveConcurrency ∧
    watch.station.queue.effectiveConcurrency ≤ start.queue.settings.concurrency := by
  have positive := (QueueSettings.positive_of_validate ready.accepted).2
  unfold Queue.effectiveConcurrency
  rw [solo.recorded.reached.settings_eq]
  split
  · exact ⟨positive, Nat.le_refl _⟩
  · exact ⟨Nat.one_pos, positive⟩

/-- While batches are read, the next one is the next part. -/
theorem nextBatch_eq {concurrency left : Nat} {batches rest : List (List Event)}
    (stage : watch.run.stage = .reading concurrency left batches)
    (split : remaining start.parts watch.history = batches ++ rest) :
    watch.station.nextBatch = rest.headD [] := by
  have settings := solo.recorded.reached.settings_eq
  have distinct := solo.distinct ready
  have marks := solo.mem_inFlight ready
  have cut := ready.cut_remaining watch.history
  rw [stage] at marks
  rw [split] at distinct cut
  rw [List.flatten_append] at distinct
  have free : (batches ++ rest).flatten.filter
      (fun event => event.id ∉ watch.station.queue.inFlight) = rest.flatten := by
    rw [List.flatten_append]
    exact filter_stretch [] distinct marks
  rw [Station.nextBatch, Backlog.read, solo.stored, split, free, settings]
  cases rest with
  | nil => exact List.take_nil
  | cons part rest => exact (cut.sublist (List.sublist_append_right _ _)).take_flatten

/-- When there is no next batch, all parts that are left are in hand. -/
theorem eq_remaining_of_exhausted {concurrency left : Nat} {batches : List (List Event)}
    (stage : watch.run.stage = .reading concurrency left batches)
    (nothing : watch.station.nextBatch = []) :
    remaining start.parts watch.history = batches := by
  have fits := solo.fits
  rw [stage] at fits
  obtain ⟨-, ⟨rest, split⟩, -⟩ := fits
  have next := solo.nextBatch_eq ready stage split.symm
  cases rest with
  | nil => rw [← split, List.append_nil]
  | cons part rest =>
      have member : part ∈ remaining start.parts watch.history := by simp [← split]
      have sizes := (ready.cut_remaining watch.history).sizes part member
      exact absurd (next.symm.trans nothing) sizes.1

end Facts

end Solo

/-! ### Steps -/

/-- What comes first goes to the end of the line. -/
theorem perm_of_sent_back {α : Type} (first : α) (later waiting : List α) :
    (later ++ (waiting ++ [first])).Perm (first :: (later ++ waiting)) := by
  rw [← List.append_assoc]
  exact List.perm_append_singleton _ _

namespace Run.Transit

variable {run next : Run} {station : Station} {label : Option Occurrence} {scene : Scene}

/-- The batch that is settled is one that the run has in hand. -/
theorem settled_mem {batch : List Event} {failure : Option TransportError}
    (transit : Transit run station (some (.settled batch failure)) next scene) :
    batch ∈ run.stage.unsettled := by
  cases transit with
  | settleAtOnce stage outcome => simp [stage, RunStage.unsettled]
  | settle stage outcome => simp [stage, RunStage.unsettled]

/-- A batch is in the transport's hands from being handed over until it is settled. -/
theorem flights (transit : Transit run station label next scene) :
    (run.stage.flights.map Flight.batch ++ run.handed?.toList).Perm
      ((settlements label.toList).map Prod.fst ++ next.stage.flights.map Flight.batch) := by
  unfold Run.handed?
  cases transit with
  | quiet quiet =>
      generalize run.stage = stage at quiet ⊢
      cases quiet <;> simp [RunStage.flights, goTo, settlements]
  | takeFlag stage free => simp [stage, RunStage.flights, settlements]
  | full stage => simp [stage, RunStage.flights, goTo, settlements]
  | exhausted stage nothing => simp [stage, RunStage.flights, goTo, settlements, settlement?]
  | take stage something => simp [stage, RunStage.flights, goTo, settlements, settlement?]
  | settleAtOnce stage outcome =>
      simp only [stage, RunStage.flights, goTo]
      exact List.perm_append_comm
  | handOver stage pending => simp [stage, RunStage.flights, goTo, settlements]
  | settle stage outcome =>
      simp [stage, RunStage.flights, goTo, settlements, settlement?]
  | @lookOn flight later waiting stage pending =>
      simp only [stage, RunStage.flights, goTo, settlements, Option.toList_none, List.append_nil,
        List.filterMap_nil, List.map_append, List.map_cons, List.map_nil, List.nil_append,
        List.cons_append]
      exact (perm_of_sent_back _ _ _).symm

end Run.Transit

namespace Solo

section Step

variable {start : Station} {watch : Watch} {next : Run} {label : Option Occurrence}
  {scene : Scene}

/-- What is in hand besides a batch that is settled is left to deliver. -/
theorem mem_leave {pending others : List (List Event)} {batch : List Event}
    (failure : Option TransportError) (nodup : (batch :: others).Nodup)
    (inside : ∀ part ∈ batch :: others, part ∈ pending) :
    ∀ part ∈ others, part ∈ leave pending (.settled batch failure) := by
  rw [List.nodup_cons] at nodup
  rw [List.forall_mem_cons] at inside
  intro part member
  cases failure with
  | none =>
      have differs : part ≠ batch := fun same => nodup.1 (same ▸ member)
      exact (List.mem_erase_of_ne differs).mpr (inside.2 part member)
  | some error => exact inside.2 part member

theorem fits_step (ready : start.Ready) (solo : Solo start watch)
    (transit : Run.Transit watch.run watch.station label next scene) :
    next.stage.Fits (remaining start.parts (watch.history ++ label.toList)) := by
  have fits := solo.fits
  have idle := solo.isIdle_iff ready
  have nodup := solo.unsettled_nodup ready
  rw [remaining_append]
  generalize pendingEq : remaining start.parts watch.history = pending at fits idle ⊢
  cases transit with
  | @quiet after quiet =>
      have flag := solo.flag
      show after.Fits pending
      generalize stageEq : watch.run.stage = stage at quiet fits idle flag
      cases quiet with
      | retire free => exact (idle rfl).mp free
      | approach busy =>
          intro nothing
          rw [(idle rfl).mpr nothing] at busy
          cases busy
      | turnAway held =>
          rw [held] at flag
          cases flag
      | leave free => exact (idle rfl).mp free
      | goOn busy =>
          intro nothing
          rw [(idle rfl).mpr nothing] at busy
          cases busy
      | delay due => exact fits
      | yield => exact fits
      | outrun previous beyond => exact fits
      | delayOver passed => exact fits
      | overload many => exact fits
      | plan enough =>
          refine ⟨fits, List.nil_prefix, ?_⟩
          rw [List.length_nil, Nat.zero_add]
          exact (solo.effectiveConcurrency ready).1
      | handedOver flight flights => exact fits
      | settledAtOnce => trivial
      | settled => trivial
      | release => trivial
  | takeFlag stage free => trivial
  | full stage =>
      rw [stage] at fits
      intro batch member
      exact fits.2.1.subset (by simpa using member)
  | exhausted stage nothing =>
      rw [stage] at fits
      intro batch member
      exact fits.2.1.subset (by simpa using member)
  | @take concurrency left batches stage something =>
      rw [stage] at fits
      obtain ⟨left_ne, ⟨rest, split⟩, -⟩ := fits
      have next := solo.nextBatch_eq ready stage (pendingEq.trans split.symm)
      cases rest with
      | nil => exact absurd next something
      | cons part rest =>
          show pending ≠ [] ∧ _ <+: pending ∧ _
          refine ⟨left_ne, ⟨rest, ?_⟩, ?_⟩
          · rw [next, ← split]
            simp
          · rw [List.length_append, List.length_singleton]
            omega
  | @settleAtOnce batch batches flights failure stage outcome =>
      rw [stage] at fits nodup
      exact mem_leave failure nodup fits
  | @handOver batch batches flights stage pending =>
      rw [stage] at fits
      simp only [Run.goTo, RunStage.Fits, List.map_append, List.map_cons, List.map_nil]
      exact fun other member => fits other ((perm_of_sent_back _ _ _).subset member)
  | @settle flight later waiting failure stage outcome =>
      rw [stage] at fits nodup
      exact mem_leave failure nodup fits
  | @lookOn flight later waiting stage pending =>
      rw [stage] at fits
      simp only [Run.goTo, RunStage.Fits, List.map_append, List.map_cons, List.map_nil]
      exact fun other member => fits other ((perm_of_sent_back _ _ _).subset member)

theorem stored_step (ready : start.Ready) (solo : Solo start watch) {after : Station}
    (move : Run.Move watch.run watch.station label next after)
    (transit : Run.Transit watch.run watch.station label next scene) :
    after.store.backlog.events =
      (remaining start.parts (watch.history ++ label.toList)).flatten := by
  rcases move.backlog (solo.accounted ready).faultless with ⟨batch, rfl, deleted⟩ | ⟨other, same⟩
  · have member := solo.fits.unsettled_mem batch transit.settled_mem
    rw [deleted, Backlog.delete, solo.stored, remaining_append]
    exact filter_part member (solo.distinct ready)
  · rw [same, solo.stored, (unchanged_of_no_delivery _ _ other).2]

theorem balance_step (solo : Solo start watch)
    (transit : Run.Transit watch.run watch.station label next scene) :
    (deliveries (watch.history ++ label.toList) ++
      remaining start.parts (watch.history ++ label.toList)).Perm start.parts := by
  by_cases delivery : ∃ batch, label = some (.settled batch none)
  · obtain ⟨batch, rfl⟩ := delivery
    have member := solo.fits.unsettled_mem batch transit.settled_mem
    rw [deliveries_append, remaining_append, List.append_assoc]
    exact ((List.perm_cons_erase member).symm.append_left _).trans solo.balance
  · rw [not_exists] at delivery
    obtain ⟨delivered, left⟩ :=
      unchanged_of_no_delivery start.parts watch.history delivery
    rw [delivered, left]
    exact solo.balance

theorem flag_step (solo : Solo start watch) {after : Station}
    (move : Run.Move watch.run watch.station label next after) :
    after.queue.running = next.stage.holdsFlag := by
  rcases move.flag with ⟨sameFlag, sameHold⟩ | ⟨-, -, taken, holds⟩ | ⟨-, released, outside⟩
  · rw [sameFlag, sameHold, solo.flag]
  · rw [taken, holds]
  · rw [released, outside]

theorem ran_step (solo : Solo start watch)
    (transit : Run.Transit watch.run watch.station label next scene) :
    next.ran = true ∨ next.stage.holdsFlag = false ∧
      remaining start.parts (watch.history ++ label.toList) ≠ [] := by
  rcases solo.ran with ran | ⟨outside, left⟩
  · left
    cases transit <;> first | exact ran | rfl
  · cases transit with
    | quiet quiet =>
        rw [Option.toList_none, List.append_nil]
        generalize watch.run.stage = stage at quiet outside
        cases quiet with
        | retire | approach | turnAway => exact .inr ⟨rfl, left⟩
        | _ => cases outside
    | takeFlag stage free => exact .inl rfl
    | full stage | exhausted stage _ | take stage _ | settleAtOnce stage _ | handOver stage _
    | settle stage _ | lookOn stage _ =>
        rw [stage] at outside
        cases outside

/-- With one batch at a time, the batch in hand stays the first that is left. -/
theorem leading_step (ready : start.Ready) (solo : Solo start watch)
    (transit : Run.Transit watch.run watch.station label next scene)
    (few : watch.run.stage.unsettled.length ≤ 1)
    (leading : watch.run.stage.unsettled <+: remaining start.parts watch.history) :
    next.stage.unsettled <+: remaining start.parts (watch.history ++ label.toList) := by
  have fits := solo.fits_step ready transit
  have alone {batch : List Event} {others : List (List Event)}
      (few : (batch :: others).length ≤ 1) : others = [] :=
    List.eq_nil_of_length_eq_zero (Nat.le_zero.mp (Nat.le_of_succ_le_succ few))
  cases transit with
  | quiet quiet =>
      rw [Option.toList_none, List.append_nil]
      generalize watch.run.stage = stage at quiet leading
      cases quiet with
      | handedOver flight flights => exact leading
      | _ => exact List.nil_prefix
  | takeFlag stage free => exact List.nil_prefix
  | full stage =>
      rw [stage] at leading
      simpa [Run.goTo, RunStage.unsettled] using leading
  | exhausted stage nothing =>
      rw [stage] at leading
      rw [(unchanged_of_no_delivery start.parts watch.history (by simp)).2]
      simpa [Run.goTo, RunStage.unsettled] using leading
  | take stage something => exact fits.2.1
  | @settleAtOnce batch batches flights failure stage outcome =>
      rw [stage] at few
      have none_left : (RunStage.starting batches flights).unsettled = [] := alone few
      show (RunStage.starting batches flights).unsettled <+: _
      rw [none_left]
      exact List.nil_prefix
  | @handOver batch batches flights stage pending =>
      rw [stage] at few leading
      obtain ⟨rfl, rfl⟩ : batches = [] ∧ flights = [] := by
        simpa [RunStage.unsettled] using few
      rw [Option.toList_none, List.append_nil]
      exact leading
  | @settle flight later waiting failure stage outcome =>
      rw [stage] at few
      have none_left : (RunStage.awaiting later waiting).unsettled = [] := alone few
      show (RunStage.awaiting later waiting).unsettled <+: _
      rw [none_left]
      exact List.nil_prefix
  | @lookOn flight later waiting stage pending =>
      rw [stage] at few leading
      obtain ⟨rfl, rfl⟩ : later = [] ∧ waiting = [] := by
        simpa [RunStage.unsettled] using few
      rw [Option.toList_none, List.append_nil]
      exact leading

theorem ordered_step (ready : start.Ready) (solo : Solo start watch)
    (transit : Run.Transit watch.run watch.station label next scene)
    (single : start.queue.settings.concurrency = 1) :
    deliveries (watch.history ++ label.toList) ++
        remaining start.parts (watch.history ++ label.toList) = start.parts ∧
      next.stage.unsettled <+: remaining start.parts (watch.history ++ label.toList) := by
  obtain ⟨sequence, leading⟩ := solo.ordered single
  have few : watch.run.stage.unsettled.length ≤ 1 :=
    Nat.le_trans (RunStage.unsettled_length_le _) (single ▸ solo.room)
  refine ⟨?_, solo.leading_step ready transit few leading⟩
  by_cases delivery : ∃ batch, label = some (.settled batch none)
  · obtain ⟨batch, rfl⟩ := delivery
    have only : watch.run.stage.unsettled = [batch] := by
      obtain ⟨front, back, split⟩ := List.append_of_mem transit.settled_mem
      rw [split] at few ⊢
      obtain ⟨rfl, rfl⟩ : front = [] ∧ back = [] := by
        simpa [List.length_append, ← Nat.add_assoc] using few
      rfl
    obtain ⟨rest, split⟩ := only ▸ leading
    rw [← split] at sequence
    rw [deliveries_append, remaining_append, ← split]
    simpa [deliveries, settlements, settlement?, remaining, leave] using sequence
  · rw [not_exists] at delivery
    obtain ⟨delivered, left⟩ := unchanged_of_no_delivery start.parts watch.history delivery
    rw [delivered, left]
    exact sequence

theorem handed_step (solo : Solo start watch)
    (transit : Run.Transit watch.run watch.station label next scene) :
    (watch.handed ++ watch.run.handed?.toList).Perm
      ((settlements (watch.history ++ label.toList)).map Prod.fst ++
        next.stage.flights.map Flight.batch) := by
  rw [settlements_append, List.map_append, List.append_assoc]
  refine (solo.handed.append_right _).trans ?_
  rw [List.append_assoc]
  exact transit.flights.append_left _

theorem handedParts_step (solo : Solo start watch) :
    ∀ batch ∈ watch.handed ++ watch.run.handed?.toList, batch ∈ start.parts := by
  rw [List.forall_mem_append]
  refine ⟨solo.handedParts, fun batch member => ?_⟩
  have inHand : batch ∈ watch.run.stage.unsettled := by
    unfold Run.handed? at member
    split at member
    next stage => simpa [stage, RunStage.unsettled] using Or.inl (List.mem_singleton.mp member)
    · cases member
  exact (remaining_sublist _ _).subset (solo.fits.unsettled_mem batch inHand)

theorem step (ready : start.Ready) (solo : Solo start watch) {after : Station}
    (stepped : watch.run.step? watch.station = some (next, after)) :
    Solo start (watch.onward next after) := by
  have accounted := solo.accounted ready
  have move := Run.step?_move stepped
  have transit := Run.step?_transit accounted.faultless stepped
  have recorded : Recorded start watch.history watch.station
      (watch.run.stage.unsettled ++ []) := by
    rw [List.append_nil]
    exact solo.recorded
  have counters := move.counters
  unfold Watch.onward
  exact {
    recorded := by simpa using recorded.move accounted move
    stored := solo.stored_step ready move transit
    balance := solo.balance_step transit
    fits := solo.fits_step ready transit
    flag := solo.flag_step move
    ran := solo.ran_step transit
    handed := solo.handed_step transit
    handedParts := solo.handedParts_step
    deliveredBatches := by
      rw [counters.1, solo.deliveredBatches, deliveries_append, List.length_append, Nat.add_assoc]
    failedBatches := by
      rw [counters.2, solo.failedBatches, failures_append, List.length_append, Nat.add_assoc]
    room := by
      rcases move.capacity with within | fresh
      · exact Nat.le_trans within solo.room
      · rw [fresh]
        exact (solo.effectiveConcurrency ready).2
    ordered := solo.ordered_step ready transit }

end Step

variable {start : Station} {watch : Watch}

theorem next (ready : start.Ready) (solo : Solo start watch) (weather : Scene → Scene) :
    Solo start (watch.next weather) := by
  have changed := solo.withScene (weather watch.station.scene)
  unfold Watch.next
  dsimp only
  split
  next run after stepped => exact changed.step ready stepped
  · exact changed.wake

theorem after (ready : start.Ready) {first : Watch} (solo : Solo start first)
    (weather : Nat → Scene → Scene) (count : Nat) : Solo start (first.after weather count) := by
  induction count with
  | zero => exact solo
  | succ count inductionHypothesis => exact inductionHypothesis.next ready (weather count)

end Solo

end Telemetry
