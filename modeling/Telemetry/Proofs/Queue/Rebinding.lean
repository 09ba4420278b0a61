import Telemetry.Proofs.Queue.WakeUp

/-!
Contract: to which transport a batch goes when the queue is bound anew.

Owns:
- `Incident`, what happens to the transports of a queue, and the incidents that
  the deeds of an interleaving are, in order;
- `Crew.Informed`: every task that has begun keeps the transport that was bound
  when it did;
- the transport of a batch, and when that is the one bound last.

A run looks for its transport once. It lasts until the queue is idle, however
many rounds that takes, and a binding in the meantime reaches none of them.
-/

namespace Telemetry

inductive Incident where
  | bound (transport : Transport)
  /-- The task at a position looks for its transport. -/
  | began (task : Nat)
  | handed (task : Nat) (transport : Transport) (batch : List Event)

namespace Incident

def binding? : Incident → Option Transport
  | .bound transport => some transport
  | _ => none

/-- The transport that was bound last. -/
def latestBound (incidents : List Incident) : Option Transport :=
  (incidents.filterMap binding?).getLast?

theorem latestBound_append (earlier later : List Incident) :
    latestBound (earlier ++ later) = (latestBound later).or (latestBound earlier) := by
  rw [latestBound, List.filterMap_append, List.getLast?_append]
  rfl

theorem latestBound_append_of_none (earlier : List Incident) {later : List Incident}
    (none : ∀ incident ∈ later, incident.binding? = none) :
    latestBound (earlier ++ later) = latestBound earlier := by
  have nothing : latestBound later = .none := by
    rw [latestBound, List.filterMap_eq_nil_iff.mpr none]
    rfl
  rw [latestBound_append, nothing, Option.none_or]

/-- The task began once, and the transport was the one bound last before that. -/
def BeganWith (task : Nat) (transport : Transport) (incidents : List Incident) : Prop :=
  ∃ opening since, incidents = opening ++ .began task :: since ∧
    .began task ∉ opening ∧ .began task ∉ since ∧ latestBound opening = some transport

theorem BeganWith.append {task : Nat} {transport : Transport} {incidents : List Incident}
    (beganWith : BeganWith task transport incidents) {more : List Incident}
    (other : .began task ∉ more) : BeganWith task transport (incidents ++ more) := by
  obtain ⟨opening, since, rfl, notBefore, notSince, bound⟩ := beganWith
  refine ⟨opening, since ++ more, ?_, notBefore, ?_, bound⟩
  · rw [List.append_assoc, List.cons_append]
  · rw [List.mem_append, not_or]
    exact ⟨notSince, other⟩

end Incident

open Incident

namespace Station

/-- A batch is handed to a transport, and settled if there is an outcome at once. -/
def hand (station : Station) (transport : Transport) (batch : List Event) : Station :=
  let (call, scene) := transport.start batch station.scene
  match call.outcome? with
  | some failure => { station with scene }.settle batch station.scene.now failure
  | none => { station with scene }

end Station

namespace Run

variable {run next : Run} {station after : Station}

/-- A run hands its batches to the transport that it keeps. -/
theorem step?_of_handed? {batch : List Event} (handed : run.handed? = some batch)
    (stepped : run.step? station = some (next, after)) :
    after = station.hand run.processor batch := by
  unfold handed? at handed
  split at handed
  next batches flights stage =>
    cases handed
    unfold Station.hand
    cases outcome : (run.processor.start batch station.scene).1.outcome? with
    | none =>
        cases (Branch.handOver stage outcome).step?.symm.trans stepped
        simp only [outcome]
    | some failure =>
        cases (Branch.settleAtOnce stage outcome).step?.symm.trans stepped
        simp only [outcome]
  · cases handed

theorem Move.keeps_processor {label : Option Occurrence}
    (move : Move run station label next after) : next.processor = run.processor := by
  cases move <;> rfl

end Run

namespace RunTask

theorem begin_eq_active {queue : Queue} {run : Run}
    (begun : begin queue = .active run) : queue.processor = some run.processor := by
  unfold begin Run.start at begun
  cases bound : queue.processor with
  | none =>
      rw [bound] at begun
      cases begun
  | some processor =>
      rw [bound] at begun
      cases begun
      rfl

theorem begin_ne_scheduled (queue : Queue) : begin queue ≠ .scheduled := by
  unfold begin
  split <;> exact RunTask.noConfusion

end RunTask

namespace Deed

def incident? : Deed → Option Incident
  | .bind transport => some (.bound transport)
  | .begin task => some (.began task)
  | .advance task run _ => run.handed?.map (.handed task run.processor)
  | _ => none

def incidents (deeds : List Deed) : List Incident :=
  deeds.filterMap incident?

theorem incidents_append_one (deeds : List Deed) (deed : Deed) :
    incidents (deeds ++ [deed]) = incidents deeds ++ deed.incident?.toList := by
  rw [incidents, List.filterMap_append]
  cases same : deed.incident? <;> simp [incidents, same]

end Deed

namespace Crew

variable {crew after : Crew} {deed : Deed}

/-- A batch is handed over by an active task, to the transport that its run keeps. -/
theorem Step.handed (step : Step crew deed after) {task : Nat} {transport : Transport}
    {batch : List Event} (handed : deed.incident? = some (.handed task transport batch)) :
    ∃ run, crew.tasks[task]? = some (.active run) ∧ run.processor = transport ∧
      after.station = crew.station.hand transport batch := by
  cases step with
  | @advance station next owed earlier later run nextRun stepped =>
      obtain ⟨handedBatch, nextBatch, same⟩ := Option.map_eq_some_iff.mp handed
      cases same
      exact ⟨run, by simp, rfl, Run.step?_of_handed? nextBatch stepped⟩
  | _ => cases handed

/-! ### Tasks and their transports -/

/-- What the incidents say about the queue and its tasks. -/
structure Informed (incidents : List Incident) (crew : Crew) : Prop where
  bound : latestBound incidents = crew.station.queue.processor
  waiting : ∀ task, (∀ present, crew.tasks[task]? = some present → present = .scheduled) →
    .began task ∉ incidents
  active : ∀ task run, crew.tasks[task]? = some (.active run) →
    BeganWith task run.processor incidents

namespace Informed

variable {incidents more : List Incident}

/-- A step that leaves the tasks as they are, apart from one that is new. -/
theorem kept (informed : Informed incidents crew)
    (bound : latestBound (incidents ++ more) = after.station.queue.processor)
    (noneBegan : ∀ task, .began task ∉ more)
    (tasks : after.tasks = crew.tasks ∨ after.tasks = crew.tasks ++ [.scheduled]) :
    Informed (incidents ++ more) after := by
  refine ⟨bound, ?_, ?_⟩
  · intro task scheduled
    rw [List.mem_append, not_or]
    refine ⟨informed.waiting task ?_, noneBegan task⟩
    intro present presentEq
    apply scheduled
    rcases tasks with same | grown
    · rw [same, presentEq]
    · rw [grown, List.getElem?_append_left (List.getElem?_eq_some_iff.mp presentEq).1, presentEq]
  · intro task run active
    apply (informed.active task run ?_).append (noneBegan task)
    rcases tasks with same | grown
    · rw [← same, active]
    · rw [grown, List.getElem?_append] at active
      split at active
      · exact active
      · -- The new task is not active.
        rw [List.getElem?_singleton] at active
        split at active <;> cases active

/-- A step of the task between the others. -/
theorem replaced {station next : Station} {owed : Nat} {earlier later : List RunTask}
    {old new : RunTask} (informed : Informed incidents ⟨station, owed, earlier ++ old :: later⟩)
    (bound : latestBound (incidents ++ more) = next.queue.processor)
    (othersWait : ∀ task, task ≠ earlier.length → .began task ∉ more)
    (begun : new ≠ .scheduled)
    (active : ∀ run, new = .active run →
      BeganWith earlier.length run.processor (incidents ++ more)) :
    Informed (incidents ++ more) ⟨next, owed, earlier ++ new :: later⟩ := by
  have self : (earlier ++ new :: later)[earlier.length]? = some new := by simp
  have others {task : Nat} (other : task ≠ earlier.length) :
      (earlier ++ new :: later)[task]? = (earlier ++ old :: later)[task]? :=
    getElem?_replaced earlier later old new other
  refine ⟨bound, ?_, ?_⟩
  · intro task scheduled
    have other : task ≠ earlier.length := by
      rintro rfl
      exact begun (scheduled new self)
    rw [List.mem_append, not_or]
    refine ⟨informed.waiting task ?_, othersWait task other⟩
    intro present presentEq
    exact scheduled present ((others other).trans presentEq)
  · intro task run activeTask
    by_cases other : task = earlier.length
    · subst other
      exact active run (Option.some.inj (self.symm.trans activeTask))
    · exact (informed.active task run ((others other).symm.trans activeTask)).append
        (othersWait task other)

/-- A task that has begun goes on with its transport. -/
theorem continued {station next : Station} {owed : Nat} {earlier later : List RunTask}
    {run nextRun : Run}
    (informed : Informed incidents ⟨station, owed, earlier ++ .active run :: later⟩)
    (processor : nextRun.processor = run.processor)
    (queue : next.queue.processor = station.queue.processor)
    (plain : ∀ incident ∈ more, incident.binding? = none ∧ ∀ task, incident ≠ .began task) :
    Informed (incidents ++ more) ⟨next, owed, earlier ++ .active nextRun :: later⟩ := by
  have noneBegan (task : Nat) : .began task ∉ more :=
    fun member => (plain _ member).2 task rfl
  have bound : latestBound (incidents ++ more) = next.queue.processor := by
    rw [latestBound_append_of_none _ fun incident member => (plain incident member).1,
      informed.bound, queue]
  refine informed.replaced bound (fun task _ => noneBegan task) RunTask.noConfusion ?_
  rintro _ ⟨⟩
  rw [processor]
  exact (informed.active earlier.length run (by simp)).append (noneBegan _)

/-- A step that concerns neither the queue itself nor the tasks that there are. -/
theorem undisturbed (informed : Informed incidents crew)
    (queue : after.station.queue = crew.station.queue)
    (tasks : after.tasks = crew.tasks ∨ after.tasks = crew.tasks ++ [.scheduled]) :
    Informed (incidents ++ []) after := by
  refine informed.kept ?_ (by simp) tasks
  rw [queue, ← informed.bound, List.append_nil]

theorem step (informed : Informed incidents crew) (step : Step crew deed after) :
    Informed (incidents ++ deed.incident?.toList) after := by
  cases step with
  | push events pushed => exact informed.undisturbed (Station.push_queue pushed) (.inl rfl)
  | pushFails events failed => exact informed.undisturbed (Station.push_queue failed) (.inl rfl)
  | startOwed => exact informed.undisturbed rfl (.inr rfl)
  | call => exact informed.undisturbed rfl (.inr rfl)
  | flush flushed => exact informed.undisturbed (Station.flush_queue flushed) (.inl rfl)
  | flushFails failed => exact informed.undisturbed (Station.flush_queue failed) (.inl rfl)
  | begin earlier later =>
      have notBegun : .began earlier.length ∉ incidents := by
        apply informed.waiting
        simp
      have unbound : latestBound (incidents ++ [.began earlier.length]) = latestBound incidents :=
        latestBound_append_of_none _ (by simp [binding?])
      refine informed.replaced (unbound.trans informed.bound) ?_ (RunTask.begin_ne_scheduled _) ?_
      · intro task other
        simpa [Deed.incident?] using other
      · intro run begun
        exact ⟨incidents, [], rfl, notBegun, List.not_mem_nil,
          informed.bound.trans (RunTask.begin_eq_active begun)⟩
  | advance earlier later stepped =>
      have move := Run.step?_move stepped
      refine informed.continued move.keeps_processor move.processor_eq ?_
      intro incident member
      obtain ⟨batch, -, rfl⟩ := Option.map_eq_some_iff.mp (Option.mem_toList.mp member)
      exact ⟨rfl, fun task => Incident.noConfusion⟩
  | wake earlier later run =>
      exact informed.continued run.wake_processor rfl (by simp [Deed.incident?])
  | bind transport =>
      refine informed.kept ?_ (by simp [Deed.incident?]) (.inl rfl)
      rw [latestBound_append]
      rfl
  | pass scene forward => exact informed.undisturbed rfl (.inl rfl)

end Informed

theorem Reached.informed {start : Crew} {deeds : List Deed} (reached : Reached start deeds crew)
    (informed : Informed [] start) : Informed (Deed.incidents deeds) crew := by
  induction reached with
  | start => exact informed
  | step _ step inductionHypothesis =>
      rw [Deed.incidents_append_one]
      exact inductionHypothesis.step step

/-- A queue without a transport, whose store is empty. -/
def fresh (queue : Queue) (faults : StoreFaults) (scene : Scene) : Crew :=
  ⟨⟨queue, { faults }, scene⟩, 0, []⟩

/-- In every interleaving: a batch is handed to the transport that was bound last when the task
that hands it over began. This is the transport that is bound last now exactly if none but it was
the last one bound since then. -/
theorem batches_go_to_the_transport_bound_when_their_run_began {settings : QueueSettings}
    {observer : Observer} {queue : Queue} (made : Queue.make settings observer = .ok queue)
    (faults : StoreFaults) (scene : Scene) {deeds : List Deed}
    (reached : Reached (fresh queue faults scene) deeds crew) (step : Step crew deed after)
    {task : Nat} {transport : Transport} {batch : List Event}
    (handed : deed.incident? = some (.handed task transport batch)) :
    after.station = crew.station.hand transport batch ∧
    latestBound (Deed.incidents deeds) = crew.station.queue.processor ∧
    ∃ opening since, Deed.incidents deeds = opening ++ .began task :: since ∧
      .began task ∉ opening ∧ .began task ∉ since ∧
      latestBound opening = some transport ∧
      (latestBound (Deed.incidents deeds) = some transport ↔
        ∀ rebound, latestBound since = some rebound → rebound = transport) := by
  obtain ⟨rfl, -⟩ := Queue.make_eq_ok made
  have informed : Informed (Deed.incidents deeds) crew :=
    reached.informed ⟨rfl, fun _ _ => List.not_mem_nil, fun _ _ active => by cases active⟩
  obtain ⟨run, active, rfl, started⟩ := step.handed handed
  obtain ⟨opening, since, split, notBefore, notSince, boundThen⟩ := informed.active task run active
  rw [split] at informed ⊢
  refine ⟨started, informed.bound, opening, since, rfl, notBefore, notSince, boundThen, ?_⟩
  have boundNow : latestBound (opening ++ .began task :: since) =
      (latestBound since).or (some run.processor) := by
    rw [latestBound_append, boundThen]
    rfl
  rw [boundNow]
  cases latestBound since with
  | none => simp
  | some rebound => simp

/-! ### A queue that is bound anew -/

def switchboard : Scene where
  collectors := [{ name := "first" }, { name := "second" }]

def switchboardQueue : Queue where
  settings := { batchSize := 1, batchDelay := 100, concurrency := 1 }
  observer := .notes

def switchboardPress (id : String) : Event :=
  .make { type := "PressEvent" } id 0

/-- The queue is bound anew before the task begins, and once more to the same transport while a
batch is in hand. The batch goes to that transport. -/
theorem batch_goes_to_the_transport_bound_before_its_run :
    ∃ deeds crew deed after,
      Queue.make { batchSize := 1, batchDelay := 100, concurrency := 1 } .notes =
        .ok switchboardQueue ∧
      Reached (fresh switchboardQueue {} switchboard) deeds crew ∧ Step crew deed after ∧
      deed.incident? =
        some (.handed 0 (.collector 1 "second") [switchboardPress "e-0"]) ∧
      ∃ opening since, Deed.incidents deeds = opening ++ .began 0 :: since ∧
        latestBound opening = some (.collector 1 "second") ∧
        (latestBound (Deed.incidents deeds) = some (.collector 1 "second") ↔
          ∀ rebound, latestBound since = some rebound → rebound = .collector 1 "second") := by
  have bound : Reached (fresh switchboardQueue {} switchboard) _ _ :=
    .step .start (.bind (.collector 0 "first"))
  have pushed := bound.step (.push [switchboardPress "e-0"] rfl)
  have rebound := (pushed.step .startOwed).step (.bind (.collector 1 "second"))
  have begun := rebound.step (.begin [] [])
  have claimed := (begun.step (.advance [] [] rfl)).step (.advance [] [] rfl)
  have yielded := (claimed.step (.advance [] [] rfl)).step (.advance [] [] rfl)
  have gathered := (yielded.step (.wake [] [] _)).step (.advance [] [] rfl)
  have dispatched := (gathered.step (.advance [] [] rfl)).step (.advance [] [] rfl)
  have reboundAgain := dispatched.step (.bind (.collector 1 "second"))
  have made : Queue.make { batchSize := 1, batchDelay := 100, concurrency := 1 } .notes =
      .ok switchboardQueue := rfl
  obtain ⟨-, -, opening, since, split, -, -, boundThen, same⟩ :=
    batches_go_to_the_transport_bound_when_their_run_began made {} switchboard reboundAgain
      (.advance [] [] rfl) rfl
  exact ⟨_, _, _, _, made, reboundAgain, .advance [] [] rfl, rfl, opening, since, split, boundThen,
    same⟩

/-- The queue is bound anew between two rounds of a run. The batch of the second round still
goes to the former transport. -/
theorem rebound_queue_serves_its_former_transport :
    ∃ deeds crew deed after,
      Queue.make { batchSize := 1, batchDelay := 100, concurrency := 1 } .notes =
        .ok switchboardQueue ∧
      Reached (fresh switchboardQueue {} switchboard) deeds crew ∧
      Deed.incidents deeds =
        [.bound (.collector 0 "first"), .began 0,
          .handed 0 (.collector 0 "first") [switchboardPress "e-0"],
          .bound (.collector 1 "second")] ∧
      Step crew deed after ∧
      deed.incident? = some (.handed 0 (.collector 0 "first") [switchboardPress "e-1"]) ∧
      crew.station.queue.processor = some (.collector 1 "second") ∧
      latestBound (Deed.incidents deeds) = some (.collector 1 "second") := by
  have bound : Reached (fresh switchboardQueue {} switchboard) _ _ :=
    .step .start (.bind (.collector 0 "first"))
  have pushed := bound.step (.push [switchboardPress "e-0", switchboardPress "e-1"] rfl)
  have begun := (pushed.step .startOwed).step (.begin [] [])
  have claimed := (begun.step (.advance [] [] rfl)).step (.advance [] [] rfl)
  have yielded := (claimed.step (.advance [] [] rfl)).step (.advance [] [] rfl)
  have gathered := (yielded.step (.wake [] [] _)).step (.advance [] [] rfl)
  have dispatched := (gathered.step (.advance [] [] rfl)).step (.advance [] [] rfl)
  have handed := dispatched.step (.advance [] [] rfl)
  have drained := (handed.step (.advance [] [] rfl)).step (.advance [] [] rfl)
  have delayed := drained.step (.advance [] [] rfl)
  have rebound := delayed.step (.bind (.collector 1 "second"))
  have due := rebound.step (.pass { switchboard with now := 100 } (by decide))
  have gatheredAgain := (due.step (.advance [] [] rfl)).step (.advance [] [] rfl)
  have dispatchedAgain := (gatheredAgain.step (.advance [] [] rfl)).step (.advance [] [] rfl)
  exact ⟨_, _, _, _, rfl, dispatchedAgain, rfl, .advance [] [] rfl, rfl, rfl, rfl⟩

end Crew

end Telemetry
