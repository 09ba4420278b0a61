import Telemetry.Proofs.Queue.Breakdown

/-!
Contract: a run whose transport is a collector, with an outcome assigned to each
of its calls.

Owns:
- `ticking`, surroundings in which nothing but the clock moves;
- `Attended`, what holds of such a run at all times: it waits for nothing but
  the collector, and has no more failures than were assigned to its calls;
- that a call of the collector gets its outcome when its time has come, and with
  it that the surroundings of the run are fair;
- the main theorem about draining, in fair surroundings and for collectors: when
  everything is delivered, and what is left behind otherwise.
-/

namespace Telemetry

open Occurrence

/-- Time passes by a clock, and nothing else changes. -/
def ticking (clock : Nat → Nat) (count : Nat) (scene : Scene) : Scene :=
  { scene with now := max scene.now (clock count) }

/-- The number of failures that are assigned to the first `calls` calls. -/
def failingCalls (answer : Nat → Reply) (calls : Nat) : Nat :=
  (List.range calls).countP fun call => (answer call).failure.isSome

theorem failingCalls_succ (answer : Nat → Reply) (calls : Nat) :
    failingCalls answer (calls + 1) =
      failingCalls answer calls + if (answer calls).failure.isSome then 1 else 0 := by
  rw [failingCalls, List.range_succ, List.countP_append, List.countP_singleton]
  rfl

theorem failingCalls_le {answer : Nat → Reply} {limit : Nat}
    (finite : ∀ call, limit ≤ call → (answer call).failure = none) (calls : Nat) :
    failingCalls answer calls ≤ limit := by
  -- Up to the limit each call may fail, and no later one does.
  have within : failingCalls answer calls ≤ min calls limit := by
    induction calls with
    | zero => exact Nat.zero_le _
    | succ calls inductionHypothesis =>
        rw [failingCalls_succ]
        by_cases early : calls < limit
        · split <;> omega
        · rw [finite calls (Nat.not_lt.mp early), Option.isSome_none, if_neg Bool.false_ne_true]
          omega
  omega

/-! ### One collector -/

namespace Scene

variable {scene : Scene} {index : Nat} {collector : Collector}

/-- A call has the outcome that is assigned to it, at once or when it is due. -/
theorem callCollector_of_present (present : scene.collectors[index]? = some collector)
    (name : String) (events : List Event) :
    (scene.callCollector index name events).1 =
        (if (collector.answer collector.calls).duration = 0 then
          .settled (collector.answer collector.calls).failure
        else
          .collecting index name (scene.now + (collector.answer collector.calls).duration)
            (collector.answer collector.calls).failure) ∧
      ∃ later, (scene.callCollector index name events).2.collectors[index]? = some later ∧
        later.answer = collector.answer ∧ later.calls = collector.calls + 1 := by
  have inside : index < scene.collectors.length := (List.getElem?_eq_some_iff.mp present).1
  have reply : collector.begin.1 = collector.answer collector.calls := rfl
  rw [← reply]
  by_cases prompt : collector.begin.1.duration = 0
  · simp only [callCollector, present, if_pos prompt]
    simp [answered, modifyCollector, note, inside, Collector.finish, Collector.begin]
  · simp only [callCollector, present, if_neg prompt]
    simp [note, inside, Collector.begin]

theorem answered_of_present (present : scene.collectors[index]? = some collector) (name : String)
    (failure : Option TransportError) :
    (scene.answered index name failure).collectors[index]? = some collector.finish := by
  have inside : index < scene.collectors.length := (List.getElem?_eq_some_iff.mp present).1
  simp only [answered, modifyCollector, present]
  simp [note, inside]

end Scene

theorem length_failures_settled (batch : List Event) (failure : Option TransportError) :
    (failures (some (Occurrence.settled batch failure)).toList).length =
      if failure.isSome then 1 else 0 := by
  cases failure <;> rfl

/-- The batch in hand will fail. -/
def Flight.fails (flight : Flight) : Bool :=
  match flight.call with
  | .collecting _ _ _ failure => failure.isSome
  | _ => false

/-- The run delivers to a collector and waits for nothing else, and no batch fails unless its
call was assigned a failure. -/
structure Attended (index : Nat) (name : String) (answer : Nat → Reply) (run : Run)
    (scene : Scene) (history : List Occurrence) : Prop where
  processor : run.processor = .collector index name
  calls : ∀ flight ∈ run.stage.flights, ∃ due failure,
    flight.call = .collecting index name due failure
  collector : ∃ collector, scene.collectors[index]? = some collector ∧
    collector.answer = answer ∧
    (failures history).length + run.stage.flights.countP Flight.fails ≤
      failingCalls answer collector.calls

namespace Attended

variable {index : Nat} {name : String} {answer : Nat → Reply} {run next : Run}
  {scene changed : Scene} {history : List Occurrence}

/-- A step that neither calls the collector nor has an answer. -/
theorem unanswered (attended : Attended index name answer run scene history)
    (label : Option Occurrence) (processor : next.processor = run.processor)
    (flights : next.stage.flights.Perm run.stage.flights)
    (collectors : changed.collectors = scene.collectors) (noFailure : failures label.toList = []) :
    Attended index name answer next changed (history ++ label.toList) where
  processor := processor.trans attended.processor
  calls := fun flight member => attended.calls flight (flights.subset member)
  collector := by
    rw [failures_append, noFailure, List.append_nil, flights.countP_eq, collectors]
    exact attended.collector

theorem wake (attended : Attended index name answer run scene history) :
    Attended index name answer run.wake scene history := by
  have flights : run.wake.stage.flights.Perm run.stage.flights := by
    unfold Run.wake
    split
    next stage => simp [stage, Run.goTo, RunStage.flights]
    next stage => simp [stage, Run.goTo, RunStage.flights]
    · exact .refl _
  have unchanged : Attended index name answer run.wake scene
      (history ++ (none : Option Occurrence).toList) :=
    attended.unanswered none run.wake_processor flights rfl rfl
  simpa using unchanged

theorem step {station : Station} {label : Option Occurrence}
    (attended : Attended index name answer run station.scene history)
    (transit : Run.Transit run station label next changed) :
    Attended index name answer next changed (history ++ label.toList) := by
  have started (batch : List Event) : run.processor.start batch station.scene =
      station.scene.callCollector index name batch := by
    rw [attended.processor]
    rfl
  obtain ⟨collector, present, rfl, balance⟩ := attended.collector
  cases transit with
  | quiet quiet =>
      refine attended.unanswered none rfl (.of_eq ?_) rfl rfl
      generalize run.stage = stage at quiet
      cases quiet <;> rfl
  | takeFlag stage free =>
      exact attended.unanswered none rfl (.of_eq (by rw [stage]; rfl)) rfl rfl
  | full stage => exact attended.unanswered none rfl (.of_eq (by rw [stage]; rfl)) rfl rfl
  | exhausted stage nothing =>
      exact attended.unanswered (some (.read [])) rfl (.of_eq (by rw [stage]; rfl)) rfl rfl
  | take stage something =>
      exact attended.unanswered (some (.read _)) rfl (.of_eq (by rw [stage]; rfl)) rfl rfl
  | @settleAtOnce batch batches flights failure stage outcome =>
      obtain ⟨called, later, presentLater, sameAnswer, counted⟩ :=
        Scene.callCollector_of_present present name batch
      rw [← started] at called presentLater
      rw [called] at outcome
      have calls := attended.calls
      rw [stage] at balance calls
      refine ⟨attended.processor, calls, later, ?_, sameAnswer, ?_⟩
      · rw [(Station.settle_scene ..).2]
        exact presentLater
      · split at outcome <;> cases outcome
        rw [failures_append, List.length_append, counted, failingCalls_succ,
          length_failures_settled]
        simp only [Run.goTo, RunStage.flights] at balance ⊢
        omega
  | @handOver batch batches flights stage pending =>
      obtain ⟨called, later, presentLater, sameAnswer, counted⟩ :=
        Scene.callCollector_of_present present name batch
      rw [← started] at called presentLater
      have calls := attended.calls
      rw [stage] at balance calls
      split at called
      · rw [called] at pending
        cases pending
      · refine ⟨attended.processor, ?_, later, presentLater, sameAnswer, ?_⟩
        · simp only [Run.goTo, RunStage.flights, List.forall_mem_append, List.forall_mem_singleton]
          exact ⟨calls, _, _, called⟩
        · have assigned : Flight.fails ⟨batch, station.scene.now,
                (run.processor.start batch station.scene).1⟩ =
              (collector.answer collector.calls).failure.isSome := by
            rw [Flight.fails, called]
          rw [Option.toList_none, List.append_nil, counted, failingCalls_succ]
          simp only [Run.goTo, RunStage.flights, List.countP_append, List.countP_singleton,
            assigned] at balance ⊢
          omega
  | @settle flight later waiting failure stage outcome =>
      have calls := attended.calls
      rw [stage] at balance calls
      simp only [RunStage.flights, List.cons_append, List.forall_mem_cons,
        List.countP_cons] at balance calls
      obtain ⟨⟨due, assigned, call⟩, others⟩ := calls
      simp only [call, Call.resume] at outcome ⊢
      split at outcome <;> cases outcome
      rename_i passed
      refine ⟨attended.processor, others, collector.finish, ?_, rfl, ?_⟩
      · rw [(Station.settle_scene ..).2, if_pos passed]
        exact Scene.answered_of_present present name failure
      · simp only [Flight.fails, call] at balance
        simp only [failures_append, List.length_append, length_failures_settled, Run.goTo,
          RunStage.flights, Collector.finish]
        omega
  | @lookOn flight later waiting stage pending =>
      have calls := attended.calls
      rw [stage] at calls
      simp only [RunStage.flights, List.cons_append, List.forall_mem_cons] at calls
      obtain ⟨⟨due, assigned, call⟩, -⟩ := calls
      by_cases passed : due ≤ station.scene.now
      · simp [call, Call.resume, passed, Call.outcome?] at pending
      · simp only [call, Call.resume, if_neg passed]
        rw [← call]
        refine attended.unanswered none rfl ?_ rfl rfl
        rw [stage]
        exact perm_of_sent_back flight later waiting

theorem begin {start : Station} {collector : Collector}
    (begun : Run.start start.queue = .ok run) (processor : run.processor = .collector index name)
    (present : start.scene.collectors[index]? = some collector) :
    Attended index name collector.answer run start.scene [] := by
  unfold Run.start at begun
  split at begun <;> cases begun
  exact ⟨processor, List.forall_mem_nil _, collector, present, rfl, Nat.zero_le _⟩

theorem after {start : Station} {first : Watch} (ready : start.Ready) (solo : Solo start first)
    (attended : Attended index name answer first.run first.station.scene first.history)
    (clock : Nat → Nat) (count : Nat) :
    Attended index name answer (first.after (ticking clock) count).run
      (first.after (ticking clock) count).station.scene
      (first.after (ticking clock) count).history := by
  induction count with
  | zero => exact attended
  | succ count inductionHypothesis =>
      have later : Attended index name answer (first.after (ticking clock) count).run
          (ticking clock count (first.after (ticking clock) count).station.scene)
          (first.after (ticking clock) count).history :=
        ⟨inductionHypothesis.processor, inductionHypothesis.calls, inductionHypothesis.collector⟩
      rw [Watch.after]
      rcases Watch.next_cases ready (solo.after ready (ticking clock) count) (ticking clock count)
        with ⟨next, after, label, transit, moved⟩ | ⟨-, moved⟩
      · rw [moved]
        exact later.step transit
      · rw [moved]
        exact later.wake

end Attended

/-! ### Answers -/

namespace Watch

variable {watch : Watch} (weather : Scene → Scene)

/-- The run looks at a call of a collector, which has its outcome when it is due. -/
theorem next_awaiting {flight : Flight} {later waiting : List Flight} {index due : Nat}
    {name : String} {failure : Option TransportError}
    (stage : watch.run.stage = .awaiting (flight :: later) waiting)
    (call : flight.call = .collecting index name due failure) :
    due ≤ (weather watch.station.scene).now ∧
        settlements (watch.next weather).history =
          settlements watch.history ++ [(flight.batch, failure)] ∨
      (weather watch.station.scene).now < due ∧
        (watch.next weather).history = watch.history ∧
        (watch.next weather).run.stage = .awaiting later (waiting ++ [flight]) := by
  by_cases passed : due ≤ (weather watch.station.scene).now
  · have outcome : (flight.call.resume (weather watch.station.scene)).1.outcome? =
        some failure := by
      simp [call, Call.resume, passed, Call.outcome?]
    rw [next_of_branch (.settle stage outcome)]
    exact .inl ⟨passed, settlements_append _ _⟩
  · have same : (flight.call.resume (weather watch.station.scene)).1 = flight.call := by
      simp [call, Call.resume, passed]
    have pending : (flight.call.resume (weather watch.station.scene)).1.outcome? = none := by
      rw [same, call]
      rfl
    rw [next_of_branch (.lookOn stage pending)]
    have unchanged : ({ flight with
        call := (flight.call.resume (weather watch.station.scene)).1 } : Flight) = flight := by
      rw [same]
    exact .inr ⟨Nat.lt_of_not_le passed, List.append_nil _,
      congrArg (fun flight => RunStage.awaiting later (waiting ++ [flight])) unchanged⟩

/-- A run that has looked at all its calls begins again with the first. -/
theorem next_waiting {flight : Flight} {waiting : List Flight}
    (stage : watch.run.stage = .awaiting [] (flight :: waiting)) :
    (watch.next weather).history = watch.history ∧
      (watch.next weather).run.stage = .awaiting (flight :: waiting) [] := by
  rw [next_of_halts (stage ▸ .awaiting flight waiting)]
  refine ⟨rfl, ?_⟩
  simp only [Run.wake, stage]
  rfl

/-- A batch that is handed over has its outcome at once, or is in hand. -/
theorem next_starting {batch : List Event} {batches : List (List Event)} {flights : List Flight}
    (stage : watch.run.stage = .starting (batch :: batches) flights) :
    (∃ failure, settlements (watch.next weather).history =
        settlements watch.history ++ [(batch, failure)]) ∨
      (watch.next weather).history = watch.history ∧
        ∃ flight, (watch.next weather).run.stage = .starting batches (flights ++ [flight]) := by
  cases outcome : (watch.run.processor.start batch (weather watch.station.scene)).1.outcome? with
  | some failure =>
      rw [next_of_branch (.settleAtOnce stage outcome)]
      exact .inl ⟨failure, settlements_append _ _⟩
  | none =>
      rw [next_of_branch (.handOver stage outcome)]
      exact .inr ⟨List.append_nil _, _, rfl⟩

theorem next_started {flight : Flight} {flights : List Flight}
    (stage : watch.run.stage = .starting [] (flight :: flights)) :
    (watch.next weather).history = watch.history ∧
      (watch.next weather).run.stage = .awaiting [] (flight :: flights) := by
  rw [next_of_branch (.await stage)]
  exact ⟨List.append_nil _, rfl⟩

end Watch

/-- The run waits, and for nothing but calls of a collector that are due by some time. -/
def RunStage.AwaitsBy (index : Nat) (name : String) (latest : Nat) : RunStage → Prop
  | .awaiting later waiting => later ++ waiting ≠ [] ∧ ∀ flight ∈ later ++ waiting,
      ∃ due failure, due ≤ latest ∧ flight.call = .collecting index name due failure
  | _ => False

/-- Finitely many calls are all due by some time. -/
theorem exists_latest {index : Nat} {name : String} {flights : List Flight}
    (calls : ∀ flight ∈ flights, ∃ due failure,
      flight.call = .collecting index name due failure) :
    ∃ latest, ∀ flight ∈ flights, ∃ due failure, due ≤ latest ∧
      flight.call = .collecting index name due failure := by
  induction flights with
  | nil => exact ⟨0, List.forall_mem_nil _⟩
  | cons flight flights inductionHypothesis =>
      rw [List.forall_mem_cons] at calls
      obtain ⟨⟨due, failure, call⟩, others⟩ := calls
      obtain ⟨latest, bounded⟩ := inductionHypothesis others
      refine ⟨max due latest, List.forall_mem_cons.mpr ⟨⟨due, failure, ?_, call⟩, ?_⟩⟩
      · exact Nat.le_max_left _ _
      · intro other member
        obtain ⟨otherDue, otherFailure, early, otherCall⟩ := bounded other member
        exact ⟨otherDue, otherFailure, Nat.le_trans early (Nat.le_max_right _ _), otherCall⟩

/-- Some call has its outcome later on. -/
def Settles (first : Watch) (weather : Nat → Scene → Scene) (count : Nat) : Prop :=
  ∃ later, (settlements (first.after weather count).history).length <
    (settlements (first.after weather later).history).length

section Answers

variable {start : Station} {first : Watch} {weather : Nat → Scene → Scene} {index latest : Nat}
  {name : String} {count : Nat}

theorem Settles.of_later {later : Nat} (settles : Settles first weather later)
    (same : (first.after weather later).history = (first.after weather count).history) :
    Settles first weather count := by
  unfold Settles at settles ⊢
  rwa [same] at settles

theorem Settles.of_outcome {settlement : List Event × Option TransportError}
    (settled : settlements (first.after weather (count + 1)).history =
      settlements (first.after weather count).history ++ [settlement]) :
    Settles first weather count := by
  refine ⟨count + 1, ?_⟩
  rw [settled, List.length_append]
  exact Nat.lt_succ_self _

/-- Calls stay in hand until one of them has its outcome. -/
theorem awaitsBy_next
    (awaits : (first.after weather count).run.stage.AwaitsBy index name latest) :
    Settles first weather count ∨
      (first.after weather (count + 1)).history = (first.after weather count).history ∧
        (first.after weather (count + 1)).run.stage.AwaitsBy index name latest := by
  cases stage : (first.after weather count).run.stage with
  | awaiting later waiting =>
      rw [stage] at awaits
      obtain ⟨some_left, due⟩ := awaits
      match later, waiting with
      | [], [] => exact absurd rfl some_left
      | [], flight :: waiting =>
          obtain ⟨same, moved⟩ := Watch.next_waiting (weather count) stage
          refine .inr ⟨same, ?_⟩
          rw [Watch.after, moved]
          exact ⟨by simp, by simpa using due⟩
      | flight :: later, waiting =>
          obtain ⟨time, failure, -, call⟩ := due flight (by simp)
          rcases Watch.next_awaiting (weather count) stage call with
            ⟨-, settled⟩ | ⟨-, same, moved⟩
          · exact .inl (.of_outcome settled)
          · refine .inr ⟨same, ?_⟩
            rw [Watch.after, moved]
            have regrouped := perm_of_sent_back flight later waiting
            exact ⟨by simp, fun other member => due other (regrouped.subset member)⟩
  | _ =>
      rw [stage] at awaits
      cases awaits

theorem awaitsBy_add (awaits : (first.after weather count).run.stage.AwaitsBy index name latest)
    (steps : Nat) :
    Settles first weather count ∨
      (first.after weather (count + steps)).history = (first.after weather count).history ∧
        (first.after weather (count + steps)).run.stage.AwaitsBy index name latest := by
  induction steps with
  | zero => exact .inr ⟨rfl, awaits⟩
  | succ steps inductionHypothesis =>
      rcases inductionHypothesis with settles | ⟨same, stillAwaits⟩
      · exact .inl settles
      · rcases awaitsBy_next stillAwaits with settles | ⟨sameNext, awaitsNext⟩
        · exact .inl (settles.of_later same)
        · exact .inr ⟨sameNext.trans same, awaitsNext⟩

section Clock

variable (ready : start.Ready) (solo : Solo start first)
  (forward : ∀ count, (first.after weather count).station.scene.now ≤
    (weather count (first.after weather count).station.scene).now)

include ready solo forward

/-- When all calls are due, one has its outcome. -/
theorem settles_of_due
    (awaits : (first.after weather count).run.stage.AwaitsBy index name latest)
    (passed : latest ≤ (first.after weather count).station.scene.now) :
    Settles first weather count := by
  -- The first call that the run looks at is due.
  have looked {count : Nat} {flight : Flight} {later waiting : List Flight}
      (stage : (first.after weather count).run.stage = .awaiting (flight :: later) waiting)
      (awaits : (first.after weather count).run.stage.AwaitsBy index name latest)
      (passed : latest ≤ (first.after weather count).station.scene.now) :
      Settles first weather count := by
    rw [stage] at awaits
    obtain ⟨due, failure, early, call⟩ := awaits.2 flight (by simp)
    have now := forward count
    rcases Watch.next_awaiting (weather count) stage call with ⟨-, settled⟩ | ⟨notYet, -⟩
    · exact .of_outcome settled
    · omega
  cases stage : (first.after weather count).run.stage with
  | awaiting later waiting =>
      match later, waiting with
      | flight :: later, waiting => exact looked stage awaits passed
      | [], [] =>
          rw [stage] at awaits
          exact absurd rfl awaits.1
      | [], flight :: waiting =>
          obtain ⟨same, moved⟩ := Watch.next_waiting (weather count) stage
          rcases awaitsBy_next awaits with settles | ⟨-, awaitsNext⟩
          · exact settles
          · have later := Fair.clock_mono ready solo forward (Nat.le_succ count)
            have settles : Settles first weather (count + 1) :=
              looked moved awaitsNext (Nat.le_trans passed later)
            exact settles.of_later same
  | _ =>
      rw [stage] at awaits
      cases awaits

variable (endless : ∀ time, ∃ count, time ≤ (first.after weather count).station.scene.now)

include endless

theorem settles_of_awaitsBy
    (awaits : (first.after weather count).run.stage.AwaitsBy index name latest) :
    Settles first weather count := by
  obtain ⟨steps, passed⟩ := endless latest
  rcases awaitsBy_add awaits steps with settles | ⟨same, stillAwaits⟩
  · exact settles
  · have later := Fair.clock_mono ready solo forward (Nat.le_add_left steps count)
    exact (settles_of_due ready solo forward stillAwaits (Nat.le_trans passed later)).of_later same

variable
  (calls : ∀ count, ∀ flight ∈ (first.after weather count).run.stage.flights, ∃ due failure,
    flight.call = .collecting index name due failure)

include calls

theorem settles_of_awaiting {later waiting : List Flight}
    (stage : (first.after weather count).run.stage = .awaiting later waiting)
    (inHand : later ++ waiting ≠ []) : Settles first weather count := by
  have callsHere := calls count
  rw [stage] at callsHere
  obtain ⟨latest, bounded⟩ := exists_latest callsHere
  exact settles_of_awaitsBy ready solo forward endless (by rw [stage]; exact ⟨inHand, bounded⟩)

theorem settles_of_starting {batches : List (List Event)} {flights : List Flight}
    (stage : (first.after weather count).run.stage = .starting batches flights)
    (inHand : flights ≠ []) : Settles first weather count := by
  induction batches generalizing count flights with
  | nil =>
      obtain ⟨flight, flights, rfl⟩ := List.exists_cons_of_ne_nil inHand
      obtain ⟨same, moved⟩ := Watch.next_started (weather count) stage
      have settles : Settles first weather (count + 1) :=
        settles_of_awaiting ready solo forward endless calls moved (List.cons_ne_nil _ _)
      exact settles.of_later same
  | cons batch batches inductionHypothesis =>
      rcases Watch.next_starting (weather count) stage with
        ⟨failure, settled⟩ | ⟨same, flight, moved⟩
      · exact .of_outcome settled
      · have settles : Settles first weather (count + 1) :=
          inductionHypothesis moved (List.concat_ne_nil _ _)
        exact settles.of_later same

/-- A run with calls of a collector in hand gets to an outcome. -/
theorem settles_of_flights (inHand : (first.after weather count).run.stage.flights ≠ []) :
    Settles first weather count := by
  cases stage : (first.after weather count).run.stage with
  | awaiting later waiting =>
      rw [stage] at inHand
      exact settles_of_awaiting ready solo forward endless calls stage inHand
  | starting batches flights =>
      rw [stage] at inHand
      exact settles_of_starting ready solo forward endless calls stage inHand
  | _ =>
      rw [stage] at inHand
      exact absurd rfl inHand

end Clock

end Answers

/-- A collector with finitely many failures, and a clock that goes on, are fair. -/
theorem Fair.of_collector {start : Station} (ready : start.Ready) {run : Run}
    (begun : Run.start start.queue = .ok run) {index : Nat} {name : String}
    {collector : Collector} (processor : run.processor = .collector index name)
    (present : start.scene.collectors[index]? = some collector) {limit : Nat}
    (finite : ∀ call, limit ≤ call → (collector.answer call).failure = none) {clock : Nat → Nat}
    (unbounded : ∀ time, ∃ count, time ≤ clock count) :
    Fair { run, station := start } (ticking clock) := by
  have solo := Solo.begin ready begun
  have attended := (Attended.begin begun processor present).after ready solo clock
  have forward (count : Nat) (scene : Scene) : scene.now ≤ (ticking clock count scene).now :=
    Nat.le_max_left _ _
  have endless : ∀ time, ∃ count,
      time ≤ (Watch.after { run, station := start } (ticking clock) count).station.scene.now := by
    intro time
    obtain ⟨count, passed⟩ := unbounded time
    have clockThen := (Watch.next_scene ready (solo.after ready (ticking clock) count)
      (ticking clock count)).1
    refine ⟨count + 1, Nat.le_trans passed ?_⟩
    rw [Watch.after, clockThen]
    exact Nat.le_max_right _ _
  exact {
    forward := fun count => forward count _
    endless := endless
    silent := fun count => rfl
    answered := fun count inHand => settles_of_flights ready solo (fun count => forward count _)
      endless (fun count => (attended count).calls) inHand
    failing := by
      refine ⟨limit, fun count => ?_⟩
      obtain ⟨later, -, answer, balance⟩ := (attended count).collector
      exact Nat.le_trans (Nat.le_add_right _ _)
        (Nat.le_trans balance (failingCalls_le finite later.calls)) }

/-- A run that is alone with a queue ends with everything that was stored delivered, in the parts
that it fell into and whatever fails on the way, exactly if the clock can show the end of every
delay and no round needs more room than a list has. Otherwise a round breaks off, and the queue is
stranded for good. This holds in all fair surroundings; a collector with only finitely many
failures is fair, as time goes by. -/
theorem draining_refines_chunking_iff {start : Station} (ready : start.Ready) {run : Run}
    (begun : Run.start start.queue = .ok run) :
    (∀ weather, Fair { run, station := start } weather →
      ((∃ count, Drained start (Watch.after { run, station := start } weather count)) ↔
        ClockSuffices { run, station := start } weather ∧ start.Roomy) ∧
      (¬ (ClockSuffices { run, station := start } weather ∧ start.Roomy) →
        ∃ count, ∀ later, count ≤ later →
          Stranded (Watch.after { run, station := start } weather later))) ∧
    ∀ index name collector limit clock,
      run.processor = .collector index name →
      start.scene.collectors[index]? = some collector →
      (∀ call, limit ≤ call → (collector.answer call).failure = none) →
      (∀ time, ∃ count, time ≤ clock count) →
      Fair { run, station := start } (ticking clock) := by
  constructor
  · intro weather fair
    exact ⟨fair.exists_drained_iff ready begun, fair.stranded ready begun⟩
  · intro index name collector limit clock processor present finite unbounded
    exact .of_collector ready begun processor present finite unbounded

/-- Five events, two to a batch, for a collector that takes its time and fails at its first
and its third call. -/
def laden : Station where
  queue :=
    { settings := { batchSize := 2, batchDelay := 10, concurrency := 3 }
      observer := .notes
      processor := some (.collector 0 "sink") }
  store :=
    { backlog := Backlog.write {} <| ["a", "b", "c", "d", "e"].map fun id =>
        .make { type := "PressEvent" } id 1 }
  scene :=
    { collectors := [
        { name := "sink"
          answer := fun call =>
            if call = 0 ∨ call = 2 then
              { failure := some (.retryable "sink" "busy"), duration := 7 }
            else { duration := call } }] }

theorem laden_ready : laden.Ready where
  accepted := rfl
  faultless := rfl
  indexed := Backlog.write_indexed Backlog.indexed_empty _
  stored := by decide
  nothing := rfl
  free := rfl

theorem laden_finite : ∀ collector ∈ laden.scene.collectors, ∀ call, 3 ≤ call →
    (collector.answer call).failure = none := by
  rintro collector (_ | _) call late
  · have others : ¬ (call = 0 ∨ call = 2) := by omega
    exact congrArg Reply.failure (if_neg others)
  · contradiction

theorem laden_finished :
    (Watch.after { run := { processor := .collector 0 "sink" }, station := laden }
      (ticking id) 81).run.stage = .finished := by
  have finished : (Watch.after { run := { processor := .collector 0 "sink" }, station := laden }
      (ticking id) 81).run.stage.isFinished = true := by
    decide +kernel
  exact RunStage.isFinished_iff.mp finished

theorem laden_drains_after_two_failures :
    laden.parts.map (·.map Event.id) = [["a", "b"], ["c", "d"], ["e"]] ∧
      Fair { run := { processor := .collector 0 "sink" }, station := laden } (ticking id) ∧
      ClockSuffices { run := { processor := .collector 0 "sink" }, station := laden }
        (ticking id) ∧
      laden.Roomy ∧
      ∃ count, Drained laden (Watch.after
        { run := { processor := .collector 0 "sink" }, station := laden } (ticking id) count) := by
  have finite := laden_finite _ List.mem_cons_self
  have unbounded (time : Nat) : ∃ count, time ≤ id count := ⟨time, Nat.le_refl _⟩
  obtain ⟨drains, fairWith⟩ := draining_refines_chunking_iff laden_ready rfl
  have fair := fairWith 0 "sink" _ 3 id rfl rfl finite unbounded
  have inTime : ClockSuffices { run := { processor := .collector 0 "sink" }, station := laden }
      (ticking id) := by
    refine .of_finished laden_ready (.begin laden_ready rfl) fair.forward ?_ laden_finished
      (by decide +kernel)
    rintro ended ⟨⟩
  have roomy : laden.Roomy := .inl (by decide)
  exact ⟨by decide, fair, inTime, roomy, (drains _ fair).1.mpr ⟨inTime, roomy⟩⟩

/-- Two events, one to a batch, for a collector that takes them at once. The settings ask for as
many batches to a round as a word can count. -/
def overbooked : Station where
  queue :=
    { settings := { batchSize := 1, batchDelay := 0, concurrency := Word.largest 64 }
      observer := .notes
      processor := some (.collector 0 "sink") }
  store :=
    { backlog := Backlog.write {} <| ["a", "b"].map fun id =>
        .make { type := "PressEvent" } id 1 }
  scene := { collectors := [{ name := "sink" }] }

/-- The first event is delivered, and the second one never is. -/
theorem overbooked_queue_is_stranded :
    overbooked.Ready ∧
      Fair { run := { processor := .collector 0 "sink" }, station := overbooked } (ticking id) ∧
      (¬ ∃ count, Drained overbooked (Watch.after
        { run := { processor := .collector 0 "sink" }, station := overbooked }
        (ticking id) count)) ∧
      ∃ count, ∀ later, count ≤ later → Stranded (Watch.after
        { run := { processor := .collector 0 "sink" }, station := overbooked }
        (ticking id) later) := by
  have ready : overbooked.Ready :=
    ⟨rfl, rfl, Backlog.write_indexed Backlog.indexed_empty _, by decide, rfl, rfl⟩
  have fair : Fair { run := { processor := .collector 0 "sink" }, station := overbooked }
      (ticking id) :=
    .of_collector ready rfl rfl rfl (fun _ (_ : 0 ≤ _) => rfl) fun time => ⟨time, Nat.le_refl _⟩
  have crowded : ¬ overbooked.Roomy := by
    unfold Station.Roomy
    decide
  refine ⟨ready, fair, ?_, fair.stranded ready rfl fun fits => crowded fits.2⟩
  rw [fair.exists_drained_iff ready rfl]
  exact fun fits => crowded fits.2

end Telemetry
