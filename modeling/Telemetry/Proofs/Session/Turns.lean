import Telemetry.Proofs.Queue.Operations
import Telemetry.Proofs.Queue.Polling
import Telemetry.Proofs.Session.Growth
import Telemetry.Session.Schedule

/-!
Contract: what becomes of an activity from turn to turn, whatever else happens in
the session between its turns.

Owns:
- `Session.Meanwhile`, all that others can do between two turns;
- `Begun.Reaches`, where an activity can be after some turns, and
  `Begun.Returns`: whatever others do, it ends with one certain answer;
- a tracked event that waits for its queue, which returns the event;
- a delivery in the background, which hands its event over once.

Does not own: which activity has the next turn. Every order is covered here.
-/

namespace Telemetry

namespace Session

/-- What others can do to a session: any activity has a turn, tasks are put where the
schedule wants them, the clock moves, and notes are taken away to be read. -/
inductive Meanwhile (session : Session) : Session → Prop where
  | nothing : Meanwhile session session
  | turn {now : Session} (earlier : Meanwhile session now) (activity : Activity) :
      Meanwhile session (now.resume activity).2
  | schedule {now : Session} (earlier : Meanwhile session now) (tasks : List Task)
      (ready yielded sleeping : List Nat) :
      Meanwhile session { now with tasks, ready, yielded, sleeping }
  | clock {now : Session} (earlier : Meanwhile session now) (time : Nat) :
      Meanwhile session { now with scene := { now.scene with now := time } }
  | read {now : Session} (earlier : Meanwhile session now) (notes : Array Note) :
      Meanwhile session { now with scene := { now.scene with notes } }

theorem Meanwhile.grows {session later : Session} (meanwhile : session.Meanwhile later) :
    session.Grows later := by
  induction meanwhile with
  | nothing => exact .refl session
  | turn _ activity inductionHypothesis => exact inductionHypothesis.trans (resume_grows _ activity)
  | schedule _ _ _ _ _ inductionHypothesis => exact inductionHypothesis.trans (.of_eq rfl)
  | clock _ _ inductionHypothesis => exact inductionHypothesis.trans (.of_eq rfl)
  | read _ _ inductionHypothesis => exact inductionHypothesis.trans (.of_eq rfl)

/-! A session that performs steps is such a sequence of events. -/

namespace Meanwhile

variable {session now : Session}

theorem turnTask (earlier : session.Meanwhile now) (task : Nat) :
    session.Meanwhile (now.turnTask task) := by
  unfold Session.turnTask
  split
  · rename_i activity _
    have turned := earlier.turn activity
    split <;> rename_i result <;> rw [result] at turned
    · exact turned.schedule _ _ _ _
    · unfold suspend
      dsimp only
      split
      · exact turned.schedule _ _ _ _
      · split <;> exact turned.schedule _ _ _ _
      · exact turned.schedule _ _ _ _
  · exact earlier

theorem tick (earlier : session.Meanwhile now) (steps : Activity) :
    session.Meanwhile (now.tick steps).2 := by
  have woken : session.Meanwhile now.wakeYielded := earlier.schedule _ _ _ _
  unfold Session.tick
  split
  · exact (earlier.schedule now.tasks _ now.yielded now.sleeping).turnTask _
  · split
    · exact woken.turn steps
    · split
      · exact woken
      · split
        · exact earlier
        · rename_i time _
          have moved : session.Meanwhile (now.moveClock time) :=
            (earlier.clock time).schedule now.tasks _ now.yielded _
          dsimp only
          split
          · exact moved.turn steps
          · exact moved

theorem drive (earlier : session.Meanwhile now) (limit : Nat) (steps : Activity) :
    session.Meanwhile (Session.drive limit steps now).2 := by
  induction limit generalizing now steps with
  | zero => exact earlier
  | succ limit inductionHypothesis =>
      have ticked := earlier.tick steps
      unfold Session.drive
      split <;> rename_i result <;> rw [result] at ticked
      · exact ticked
      · exact inductionHypothesis ticked _

theorem report (earlier : session.Meanwhile now) (step : Step) :
    session.Meanwhile (now.report step).2 := by
  have performed : session.Meanwhile (now.perform step).2 := by
    have turned := earlier.turn (.step step)
    unfold perform
    split <;> rename_i result <;> rw [result] at turned
    · exact turned
    · exact turned.drive _ _
  exact performed.read #[]

end Meanwhile

end Session

namespace Begun

/-- Where an activity can be after some of its turns. -/
inductive Reaches (begun : Begun) : Begun → Prop where
  | start : Reaches begun begun
  | turn {activity : Activity} {session next : Session}
      (before : Reaches begun (session.goOn activity)) (meanwhile : session.Meanwhile next) :
      Reaches begun (next.resumeBegun activity)

/-- The activity can end with this answer. -/
def MayAnswer (begun : Begun) (answer : Answer) : Prop :=
  ∃ session : Session, begun.Reaches (session.answer answer)

/-- An activity that is over stays so. -/
theorem Reaches.eq_of_answer {session : Session} {answer : Answer} {later : Begun}
    (reaches : Reaches (session.answer answer) later) : later = session.answer answer := by
  induction reaches with
  | start => rfl
  | turn _ _ inductionHypothesis => cases inductionHypothesis

/-- From some time on every turn ends the activity, and the answer is the given one however
early it ends. -/
def Returns (begun : Begun) (answer : Answer) : Prop :=
  ∃ deadline, ∀ later, begun.Reaches later →
    (∃ session : Session, later = session.answer answer) ∨
      ∃ (activity : Activity) (session : Session), later = session.goOn activity ∧
        ∀ next, session.Meanwhile next → deadline ≤ next.now →
          ∃ last : Session, next.resumeBegun activity = last.answer answer

theorem Returns.eq_of_mayAnswer {begun : Begun} {answer other : Answer}
    (returns : begun.Returns answer) (may : begun.MayAnswer other) : other = answer := by
  obtain ⟨deadline, always⟩ := returns
  obtain ⟨session, reached⟩ := may
  rcases always _ reached with ⟨_, same⟩ | ⟨_, _, same, -⟩ <;> cases same
  rfl

end Begun

/-! ### Waiting for a queue -/

namespace IdleWait

/-- A wait that goes on looks again before its deadline, which stays. -/
theorem poll_eq_inr {wait later : IdleWait} {now : Nat} {idle : Bool}
    (goesOn : wait.poll now idle = .inr later) :
    later.lastDue = wait.lastDue ∧ later.due ≤ max wait.due wait.lastDue ∧
      now < max wait.due wait.lastDue := by
  rw [poll_eq] at goesOn
  split at goesOn
  · cases goesOn
    omega
  · split at goesOn
    · cases goesOn
    · split at goesOn
      · cases goesOn
      · cases goesOn
        refine ⟨lastDue_with_due wait _, ?_⟩
        dsimp only
        omega

end IdleWait

theorem Station.flush_collectors {station after : Station} {result : Except TrackerError Unit}
    (flushed : station.flush = (result, after)) :
    after.scene.collectors = station.scene.collectors := by
  unfold Station.flush at flushed
  split at flushed <;> cases flushed <;> rfl

namespace Tracker

/-- At the end the stored events may have been dropped, and nothing else has happened. -/
theorem conclude_cases (tracker : Tracker) (mode : FlushMode) (reachedIdle : Option Bool)
    (station : Station) :
    let concluded := tracker.conclude mode reachedIdle station
    concluded.queue = station.queue ∧ concluded.scene.collectors = station.scene.collectors ∧
      (concluded.store.backlog = station.store.backlog ∨ concluded.store.backlog = {}) := by
  dsimp only
  unfold conclude
  split
  · split <;> rename_i flushed
    all_goals
      have sameQueue := Station.flush_queue flushed
      have collectors := Station.flush_collectors flushed
    · exact ⟨sameQueue, collectors, .inr (Station.flush_backlog_of_ok flushed)⟩
    · have kept := Station.flush_backlog_of_error flushed
      exact ⟨sameQueue, collectors, .inl kept⟩
  · exact ⟨rfl, rfl, .inl rfl⟩

end Tracker

namespace Session

/-- The sessions differ at most in the events of some stores, which were dropped. -/
structure Drops (session later : Session) : Prop where
  queues : later.queues = session.queues
  tasks : later.tasks = session.tasks
  ready : later.ready = session.ready
  collectors : later.scene.collectors = session.scene.collectors
  stores : ∀ number : Nat,
    later.stores[number]?.map Store.backlog = session.stores[number]?.map Store.backlog ∨
      later.stores[number]?.map Store.backlog = some {}

theorem Drops.refl (session : Session) : session.Drops session where
  queues := rfl
  tasks := rfl
  ready := rfl
  collectors := rfl
  stores _ := .inl rfl

/-- A station goes back with its queue, and with its store as it was or emptied. -/
theorem withStation_drops {session : Session} {queue : Nat} {station after : Station}
    (found : session.station? queue = some station) (sameQueue : after.queue = station.queue)
    (collectors : after.scene.collectors = station.scene.collectors)
    (store : after.store.backlog = station.store.backlog ∨ after.store.backlog = {}) :
    session.Drops (session.withStation queue after) := by
  obtain ⟨place, listed, stored, isQueue, isScene⟩ := station?_eq_some found
  rw [isScene] at collectors
  rw [isQueue] at sameQueue
  have put : session.withStation queue after =
      { session with
        stores := session.stores.set place.store after.store
        scene := after.scene } := by
    simp only [withStation, listed, sameQueue, set_of_getElem? listed]
  rw [put]
  refine ⟨rfl, rfl, rfl, collectors, fun number => ?_⟩
  by_cases here : place.store = number
  · subst here
    have inside := (List.getElem?_eq_some_iff.mp stored).1
    simpa [List.getElem?_set_self inside, stored] using store
  · exact .inl (by rw [List.getElem?_set_ne here])

theorem concludeTrack_eq {session : Session} {tracker queue : Nat}
    (known : session.trackers[tracker]?.isSome) (found : (session.station? queue).isSome)
    (event : Event) (mode : FlushMode) (reachedIdle : Option Bool) :
    ∃ last : Session, session.concludeTrack tracker queue event mode reachedIdle =
      last.answer (.event event) ∧ session.Drops last := by
  obtain ⟨entry, isEntry⟩ := Option.isSome_iff_exists.mp known
  obtain ⟨station, isStation⟩ := Option.isSome_iff_exists.mp found
  unfold concludeTrack
  rw [isEntry, isStation]
  obtain ⟨sameQueue, collectors, store⟩ :=
    entry.tracker.conclude_cases mode reachedIdle station
  exact ⟨_, rfl, withStation_drops isStation sameQueue collectors store⟩

end Session

/-- The event was returned, or it waits for a queue that is to be found, until a deadline at
the latest. -/
inductive Awaiting (event : Event) (deadline : Nat) : Begun → Prop where
  | returned (session : Session) : Awaiting event deadline (session.answer (.event event))
  | waiting (session : Session) (tracker queue : Nat) (flush : FlushMode) (wait : IdleWait)
      (known : session.trackers[tracker]?.isSome) (found : (session.station? queue).isSome)
      (due : wait.due ≤ deadline) (limit : wait.lastDue ≤ deadline) :
      Awaiting event deadline (session.goOn (.track tracker queue event flush wait))

/-- The rest of tracking an event: its answer is the event, and the most that any of its turns
does is to drop stored events. -/
structure Session.Concludes (session : Session) (event : Event) (call : Begun) : Prop where
  first : session.Drops call.2
  turns : ∀ {activity : Activity} {now next : Session}, call.Reaches (now.goOn activity) →
    now.Meanwhile next → next.Drops (next.resumeBegun activity).2
  returns : call.Returns (.event event)

namespace Awaiting

variable {event : Event} {deadline : Nat}

/-- One turn: the event is returned or waited for as before, and at the deadline it is
returned. -/
theorem turn {activity : Activity} {session next : Session}
    (awaiting : Awaiting event deadline (session.goOn activity))
    (meanwhile : session.Meanwhile next) :
    Awaiting event deadline (next.resumeBegun activity) ∧
      next.Drops (next.resumeBegun activity).2 ∧
      (deadline ≤ next.now →
        ∃ last : Session, next.resumeBegun activity = last.answer (.event event)) := by
  cases awaiting with
  | waiting _ tracker queue flush wait known found due limit =>
      have knownNext := meanwhile.grows.tracker known
      have foundNext := meanwhile.grows.station found
      simp only [Session.resumeBegun]
      split
      · rename_i idle ended
        obtain ⟨last, concluded, drops⟩ :=
          Session.concludeTrack_eq knownNext foundNext event flush (some idle)
        rw [concluded]
        exact ⟨.returned last, drops, fun _ => ⟨last, rfl⟩⟩
      · rename_i later goesOn
        obtain ⟨sameDeadline, dueLater, early⟩ := IdleWait.poll_eq_inr goesOn
        refine ⟨.waiting next tracker queue flush later knownNext foundNext (by omega) (by omega),
          .refl next, ?_⟩
        intro reached
        omega

theorem reaches {begun later : Begun} (awaiting : Awaiting event deadline begun)
    (reaches : begun.Reaches later) : Awaiting event deadline later := by
  induction reaches with
  | start => exact awaiting
  | turn _ meanwhile inductionHypothesis => exact (inductionHypothesis.turn meanwhile).1

theorem concludes {session : Session} {call : Begun} (awaiting : Awaiting event deadline call)
    (first : session.Drops call.2) : session.Concludes event call where
  first := first
  turns reached meanwhile := ((awaiting.reaches reached).turn meanwhile).2.1
  returns := by
    refine ⟨deadline, fun later reached => ?_⟩
    have still := awaiting.reaches reached
    cases still with
    | returned session => exact .inl ⟨session, rfl⟩
    | waiting session =>
        refine .inr ⟨_, session, rfl, fun next meanwhile late => ?_⟩
        exact ((awaiting.reaches reached).turn meanwhile).2.2 late

end Awaiting

/-! ### Delivering in the background -/

/-- A call that began with one batch handed to the transport, and was only resumed since. -/
inductive Transport.CallOf (transport : Transport) (events : List Event) : Call → Prop where
  | start (scene : Scene) : CallOf transport events (transport.start events scene).1
  | resume {call : Call} (earlier : CallOf transport events call) (scene : Scene) :
      CallOf transport events (call.resume scene).1

/-- Where a delivery in the background is: not begun, under way or over. -/
inductive Delivering (observer : Observer) (transport : Transport) (event : Event) :
    Begun → Prop where
  | waiting (session : Session) :
      Delivering observer transport event
        (session.goOn (.backgroundDelivery observer transport event none))
  | underWay (session : Session) {call : Call} (callOf : transport.CallOf [event] call) :
      Delivering observer transport event
        (session.goOn (.backgroundDelivery observer transport event (some call)))
  | ended (session : Session) {failure : Option TransportError}
      (callOf : transport.CallOf [event] (.settled failure)) :
      Delivering observer transport event (session.answer .nothing)

namespace Delivering

variable {observer : Observer} {transport : Transport} {event : Event}

theorem ofTurn (session : Session) {call : Call} (callOf : transport.CallOf [event] call) :
    Delivering observer transport event
      (session.turnBackgroundDelivery observer transport event call) := by
  unfold Session.turnBackgroundDelivery
  cases call with
  | settled failure => cases failure <;> exact .ended _ callOf
  | _ => exact .underWay session callOf

theorem turn {activity : Activity} {session next : Session}
    (delivering : Delivering observer transport event (session.goOn activity)) :
    Delivering observer transport event (next.resumeBegun activity) := by
  cases delivering with
  | waiting => exact ofTurn _ (.start next.scene)
  | underWay _ callOf => exact ofTurn _ (callOf.resume next.scene)

theorem reaches {begun later : Begun} (delivering : Delivering observer transport event begun)
    (reaches : begun.Reaches later) : Delivering observer transport event later := by
  induction reaches with
  | start => exact delivering
  | turn _ _ inductionHypothesis => exact inductionHypothesis.turn

end Delivering

end Telemetry
