import Telemetry.Proofs.Session.Turns
import Telemetry.Proofs.Tracker.Pipeline

/-!
Contract: tracking an event in a session, from its attributes to its answer.

Owns:
- `Session.HandsOver`, the rules for where an event goes once the plugins have
  let it through;
- `Session.awaitQueue`, what is left then: waiting for the queue and flushing it;
- that tracking which fails, or whose tracker is inactive, leaves delivery
  untouched, and that nothing but a plugin makes it fail;
- that the event which is validated, handed over and returned is one event.

Does not own: how the queue delivers what was pushed.
-/

namespace Telemetry

namespace Session

/-! ### A tracker's site in a session -/

/-- The session once a tracker has made an event. Only the tracker's count of events and the
surroundings have changed: queues, stores and tasks are as they were. -/
def afterDrawing (session : Session) (number : Nat) (entry : TrackerEntry) (scene : Scene) :
    Session :=
  { session with
    trackers := session.trackers.set number { entry with tracker := entry.tracker.drew }
    scene }

variable {session : Session} {number : Nat} {entry : TrackerEntry}

theorem afterDrawing_site (session : Session) (number : Nat) (entry : TrackerEntry)
    (scene : Scene) (queue : Option Nat) :
    (session.afterDrawing number entry scene).site queue =
      { session.site queue with scene } := by
  have sameChannel (queue : Nat) :
      ((session.afterDrawing number entry scene).station? queue).map
          (fun station => (station.queue, station.store)) =
        (session.station? queue).map fun station => (station.queue, station.store) := by
    simp only [station?, afterDrawing]
    cases session.queues[queue]? with
    | none => rfl
    | some place =>
        simp only [Option.bind_eq_bind, Option.bind_some]
        cases session.stores[place.store]? <;> rfl
  cases queue with
  | none => rfl
  | some queue =>
      simp only [site, Option.bind_some, sameChannel]
      rfl

theorem withStation_self {queue : Nat} {station : Station}
    (found : session.station? queue = some station) :
    session.withStation queue ⟨station.queue, station.store, session.scene⟩ = session := by
  obtain ⟨place, listed, stored, sameQueue, -⟩ := station?_eq_some found
  simp only [withStation, listed, sameQueue, set_of_getElem? listed, set_of_getElem? stored]

/-- Putting a site back as it was found changes nothing. -/
theorem withSite_site (session : Session) (queue : Option Nat) :
    session.withSite queue (session.site queue) = session := by
  cases queue with
  | none => rfl
  | some queue =>
      simp only [withSite, site, Option.bind_some]
      cases found : session.station? queue with
      | none => rfl
      | some station => exact withStation_self found

theorem withSite_of_no_channel {queue : Option Nat} {site : Site} (channel : site.channel = none) :
    session.withSite queue site =
      site.jobs.foldl (fun session job => session.startJob queue job)
        { session with scene := site.scene } := by
  unfold withSite
  rw [channel]
  cases queue <;> rfl

theorem withSite_afterDrawing (known : session.trackers[number]? = some entry) (scene : Scene)
    (queue : Option Nat) {site : Site}
    (found : site.channel.isSome → (queue.bind session.station?).isSome) :
    (session.withTracker number entry.tracker.drew).withSite queue site =
      (session.afterDrawing number entry scene).withSite queue site := by
  have drawn : session.withTracker number entry.tracker.drew =
      session.afterDrawing number entry session.scene := by
    simp only [withTracker, known, afterDrawing]
  rw [drawn]
  unfold withSite
  cases queue with
  | none => rfl
  | some queue =>
      cases channel : site.channel with
      | none => rfl
      | some pair =>
          rw [channel] at found
          obtain ⟨station, isStation⟩ := Option.isSome_iff_exists.mp (found rfl)
          obtain ⟨place, listed, -⟩ := station?_eq_some isStation
          have listedLater (scene : Scene) :
              (session.afterDrawing number entry scene).queues[queue]? = some place := listed
          simp only [withStation, listedLater]
          rfl

/-! ### Handing over -/

/-- Where an event goes that the plugins have let through, and what the session is then. -/
inductive HandsOver (session : Session) (entry : TrackerEntry) (event : Event) :
    Session → Prop where
  /-- Without a usable transport the event goes nowhere. -/
  | kept (unusable : ¬ entry.tracker.transport.any (Transport.isUsable session.scene)) :
      HandsOver session entry event session
  /-- With a queue the event is pushed, and where tasks can run a run is started. -/
  | pushed (transport : Transport) (queue : Nat) (station after : Station)
      (given : entry.tracker.transport = some transport)
      (usable : transport.isUsable session.scene)
      (queued : entry.queue = some queue) (found : session.station? queue = some station)
      (push : station.push session.background [event] = (.ok (), after)) :
      HandsOver session entry event
        (if session.background then
          ((session.withStation queue after).spawn (.backgroundRun queue none)).2
        else session.withStation queue after)
  /-- The push fails, which is reported. -/
  | refused (transport : Transport) (queue : Nat) (station after : Station) (error : TrackerError)
      (given : entry.tracker.transport = some transport)
      (usable : transport.isUsable session.scene)
      (queued : entry.queue = some queue) (found : session.station? queue = some station)
      (push : station.push session.background [event] = (.error error, after)) :
      HandsOver session entry event (session.withStation queue { after with
        scene := after.scene.observe entry.tracker.observer
          (.deliveryFailed transport.name event.id error.message) })
  /-- Without a queue the event is handed to the transport in the background. -/
  | handed (transport : Transport) (given : entry.tracker.transport = some transport)
      (usable : transport.isUsable session.scene)
      (noQueue : entry.queue.bind session.station? = none) (tasks : session.background = true) :
      HandsOver session entry event
        (session.spawn (.backgroundDelivery entry.tracker.observer transport event none)).2
  /-- Without a queue, where no task can run, the event goes nowhere, which is reported. -/
  | stranded (transport : Transport) (given : entry.tracker.transport = some transport)
      (usable : transport.isUsable session.scene)
      (noQueue : entry.queue.bind session.station? = none) (noTasks : session.background = false) :
      HandsOver session entry event { session with
        scene := session.scene.observe entry.tracker.observer
          (.deliveryFailed transport.name event.id "no async runtime available") }

/-- Without a queue, where tasks can run, there is a new task. -/
theorem HandsOver.task {event : Event} {delivered : Session} {transport : Transport}
    (handsOver : session.HandsOver entry event delivered)
    (given : entry.tracker.transport = some transport)
    (usable : transport.isUsable session.scene = true)
    (noQueue : entry.queue.bind session.station? = none) (tasks : session.background = true) :
    delivered.tasks = session.tasks ++
        [.active (.backgroundDelivery entry.tracker.observer transport event none)] ∧
      delivered.ready = session.ready ++ [session.tasks.length] := by
  cases handsOver with
  | kept unusable =>
      rw [given] at unusable
      exact absurd usable unusable
  | pushed other queue station after _ _ queued found =>
      rw [queued, Option.bind_some, found] at noQueue
      cases noQueue
  | refused other queue station after error _ _ queued found =>
      rw [queued, Option.bind_some, found] at noQueue
      cases noQueue
  | handed other same =>
      rw [given] at same
      cases same
      exact ⟨rfl, rfl⟩
  | stranded other _ _ _ noTasks =>
      rw [tasks] at noTasks
      cases noTasks

theorem handsOver_deliver (session : Session) (entry : TrackerEntry) (event : Event) :
    session.HandsOver entry event
      (session.withSite entry.queue
        (entry.tracker.deliver event (session.site entry.queue))) := by
  by_cases can : entry.tracker.transport.any (Transport.isUsable session.scene)
  · obtain ⟨transport, given, usable⟩ := (Option.any_eq_true _ _).mp can
    cases found : entry.queue.bind session.station? with
    | none =>
        have channel : (session.site entry.queue).channel = none := by simp [site, found]
        rw [Tracker.deliver_of_no_channel given usable channel]
        cases background : session.background with
        | true =>
            rw [if_pos (by exact background), withSite_of_no_channel (by exact channel)]
            exact .handed transport given usable found background
        | false =>
            rw [if_neg (by simpa [site] using background),
              withSite_of_no_channel (by exact channel)]
            exact .stranded transport given usable found background
    | some station =>
        obtain ⟨queue, queued, isStation⟩ := Option.bind_eq_some_iff.mp found
        have channel : (session.site entry.queue).channel =
            some (station.queue, station.store) := by simp [site, found]
        have whole : Station.mk station.queue station.store session.scene = station := by
          obtain ⟨-, -, -, -, sameScene⟩ := station?_eq_some isStation
          rw [← sameScene]
        rcases push : station.push session.background [event] with ⟨error | done, after⟩
        · rw [Tracker.deliver_of_push_error given usable channel (by rw [← push, ← whole]; rfl),
            queued]
          exact .refused transport queue station after error given usable queued isStation push
        · have pushed : session.withSite (some queue)
              { (session.site (some queue)).withStation after with
                jobs := [] ++ if session.background then [.run] else [] } =
              if session.background then
                ((session.withStation queue after).spawn (.backgroundRun queue none)).2
              else session.withStation queue after := by
            cases session.background <;> rfl
          rw [Tracker.deliver_of_push_ok given usable channel (by rw [← push, ← whole]; rfl),
            queued]
          exact pushed ▸ .pushed transport queue station after given usable queued isStation push
  · rw [Tracker.deliver_of_unusable can, withSite_site]
    exact .kept can

/-! ### What is left once the event was handed over -/

/-- Wait for the queue if that is asked, and flush it if that is wanted then. -/
def awaitQueue (session : Session) (number : Nat) (queue : Option Nat) (event : Event)
    (options : TrackOptions) : Begun :=
  match queue.bind session.station?, queue with
  | some station, some queue =>
      match options.wait with
      | none => session.concludeTrack number queue event options.flush none
      | some wait =>
          match wait.start? station.queue.settings session.now with
          | some wait => session.goOn (.track number queue event options.flush wait)
          | none => session.answer .broken
  | _, _ => session.answer (.event event)

/-- The clock can show the end of the wait that is asked for, if there is one. -/
def CanWait (session : Session) (queue : Option Nat) (options : TrackOptions) : Prop :=
  ∀ wait ∈ options.wait, ∀ station ∈ queue.bind session.station?,
    Clock.Shows (.ofMilliseconds session.now +
      .ofMilliseconds (wait.timeoutFor station.queue.settings))

theorem awaitQueue_concludes (known : session.trackers[number]?.isSome) {queue : Option Nat}
    (event : Event) {options : TrackOptions} (can : session.CanWait queue options) :
    session.Concludes event (session.awaitQueue number queue event options) := by
  unfold awaitQueue
  split
  · rename_i station queue isStation
    have found : (session.station? queue).isSome := by
      rw [Option.bind_some] at isStation
      rw [isStation]
      rfl
    cases asked : options.wait with
    | none =>
        obtain ⟨last, concluded, drops⟩ := concludeTrack_eq known found event options.flush none
        simp only [concluded]
        exact (Awaiting.returned last : Awaiting event 0 _).concludes drops
    | some wait =>
        simp only [WaitOptions.start?, IdleWait.start?_eq_some (can wait asked station isStation)]
        exact (Awaiting.waiting session number queue options.flush _ known found
          (IdleWait.instant_le _ _ _ _) (Nat.le_of_eq IdleWait.before_lastDue)).concludes
            (.refl session)
  · exact (Awaiting.returned session : Awaiting event 0 _).concludes (.refl session)

/-- A wait whose end the clock cannot show breaks off. -/
theorem awaitQueue_of_unable {queue : Option Nat} (event : Event) {options : TrackOptions}
    (unable : ¬ session.CanWait queue options) :
    session.awaitQueue number queue event options = session.answer .broken := by
  simp only [CanWait, not_forall] at unable
  obtain ⟨wait, asked, station, isStation, beyond⟩ := unable
  obtain ⟨queue, rfl⟩ : ∃ number, queue = some number := by
    cases queue with
    | none => cases isStation
    | some number => exact ⟨number, rfl⟩
  simp only [awaitQueue, Option.mem_def.mp isStation, Option.mem_def.mp asked, WaitOptions.start?,
    IdleWait.start?_eq_none beyond]

theorem awaitQueue_of_no_station {queue : Option Nat} (absent : queue.bind session.station? = none)
    (event : Event) (options : TrackOptions) :
    session.awaitQueue number queue event options = session.answer (.event event) := by
  unfold awaitQueue
  rw [absent]

/-! ### Tracking -/

variable {attributes : EventAttributes} (options : TrackOptions)

theorem afterDrawing_inventory (session : Session) (number : Nat) (entry : TrackerEntry)
    (scene : Scene) : (session.afterDrawing number entry scene).inventory = session.inventory := by
  simp [inventory, afterDrawing]

theorem bind_station?_isSome {later : Session} (same : later.inventory = session.inventory)
    (queue : Option Nat) :
    (queue.bind later.station?).isSome = (queue.bind session.station?).isSome := by
  cases queue with
  | none => rfl
  | some queue =>
      rw [Bool.eq_iff_iff]
      exact ⟨(Grows.of_eq same.symm).station, (Grows.of_eq same).station⟩

theorem withSite_drawn (known : session.trackers[number]? = some entry) (scene : Scene) :
    (session.withTracker number entry.tracker.drew).withSite entry.queue
        { session.site entry.queue with scene } =
      session.afterDrawing number entry scene := by
  have found : { session.site entry.queue with scene }.channel.isSome →
      (entry.queue.bind session.station?).isSome := by
    simp only [site, Option.isSome_map]
    exact id
  rw [withSite_afterDrawing known scene entry.queue found, ← afterDrawing_site, withSite_site]

/-- What a session makes of a tracker's progress: it answers, or the queue is waited for. -/
def proceed (session : Session) (number : Nat) (queue : Option Nat) (options : TrackOptions) :
    Tracker.Progress → Begun
  | .over (.error error) => session.answer (.failed error)
  | .over (.ok event) => session.answer (.event event)
  | .queued event => session.awaitQueue number queue event options

theorem trackAttributes_eq {progress : Tracker.Progress} {tracker : Tracker} {site : Site}
    (tracked : entry.tracker.track attributes session.now (session.site entry.queue) =
      (progress, tracker, site)) :
    session.trackAttributes number entry attributes options =
      ((session.withTracker number tracker).withSite entry.queue site).proceed number entry.queue
        options progress := by
  unfold trackAttributes
  rw [tracked]
  rcases progress with (error | event) | event
  · rfl
  · rfl
  · dsimp only [proceed, awaitQueue]
    generalize (session.withTracker number tracker).withSite entry.queue site = next
    cases entry.queue with
    | none => rfl
    | some queue =>
        simp only [Option.bind_some]
        cases next.station? queue with
        | none => rfl
        | some station => cases options.wait <;> rfl

theorem trackAttributes_of_inactive (known : session.trackers[number]? = some entry)
    (inactive : entry.tracker.active = false) :
    let made := entry.tracker.madeEvent attributes session.now
    session.trackAttributes number entry attributes options =
      (session.afterDrawing number entry
        (session.scene.log (entry.tracker.inactiveEntry made))).answer (.event made) := by
  intro made
  rw [trackAttributes_eq options (Tracker.track_of_inactive inactive)]
  exact congrArg (answer · (.event made)) (withSite_drawn known _)

theorem trackAttributes_of_rejects (known : session.trackers[number]? = some entry)
    (active : entry.tracker.active = true) {error : PluginError} {after : Scene}
    (rejects : entry.tracker.chain.Rejects (entry.tracker.madeEvent attributes session.now)
      session.scene error after) :
    session.trackAttributes number entry attributes options =
      (session.afterDrawing number entry after).answer (.failed (.plugin error)) := by
  rw [trackAttributes_eq options (Tracker.track_of_rejects active rejects)]
  exact congrArg (answer · (.failed (.plugin error))) (withSite_drawn known after)

/-- An event that the plugins let through is handed over, and then it is returned unless the
wait breaks off. -/
theorem trackAttributes_of_accepts (known : session.trackers[number]? = some entry)
    (active : entry.tracker.active = true) {contexts : Contexts} {now after : Scene}
    (accepts : entry.tracker.chain.Accepts (entry.tracker.madeEvent attributes session.now)
      session.scene contexts now after) :
    let finished := (entry.tracker.madeEvent attributes session.now).derive contexts
    ∃ delivered, (session.afterDrawing number entry after).HandsOver entry finished delivered ∧
      (delivered.CanWait entry.queue options →
        delivered.Concludes finished
          (session.trackAttributes number entry attributes options)) ∧
      (¬ delivered.CanWait entry.queue options →
        session.trackAttributes number entry attributes options = delivered.answer .broken) := by
  intro finished
  let drawn := session.afterDrawing number entry after
  let site := entry.tracker.deliver finished { session.site entry.queue with scene := after }
  have channel : site.channel.isSome = (entry.queue.bind session.station?).isSome := by
    rw [Tracker.deliver_channel_isSome]
    simp only [Session.site, Option.isSome_map]
  have handedOver : drawn.HandsOver entry finished (drawn.withSite entry.queue site) := by
    have handed := handsOver_deliver drawn entry finished
    rwa [afterDrawing_site] at handed
  have kept : (drawn.withSite entry.queue site).inventory = session.inventory := by
    rw [withSite_inventory, afterDrawing_inventory]
  have called : session.trackAttributes number entry attributes options =
      (drawn.withSite entry.queue site).awaitQueue number entry.queue finished options := by
    have put : (session.withTracker number entry.tracker.drew).withSite entry.queue site =
        drawn.withSite entry.queue site :=
      withSite_afterDrawing known after entry.queue (by rw [channel]; exact id)
    rw [trackAttributes_eq options (Tracker.track_of_accepts active accepts), put]
    -- Without a queue tracking ends at once, and so does a wait that finds no queue.
    cases present : site.channel.isSome with
    | true => rfl
    | false =>
        rw [awaitQueue_of_no_station]
        · rfl
        · rw [← Option.not_isSome_iff_eq_none, bind_station?_isSome kept, ← channel, present]
          exact Bool.false_ne_true
  rw [called]
  exact ⟨drawn.withSite entry.queue site, handedOver,
    awaitQueue_concludes ((Grows.of_eq kept).tracker (by rw [known]; rfl)) finished,
    awaitQueue_of_unable finished⟩

/-- An inactive tracker returns the event as it was made, and a chain that rejects the event
makes the call fail with the first failure of a hook; in both cases the call is over at once
and queues, stores and tasks are as they were. Nothing else makes the call fail: otherwise
it returns an event, whatever becomes of delivery and of the wait, or breaks off if the clock
cannot show the end of the wait. -/
theorem failed_or_inactive_tracking_leaves_delivery_untouched (session : Session) (number : Nat)
    (entry : TrackerEntry) (attributes : EventAttributes) (options : TrackOptions)
    (known : session.trackers[number]? = some entry) :
    let chain := entry.tracker.chain
    let made := entry.tracker.madeEvent attributes session.now
    let call := session.trackAttributes number entry attributes options
    (entry.tracker.active = false →
      call = (session.afterDrawing number entry
        (session.scene.log (entry.tracker.inactiveEntry made))).answer (.event made)) ∧
    (entry.tracker.active = true →
      (∀ error, call.MayAnswer (.failed error) ↔
        ∃ cause after, chain.Rejects made session.scene cause after ∧ error = .plugin cause) ∧
      (∀ cause after, chain.Rejects made session.scene cause after →
        call = (session.afterDrawing number entry after).answer (.failed (.plugin cause))) ∧
      ((∀ cause after, ¬ chain.Rejects made session.scene cause after) →
        (∃ finished, call.Returns (.event finished)) ∨
          ∃ last : Session, call = last.answer .broken ∧ ¬ last.CanWait entry.queue options)) := by
  intro chain made call
  refine ⟨trackAttributes_of_inactive options known, fun active => ?_⟩
  have failing : ∀ cause after, chain.Rejects made session.scene cause after →
      call = (session.afterDrawing number entry after).answer (.failed (.plugin cause)) :=
    fun _ _ => trackAttributes_of_rejects options known active
  have returning : (∀ cause after, ¬ chain.Rejects made session.scene cause after) →
      (∃ finished, call.Returns (.event finished)) ∨
        ∃ last : Session, call = last.answer .broken ∧ ¬ last.CanWait entry.queue options := by
    intro succeed
    obtain ⟨contexts, now, after, accepts⟩ :=
      Tracker.exists_accepts chain made session.scene succeed
    obtain ⟨delivered, -, concludes, breaks⟩ :=
      trackAttributes_of_accepts options known active accepts
    by_cases can : delivered.CanWait entry.queue options
    · exact .inl ⟨made.derive contexts, (concludes can).returns⟩
    · exact .inr ⟨delivered, breaks can, can⟩
  refine ⟨fun error => ⟨fun may => ?_, ?_⟩, failing, returning⟩
  · by_cases rejected : ∃ cause after, chain.Rejects made session.scene cause after
    · obtain ⟨cause, after, rejects⟩ := rejected
      obtain ⟨last, reached⟩ := may
      rw [failing cause after rejects] at reached
      cases reached.eq_of_answer
      exact ⟨cause, after, rejects, rfl⟩
    · rcases returning fun cause after rejects => rejected ⟨cause, after, rejects⟩ with
        ⟨finished, returns⟩ | ⟨last, broken, -⟩
      · cases returns.eq_of_mayAnswer may
      · obtain ⟨answered, reached⟩ := may
        rw [broken] at reached
        cases reached.eq_of_answer
  · rintro ⟨cause, after, rejects, rfl⟩
    rw [failing cause after rejects]
    exact ⟨_, .start⟩

/-- Adds a context to those that an event concerns, with the other kind. -/
def tagging : Plugin where
  name := "tagging"
  enrich? := some fun _ contexts scene =>
    { contexts := { contexts with
        globalContexts := contexts.globalContexts ++ [.location "Tag" "new"] }
      scene }

/-- Would make every event fail, but is never usable. -/
def dormant : Plugin where
  name := "dormant"
  usable := fun _ => false
  enrich? := some fun _ contexts scene =>
    { failure := some (.enrich "dormant" "awake"), contexts, scene }

/-- Refuses events with fewer global contexts than some number, and notes what it saw. -/
def counting (least : Nat) : Plugin where
  name := "counting"
  validate? := some fun _ event scene =>
    let failure :=
      if event.contexts.globalContexts.length < least then some (.validate "counting" "too few")
      else none
    (failure, scene.note (.validating "counting" event))

/-- A tracker of a section, with a usable collector and a queue, and the three plugins. -/
def sectionTracker (least : Nat) : TrackerEntry where
  tracker := {
    id := "shop"
    applicationId := "shop"
    owner := { locationStack := [.global "Section" "home"], globalContexts := [.global "Shop" "1"] }
    transport := some (.collector 0 "till")
    chain := { host := ⟨"shop", "shop", .notes⟩, plugins := [tagging, dormant, counting least] }
    observer := .notes
    active := true
    identifier := namedId ["first"] }
  queue := some 0

def sectionSession (least : Nat) : Session where
  scene := { now := 7, collectors := [{ name := "till" }] }
  stores := [{}]
  queues := [⟨{ settings := {}, observer := .notes, processor := some (.collector 0 "till") }, 0⟩]
  trackers := [sectionTracker least]

def sectionAttributes : EventAttributes where
  type := "PressEvent"
  contexts := { globalContexts := [.global "Customer" "9"] }

/-- Here a plugin that is not usable is passed over and the last one refuses the event, so the
call fails at once, although it was to wait for the queue and to flush it. -/
theorem refused_event_is_not_waited_for :
    ∃ after, ((sectionSession 4).trackAttributes 0 (sectionTracker 4) sectionAttributes
        { wait := some {}, flush := .always }) =
      ((sectionSession 4).afterDrawing 0 (sectionTracker 4) after).answer
        (.failed (.plugin (.validate "counting" "too few"))) ∧ after.notes.size = 1 := by
  have untouched := failed_or_inactive_tracking_leaves_delivery_untouched (sectionSession 4) 0
    (sectionTracker 4) sectionAttributes { wait := some {}, flush := .always } rfl
  obtain ⟨-, failing, -⟩ := untouched.2 rfl
  refine ⟨_, failing _ _ (.validating _ _ (.call rfl (.skip rfl (.skip rfl (.done _))))
    (.at [tagging, dormant] (counting 4) [] _ rfl (.skip rfl (.skip rfl (.done _))) rfl)), rfl⟩

end Session

end Telemetry
