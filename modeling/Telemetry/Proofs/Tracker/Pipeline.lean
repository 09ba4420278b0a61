import Telemetry.Proofs.Plugin.Hooks
import Telemetry.Proofs.Tracker.Binding

/-!
Contract: what tracking an event does, up to the point where the queue may be
waited for.

Owns:
- `prepare`, which gives the first failure of a hook or the event that all hooks
  have let through;
- `deliver` in its cases: whether the transport is usable, whether there is a
  queue, and what comes of pushing to it;
- `track` in its three cases: the tracker is inactive, its chain rejects the
  event, or its chain accepts it.

Does not own: what a session makes of it; see `Proofs.Session.Tracking`.
-/

namespace Telemetry

namespace Tracker

variable {tracker : Tracker} {event : Event} {scene now after : Scene} {contexts : Contexts}
  {error : PluginError} {site : Site}

/-! ### The hooks -/

theorem prepare_eq_run (tracker : Tracker) (event : Event) (scene : Scene) :
    tracker.prepare event scene =
      match (Plugin.enriching tracker.chain.host).run tracker.chain.plugins
          (event.contexts, scene) with
      | (some error, _, scene) => (.error error, scene)
      | (none, contexts, scene) =>
          match (Plugin.validating tracker.chain.host (event.derive contexts)).run
              tracker.chain.plugins scene with
          | (some error, scene) => (.error error, scene)
          | (none, scene) => (.ok (event.derive contexts), scene) := by
  rw [PluginChain.enrichWith_eq_run]
  simp only [prepare, PluginChain.enrich, PluginChain.validate,
    PluginChain.validateWith_eq_run]
  generalize PluginChain.enrichWith tracker.chain.host tracker.chain.plugins event.contexts scene =
    enriched
  obtain ⟨failure, contexts, now⟩ := enriched
  cases failure with
  | none => rfl
  | some error => rfl

theorem prepare_of_rejects (rejects : tracker.chain.Rejects event scene error after) :
    tracker.prepare event scene = (.error error, after) := by
  rw [prepare_eq_run]
  cases rejects with
  | enriching contexts fails => rw [fails.run_eq]
  | validating contexts now enriched fails =>
      rw [enriched.run_eq]
      simp only [fails.run_eq]

theorem prepare_of_accepts (accepts : tracker.chain.Accepts event scene contexts now after) :
    tracker.prepare event scene = (.ok (event.derive contexts), after) := by
  rw [prepare_eq_run, accepts.enriched.run_eq]
  simp only [accepts.validated.run_eq]

/-- A chain that rejects an event in no way accepts it. -/
theorem exists_accepts (chain : PluginChain) (event : Event) (scene : Scene)
    (succeed : ∀ error after, ¬ chain.Rejects event scene error after) :
    ∃ contexts now after, chain.Accepts event scene contexts now after := by
  rcases Hook.run_cases (Plugin.enriching chain.host) chain.plugins (event.contexts, scene) with
    ⟨⟨contexts, now⟩, -, enriched⟩ | ⟨error, ⟨contexts, after⟩, -, fails⟩
  · rcases Hook.run_cases (Plugin.validating chain.host (event.derive contexts)) chain.plugins
      now with ⟨after, -, validated⟩ | ⟨error, after, -, fails⟩
    · exact ⟨contexts, now, after, enriched, validated⟩
    · exact absurd (.validating contexts now enriched fails) (succeed error after)
  · exact absurd (.enriching contexts fails) (succeed error after)

/-! ### Handing over -/

theorem deliver_of_unusable
    (unusable : ¬ tracker.transport.any (Transport.isUsable site.scene)) :
    tracker.deliver event site = site := by
  cases given : tracker.transport with
  | none => simp only [deliver, given]
  | some transport =>
      have refused : transport.isUsable site.scene = false := by simpa [given] using unusable
      simp [deliver, given, refused]

section Usable

variable {transport : Transport} (given : tracker.transport = some transport)
  (usable : transport.isUsable site.scene)

include given usable

theorem deliver_of_push_ok {queue : Queue} {store : Store} {station : Station}
    (channel : site.channel = some (queue, store))
    (push : (Station.mk queue store site.scene).push site.tasks [event] = (.ok (), station)) :
    tracker.deliver event site =
      { site.withStation station with
        jobs := site.jobs ++ if site.tasks then [.run] else [] } := by
  cases tasks : site.tasks <;> rw [tasks] at push <;>
    simp [deliver, given, usable, channel, push, tasks, Site.withStation]

theorem deliver_of_push_error {queue : Queue} {store : Store} {station : Station}
    {error : TrackerError} (channel : site.channel = some (queue, store))
    (push : (Station.mk queue store site.scene).push site.tasks [event] =
      (.error error, station)) :
    tracker.deliver event site =
      tracker.reportFailure transport.name event error.message (site.withStation station) := by
  simp [deliver, given, usable, channel, push]

theorem deliver_of_no_channel (channel : site.channel = none) :
    tracker.deliver event site =
      if site.tasks then
        { site with jobs := site.jobs ++ [.deliver tracker.observer transport event] }
      else tracker.reportFailure transport.name event "no async runtime available" site := by
  simp [deliver, given, usable, channel]

end Usable

/-- Handing over neither gives a tracker a queue nor takes it. -/
theorem deliver_channel_isSome (tracker : Tracker) (event : Event) (site : Site) :
    (tracker.deliver event site).channel.isSome = site.channel.isSome := by
  cases channel : site.channel with
  | some pair =>
      obtain ⟨after, delivered⟩ := deliver_channel tracker event channel
      simp [delivered]
  | none =>
      by_cases usable : tracker.transport.any (Transport.isUsable site.scene)
      · obtain ⟨transport, given, usable⟩ := (Option.any_eq_true _ _).mp usable
        rw [deliver_of_no_channel given usable channel]
        split <;> simp [reportFailure, channel]
      · rw [deliver_of_unusable usable, channel]

/-! ### Tracking -/

/-- The event that a tracker makes from attributes, before any plugin has seen it. -/
def madeEvent (tracker : Tracker) (attributes : EventAttributes) (time : Nat) : Event :=
  Event.track attributes tracker.owner (tracker.identifier tracker.drawn) time

/-- The tracker once it has made an event. -/
def drew (tracker : Tracker) : Tracker := { tracker with drawn := tracker.drawn + 1 }

variable {attributes : EventAttributes} {time : Nat}

theorem track_of_inactive (inactive : tracker.active = false) :
    tracker.track attributes time site =
      (.over (.ok (tracker.madeEvent attributes time)), tracker.drew,
        site.log (tracker.inactiveEntry (tracker.madeEvent attributes time))) := by
  simp [track, inactive, madeEvent, drew, inactiveEntry]

/-- An active tracker prepares the event, and delivers it if nothing failed. -/
theorem track_of_active (active : tracker.active = true) :
    tracker.track attributes time site =
      match tracker.prepare (tracker.madeEvent attributes time) site.scene with
      | (.error error, scene) =>
          (.over (.error (.plugin error)), tracker.drew, { site with scene })
      | (.ok event, scene) =>
          let delivered := tracker.deliver event { site with scene }
          match delivered.channel with
          | some _ => (.queued event, tracker.drew, delivered)
          | none => (.over (.ok event), tracker.drew, delivered) := by
  dsimp only [track]
  rw [if_neg (by simp [active])]
  rfl

theorem track_of_rejects (active : tracker.active = true)
    (rejects : tracker.chain.Rejects (tracker.madeEvent attributes time) site.scene error after) :
    tracker.track attributes time site =
      (.over (.error (.plugin error)), tracker.drew, { site with scene := after }) := by
  rw [track_of_active active, prepare_of_rejects rejects]

theorem track_of_accepts (active : tracker.active = true)
    (accepts : tracker.chain.Accepts (tracker.madeEvent attributes time) site.scene contexts now
      after) :
    let finished := (tracker.madeEvent attributes time).derive contexts
    let delivered := tracker.deliver finished { site with scene := after }
    tracker.track attributes time site =
      (if delivered.channel.isSome then .queued finished else .over (.ok finished), tracker.drew,
        delivered) := by
  intro finished delivered
  rw [track_of_active active, prepare_of_accepts accepts]
  change (match delivered.channel with
    | some _ => (Progress.queued finished, tracker.drew, delivered)
    | none => (Progress.over (.ok finished), tracker.drew, delivered)) = _
  cases delivered.channel <;> rfl

end Tracker

end Telemetry
