import Telemetry.Proofs.Replay.Desk
import Telemetry.Proofs.Session.Vigil
import Telemetry.Proofs.Settings.Validation
import Telemetry.Proofs.Transport.BackOff

/-!
Contract: the timeout that a replay computes is the product it stands for, and is
long enough.

Owns:
- the computed timeout as a product of natural numbers, cut at a day: rounds and
  spans that words cannot hold are beyond the day anyway (`Drain.timeout_eq`);
- the same timeout from numbers that no word limits at all (`Drain.unlimited`);
- the latest delivery against the timeout;
- the theorem on when a wait for the computed timeout finds the queue idle.

The rounds of the timeout are filled with events, those of a run with parts, and
no more of them are needed. A run may have to wait for a batch delay before its
first round, which may take a single part; the parts that it leaves need no more
rounds than all of them. So one more round is enough, and the second is to spare.
-/

namespace Telemetry

namespace Drain

theorem perRound_pos (settings : QueueSettings) : 0 < perRound settings :=
  Nat.lt_of_lt_of_le Nat.one_pos (Nat.le_max_right _ _)

theorem roundDelay_eq (settings : QueueSettings) :
    roundDelay settings = .ofMilliseconds (max settings.batchDelay 100) := by
  unfold roundDelay
  split
  · rw [Nat.max_eq_right (by omega)]
  · rw [Nat.max_eq_left (by omega)]

/-- Rounds are counted up to more than fill a day. -/
theorem rounds_eq (settings : QueueSettings) (tracked : Nat) :
    rounds settings tracked = min (tracked ⌈/⌉ perRound settings + 2) (Word.largest 32) := by
  have positive := perRound_pos settings
  have whole : (tracked + (perRound settings - 1)) / perRound settings =
      tracked ⌈/⌉ perRound settings := by
    rw [Nat.ceilDiv_eq_add_pred_div, Nat.add_sub_assoc positive]
  rw [rounds, whole, heldSum, held]
  split
  · rfl
  · next many =>
      rw [Word.largest_eq, Nat.min_eq_right (Nat.le_add_right _ _), Nat.min_eq_right]
      have size : Word.size 32 = 2 ^ 32 := rfl
      omega

/-- The milliseconds of a day. -/
def dayMilliseconds : Nat := 24 * 60 * 60 * 1000

/-- The longest span is longer than a day. -/
theorem day_le_longest : 1000000 * dayMilliseconds ≤ Duration.longest.nanoseconds := by
  decide

/-- Rounds that a word cannot count fill a day. -/
theorem filled_day {delay : Nat} (shortest : 100 ≤ delay) (rounds : Nat) :
    min (delay * min rounds (Word.largest 32)) dayMilliseconds =
      min (delay * rounds) dayMilliseconds := by
  rcases Nat.le_total rounds (Word.largest 32) with few | many
  · rw [Nat.min_eq_left few]
  · have full : dayMilliseconds ≤ delay * Word.largest 32 :=
      calc dayMilliseconds ≤ 100 * Word.largest 32 := by decide
        _ ≤ delay * Word.largest 32 := Nat.mul_le_mul_right _ shortest
    rw [Nat.min_eq_right many, Nat.min_eq_right full,
      Nat.min_eq_right (Nat.le_trans full (Nat.mul_le_mul_left _ many))]

theorem timeout_eq (settings : QueueSettings) (tracked : Nat) :
    timeout settings tracked = .ofMilliseconds
      (min (max settings.batchDelay 100 * (tracked ⌈/⌉ perRound settings + 2))
        dayMilliseconds) := by
  have shortest : 100 ≤ max settings.batchDelay 100 := Nat.le_max_right _ _
  have longest := day_le_longest
  have byNanoseconds (first second : Duration)
      (same : first.nanoseconds = second.nanoseconds) : first = second := by
    cases first
    cases second
    exact congrArg _ same
  apply byNanoseconds
  rw [timeout, Duration.nanoseconds_min, roundDelay_eq, rounds_eq]
  generalize tracked ⌈/⌉ perRound settings + 2 = rounds
  generalize max settings.batchDelay 100 = delay at shortest ⊢
  show min (min (1000000 * delay * min rounds (Word.largest 32)) Duration.longest.nanoseconds)
    (1000000 * dayMilliseconds) = 1000000 * min (delay * rounds) dayMilliseconds
  rw [← filled_day shortest, Nat.mul_assoc]
  generalize delay * min rounds (Word.largest 32) = product
  generalize dayMilliseconds = day at longest ⊢
  generalize Duration.longest.nanoseconds = most at longest ⊢
  omega

/-! ### Without word limits -/

/-- Divisors that are not below a number need the same rounds. -/
theorem ceilDiv_le_of_le {events round other : Nat} (positive : 0 < round) (some : 0 < other)
    (fits : events ≤ round) : events ⌈/⌉ round ≤ events ⌈/⌉ other := by
  rw [ceilDiv_le_iff_le_mul positive]
  cases rounds : events ⌈/⌉ other with
  | zero =>
      have none := (ceilDiv_le_iff_le_mul some).mp (Nat.le_of_eq rounds)
      omega
  | succ rounds => exact Nat.le_trans fits (Nat.le_mul_of_pos_right _ (Nat.succ_pos _))

/-- A round that a word cannot hold takes all events that a word can count. -/
theorem ceilDiv_perRound (settings : QueueSettings) {tracked : Nat}
    (held : tracked < Word.size 64) :
    tracked ⌈/⌉ perRound settings =
      tracked ⌈/⌉ max 1 (settings.batchSize * settings.concurrency) := by
  have largest : Word.largest 64 = Word.size 64 - 1 := rfl
  rw [perRound, heldProduct, Nat.max_comm]
  generalize settings.batchSize * settings.concurrency = product
  by_cases small : product ≤ Word.largest 64
  · rw [Nat.min_eq_left small]
  · rw [Nat.min_eq_right (Nat.le_of_not_le small)]
    apply Nat.le_antisymm
    · exact ceilDiv_le_of_le (by omega) (by omega) (by omega)
    · exact ceilDiv_le_of_le (by omega) (by omega) (by omega)

/-- The timeout in milliseconds, from numbers that no word limits. -/
def unlimited (settings : QueueSettings) (tracked : Nat) : Nat :=
  min (max settings.batchDelay 100 *
    (tracked ⌈/⌉ max 1 (settings.batchSize * settings.concurrency) + 2)) (24 * 60 * 60 * 1000)

theorem unlimited_mono (settings : QueueSettings) {tracked more : Nat} (le : tracked ≤ more) :
    unlimited settings tracked ≤ unlimited settings more := by
  have positive : 0 < max 1 (settings.batchSize * settings.concurrency) :=
    Nat.lt_of_lt_of_le Nat.one_pos (Nat.le_max_left _ _)
  have rounds : tracked ⌈/⌉ max 1 (settings.batchSize * settings.concurrency) ≤
      more ⌈/⌉ max 1 (settings.batchSize * settings.concurrency) :=
    (gc_mul_ceilDiv positive).monotone_l le
  have product := Nat.mul_le_mul_left (max settings.batchDelay 100) (Nat.add_le_add_right rounds 2)
  exact Nat.le_min.mpr ⟨Nat.le_trans (Nat.min_le_left _ _) product, Nat.min_le_right _ _⟩

theorem timeout_eq_unlimited (settings : QueueSettings) {tracked : Nat}
    (held : tracked < Word.size 64) :
    timeout settings tracked = .ofMilliseconds (unlimited settings tracked) := by
  rw [timeout_eq, ceilDiv_perRound settings held]
  rfl

/-- Without a timeout that is set, a replay waits as long as numbers without limits say, for
every batch size, number of batches, delay and number of events that words hold: at most a day,
and no less for more events. -/
theorem word_limits_do_not_change_the_timeout {settings : Settings}
    (unset : settings.wait.timeout = none) :
    (∀ tracked < Word.size 64,
      timeout settings.queue tracked = .ofMilliseconds (unlimited settings.queue tracked) ∧
      options settings tracked =
        { settings.wait with timeout := some (unlimited settings.queue tracked) } ∧
      timeout settings.queue tracked ≤ .ofMilliseconds (24 * 60 * 60 * 1000)) ∧
    ∀ tracked more, tracked ≤ more → more < Word.size 64 →
      timeout settings.queue tracked ≤ timeout settings.queue more := by
  constructor
  · intro tracked held
    have exactly := timeout_eq_unlimited settings.queue held
    refine ⟨exactly, ?_, ?_⟩
    · rw [options, unset, exactly, Duration.milliseconds_ofMilliseconds]
    · rw [exactly]
      exact Duration.ofMilliseconds_le (Nat.min_le_right _ _)
  · intro tracked more le held
    rw [timeout_eq_unlimited settings.queue (Nat.lt_of_le_of_lt le held),
      timeout_eq_unlimited settings.queue held]
    exact Duration.ofMilliseconds_le (unlimited_mono settings.queue le)

/-- Four batches that a word holds one by one, but not together: they take all events that a
word can count, in one round. -/
def capacious : Settings where
  queue := { batchSize := Word.size 63, batchDelay := 250, concurrency := 4 }

theorem capacious_rounds_take_all_events :
    capacious.wait.timeout = none ∧
      options capacious (Word.largest 64) = { capacious.wait with timeout := some 750 } ∧
      timeout capacious.queue 0 ≤ timeout capacious.queue (Word.largest 64) := by
  have unset : capacious.wait.timeout = none := rfl
  obtain ⟨exactly, grows⟩ := word_limits_do_not_change_the_timeout unset
  have held : Word.largest 64 < Word.size 64 := by decide
  have milliseconds : unlimited capacious.queue (Word.largest 64) = 750 := by decide +kernel
  refine ⟨unset, ?_, grows _ _ (Nat.zero_le _) held⟩
  rw [(exactly _ held).2.1, milliseconds]

/-- A timeout below a day is the product. -/
theorem timeout_of_lt_longest {settings : QueueSettings} {tracked : Nat}
    (short : timeout settings tracked < longestTimeout) :
    (timeout settings tracked).milliseconds =
      max settings.batchDelay 100 * (tracked ⌈/⌉ perRound settings + 2) := by
  rw [timeout_eq] at short ⊢
  rw [Duration.milliseconds_ofMilliseconds]
  generalize max settings.batchDelay 100 * (tracked ⌈/⌉ perRound settings + 2) = product at short ⊢
  have below : 1000000 * min product dayMilliseconds < 1000000 * dayMilliseconds := short
  generalize dayMilliseconds = day at below ⊢
  omega

/-- Rounds filled with parts are no more than rounds filled with events. -/
theorem rounds_of_parts_le {settings : QueueSettings} (someBatch : 0 < settings.batchSize)
    (someFlight : 0 < settings.concurrency) (events : Nat) :
    events ⌈/⌉ settings.batchSize ⌈/⌉ settings.concurrency ≤ events ⌈/⌉ perRound settings := by
  have within : perRound settings ≤ settings.batchSize * settings.concurrency :=
    Nat.max_le.mpr ⟨Nat.min_le_left _ _, Nat.mul_pos someBatch someFlight⟩
  rw [ceilDiv_le_iff_le_mul someFlight, ceilDiv_le_iff_le_mul someBatch, ← Nat.mul_assoc]
  calc events ≤ perRound settings * (events ⌈/⌉ perRound settings) :=
        (ceilDiv_le_iff_le_mul (perRound_pos settings)).mp (Nat.le_refl _)
    _ ≤ settings.batchSize * settings.concurrency * (events ⌈/⌉ perRound settings) :=
        Nat.mul_le_mul_right _ within

section

variable {settings : Settings} {station : Station} {run : Run}

/-- The latest delivery comes before the computed timeout is over. -/
theorem latest_lt (someBatch : 0 < station.queue.settings.batchSize)
    (someFlight : 0 < station.queue.settings.concurrency)
    (short : timeout station.queue.settings station.store.backlog.events.length < longestTimeout) :
    station.latest < station.scene.now +
      (timeout station.queue.settings station.store.backlog.events.length).milliseconds := by
  rw [timeout_of_lt_longest short, Station.latest]
  have parts : station.parts.length =
      station.store.backlog.events.length ⌈/⌉ station.queue.settings.batchSize :=
    length_chunks _ _
  have rounds := rounds_of_parts_le someBatch someFlight station.store.backlog.events.length
  rw [← parts] at rounds
  generalize station.store.backlog.events.length ⌈/⌉ perRound station.queue.settings = most
    at rounds ⊢
  have delays :=
    calc station.queue.settings.span
          (station.parts.length - station.queue.effectiveConcurrency)
        ≤ station.queue.settings.span station.parts.length :=
          QueueSettings.span_mono someFlight (Nat.sub_le _ _)
      _ ≤ most * station.queue.settings.batchDelay := Nat.mul_le_mul_right _ rounds
      _ ≤ most * max station.queue.settings.batchDelay 100 :=
          Nat.mul_le_mul_left _ (Nat.le_max_left _ _)
  rw [Nat.mul_add, Nat.mul_comm _ most]
  omega

theorem timeoutFor_of_unset (unset : settings.wait.timeout = none) (tracked : Nat) :
    (options settings tracked).timeoutFor settings.queue =
      (timeout settings.queue tracked).milliseconds := by
  rw [Replay.timeoutFor_options, unset]
  rfl

theorem options_interval (settings : Settings) (tracked : Nat) :
    (options settings tracked).interval = settings.wait.interval := by
  unfold options
  split <;> rfl

/-- Nothing stored needs no room. -/
theorem stored_of_crowded (crowded : ¬ station.Roomy) : station.store.backlog.events ≠ [] := by
  rintro nothing
  apply crowded
  right
  rw [nothing]
  exact Nat.zero_le _

/-- A run that begins with accepted settings makes its queue idle before the computed timeout is
over, if that is below a day and every batch is delivered at once. The wait sees it, whatever
the order of their steps, exactly if the clock can show its end and there is room for the batches
that a round asks for. Without that room the queue is never idle, and no wait sees it so. -/
theorem computed_wait_sees_the_queue_idle_iff {tracked : Nat} (accepted : settings.issues = [])
    (unset : settings.wait.timeout = none)
    (configured : station.queue.settings = settings.queue)
    (held : station.store.backlog.events.length = tracked)
    (faultless : station.store.Faultless) (indexed : station.store.backlog.Indexed)
    (nothing : station.queue.inFlight = []) (free : station.queue.running = false)
    (past : ∀ ended, station.queue.lastRound = some ended → ended ≤ station.scene.now)
    (begun : Run.start station.queue = .ok run)
    (short : timeout settings.queue tracked < longestTimeout)
    (swift : ∀ wait, Vigil.Swift { run, station, wait := .inr wait }) :
    ((∃ wait, (options settings tracked).start? station.queue.settings station.scene.now =
          some wait ∧
        Vigil.Inevitable
          (Vigil.Succeeded (station.scene.now + (timeout settings.queue tracked).milliseconds))
          { run, station, wait := .inr wait }) ↔
      Replay.Timely settings tracked station.scene.now ∧ station.Roomy) ∧
    (¬ station.Roomy → ∀ wait vigil, Vigil.Reached { run, station, wait } vigil →
      vigil.station.isIdle = false) := by
  have interval : settings.wait.interval ≠ 0 :=
    (Settings.issues_eq_nil_iff settings).mp accepted .interval
  have queueAccepted := (Settings.accepted_of_issues_eq_nil accepted).queue
  have timeoutFor := timeoutFor_of_unset unset tracked
  rw [← configured] at queueAccepted
  have ready (crowded : ¬ station.Roomy) : station.Ready :=
    ⟨queueAccepted, faultless, indexed, stored_of_crowded crowded, nothing, free⟩
  refine ⟨⟨?_, ?_⟩, fun crowded _ _ => Vigil.busy_of_crowded (ready crowded) begun crowded⟩
  · rintro ⟨wait, begins, inevitable⟩
    constructor
    · by_contra untimely
      rw [WaitOptions.start?, configured, IdleWait.start?_eq_none untimely] at begins
      cases begins
    · by_contra crowded
      exact Vigil.not_succeeds_of_crowded (ready crowded) begun crowded _ inevitable
  · rintro ⟨timely, roomy⟩
    obtain ⟨someBatch, someFlight⟩ := QueueSettings.positive_of_validate queueAccepted
    have inTime : station.latest <
        station.scene.now + (timeout settings.queue tracked).milliseconds := by
      rw [← configured, ← held] at short ⊢
      exact latest_lt someBatch someFlight short
    have shown : Clock.Shows (.ofMilliseconds station.latest) := by
      rw [Replay.Timely, timeoutFor, ← Duration.ofMilliseconds_add] at timely
      exact timely.trans_le (Nat.le_of_lt inTime)
    let wait := IdleWait.before station.scene.now
      (.ofMilliseconds (options settings tracked).interval)
      (.ofMilliseconds ((options settings tracked).timeoutFor settings.queue)) 0
    have begins : (options settings tracked).start? station.queue.settings station.scene.now =
        some wait := by
      rw [WaitOptions.start?, configured, IdleWait.start?_eq_some timely]
    have pauses : 0 < wait.interval.timerMilliseconds := by
      show 0 < (Duration.ofMilliseconds (options settings tracked).interval).timerMilliseconds
      rw [Duration.timerMilliseconds_ofMilliseconds, options_interval]
      exact Nat.pos_of_ne_zero interval
    have lastDue : wait.lastDue =
        station.scene.now + (timeout settings.queue tracked).milliseconds := by
      rw [IdleWait.before_lastDue, timeoutFor, Duration.timerMilliseconds_ofMilliseconds]
    rw [← lastDue] at inTime ⊢
    exact ⟨wait, begins, Vigil.succeeds_after_latest queueAccepted faultless indexed nothing free
      past roomy shown begun IdleWait.instant_zero pauses inTime (swift wait)⟩

end

/-- Five events, two to a batch, just after a round that failed: the run waits for a second, and
then its first round takes a single batch. -/
def congested : Station where
  queue :=
    { settings := { batchSize := 2, batchDelay := 1000, concurrency := 2 }
      observer := .notes
      processor := some (.debug "sink")
      lastRound := some 700 }
  store :=
    { backlog := Backlog.write {} <| ["a", "b", "c", "d", "e"].map fun id =>
        .make { type := "PressEvent" } id 1 }
  scene := { now := 700 }

theorem congested_queue_is_idle_in_time :
    let settings : Settings := { queue := congested.queue.settings }
    settings.issues = [] ∧ congested.latest = 2700 ∧
      (timeout settings.queue 5).milliseconds = 4000 ∧
      ∃ wait, (options settings 5).start? congested.queue.settings 700 = some wait ∧
        Vigil.Inevitable (Vigil.Succeeded 4700)
          { run := { processor := .debug "sink" }, station := congested, wait := .inr wait } := by
  intro settings
  have valid : settings.issues = [] := by decide +kernel
  have short : timeout settings.queue 5 < longestTimeout := by decide +kernel
  have milliseconds : (timeout settings.queue 5).milliseconds = 4000 := by decide +kernel
  have past : ∀ ended, congested.queue.lastRound = some ended → ended ≤ congested.scene.now := by
    rintro ended ⟨⟩
    exact Nat.le_refl _
  have timely : Replay.Timely settings 5 700 := Replay.timely_of_words _ (by decide) nofun
  have roomy : congested.Roomy := .inl (by decide)
  obtain ⟨sees, -⟩ := computed_wait_sees_the_queue_idle_iff valid rfl
    (rfl : congested.queue.settings = settings.queue) (rfl : _ = 5) rfl
    (Backlog.write_indexed Backlog.indexed_empty _) rfl rfl past rfl short
    fun _ => .of_prompt (.debug "sink")
  obtain ⟨wait, begins, seen⟩ := sees.mpr ⟨timely, roomy⟩
  rw [milliseconds] at seen
  exact ⟨valid, by decide +kernel, milliseconds, wait, begins, seen⟩

/-- Two events, one to a batch, for a transport that takes them at once. The settings ask for more
batches to a round than there is room for. -/
def overfilled : Station where
  queue :=
    { settings := { batchSize := 1, concurrency := Word.largest 63 }
      observer := .log
      processor := some (.debug "sink") }
  store :=
    { backlog := Backlog.write {} <| ["a", "b"].map fun id =>
        .make { type := "PressEvent" } id 1 }
  scene := {}

/-- A wait of three seconds begins, and whatever happens it never finds the queue idle. -/
theorem overfilled_queue_is_never_idle :
    let settings : Settings := { queue := overfilled.queue.settings }
    settings.issues = [] ∧ (timeout settings.queue 2).milliseconds = 3000 ∧
      ∃ wait, (options settings 2).start? overfilled.queue.settings 0 = some wait ∧
        (∀ vigil, Vigil.Reached
            { run := { processor := .debug "sink" }, station := overfilled, wait := .inr wait }
            vigil →
          vigil.station.isIdle = false) ∧
        ¬ Vigil.Inevitable (Vigil.Succeeded 3000)
          { run := { processor := .debug "sink" }, station := overfilled, wait := .inr wait } := by
  intro settings
  have ready : overfilled.Ready :=
    ⟨rfl, rfl, Backlog.write_indexed Backlog.indexed_empty _, by decide, rfl, rfl⟩
  have crowded : ¬ overfilled.Roomy := by
    unfold Station.Roomy
    decide
  have timely : Replay.Timely settings 2 0 := Replay.timely_of_words _ (by decide) nofun
  exact ⟨by decide +kernel, by decide +kernel, _, IdleWait.start?_eq_some timely,
    fun _ => Vigil.busy_of_crowded ready rfl crowded,
    Vigil.not_succeeds_of_crowded ready rfl crowded 3000⟩

end Drain

end Telemetry
