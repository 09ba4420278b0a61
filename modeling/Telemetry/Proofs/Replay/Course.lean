import Telemetry.Proofs.Queue.Prompt
import Telemetry.Proofs.Queue.Tally
import Telemetry.Proofs.Replay.Desk

/-!
Contract: the courses that a replay can take, and what holds on all of them.

Owns:
- `Replay.Reads`, lines that are tracked one after the other with steps in the
  background at any time, and `Replay.MayReturn`, the summaries that a replay can
  come to;
- `Desk.Kept`: there is a history of the queue that accounts for the session, all
  batches have one outcome, and the events that were pushed have the identifiers
  that were drawn;
- that every line, every step and the wait keep it, which gives the `Outcome` of
  every course;
- that setting up succeeds, that the wait has an end, and that the program itself
  takes one of these courses.

Does not own: what follows for the counts, for an inactive tracker and for a
retry without any time; see `Replay.Accounting`, `Replay.Activation` and
`Replay.Attempts`.
-/

namespace Telemetry

open Occurrence

namespace Replay

/-! ### Courses -/

/-- Lines are tracked one after the other, with steps in the background at any time. -/
inductive Reads (opening : Session) : List (Nat × String) → ReplaySummary → Session → Prop where
  | start : Reads opening [] {} opening
  | line {lines : List (Nat × String)} {summary : ReplaySummary} {now : Session}
      (earlier : Reads opening lines summary now) (line : Nat × String) :
      Reads opening (lines ++ [line]) (trackLine (summary, now) line).1
        (trackLine (summary, now) line).2
  | work {lines : List (Nat × String)} {summary : ReplaySummary} {now next : Session}
      (earlier : Reads opening lines summary now) (stirs : now.Stirs next) :
      Reads opening lines summary next

/-- A replay can come to a summary: it reads all lines, waits for the queue, and takes its
counts when the wait is over or given up. A wait whose end the clock cannot show leads to
none. -/
inductive MayReturn (spec : TrackerSpec) (settings : Settings) (retrying : Bool) (start : Nat)
    (text : String) : ReplaySummary → Prop where
  | intro {opening now : Session} {read : ReplaySummary} {last : Begun}
      (opened : setUp settings retrying spec start = (.ok (), opening))
      (reads : Reads opening (numberedLines text) read now)
      (timely : Timely settings read.tracked now.now)
      (waited : (now.resume (.step (drain settings read.tracked))).Proceeds last) :
      MayReturn spec settings retrying start text (conclude read last.answerSoFar last.2).1

/-- The program reads the lines without a pause. -/
theorem Reads.foldl {opening now : Session} {before : List (Nat × String)}
    {summary : ReplaySummary} (earlier : Reads opening before summary now)
    (lines : List (Nat × String)) :
    Reads opening (before ++ lines) (lines.foldl trackLine (summary, now)).1
      (lines.foldl trackLine (summary, now)).2 := by
  induction lines generalizing before summary now with
  | nil => simpa using earlier
  | cons line lines inductionHypothesis =>
      have read := inductionHypothesis (earlier.line line)
      rwa [List.append_assoc, List.singleton_append, Prod.eta, ← List.foldl_cons] at read

/-! ### Outcomes -/

/-- The outcome of every batch of a replay. Nothing but a lack of time makes one fail. -/
def verdict (settings : Settings) (retrying : Bool) : Option TransportError :=
  if retrying = true ∧ settings.retry.maxRetry = some 0 then some (.retryExhausted 0 []) else none

theorem policy_maxRetry_eq_zero_iff (settings : RetrySettings) :
    settings.policy.maxRetry = some ⟨0⟩ ↔ settings.maxRetry = some 0 := by
  simp only [RetrySettings.policy, Option.map_eq_some_iff, Duration.ofMilliseconds,
    Duration.mk.injEq]
  constructor
  · rintro ⟨limit, limited, none⟩
    obtain rfl : limit = 0 := by omega
    exact limited
  · intro limited
    exact ⟨0, limited, rfl⟩

theorem line_prompt {settings : Settings} (accepted : settings.Accepted) (retrying : Bool) :
    (line settings retrying).Prompt (verdict settings retrying) := by
  have debug := Transport.Prompt.debug Transport.debugName
  cases retrying with
  | false => simpa [line, verdict] using debug
  | true =>
      by_cases untimed : settings.retry.maxRetry = some 0
      · simp only [line, verdict, if_true, untimed, and_self]
        exact .retry_of_no_time ((policy_maxRetry_eq_zero_iff settings.retry).mpr untimed)
      · simp only [line, verdict, if_true, untimed, and_false, if_false]
        exact debug.retry accepted.attempts fun limited =>
          untimed ((policy_maxRetry_eq_zero_iff settings.retry).mp limited)

end Replay

/-! ### Tasks -/

namespace Task

/-- Batches that the task has read and not settled. -/
def unsettled : Task → List (List Event)
  | .active (.backgroundRun _ (some run)) => run.stage.unsettled
  | _ => []

/-- The task is a run of the first queue, through a transport, or it is over. -/
inductive Serves (transport : Transport) : Task → Prop where
  | asked : Serves transport (.active (.backgroundRun 0 none))
  | running {run : Run} (serves : run.Serves transport) :
      Serves transport (.active (.backgroundRun 0 (some run)))
  | over (answer : Answer) : Serves transport (.over answer)

theorem Serves.of_asked {transport : Transport} {queue : Nat}
    (serves : Serves transport (.active (.backgroundRun queue none))) : queue = 0 := by
  cases serves
  rfl

theorem Serves.of_running {transport : Transport} {queue : Nat} {run : Run}
    (serves : Serves transport (.active (.backgroundRun queue (some run)))) :
    queue = 0 ∧ run.Serves transport := by
  cases serves with
  | running serves => exact ⟨rfl, serves⟩

theorem unsettled_perm (earlier later : List Task) (task : Task) :
    ((earlier ++ task :: later).flatMap unsettled).Perm
      (task.unsettled ++ (earlier ++ later).flatMap unsettled) := by
  simp only [List.flatMap_append, List.flatMap_cons]
  rw [← List.append_assoc, ← List.append_assoc]
  exact List.perm_append_comm.append_right _

/-- The batches in hand are those of one task and of the others, also when the task changes. -/
theorem unsettled_set {tasks : List Task} {number : Nat} {old : Task}
    (present : tasks[number]? = some old) (task : Task) :
    ∃ others, (tasks.flatMap unsettled).Perm (old.unsettled ++ others) ∧
      ((tasks.set number task).flatMap unsettled).Perm (task.unsettled ++ others) := by
  obtain ⟨inside, isOld⟩ := List.getElem?_eq_some_iff.mp present
  obtain ⟨earlier, later, split, -, changed⟩ := @List.exists_of_set _ number task tasks inside
  rw [isOld] at split
  refine ⟨(earlier ++ later).flatMap unsettled, ?_, ?_⟩
  · rw [split]
    exact unsettled_perm earlier later old
  · rw [changed]
    exact unsettled_perm earlier later task

end Task

/-- A run neither pushes nor flushes. -/
theorem Run.Move.quiet {run next : Run} {station after : Station} {label : Option Occurrence}
    (move : Move run station label next after) :
    pushes label.toList = [] ∧ .flushed ∉ label.toList := by
  cases move <;> simp [pushes, pushedEvents]

namespace Replay

variable (settings : Settings) (retrying : Bool) (identifiers : List String) (active : Bool)

/-! ### What is kept -/

/-- The queue of a replay as it is made. -/
def madeStation : Station := ⟨{ settings := settings.queue, observer := .log }, {}, {}⟩

/-- The session of a replay with another task in the place of a task. -/
def Desk.withTask (desk : Desk) (number : Nat) (task : Task) : Desk :=
  { desk with tasks := desk.tasks.set number task }

/-- A history accounts for the session of a replay. -/
structure Desk.Kept (history : List Occurrence) (desk : Desk) : Prop where
  recorded : Recorded (madeStation settings) history desk.station
    (desk.tasks.flatMap Task.unsettled)
  bound : desk.station.queue.processor = (openingQueue settings retrying active).processor
  serves : ∀ task ∈ desk.tasks, task.Serves (line settings retrying)
  verdicts : ∀ settlement ∈ settlements history, settlement.2 = verdict settings retrying
  unflushed : .flushed ∉ history
  /-- An active tracker has pushed each event that it made. -/
  drawn : (pushes history).map Event.id =
    if active then (List.range desk.drawn).map (namedId identifiers) else []
  /-- Only a push asks for a run, and nothing happens without one. -/
  untouched : pushes history = [] → desk.tasks = [] ∧ history = []

variable {settings retrying identifiers active} {history : List Occurrence} {desk : Desk}

theorem make_eq (accepted : settings.Accepted) :
    Queue.make settings.queue .log = .ok (madeStation settings).queue := by
  simp only [Queue.make, accepted.queue]
  rfl

/-- The session goes on as one of the replay. Nothing is pushed, and an empty store stays
empty. -/
def Desk.GoesOn (settings : Settings) (retrying : Bool) (identifiers : List String)
    (active : Bool) (history : List Occurrence) (desk : Desk) (next : Session) : Prop :=
  ∃ (after : Desk) (later : List Occurrence),
    next = after.session settings retrying identifiers active ∧
      after.Kept settings retrying identifiers active (history ++ later) ∧ pushes later = [] ∧
        after.drawn = desk.drawn ∧
          (desk.station.store.backlog.events = [] → after.station.store.backlog.events = [])

theorem Desk.GoesOn.of_kept (after : Desk)
    (kept : after.Kept settings retrying identifiers active history)
    (drawn : after.drawn = desk.drawn)
    (store : after.station.store = desk.station.store) :
    Desk.GoesOn settings retrying identifiers active history desk
      (after.session settings retrying identifiers active) :=
  ⟨after, [], rfl, by rwa [List.append_nil], rfl, drawn, by rw [store]; exact id⟩

namespace Desk.Kept

theorem opening (scene : Scene) :
    Kept settings retrying identifiers active []
      { station := ⟨openingQueue settings retrying active, {}, scene⟩ } where
  recorded := (Recorded.mk .start (.refl _)).rearranged
    (openingQueue settings retrying active).processor false none scene
  bound := rfl
  serves := List.forall_mem_nil _
  verdicts := List.forall_mem_nil _
  unflushed := List.not_mem_nil
  drawn := by cases active <;> rfl
  untouched _ := ⟨rfl, rfl⟩

variable (kept : desk.Kept settings retrying identifiers active history)

include kept

theorem accounted (accepted : settings.Accepted) : Station.Accounted history desk.station :=
  kept.recorded.reached.accounted (.of_make (make_eq accepted) {})

theorem attended : (desk.session settings retrying identifiers active).Attended := by
  intro activity member
  cases kept.serves _ member with
  | asked => exact ⟨_, _, rfl⟩
  | running => exact ⟨_, _, rfl⟩

theorem configured : desk.station.queue.settings = settings.queue :=
  kept.recorded.reached.settings_eq

/-- The wait that follows is due at once, and not after its last look. -/
theorem exists_wait {tracked : Nat}
    (timely : Timely settings tracked desk.station.scene.now) :
    ∃ wait, (Drain.options settings tracked).start? desk.station.queue.settings
        desk.station.scene.now = some wait ∧
      wait.due = desk.station.scene.now ∧ wait.due ≤ wait.lastDue := by
  rw [kept.configured]
  refine ⟨_, IdleWait.start?_eq_some timely, IdleWait.instant_zero, ?_⟩
  rw [IdleWait.before_lastDue]
  exact IdleWait.instant_le _ _ _ _

theorem withScene (scene : Scene) :
    (desk.withScene scene).Kept settings retrying identifiers active history :=
  { kept with
    recorded := kept.recorded.rearranged desk.station.queue.processor desk.station.queue.running
      desk.station.queue.lastRound scene }

/-- One task changes, and the station with it. -/
theorem replace {number : Nat} {old task : Task} {station : Station} {label : Option Occurrence}
    (present : desk.tasks[number]? = some old) (serves : task.Serves (line settings retrying))
    (moved : ∀ others, Recorded (madeStation settings) history desk.station
        (old.unsettled ++ others) →
      Recorded (madeStation settings) (history ++ label.toList) station (task.unsettled ++ others))
    (bound : station.queue.processor = desk.station.queue.processor)
    (quiet : pushes label.toList = [] ∧ .flushed ∉ label.toList)
    (verdicts : ∀ settlement ∈ settlements label.toList,
      settlement.2 = verdict settings retrying) :
    Kept settings retrying identifiers active (history ++ label.toList)
      { desk with station, tasks := desk.tasks.set number task } := by
  obtain ⟨others, before, after⟩ := Task.unsettled_set present task
  have same : pushes (history ++ label.toList) = pushes history := by
    rw [pushes_append, quiet.1, List.append_nil]
  constructor
  · exact (moved others (kept.recorded.perm before.symm)).perm after
  · exact bound.trans kept.bound
  · intro other member
    rcases List.mem_or_eq_of_mem_set member with old | rfl
    · exact kept.serves other old
    · exact serves
  · intro settlement member
    rw [settlements_append, List.mem_append] at member
    exact member.elim (kept.verdicts settlement) (verdicts settlement)
  · rw [List.mem_append, not_or]
    exact ⟨kept.unflushed, quiet.2⟩
  · rw [same]
    exact kept.drawn
  · intro nothing
    rw [same] at nothing
    rw [(kept.untouched nothing).1] at present
    cases present

/-- One task changes, and nothing happens to the events. -/
theorem changeTask {number : Nat} {old task : Task}
    (present : desk.tasks[number]? = some old) (serves : task.Serves (line settings retrying))
    (same : task.unsettled.Perm old.unsettled) :
    (desk.withTask number task).Kept settings retrying identifiers active history := by
  have moved (others : List (List Event))
      (recorded : Recorded (madeStation settings) history desk.station (old.unsettled ++ others)) :
      Recorded (madeStation settings) (history ++ none.toList) desk.station
        (task.unsettled ++ others) := by
    simpa using recorded.perm (same.append_right others)
  have replaced := kept.replace present serves moved rfl ⟨rfl, List.not_mem_nil⟩
    (List.forall_mem_nil _)
  rwa [Option.toList_none, List.append_nil] at replaced

/-- A run begins with the transport that is bound, and with no batch. -/
theorem start_serves {run : Run} (begun : Run.start desk.station.queue = .ok run) :
    run.Serves (line settings retrying) ∧ run.stage.unsettled = [] := by
  have bound := kept.bound
  unfold Run.start at begun
  split at begun
  next processor isProcessor =>
    cases begun
    rw [isProcessor] at bound
    cases active <;> cases bound
    exact ⟨⟨rfl, rfl⟩, rfl⟩
  · cases begun

/-- A step of a run is a step of the history. -/
theorem step (accepted : settings.Accepted) {number : Nat} {run next : Run} {after : Station}
    (present : desk.tasks[number]? = some (.active (.backgroundRun 0 (some run))))
    (stepped : run.step? desk.station = some (next, after)) :
    GoesOn settings retrying identifiers active history desk
      (({ desk with station := after }.withTask number
        (.active (.backgroundRun 0 (some next)))).session settings retrying identifiers
          active) := by
  have accounted := kept.accounted accepted
  have move := Run.step?_move stepped
  have serves := (kept.serves _ (List.mem_of_getElem? present)).of_running.2
  obtain ⟨servesLater, verdicts⟩ := serves.step (line_prompt accepted retrying)
    accounted.faultless stepped
  refine ⟨_, (run.occurrence? desk.station).toList, rfl, ?_, move.quiet.1, rfl, ?_⟩
  · refine kept.replace present (.running servesLater)
      (fun others recorded => recorded.move accounted move) move.processor_eq move.quiet ?_
    rintro ⟨batch, outcome⟩ member
    obtain ⟨occurrence, happened, settled⟩ := List.mem_filterMap.mp member
    cases occurrence with
    | settled => exact verdicts _ _ (by cases settled; exact Option.mem_toList.mp happened)
    | _ => cases settled
  · intro nothing
    rcases move.backlog accounted.faultless with ⟨batch, -, deleted⟩ | ⟨-, same⟩
    · simp only [Desk.withTask, deleted, Backlog.delete, nothing, List.filter_nil]
    · simp only [Desk.withTask, same, nothing]

/-- Every step in the background leads to a session of the replay, and an empty store stays
empty. -/
theorem stirs (accepted : settings.Accepted) {next : Session}
    (stirs : (desk.session settings retrying identifiers active).Stirs next) :
    GoesOn settings retrying identifiers active history desk next := by
  have servesOf {number : Nat} {task : Task} (present : desk.tasks[number]? = some task) :
      task.Serves (line settings retrying) := kept.serves task (List.mem_of_getElem? present)
  cases stirs with
  | begin asked found begun =>
      cases (servesOf asked).of_asked
      cases found
      obtain ⟨serves, bare⟩ := kept.start_serves begun
      exact .of_kept _ (kept.changeTask asked (.running serves) (.of_eq bare)) rfl rfl
  | refuse asked found refused =>
      exact .of_kept _ ((kept.changeTask asked (.over .nothing) (.refl _)).withScene _) rfl rfl
  | step active found stepped =>
      cases (servesOf active).of_running.1
      cases found
      exact kept.step accepted active stepped
  | @wake number queue run active =>
      obtain ⟨rfl, serves⟩ := (servesOf active).of_running
      exact .of_kept _ (kept.changeTask active (.running serves.wake) run.wake_stage.2.1) rfl rfl
  | @finish number queue run active ended =>
      have bare : run.stage.unsettled = [] := by
        rcases ended with ended | ended <;> rw [ended] <;> rfl
      exact .of_kept _ (kept.changeTask active (.over .nothing) (.of_eq bare.symm)) rfl rfl
  | @abandon number queue run active absent =>
      cases run with
      | none =>
          cases (servesOf active).of_asked
          cases absent
      | some run =>
          cases (servesOf active).of_running.1
          cases absent
  | schedule ready yielded sleeping =>
      exact .of_kept { desk with ready, yielded, sleeping } { kept with } rfl rfl
  | clock time => exact .of_kept _ (kept.withScene _) rfl rfl

end Desk.Kept

/-! ### Lines -/

namespace Desk.Kept

/-- An event was made and pushed, and a run asked for. -/
theorem push {scene : Scene} {event : Event} {after : Station}
    (kept : desk.Kept settings retrying identifiers true history)
    (named : event.id = namedId identifiers desk.drawn)
    (pushed : (Station.mk desk.station.queue desk.station.store scene).push true [event] =
      (.ok (), after)) :
    (desk.pushed after).Kept settings retrying identifiers true (history ++ [.pushed [event]]) where
  recorded := by
    have recorded := (kept.withScene scene).recorded.push pushed
    simpa [Desk.pushed, Desk.withScene, Task.unsettled] using recorded
  bound := by
    have same := Station.push_queue pushed
    rw [Desk.pushed, same]
    exact kept.bound
  serves := by
    intro task member
    rcases List.mem_append.mp member with old | new
    · exact kept.serves task old
    · rw [List.mem_singleton.mp new]
      exact .asked
  verdicts := by simpa [settlements, settlement?] using kept.verdicts
  unflushed := by simpa using kept.unflushed
  drawn := by
    have drawn := kept.drawn
    rw [if_pos rfl] at drawn ⊢
    simp [pushes_append_one, pushedEvents, drawn, Desk.pushed, List.range_succ, named]
  untouched := by simp [pushes_append_one, pushedEvents]

/-- An inactive tracker makes an event, which goes nowhere. -/
theorem leave (kept : desk.Kept settings retrying identifiers false history) (scene : Scene) :
    ({ desk with drawn := desk.drawn + 1 }.withScene scene).Kept settings retrying identifiers false
      history :=
  { kept.withScene scene with }

end Desk.Kept

/-- What the lines say, without blanks at their ends and without blank lines. -/
def contentsOf (lines : List (Nat × String)) : List String :=
  (lines.map fun line => Text.trim line.2).filter fun content => content ≠ ""

theorem contentsOf_append_one (lines : List (Nat × String)) (line : Nat × String) :
    contentsOf (lines ++ [line]) =
      contentsOf lines ++ if Text.trim line.2 = "" then [] else [Text.trim line.2] := by
  by_cases blank : Text.trim line.2 = "" <;> simp [contentsOf, blank]

/-- What a text says, line by line. -/
def contents (text : String) : List String :=
  ((text.toList.splitOn '\n').map fun line => Text.trim (.ofList line)).filter
    fun content => content ≠ ""

theorem numberedLines_eq (text : String) :
    numberedLines text =
      (((text.toList.splitOn '\n').map String.ofList).zipIdx 1).map Prod.swap := by
  rw [← String.toList_split_char]
  rfl

theorem contentsOf_numberedLines (text : String) :
    contentsOf (numberedLines text) = contents text := by
  have lines : (numberedLines text).map Prod.snd =
      (text.toList.splitOn '\n').map String.ofList := by
    rw [numberedLines_eq, List.map_map]
    exact List.zipIdx_map_fst 1 _
  have trimmed := congrArg (List.map Text.trim) lines
  rw [List.map_map, List.map_map] at trimmed
  exact congrArg (List.filter _) trimmed

def describesEvent (content : String) : Bool :=
  (EventAttributes.parse? content).isSome

/-- What was read is counted. -/
structure Tallied (contents : List String) (summary : ReplaySummary) : Prop where
  tracked : summary.tracked = contents.countP describesEvent
  malformed : summary.malformed = contents.countP fun content => !describesEvent content
  rejected : summary.rejected = 0

namespace Tallied

variable {contents : List String} {summary : ReplaySummary} {content : String}

theorem malformedLine (tallied : Tallied contents summary)
    (nothing : EventAttributes.parse? content = none) :
    Tallied (contents ++ [content]) { summary with malformed := summary.malformed + 1 } := by
  have noEvent : describesEvent content = false := by rw [describesEvent, nothing]; rfl
  constructor
  · simp [noEvent, tallied.tracked]
  · simp [noEvent, tallied.malformed]
  · exact tallied.rejected

theorem eventLine (tallied : Tallied contents summary) {attributes : EventAttributes}
    (parsed : EventAttributes.parse? content = some attributes) :
    Tallied (contents ++ [content]) { summary with tracked := summary.tracked + 1 } := by
  have isEvent : describesEvent content = true := by rw [describesEvent, parsed]; rfl
  constructor
  · simp [isEvent, tallied.tracked]
  · simp [isEvent, tallied.malformed]
  · exact tallied.rejected

end Tallied

/-- While the lines are read, the session is one of the replay, and every line of an event has
made one. -/
structure Reading (settings : Settings) (retrying : Bool) (identifiers : List String)
    (active : Bool) (lines : List (Nat × String)) (summary : ReplaySummary) (now : Session)
    (history : List Occurrence) (desk : Desk) : Prop where
  session : now = desk.session settings retrying identifiers active
  kept : desk.Kept settings retrying identifiers active history
  tallied : Tallied (contentsOf lines) summary
  counted : desk.drawn = summary.tracked

namespace Reading

variable {lines : List (Nat × String)} {summary : ReplaySummary} {now : Session}

theorem opening (scene : Scene) :
    Reading settings retrying identifiers active [] {}
      (Desk.session settings retrying identifiers active
        { station := ⟨openingQueue settings retrying active, {}, scene⟩ }) []
      { station := ⟨openingQueue settings retrying active, {}, scene⟩ } :=
  ⟨rfl, .opening scene, ⟨rfl, rfl, rfl⟩, rfl⟩

theorem line (accepted : settings.Accepted)
    (reading : Reading settings retrying identifiers active lines summary now history desk)
    (line : Nat × String) :
    ∃ history desk, Reading settings retrying identifiers active (lines ++ [line])
        (trackLine (summary, now) line).1 (trackLine (summary, now) line).2 history desk ∧
      (trackLine (summary, now) line).2.now = now.now := by
  obtain ⟨rfl, kept, tallied, counted⟩ := reading
  by_cases content : Text.trim line.2 = ""
  · have same : contentsOf (lines ++ [line]) = contentsOf lines := by
      rw [contentsOf_append_one, if_pos content, List.append_nil]
    rw [trackLine_of_blank content]
    exact ⟨history, desk, ⟨rfl, kept, same ▸ tallied, counted⟩, rfl⟩
  · have more : contentsOf (lines ++ [line]) = contentsOf lines ++ [Text.trim line.2] := by
      rw [contentsOf_append_one, if_neg content]
    cases parsed : EventAttributes.parse? (Text.trim line.2) with
    | none =>
        obtain ⟨scene, tracked, clock⟩ := trackLine_of_malformed content parsed
        rw [tracked]
        exact ⟨history, _,
          ⟨rfl, kept.withScene scene, more ▸ tallied.malformedLine parsed, counted⟩, clock⟩
    | some attributes =>
        have one : desk.drawn + 1 = summary.tracked + 1 := by rw [counted]
        have talliedLater := more ▸ tallied.eventLine parsed
        cases active with
        | true =>
            obtain ⟨event, scene, after, named, pushed, begun, clock⟩ :=
              begin_track_of_active (kept.accounted accepted).faultless
            rw [trackLine_of_answer content parsed begun]
            exact ⟨_, _, ⟨rfl, kept.push named pushed, talliedLater, one⟩, clock⟩
        | false =>
            obtain ⟨event, scene, begun, clock⟩ := begin_track_of_inactive
            rw [trackLine_of_answer content parsed begun]
            exact ⟨history, _, ⟨rfl, kept.leave scene, talliedLater, one⟩, clock⟩

/-- Lines that are read without a pause take no time. -/
theorem foldl (accepted : settings.Accepted) {before : List (Nat × String)}
    (reading : Reading settings retrying identifiers active before summary now history desk)
    (lines : List (Nat × String)) :
    ∃ history desk, Reading settings retrying identifiers active (before ++ lines)
        (lines.foldl trackLine (summary, now)).1 (lines.foldl trackLine (summary, now)).2 history
        desk ∧
      (lines.foldl trackLine (summary, now)).2.now = now.now := by
  induction lines generalizing before summary now history desk with
  | nil => exact ⟨history, desk, by rwa [List.append_nil], rfl⟩
  | cons line lines inductionHypothesis =>
      obtain ⟨_, _, readLine, sameClock⟩ := reading.line accepted line
      obtain ⟨history, desk, readRest, clock⟩ := inductionHypothesis readLine
      rw [List.append_assoc, List.singleton_append, Prod.eta, ← List.foldl_cons] at readRest
      rw [Prod.eta, ← List.foldl_cons] at clock
      exact ⟨history, desk, readRest, clock.trans sameClock⟩

theorem work (accepted : settings.Accepted)
    (reading : Reading settings retrying identifiers active lines summary now history desk)
    {next : Session} (stirs : now.Stirs next) :
    ∃ history desk,
      Reading settings retrying identifiers active lines summary next history desk := by
  obtain ⟨rfl, kept, tallied, counted⟩ := reading
  obtain ⟨after, later, rfl, keptLater, -, sameDrawn, -⟩ := kept.stirs accepted stirs
  exact ⟨_, after, rfl, keptLater, tallied, sameDrawn.trans counted⟩

end Reading

/-- However the lines are read, the session stays one of the replay. -/
theorem Reads.reading (accepted : settings.Accepted) {scene : Scene}
    {lines : List (Nat × String)} {summary : ReplaySummary} {now : Session}
    (reads : Reads (Desk.session settings retrying identifiers active
      { station := ⟨openingQueue settings retrying active, {}, scene⟩ }) lines summary now) :
    ∃ history desk,
      Reading settings retrying identifiers active lines summary now history desk := by
  induction reads with
  | start => exact ⟨[], _, .opening scene⟩
  | line _ line inductionHypothesis =>
      obtain ⟨_, _, reading⟩ := inductionHypothesis
      obtain ⟨history, desk, readingLater, -⟩ := reading.line accepted line
      exact ⟨history, desk, readingLater⟩
  | work _ stirs inductionHypothesis =>
      obtain ⟨_, _, reading⟩ := inductionHypothesis
      exact reading.work accepted stirs

/-! ### The wait -/

end Replay

theorem IdleWait.poll_eq_inl {wait : IdleWait} {now : Nat} {idle answer : Bool}
    (ended : wait.poll now idle = .inl answer) : answer = idle := by
  unfold poll at ended
  split at ended
  · cases ended
  · cases idle with
    | true =>
        cases ended
        rfl
    | false =>
        rw [if_neg Bool.false_ne_true] at ended
        split at ended <;> cases ended
        rfl

theorem Station.stored_eq_nil_of_isIdle {station : Station} (idle : station.isIdle = true) :
    station.store.backlog.events = [] := by
  rw [isIdle, Queue.isIdle, Bool.and_eq_true] at idle
  simpa [Store.isEmpty, Backlog.isEmpty, Backlog.length] using idle.1

/-- A wait that is over, or that the next look ends unless it comes before the deadline. -/
inductive Begun.OverBy (deadline : Nat) : Begun → Prop where
  | ended (session : Session) (idle : Bool) : OverBy deadline (session.answer (.flag idle))
  | waiting {session : Session} {activity : Activity}
      (ends : deadline ≤ session.now →
        ∃ idle, session.resume activity = session.answer (.flag idle)) :
      OverBy deadline (session.goOn activity)

namespace Replay

variable {settings : Settings} {retrying : Bool} {identifiers : List String} {active : Bool}
  {history : List Occurrence} {desk : Desk}

/-- The wait for the queue: it is over by a deadline, it ends well only if nothing is stored, and
if nothing was pushed it has ended well. -/
inductive Desk.Awaits (deadline : Nat) (history : List Occurrence) (desk : Desk) :
    Answer ⊕ Activity → Prop where
  | ended {idle : Bool} (empty : idle = true → desk.station.store.backlog.events = [])
      (rested : pushes history = [] → idle = true) :
      Awaits deadline history desk (.inl (.flag idle))
  | waiting {wait : IdleWait} (due : wait.due ≤ deadline) (limit : wait.lastDue ≤ deadline)
      (busy : pushes history ≠ []) :
      Awaits deadline history desk (.inr (.waitIdle 0 wait))

namespace Desk.Kept

variable (kept : desk.Kept settings retrying identifiers active history)
  (accepted : settings.Accepted)

include kept accepted

theorem faithful (distinct : ((pushes history).map Event.id).Nodup) :
    Station.Faithful history desk.station :=
  kept.recorded.reached.faithful (make_eq accepted) distinct

/-- A replay that has pushed nothing has nothing to do. -/
theorem idle_of_nothing_pushed (nothing : pushes history = []) :
    desk.station.isIdle = true := by
  have stored : desk.station.store.backlog.events = [] := by
    rw [(kept.faithful accepted (by rw [nothing]; exact List.nodup_nil)).stored]
    have left := pending_sublist_pushes history
    rw [nothing] at left
    exact List.sublist_nil.mp left
  have inHand := kept.recorded.inHand
  rw [(kept.untouched nothing).1] at inHand
  rw [(kept.accounted accepted).isIdle_iff]
  exact ⟨by simp [Store.isEmpty, Backlog.isEmpty, Backlog.length, stored], inHand.nil_eq.symm⟩

/-- One look at the queue: the session stays as it is, and from the deadline on the wait is
over. -/
theorem look (wait : IdleWait) {deadline : Nat} (due : wait.due ≤ deadline)
    (limit : wait.lastDue ≤ deadline)
    (onTime : pushes history = [] → wait.due ≤ desk.station.scene.now) :
    ∃ state, (desk.session settings retrying identifiers active).resume (.waitIdle 0 wait) =
        (state, desk.session settings retrying identifiers active) ∧
      desk.Awaits deadline history state ∧
        (deadline ≤ desk.station.scene.now → ∃ idle, state = .inl (.flag idle)) := by
  have idleIfNothing := kept.idle_of_nothing_pushed accepted
  cases polled : wait.poll desk.station.scene.now desk.station.isIdle with
  | inl idle =>
      have isIdle : idle = desk.station.isIdle := IdleWait.poll_eq_inl polled
      refine ⟨_, Session.resume_waitIdle_of_inl polled, .ended (fun ended => ?_) fun nothing => ?_,
        fun _ => ⟨idle, rfl⟩⟩
      · rw [isIdle] at ended
        exact Station.stored_eq_nil_of_isIdle ended
      · rw [isIdle, idleIfNothing nothing]
  | inr later =>
      obtain ⟨sameDeadline, dueLater, early⟩ := IdleWait.poll_eq_inr polled
      refine ⟨_, Session.resume_waitIdle_of_inr polled, .waiting (by omega) (by omega)
        fun nothing => ?_, fun late => by omega⟩
      rw [idleIfNothing nothing, IdleWait.poll, if_neg (Nat.not_lt.mpr (onTime nothing)),
        if_pos rfl] at polled
      cases polled

end Desk.Kept

/-- While the queue is waited for, the session is one of the replay. -/
structure Waiting (settings : Settings) (retrying : Bool) (identifiers : List String)
    (active : Bool) (deadline tracked : Nat) (state : Begun) (history : List Occurrence)
    (desk : Desk) : Prop where
  session : state.2 = desk.session settings retrying identifiers active
  kept : desk.Kept settings retrying identifiers active history
  counted : desk.drawn = tracked
  awaits : desk.Awaits deadline history state.1

namespace Waiting

variable {deadline tracked : Nat} {state : Begun}

/-- The wait begins with a look at the queue. -/
theorem begin (accepted : settings.Accepted)
    (kept : desk.Kept settings retrying identifiers active history)
    (timely : Timely settings tracked desk.station.scene.now) :
    ∃ deadline, Waiting settings retrying identifiers active deadline desk.drawn
      ((desk.session settings retrying identifiers active).resume (.step (drain settings tracked)))
      history desk := by
  obtain ⟨wait, begins, due, limit⟩ := kept.exists_wait timely
  obtain ⟨state, resumed, awaits, -⟩ := kept.look accepted wait limit (Nat.le_refl _) fun _ =>
    Nat.le_of_eq due
  rw [resume_drain begins, resumed]
  exact ⟨wait.lastDue, rfl, kept, rfl, awaits⟩

theorem turn (accepted : settings.Accepted) {now : Session} {activity : Activity}
    (waiting : Waiting settings retrying identifiers active deadline tracked (now.goOn activity)
      history desk) :
    Waiting settings retrying identifiers active deadline tracked (now.resume activity) history
        desk ∧
      (deadline ≤ now.now → ∃ idle, now.resume activity = now.answer (.flag idle)) := by
  obtain ⟨rfl, kept, counted, awaits⟩ := waiting
  cases awaits with
  | waiting due limit busy =>
      obtain ⟨state, resumed, awaits, late⟩ := kept.look accepted _ due limit fun nothing =>
        absurd nothing busy
      rw [resumed]
      refine ⟨⟨rfl, kept, counted, awaits⟩, fun isLate => ?_⟩
      obtain ⟨idle, rfl⟩ := late isLate
      exact ⟨idle, rfl⟩

theorem work (accepted : settings.Accepted) {state : Answer ⊕ Activity} {now next : Session}
    (waiting : Waiting settings retrying identifiers active deadline tracked (state, now) history
      desk) (stirs : now.Stirs next) :
    ∃ history desk, Waiting settings retrying identifiers active deadline tracked (state, next)
      history desk := by
  obtain ⟨rfl, kept, counted, awaits⟩ := waiting
  obtain ⟨after, later, rfl, keptLater, quiet, sameDrawn, stillEmpty⟩ := kept.stirs accepted stirs
  have same : pushes (history ++ later) = pushes history := by
    rw [pushes_append, quiet, List.append_nil]
  refine ⟨history ++ later, after, rfl, keptLater, sameDrawn.trans counted, ?_⟩
  cases awaits with
  | ended empty rested =>
      exact .ended (fun ended => stillEmpty (empty ended)) fun nothing => rested (same ▸ nothing)
  | waiting due limit busy => exact .waiting due limit fun nothing => busy (same ▸ nothing)

/-- A wait that ended well, and one that had nothing to wait for. -/
theorem drained
    (waiting : Waiting settings retrying identifiers active deadline tracked state history desk) :
    (isDrained state.answerSoFar = true → desk.station.store.backlog.events = []) ∧
      (pushes history = [] → isDrained state.answerSoFar = true) := by
  obtain ⟨state, session⟩ := state
  cases waiting.awaits with
  | ended empty rested => exact ⟨empty, rested⟩
  | waiting due limit busy => exact ⟨nofun, fun nothing => absurd nothing busy⟩

theorem proceeds (accepted : settings.Accepted) {later : Begun}
    (waiting : Waiting settings retrying identifiers active deadline tracked state history desk)
    (proceeds : state.Proceeds later) :
    ∃ history desk,
      Waiting settings retrying identifiers active deadline tracked later history desk := by
  induction proceeds with
  | start => exact ⟨history, desk, waiting⟩
  | turn _ inductionHypothesis =>
      obtain ⟨_, _, waiting⟩ := inductionHypothesis
      exact ⟨_, _, (waiting.turn accepted).1⟩
  | work _ stirs inductionHypothesis =>
      obtain ⟨_, _, waiting⟩ := inductionHypothesis
      exact waiting.work accepted stirs

/-- From its deadline on, the wait is over at the next look. -/
theorem overBy (accepted : settings.Accepted)
    (waiting : Waiting settings retrying identifiers active deadline tracked state history desk) :
    state.OverBy deadline := by
  obtain ⟨state, now⟩ := state
  cases waiting.awaits with
  | ended empty rested => exact .ended _ _
  | waiting due limit busy => exact .waiting (waiting.turn accepted).2

end Waiting

/-! ### The end -/

/-- What the summary of a replay says, and what it comes from. -/
structure Outcome (settings : Settings) (retrying : Bool) (identifiers : List String)
    (active : Bool) (text : String) (summary : ReplaySummary) (history : List Occurrence)
    (desk : Desk) : Prop where
  kept : desk.Kept settings retrying identifiers active history
  tallied : Tallied (contents text) summary
  counted : desk.drawn = summary.tracked
  delivered : summary.deliveredBatches = desk.station.queue.deliveredBatches
  failed : summary.failedBatches = desk.station.queue.failedBatches
  pending : summary.pending = desk.station.store.length
  drained : summary.drained = true → desk.station.store.backlog.events = []
  rested : pushes history = [] → summary.drained = true

variable {start : Nat} {text : String} {summary : ReplaySummary}

theorem MayReturn.outcome (accepted : settings.Accepted)
    (may : MayReturn (trackerThatIs active settings identifiers) settings retrying start text
      summary) :
    ∃ history desk,
      Outcome settings retrying identifiers active text summary history desk := by
  obtain ⟨opened, reads, timely, waited⟩ := may
  obtain ⟨scene, isOpening, -⟩ := setUp_eq retrying identifiers active accepted start
  rw [isOpening] at opened
  cases opened
  obtain ⟨_, _, rfl, kept, tallied, counted⟩ := reads.reading accepted
  rw [contentsOf_numberedLines] at tallied
  obtain ⟨_, waiting⟩ := Waiting.begin accepted kept timely
  obtain ⟨history, desk, waitingLast⟩ := waiting.proceeds accepted waited
  obtain ⟨drained, rested⟩ := waitingLast.drained
  obtain ⟨isSession, keptLast, same, -⟩ := waitingLast
  refine ⟨history, desk, ?_⟩
  rw [isSession, conclude_eq]
  exact {
    kept := keptLast
    tallied := ⟨tallied.tracked, tallied.malformed, tallied.rejected⟩
    counted := same.trans counted
    delivered := rfl
    failed := rfl
    pending := rfl
    drained
    rested }

namespace Outcome

/-- An active tracker has pushed one event for each line that describes one. -/
theorem length_pushes
    (outcome : Outcome settings retrying identifiers true text summary history desk) :
    (pushes history).length = summary.tracked := by
  have drawn := congrArg List.length outcome.kept.drawn
  simpa [outcome.counted] using drawn

/-- The wait of an active tracker ends well only with a delivery, if there is anything to
deliver. -/
theorem tracked_eq_zero_of_undelivered (accepted : settings.Accepted)
    (outcome : Outcome settings retrying identifiers true text summary history desk)
    (undelivered : deliveries history = []) (drained : summary.drained = true) :
    summary.tracked = 0 := by
  rw [← outcome.length_pushes, List.length_eq_zero_iff]
  by_contra pushed
  exact outcome.kept.recorded.reached.stored_of_undelivered (.of_make (make_eq accepted) {})
    outcome.kept.unflushed undelivered pushed (outcome.drained drained)

variable (outcome : Outcome settings retrying identifiers active text summary history desk)

include outcome

theorem delivered_eq : summary.deliveredBatches = (deliveries history).length := by
  rw [outcome.delivered, outcome.kept.recorded.reached.counters.1]
  exact Nat.zero_add _

theorem failed_eq : summary.failedBatches = (failures history).length := by
  rw [outcome.failed, outcome.kept.recorded.reached.counters.2]
  exact Nat.zero_add _

end Outcome

/-- Setting up succeeds, and when the lines have been read, in whatever way, the wait that follows
is over at the first look past some time, if the clock can show its end. -/
def Concludes (spec : TrackerSpec) (settings : Settings) (retrying : Bool) (start : Nat)
    (text : String) : Prop :=
  ∃ opening, setUp settings retrying spec start = (.ok (), opening) ∧
    ∀ read now, Reads opening (numberedLines text) read now →
      Timely settings read.tracked now.now →
      ∃ deadline, ∀ later, (now.resume (.step (drain settings read.tracked))).Proceeds later →
        later.OverBy deadline

theorem concludes (retrying : Bool) (identifiers : List String) (active : Bool)
    (accepted : settings.Accepted) (start : Nat) (text : String) :
    Concludes (trackerThatIs active settings identifiers) settings retrying start text := by
  obtain ⟨scene, opened, -⟩ := setUp_eq retrying identifiers active accepted start
  refine ⟨_, opened, fun read now reads timely => ?_⟩
  obtain ⟨_, _, rfl, kept, -, -⟩ := reads.reading accepted
  obtain ⟨deadline, waiting⟩ := Waiting.begin accepted kept timely
  refine ⟨deadline, fun later proceeds => ?_⟩
  obtain ⟨_, _, waitingLater⟩ := waiting.proceeds accepted proceeds
  exact waitingLater.overBy accepted

/-- The program takes one of the courses. -/
theorem runThrough_mayReturn (retrying : Bool) (identifiers : List String) (active : Bool)
    (accepted : settings.Accepted) {start : Nat} {text : String}
    (timely : Timely settings ((contents text).countP describesEvent) start) :
    ∃ summary entries, runThrough (trackerThatIs active settings identifiers) settings retrying
        start (.ok text) = (.ok summary, entries) ∧
      MayReturn (trackerThatIs active settings identifiers) settings retrying start text
        summary := by
  obtain ⟨scene, opened, clock⟩ := setUp_eq retrying identifiers active accepted start
  let opening := Desk.session settings retrying identifiers active
    { station := ⟨openingQueue settings retrying active, {}, scene⟩ }
  rcases isRead : (numberedLines text).foldl trackLine ({}, opening) with ⟨read, now⟩
  have reads : Reads opening (numberedLines text) read now := by
    have reads := (Reads.start : Reads opening [] {} opening).foldl (numberedLines text)
    rw [List.nil_append, isRead] at reads
    exact reads
  obtain ⟨_, desk, ⟨rfl, kept, tallied, -⟩, sameClock⟩ :
      ∃ history desk, Reading settings retrying identifiers active (numberedLines text) read now
        history desk ∧ now.now = opening.now := by
    have reading := (@Reading.opening settings retrying identifiers active scene).foldl accepted
      (numberedLines text)
    rw [List.nil_append, isRead] at reading
    exact reading
  have timelyNow : Timely settings read.tracked desk.station.scene.now := by
    have atStart : desk.station.scene.now = start := sameClock.trans clock
    rw [tallied.tracked, contentsOf_numberedLines, atStart]
    exact timely
  obtain ⟨wait, begins, -, -⟩ := kept.exists_wait timelyNow
  have waits := Session.resume_waitIdle (desk.session settings retrying identifiers active) 0 wait
  rw [← resume_drain begins] at waits
  obtain ⟨last, waited, performed⟩ := Session.perform_proceeds kept.attended waits
  have settled : settle settings read (desk.session settings retrying identifiers active) =
      conclude read last.answerSoFar last.2 := by
    simp only [settle, performed]
  refine ⟨(conclude read last.answerSoFar last.2).1, ?entries, ?returns,
    .intro opened reads timelyNow waited⟩
  case returns =>
    simp only [runThrough, opened]
    rw [isRead]
    dsimp only
    rw [settled]

end Replay

end Telemetry
