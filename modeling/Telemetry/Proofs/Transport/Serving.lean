import Telemetry.Proofs.Transport.Journal

/-!
Contract: what a call in progress has to do with its transport and its journal.

Owns:
- the part of a journal below a member of a group, and the answers of a leaf;
- `Accepted`: by the journal, every leaf has accepted the batch;
- `Serves`, kept by starting (`Dutiful.every`) and by resuming
  (`Serves.resume`): a call that has succeeded is accepted.

A leaf may be asked many times, by every attempt of every retry above it. What
counts is its last answer, so that an earlier success hides no later failure.

Does not own: whole calls; see `Proofs.Transport.Acceptance`.
-/

namespace Telemetry

open Transport (Active)

/-! ### Journals below a group -/

namespace LeafRecord

/-- The record as the member at a position of a group has it, if it is below that member. -/
def inside? (position : Nat) (record : LeafRecord) : Option LeafRecord :=
  match record.address with
  | [] => none
  | first :: rest => if first = position then some { record with address := rest } else none

def within (position : Nat) (journal : List LeafRecord) : List LeafRecord :=
  journal.filterMap (inside? position)

/-- The answer that the record holds, if it is of the leaf at an address. -/
def answerAt? (address : List Nat) (record : LeafRecord) : Option (Option TransportError) :=
  match record.exchange with
  | .called _ => none
  | .answered failure => if record.address = address then some failure else none

/-- The answers of the leaf at an address, in order. -/
def answers (address : List Nat) (journal : List LeafRecord) : List (Option TransportError) :=
  journal.filterMap (answerAt? address)

@[simp] theorem within_append (position : Nat) (first second : List LeafRecord) :
    within position (first ++ second) = within position first ++ within position second :=
  List.filterMap_append

@[simp] theorem within_under (position : Nat) (journal : List LeafRecord) :
    within position (journal.map (.under position)) = journal := by
  simp [within, List.filterMap_map, Function.comp_def, inside?, under]

theorem within_under_of_ne {position other : Nat} (apart : other ≠ position)
    (journal : List LeafRecord) : within position (journal.map (.under other)) = [] := by
  simp [within, List.filterMap_map, Function.comp_def, inside?, under, apart]

theorem mem_of_mem_within {position : Nat} {record : LeafRecord} {journal : List LeafRecord}
    (member : record ∈ within position journal) : record.under position ∈ journal := by
  obtain ⟨original, originalMember, inside⟩ := List.mem_filterMap.mp member
  obtain ⟨address, leaf, exchange⟩ := original
  cases address with
  | nil => cases inside
  | cons first rest =>
      simp only [inside?] at inside
      split at inside
      · subst first
        cases inside
        exact originalMember
      · cases inside

theorem answers_within (position : Nat) (address : List Nat) (journal : List LeafRecord) :
    answers address (within position journal) = answers (position :: address) journal := by
  rw [answers, within, List.filterMap_filterMap, answers]
  congr 1
  funext record
  obtain ⟨recordAddress, leaf, exchange⟩ := record
  cases recordAddress with
  | nil => cases exchange <;> simp [inside?, answerAt?]
  | cons first rest =>
      by_cases same : first = position <;> cases exchange <;> simp [inside?, answerAt?, same]

end LeafRecord

open LeafRecord

/-! ### One member after the other -/

section Sweep

variable {α β : Type} (act : α → Scene → β × Scene) (itemJournal : α → Scene → List LeafRecord)

/-- Start or resume the members of a group. -/
def sweep : List α → Scene → List β × Scene
  | [], scene => ([], scene)
  | item :: items, scene =>
      let (result, scene) := act item scene
      let (results, scene) := sweep items scene
      (result :: results, scene)

def sweepJournal (position : Nat) : List α → Scene → List LeafRecord
  | [], _ => []
  | item :: items, scene =>
      (itemJournal item scene).map (.under position) ++
        sweepJournal (position + 1) items (act item scene).2

theorem sweep_length (items : List α) (scene : Scene) :
    (sweep act items scene).1.length = items.length := by
  induction items generalizing scene with
  | nil => rfl
  | cons item items inductionHypothesis =>
      exact congrArg (· + 1) (inductionHypothesis (act item scene).2)

theorem within_sweepJournal_of_lt {position other : Nat} (before : other < position)
    (items : List α) (scene : Scene) :
    within other (sweepJournal act itemJournal position items scene) = [] := by
  induction items generalizing position scene with
  | nil => rfl
  | cons item items inductionHypothesis =>
      rw [sweepJournal, within_append, within_under_of_ne (by omega),
        inductionHypothesis (by omega), List.append_nil]

variable {act itemJournal}

/-- Each item is acted upon at some moment, and its records are those below its position. -/
theorem sweep_item
    (kept : ∀ item scene, (act item scene).2.collectors.length = scene.collectors.length)
    {items : List α} {index : Nat} {item : α} (present : items[index]? = some item)
    (position : Nat) (scene : Scene) :
    ∃ moment : Scene, moment.collectors.length = scene.collectors.length ∧
      (sweep act items scene).1[index]? = some (act item moment).1 ∧
      within (position + index) (sweepJournal act itemJournal position items scene) =
        itemJournal item moment := by
  induction items generalizing index position scene with
  | nil => cases present
  | cons first items inductionHypothesis =>
      cases index with
      | zero =>
          cases present
          refine ⟨scene, rfl, rfl, ?_⟩
          rw [sweepJournal, Nat.add_zero, within_append, within_under,
            within_sweepJournal_of_lt act itemJournal (Nat.lt_succ_self position), List.append_nil]
      | succ index =>
          obtain ⟨moment, size, call, records⟩ :=
            inductionHypothesis present (position + 1) (act first scene).2
          refine ⟨moment, size.trans (kept first scene), call, ?_⟩
          rw [sweepJournal, within_append, within_under_of_ne (by omega), List.nil_append,
            ← records, Nat.add_right_comm, Nat.add_assoc]

theorem sweep_record
    (kept : ∀ item scene, (act item scene).2.collectors.length = scene.collectors.length)
    {position : Nat} {items : List α} {scene : Scene} {record : LeafRecord}
    (member : record ∈ sweepJournal act itemJournal position items scene) :
    ∃ index item moment inner, items[index]? = some item ∧
      moment.collectors.length = scene.collectors.length ∧
      inner ∈ itemJournal item moment ∧ record = inner.under (position + index) := by
  induction items generalizing position scene with
  | nil => cases member
  | cons first items inductionHypothesis =>
      rw [sweepJournal, List.mem_append] at member
      rcases member with own | later
      · obtain ⟨inner, innerMember, rfl⟩ := List.mem_map.mp own
        exact ⟨0, first, scene, inner, rfl, rfl, innerMember, rfl⟩
      · obtain ⟨index, item, moment, inner, present, size, innerMember, rfl⟩ :=
          inductionHypothesis later
        refine ⟨index + 1, item, moment, inner, present, size.trans (kept first scene),
          innerMember, ?_⟩
        rw [Nat.add_right_comm, Nat.add_assoc]

end Sweep

theorem startAll_eq_sweep (events : List Event) (members : List Transport) (scene : Scene) :
    Transport.start.startAll events members scene =
      sweep (Transport.start events) members scene := by
  induction members generalizing scene with
  | nil => rfl
  | cons member members inductionHypothesis =>
      simp only [Transport.start.startAll, sweep, inductionHypothesis]

/-- The members of a group are started one after the other. -/
theorem start_group_eq_joined (events : List Event) (name : String) (first : Transport)
    (others : List Transport) (scene : Scene) :
    Transport.start events (.group name (first :: others)) scene =
      (.joined name (sweep (Transport.start events) (first :: others) scene).1,
        (sweep (Transport.start events) (first :: others) scene).2) := by
  simp only [Transport.start, startAll_eq_sweep, sweep]

theorem startAllJournal_eq_sweepJournal (events : List Event) (position : Nat)
    (members : List Transport) (scene : Scene) :
    Transport.startJournal.startAllJournal events position members scene =
      sweepJournal (Transport.start events) (Transport.startJournal events) position members
        scene := by
  induction members generalizing position scene with
  | nil => rfl
  | cons member members inductionHypothesis =>
      simp only [Transport.startJournal.startAllJournal, sweepJournal, inductionHypothesis]

theorem resumeAll_eq_sweep (calls : List Call) (scene : Scene) :
    Call.resume.resumeAll calls scene = sweep Call.resume calls scene := by
  induction calls generalizing scene with
  | nil => rfl
  | cons call calls inductionHypothesis =>
      simp only [Call.resume.resumeAll, sweep, inductionHypothesis]

theorem resumeAllJournal_eq_sweepJournal (position : Nat) (calls : List Call) (scene : Scene) :
    Call.resumeJournal.resumeAllJournal position calls scene =
      sweepJournal Call.resume Call.resumeJournal position calls scene := by
  induction calls generalizing position scene with
  | nil => rfl
  | cons call calls inductionHypothesis =>
      simp only [Call.resumeJournal.resumeAllJournal, sweepJournal, inductionHypothesis]

/-! ### Calls of groups -/

namespace Call

theorem eq_settled_of_outcome? {call : Call} {failure : Option TransportError}
    (outcome : call.outcome? = some failure) : call = .settled failure := by
  cases call with
  | settled => exact congrArg Call.settled (Option.some.inj outcome)
  | _ => cases outcome

theorem mapM_outcome?_eq_some {calls : List Call} {outcomes : List (Option TransportError)}
    (settled : calls.mapM outcome? = some outcomes) : calls = outcomes.map .settled := by
  induction calls generalizing outcomes with
  | nil =>
      cases settled
      rfl
  | cons call calls inductionHypothesis =>
      simp only [List.mapM_cons, Option.bind_eq_bind, Option.bind_eq_some_iff, Option.pure_def,
        Option.some.injEq] at settled
      obtain ⟨failure, callSettled, others, othersSettled, rfl⟩ := settled
      rw [eq_settled_of_outcome? callSettled, inductionHypothesis othersSettled]
      rfl

/-- What a group's call comes to when its members' calls have these outcomes. -/
def groupOutcome (name : String) (outcomes : List (Option TransportError)) :
    Option TransportError :=
  match outcomes.filterMap fun failure => failure with
  | [] => none
  | failures => some (.group name failures)

/-- Either a call of a member is still under way, or all of them are settled and so is the
group's. -/
theorem joined_cases (name : String) (calls : List Call) :
    (joined name calls = .fanOut name calls ∧ calls.mapM outcome? = none) ∨
      ∃ outcomes : List (Option TransportError), calls = outcomes.map .settled ∧
        joined name calls = .settled (groupOutcome name outcomes) := by
  unfold joined
  cases settled : calls.mapM outcome? with
  | none => exact .inl ⟨rfl, rfl⟩
  | some outcomes =>
      refine .inr ⟨outcomes, mapM_outcome?_eq_some settled, ?_⟩
      dsimp only [groupOutcome]
      cases outcomes.filterMap fun failure => failure <;> rfl

theorem outcome?_joined {name : String} {calls : List Call} {outcome : Option TransportError}
    (settled : (joined name calls).outcome? = some outcome) :
    ∃ outcomes : List (Option TransportError), calls = outcomes.map .settled ∧
      outcome = groupOutcome name outcomes := by
  rcases joined_cases name calls with ⟨joined, -⟩ | ⟨outcomes, calls, joined⟩
  · rw [joined] at settled
    cases settled
  · rw [joined] at settled
    exact ⟨outcomes, calls, (Option.some.inj settled).symm⟩

end Call

/-! ### Calls and the transports they are for -/

/-- The scene of that many collectors has those of the tree. -/
def Transport.Known (transport : Transport) (size : Nat) : Prop :=
  ∀ address index name, Active transport address (.collector index name) → index < size

/-- A record of a leaf that is active, and that is asked for nothing but the batch. -/
structure LeafRecord.Proper (transport : Transport) (events : List Event) (record : LeafRecord) :
    Prop where
  active : Active transport record.address record.leaf
  batch : ∀ sent, record.exchange = .called sent → sent = events

/-- Every leaf has accepted the batch in the end, and there is one that was asked. -/
structure Accepted (transport : Transport) (events : List Event) (journal : List LeafRecord) :
    Prop where
  last : ∀ address leaf, Active transport address leaf →
    (answers address journal).getLast? = some none
  asked : ∃ address leaf, Active transport address leaf ∧
    ⟨address, leaf, .called events⟩ ∈ journal

/-- A call in progress is one for the transport, as far as the journal tells. -/
inductive Serves (events : List Event) : Transport → Call → List LeafRecord → Prop where
  | failed (transport : Transport) (error : TransportError) (journal : List LeafRecord) :
      Serves events transport (.settled (some error)) journal
  | accepted {transport : Transport} {journal : List LeafRecord}
      (accepted : Accepted transport events journal) :
      Serves events transport (.settled none) journal
  | collecting {index : Nat} {name : String} {journal : List LeafRecord} (due : Nat)
      (failure : Option TransportError)
      (called : ⟨[], .collector index name, .called events⟩ ∈ journal) :
      Serves events (.collector index name) (.collecting index name due failure) journal
  | pinned {name : String} {pinned : Transport} {call : Call} {journal : List LeafRecord}
      (serves : Serves events pinned call journal) :
      Serves events (.switch name (some pinned)) call journal
  | fanOut {name : String} {members : List Transport} {calls : List Call}
      {journal : List LeafRecord} (paired : calls.length = members.length)
      (retained : members ≠ [])
      (each : ∀ position member call, members[position]? = some member →
        calls[position]? = some call → Serves events member call (within position journal)) :
      Serves events (.group name members) (.fanOut name calls) journal
  | attempting {observer : Observer} {policy : RetryPolicy} {attempt : RetryAttempt} {call : Call}
      {journal : List LeafRecord} (batch : attempt.events = events)
      (serves : Serves events attempt.inner call journal) :
      Serves events (.retry observer policy attempt.inner) (.attempting attempt call) journal
  | backingOff {observer : Observer} {policy : RetryPolicy} {attempt : RetryAttempt} (due : Nat)
      (journal : List LeafRecord) (batch : attempt.events = events) :
      Serves events (.retry observer policy attempt.inner) (.backingOff attempt due) journal

namespace Transport.Known

variable {size : Nat}

theorem mono {transport : Transport} {larger : Nat} (known : transport.Known size)
    (grown : size ≤ larger) : transport.Known larger :=
  fun address index name active => Nat.lt_of_lt_of_le (known address index name active) grown

theorem pinned {name : String} {pinned : Transport}
    (known : (Transport.switch name (some pinned)).Known size) : pinned.Known size :=
  fun address index name active => known address index name (.pinned active)

theorem member {name : String} {members : List Transport} {position : Nat} {member : Transport}
    (known : (Transport.group name members).Known size)
    (retained : members[position]? = some member) : member.Known size :=
  fun address index name active => known (position :: address) index name (.member retained active)

theorem inner {observer : Observer} {policy : RetryPolicy} {inner : Transport}
    (known : (Transport.retry observer policy inner).Known size) : inner.Known size :=
  fun address index name active => known address index name (.inner active)

end Transport.Known

namespace Accepted

variable {events : List Event} {journal : List LeafRecord}

theorem pinned {name : String} {pinned : Transport} (accepted : Accepted pinned events journal) :
    Accepted (.switch name (some pinned)) events journal := by
  obtain ⟨address, leaf, active, called⟩ := accepted.asked
  refine ⟨?_, address, leaf, .pinned active, called⟩
  rintro address leaf (_ | _ | active)
  exact accepted.last address leaf active

theorem inner {observer : Observer} {policy : RetryPolicy} {inner : Transport}
    (accepted : Accepted inner events journal) :
    Accepted (.retry observer policy inner) events journal := by
  obtain ⟨address, leaf, active, called⟩ := accepted.asked
  refine ⟨?_, address, leaf, .inner active, called⟩
  rintro address leaf (_ | _ | _ | _ | active)
  exact accepted.last address leaf active

theorem group {name : String} {members : List Transport} (retained : members ≠ [])
    (each : ∀ position member, members[position]? = some member →
      Accepted member events (within position journal)) :
    Accepted (.group name members) events journal := by
  constructor
  · rintro address leaf active
    cases active with
    | member present active =>
        rw [← answers_within]
        exact (each _ _ present).last _ leaf active
  · obtain ⟨first, others, rfl⟩ := List.exists_cons_of_ne_nil retained
    obtain ⟨address, leaf, active, called⟩ := (each 0 first rfl).asked
    exact ⟨0 :: address, leaf, .member rfl active, mem_of_mem_within called⟩

/-- A leaf that is the whole transport. -/
theorem alone {leaf : Transport} (only : ∀ address other, Active leaf address other → address = [])
    (active : Active leaf [] leaf) (last : (answers [] journal).getLast? = some none)
    (called : ⟨[], leaf, .called events⟩ ∈ journal) : Accepted leaf events journal := by
  refine ⟨?_, [], leaf, active, called⟩
  intro address other otherActive
  rw [only address other otherActive]
  exact last

end Accepted

/-- A journal of proper records that leaves the call serving the transport. -/
structure Extends (events : List Event) (transport : Transport) (earlier : List LeafRecord)
    (call : Call) (journal : List LeafRecord) : Prop where
  proper : ∀ record ∈ journal, record.Proper transport events
  serves : Serves events transport call (earlier ++ journal)

namespace LeafRecord.Proper

variable {events : List Event} {record : LeafRecord}

theorem pinned {name : String} {pinned : Transport} (proper : record.Proper pinned events) :
    record.Proper (.switch name (some pinned)) events :=
  ⟨.pinned proper.active, proper.batch⟩

theorem under {name : String} {members : List Transport} {position : Nat} {member : Transport}
    (retained : members[position]? = some member) (proper : record.Proper member events) :
    (record.under position).Proper (.group name members) events :=
  ⟨.member retained proper.active, proper.batch⟩

theorem inner {observer : Observer} {policy : RetryPolicy} {inner : Transport}
    (proper : record.Proper inner events) : record.Proper (.retry observer policy inner) events :=
  ⟨.inner proper.active, proper.batch⟩

end LeafRecord.Proper

namespace Serves

variable {events : List Event} {transport : Transport} {journal : List LeafRecord}

theorem accepted_of_settled {call : Call} (serves : Serves events transport call journal)
    (settled : call.outcome? = some none) : Accepted transport events journal := by
  induction serves with
  | failed transport error journal => cases settled
  | accepted accepted => exact accepted
  | collecting due failure called => cases settled
  | pinned _ inductionHypothesis => exact (inductionHypothesis settled).pinned
  | fanOut paired retained each => cases settled
  | attempting batch serves => cases settled
  | backingOff due journal batch => cases settled

/-- A group's call succeeds only if those of all its members do. -/
theorem joined {name : String} {members : List Transport} {calls : List Call}
    (paired : calls.length = members.length) (retained : members ≠ [])
    (each : ∀ position member call, members[position]? = some member →
      calls[position]? = some call → Serves events member call (within position journal)) :
    Serves events (.group name members) (.joined name calls) journal := by
  rcases Call.joined_cases name calls with ⟨joined, -⟩ | ⟨outcomes, rfl, joined⟩
  · rw [joined]
    exact .fanOut paired retained each
  · rw [joined, Call.groupOutcome]
    split
    next noFailure =>
      refine .accepted (.group retained fun position member present => ?_)
      rw [List.length_map] at paired
      have inRange : position < outcomes.length := by
        rw [paired]
        exact (List.getElem?_eq_some_iff.mp present).1
      have noError : outcomes[position] = none := by
        simpa using List.filterMap_eq_nil_iff.mp noFailure _ (List.getElem_mem inRange)
      have settled : (outcomes.map Call.settled)[position]? = some (.settled none) := by
        rw [List.getElem?_map, List.getElem?_eq_getElem inRange, noError]
        rfl
      exact (each position member _ present settled).accepted_of_settled rfl
    · exact .failed _ _ _

end Serves

/-- Starting a call of the transport, on any scene that has its collectors. -/
def Dutiful (events : List Event) (transport : Transport) : Prop :=
  ∀ (scene : Scene) (journal : List LeafRecord), transport.Known scene.collectors.length →
    Extends events transport journal (transport.start events scene).1
      (transport.startJournal events scene)

theorem start_collectors (events : List Event) (transport : Transport) (scene : Scene) :
    (transport.start events scene).2.collectors.length = scene.collectors.length :=
  (Scene.Tells.start .nothing events transport scene).collectors

theorem resume_collectors (call : Call) (scene : Scene) :
    (call.resume scene).2.collectors.length = scene.collectors.length :=
  (Scene.Tells.resume .nothing call scene).collectors

namespace Extends

variable {events : List Event} {inner : Transport} {observer : Observer} {policy : RetryPolicy}
  {journal records : List LeafRecord} {scene : Scene}

/-- A call of the inner transport, and what the retry does after it. -/
theorem attempted {call result : Call} {first : List LeafRecord}
    (started : Extends events inner journal call first)
    (later : Extends events (.retry observer policy inner) (journal ++ first) result records) :
    Extends events (.retry observer policy inner) journal result (first ++ records) := by
  refine ⟨?_, by rw [← List.append_assoc]; exact later.serves⟩
  rw [List.forall_mem_append]
  exact ⟨fun record member => (started.proper record member).inner, later.proper⟩

variable (observer policy)

/-- Whatever a retry does after a call of its inner transport, it succeeds only with a call. -/
theorem follows (dutiful : Dutiful events inner) {attempt : RetryAttempt} {call : Call}
    {result : Call × Scene} {marks : List RetryMark}
    (follows : attempt.Follows (inner.start events) call scene result marks)
    (same : attempt.inner = inner) (batch : attempt.events = events)
    (known : inner.Known scene.collectors.length) (serves : Serves events inner call journal) :
    Extends events (.retry observer policy inner) journal result.1
      (RetryMark.journal (inner.startJournal events) marks) := by
  induction follows generalizing journal with
  | accepted attempt scene =>
      refine ⟨List.forall_mem_nil _, ?_⟩
      rw [RetryMark.journal, List.append_nil]
      exact .accepted (serves.accepted_of_settled rfl).inner
  | rejected attempt error scene => exact ⟨List.forall_mem_nil _, .failed _ error _⟩
  | pending attempt scene waits =>
      subst same
      refine ⟨List.forall_mem_nil _, ?_⟩
      rw [RetryMark.journal, List.append_nil]
      exact .attempting batch serves
  | backOff attempt error scene =>
      subst same
      refine ⟨List.forall_mem_nil _, ?_⟩
      show Serves events (.retry observer policy (attempt.schedule error scene).1.inner) _ _
      exact .backingOff _ _ batch
  | exhaust attempt error scene => exact ⟨List.forall_mem_nil _, .failed _ _ _⟩
  | again attempt error scene _ _ _ _ inductionHypothesis =>
      have waited : Scene.Tells .nothing scene (attempt.schedule error scene).2.2 [] :=
        .schedule attempt error scene
      rw [← waited.collectors] at known
      have started := dutiful (attempt.schedule error scene).2.2 journal known
      rw [← start_collectors events inner] at known
      exact started.attempted (inductionHypothesis same batch known started.serves)

theorem make (dutiful : Dutiful events inner) (attempt : RetryAttempt)
    (same : attempt.inner = inner) (batch : attempt.events = events)
    (known : inner.Known scene.collectors.length) (journal : List LeafRecord) :
    Extends events (.retry observer policy inner) journal
      (attempt.make (inner.start events) scene).1
      (RetryMark.journal (inner.startJournal events)
        (attempt.makeMarks (inner.start events) scene)) := by
  unfold RetryAttempt.make RetryAttempt.makeMarks
  split
  · exact ⟨List.forall_mem_nil _, .failed _ _ _⟩
  · have started := dutiful scene journal known
    rw [← start_collectors events inner] at known
    exact started.attempted (follows observer policy dutiful
      (attempt.follow_follows _ attempt.policy.maxAttempts _ _) same batch known started.serves)

end Extends

/-- A group whose members are started, or whose calls are resumed, one after the other. -/
theorem Extends.swept {events : List Event} {journal : List LeafRecord} {scene : Scene}
    (name : String) {α : Type} {act : α → Scene → Call × Scene}
    {itemJournal : α → Scene → List LeafRecord}
    (kept : ∀ item scene, (act item scene).2.collectors.length = scene.collectors.length)
    {items : List α} {members : List Transport} (paired : items.length = members.length)
    (retained : members ≠ [])
    (each : ∀ position member item, members[position]? = some member →
      items[position]? = some item → ∀ moment : Scene,
      moment.collectors.length = scene.collectors.length →
      Extends events member (within position journal) (act item moment).1
        (itemJournal item moment)) :
    Extends events (.group name members) journal (.joined name (sweep act items scene).1)
      (sweepJournal act itemJournal 0 items scene) := by
  constructor
  · intro record member
    obtain ⟨index, item, moment, inner, present, size, innerMember, rfl⟩ :=
      sweep_record kept member
    have inRange : index < members.length := by
      rw [← paired]
      exact (List.getElem?_eq_some_iff.mp present).1
    have retained := List.getElem?_eq_getElem inRange
    rw [Nat.zero_add]
    have served := each index _ item retained present moment size
    exact .under retained (served.proper inner innerMember)
  · refine .joined ((sweep_length act items scene).trans paired) retained ?_
    intro position member call retained served
    have inRange : position < items.length := by
      rw [paired]
      exact (List.getElem?_eq_some_iff.mp retained).1
    have present := List.getElem?_eq_getElem inRange
    obtain ⟨moment, size, acted, records⟩ := sweep_item kept present 0 scene
    rw [Nat.zero_add] at records
    obtain rfl : (act items[position] moment).1 = call := by
      rw [acted] at served
      exact Option.some.inj served
    rw [within_append, records]
    exact (each position member _ retained present moment size).serves

/-- The answer of a collector is the outcome of its call. -/
theorem Serves.answered {events : List Event} {index : Nat} {name : String}
    {journal : List LeafRecord} (failure : Option TransportError)
    (called : ⟨[], .collector index name, .called events⟩ ∈ journal) :
    Serves events (.collector index name) (.settled failure)
      (journal ++ [⟨[], .collector index name, .answered failure⟩]) := by
  cases failure with
  | some error => exact .failed _ error _
  | none =>
      refine .accepted (.alone ?_ (.collector index name) ?_ (List.mem_append_left _ called))
      · rintro address other (_ | _)
        rfl
      · simp [answers, answerAt?]

theorem LeafRecord.Proper.answered {events : List Event} {leaf : Transport}
    (active : Active leaf [] leaf) (failure : Option TransportError) :
    LeafRecord.Proper leaf events ⟨[], leaf, .answered failure⟩ :=
  ⟨active, fun _ same => by cases same⟩

theorem LeafRecord.Proper.called {leaf : Transport} (active : Active leaf [] leaf)
    (events : List Event) : LeafRecord.Proper leaf events ⟨[], leaf, .called events⟩ :=
  ⟨active, fun _ same => by cases same; rfl⟩

/-! ### Starting -/

namespace Dutiful

variable {events : List Event}

theorem collector (index : Nat) (name : String) : Dutiful events (.collector index name) := by
  intro scene journal known
  have active := Active.collector index name
  have called := LeafRecord.Proper.called active events
  simp only [Transport.start, Transport.startJournal, Scene.callCollector, Scene.collectorJournal,
    List.getElem?_eq_getElem (known [] index name active)]
  split
  · refine ⟨?_, ?_⟩
    · simp only [List.forall_mem_cons, List.not_mem_nil, false_implies, implies_true, and_true]
      exact ⟨called, .answered active _⟩
    · rw [List.append_cons]
      exact .answered _ (by simp)
  · refine ⟨List.forall_mem_singleton.mpr called, .collecting _ _ (by simp)⟩

theorem debug (name : String) : Dutiful events (.debug name) := by
  intro scene journal _
  have active := Active.debug name
  refine ⟨?_, .accepted (.alone ?_ active ?_ ?_)⟩
  · simp only [Transport.startJournal, List.forall_mem_cons, List.not_mem_nil, false_implies,
      implies_true, and_true]
    exact ⟨.called active events, .answered active none⟩
  · rintro address other (_ | _)
    rfl
  · simp [Transport.startJournal, answers, answerAt?]
  · simp [Transport.startJournal]

theorem pinned (name : String) {pinned : Transport} (dutiful : Dutiful events pinned) :
    Dutiful events (.switch name (some pinned)) := by
  intro scene journal known
  have started := dutiful scene journal known.pinned
  exact ⟨fun record member => (started.proper record member).pinned, .pinned started.serves⟩

theorem group (name : String) {members : List Transport}
    (each : ∀ member ∈ members, Dutiful events member) : Dutiful events (.group name members) := by
  intro scene journal known
  cases members with
  | nil => exact ⟨List.forall_mem_nil _, .failed _ _ _⟩
  | cons first others =>
      rw [start_group_eq_joined, Transport.startJournal, startAllJournal_eq_sweepJournal]
      refine .swept name (start_collectors events) rfl (List.cons_ne_nil _ _) ?_
      intro position member item retained present moment size
      obtain rfl : member = item := Option.some.inj (retained.symm.trans present)
      exact each member (List.mem_of_getElem? present) moment _
        (size ▸ known.member retained)

theorem retry (observer : Observer) (policy : RetryPolicy) {inner : Transport}
    (dutiful : Dutiful events inner) : Dutiful events (.retry observer policy inner) :=
  fun _ journal known => .make observer policy dutiful _ rfl rfl known.inner journal

mutual

theorem every (events : List Event) : (transport : Transport) → Dutiful events transport
  | .collector index name => collector index name
  | .debug name => debug name
  | .switch _ none => fun _ _ _ => ⟨List.forall_mem_nil _, .failed _ _ _⟩
  | .switch name (some transport) => pinned name (every events transport)
  | .group name members => group name (everyMember events members)
  | .retry observer policy inner => retry observer policy (every events inner)

theorem everyMember (events : List Event) :
    (members : List Transport) → ∀ member ∈ members, Dutiful events member
  | [] => List.forall_mem_nil _
  | first :: others => List.forall_mem_cons.mpr ⟨every events first, everyMember events others⟩

end

end Dutiful

/-! ### Resuming -/

theorem Serves.resume {events : List Event} {transport : Transport} {call : Call}
    {journal : List LeafRecord} (serves : Serves events transport call journal) (scene : Scene)
    (known : transport.Known scene.collectors.length) :
    Extends events transport journal (call.resume scene).1 (call.resumeJournal scene) := by
  induction serves generalizing scene with
  | failed transport error journal => exact ⟨List.forall_mem_nil _, .failed _ error _⟩
  | accepted accepted =>
      refine ⟨List.forall_mem_nil _, ?_⟩
      rw [Call.resumeJournal, List.append_nil]
      exact .accepted accepted
  | @collecting index name journal due failure called =>
      unfold Call.resume Call.resumeJournal
      split
      · exact ⟨List.forall_mem_singleton.mpr (.answered (.collector index name) failure),
          .answered failure called⟩
      · refine ⟨List.forall_mem_nil _, ?_⟩
        rw [List.append_nil]
        exact .collecting due failure called
  | pinned _ inductionHypothesis =>
      have resumed := inductionHypothesis scene known.pinned
      exact ⟨fun record member => (resumed.proper record member).pinned, .pinned resumed.serves⟩
  | @fanOut name members calls journal paired retained each inductionHypothesis =>
      rw [Call.resumeJournal, resumeAllJournal_eq_sweepJournal]
      simp only [Call.resume, resumeAll_eq_sweep]
      refine .swept name resume_collectors paired retained ?_
      intro position member call present served moment size
      exact inductionHypothesis position member call present served moment
        (size ▸ known.member present)
  | @attempting observer policy attempt call journal batch _ inductionHypothesis =>
      subst batch
      have resumed := inductionHypothesis scene known.inner
      refine resumed.attempted (.follows observer policy (.every _ attempt.inner)
        (attempt.follow_follows _ _ _ _) rfl rfl ?_ resumed.serves)
      rw [resume_collectors]
      exact known.inner
  | @backingOff observer policy attempt due journal batch =>
      subst batch
      unfold Call.resume Call.resumeJournal Call.retryMarks
      dsimp only
      split
      · exact .make observer policy (.every _ attempt.inner) attempt.advance rfl rfl known.inner
          journal
      · exact ⟨List.forall_mem_nil _, .backingOff due _ rfl⟩

end Telemetry
