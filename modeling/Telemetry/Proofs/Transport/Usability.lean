import Telemetry.Proofs.Transport.Acceptance

/-!
Contract: what the usability of a composite says about its answers.

Owns:
- `TransportError.reportsUnusable`, which looks for errors inside an error;
- `Transport.Built`, trees that are built from the leaves up, each composite at
  a moment of its own;
- `Transport.Stocked`: every composite that a batch can reach has a member;
- `Call.Sound`, kept by starting and by resuming: no error in the call reports
  a composite without members.

Switches and groups look at usability once, when they are built, and retries
whenever they are asked. Still one moment at which the root is usable is enough
to know the whole tree: what a switch pins and a group keeps was usable when it
was taken, so that `Stocked` follows from below.
-/

namespace Telemetry

/-! ### Errors inside errors -/

namespace TransportError

/-- Somewhere in the error a composite has no usable transport: it is that error itself, or it
stands among the failures of a group or the errors of an exhausted retry. -/
def reportsUnusable : TransportError → Bool
  | .noUsableTransport _ => true
  | .group _ failures => anyReports failures
  | .retryExhausted _ errors => anyReports errors
  | _ => false
where
  anyReports : List TransportError → Bool
    | [] => false
    | error :: errors => reportsUnusable error || anyReports errors

theorem anyReports_eq_false {errors : List TransportError}
    (each : ∀ error ∈ errors, error.reportsUnusable = false) :
    reportsUnusable.anyReports errors = false := by
  induction errors with
  | nil => rfl
  | cons error errors inductionHypothesis =>
      rw [List.forall_mem_cons] at each
      rw [reportsUnusable.anyReports, each.1, inductionHypothesis each.2]
      rfl

end TransportError

open TransportError

/-- Nothing is answered that reports a composite without usable transport. -/
def Exchange.isCandid : Exchange → Bool
  | .answered (some error) => !error.reportsUnusable
  | _ => true

/-- No leaf has answered with a report of a composite without usable transport. -/
def Candid (journal : List LeafRecord) : Prop :=
  ∀ record ∈ journal, record.exchange.isCandid = true

instance (journal : List LeafRecord) : Decidable (Candid journal) :=
  inferInstanceAs (Decidable (∀ record ∈ journal, record.exchange.isCandid = true))

theorem candid_append {first second : List LeafRecord} :
    Candid (first ++ second) ↔ Candid first ∧ Candid second :=
  List.forall_mem_append

theorem candid_under {position : Nat} {journal : List LeafRecord} :
    Candid (journal.map (.under position)) ↔ Candid journal :=
  List.forall_mem_map

/-! ### Trees -/

namespace Transport

/-- A transport made of leaves by the constructions, at any moments. -/
inductive Built : Transport → Prop where
  | collector (index : Nat) (name : String) : Built (.collector index name)
  | debug (name : String) : Built (.debug name)
  | switch {candidates : List Transport} (each : ∀ candidate ∈ candidates, Built candidate)
      (observer : Observer) (name : String) (scene : Scene) :
      Built (buildSwitch observer name candidates scene).1
  | group {candidates : List Transport} (each : ∀ candidate ∈ candidates, Built candidate)
      (observer : Observer) (name : String) (scene : Scene) :
      Built (buildGroup observer name candidates scene).1
  | retry {inner transport : Transport} (built : Built inner) {observer : Observer}
      {policy : RetryPolicy} (accepted : buildRetry observer policy inner = .ok transport) :
      Built transport

/-- Every composite that a batch can reach has a member. -/
inductive Stocked : Transport → Prop where
  | collector (index : Nat) (name : String) : Stocked (.collector index name)
  | debug (name : String) : Stocked (.debug name)
  | switch (name : String) {pinned : Transport} (stocked : Stocked pinned) :
      Stocked (.switch name (some pinned))
  | group (name : String) {members : List Transport} (retained : members ≠ [])
      (each : ∀ member ∈ members, Stocked member) : Stocked (.group name members)
  | retry (observer : Observer) (policy : RetryPolicy) {inner : Transport}
      (stocked : Stocked inner) : Stocked (.retry observer policy inner)

theorem buildRetry_eq_ok {observer : Observer} {policy : RetryPolicy} {inner transport : Transport}
    (accepted : buildRetry observer policy inner = .ok transport) :
    transport = .retry observer policy inner := by
  unfold buildRetry at accepted
  split at accepted
  · cases accepted
    rfl
  · cases accepted

/-- One moment at which a transport is usable shows that it is stocked. -/
theorem Built.stocked {transport : Transport} (built : transport.Built) {moment : Scene}
    (usable : transport.isUsable moment = true) : transport.Stocked := by
  induction built generalizing moment with
  | collector index name => exact .collector index name
  | debug name => exact .debug name
  | @switch candidates _ observer name scene inductionHypothesis =>
      -- What is pinned was usable at the construction, whatever it is now.
      obtain ⟨pinned, found⟩ := Option.isSome_iff_exists.mp usable
      simp only [buildSwitch, found]
      exact .switch name (inductionHypothesis pinned (List.mem_of_find?_eq_some found)
        (List.find?_some found))
  | @group candidates _ observer name scene inductionHypothesis =>
      refine .group name ?_ fun member kept => ?_
      · simpa [isUsable, buildGroup] using usable
      · obtain ⟨candidate, usableThen⟩ := List.mem_filter.mp kept
        exact inductionHypothesis member candidate usableThen
  | retry _ accepted inductionHypothesis =>
      rw [buildRetry_eq_ok accepted] at usable ⊢
      exact .retry _ _ (inductionHypothesis usable)

end Transport

/-! ### Calls -/

/-- No error that the call holds reports a composite without members, and what it may start
again is stocked. -/
inductive Call.Sound : Call → Prop where
  | accepted : Sound (.settled none)
  | failed {error : TransportError} (clean : error.reportsUnusable = false) :
      Sound (.settled (some error))
  | collecting (index : Nat) (name : String) (due : Nat) (failure : Option TransportError) :
      Sound (.collecting index name due failure)
  | fanOut (name : String) {calls : List Call} (each : ∀ call ∈ calls, Sound call) :
      Sound (.fanOut name calls)
  | attempting {attempt : RetryAttempt} {call : Call} (stocked : attempt.inner.Stocked)
      (clean : ∀ error ∈ attempt.errors, error.reportsUnusable = false) (sound : Sound call) :
      Sound (.attempting attempt call)
  | backingOff {attempt : RetryAttempt} (due : Nat) (stocked : attempt.inner.Stocked)
      (clean : ∀ error ∈ attempt.errors, error.reportsUnusable = false) :
      Sound (.backingOff attempt due)

namespace Call.Sound

theorem clean_of_outcome {call : Call} (sound : call.Sound) {error : TransportError}
    (outcome : call.outcome? = some (some error)) : error.reportsUnusable = false := by
  cases sound with
  | failed clean =>
      cases outcome
      exact clean
  | _ => cases outcome

/-- A call that is settled by the answer of a leaf. -/
theorem answered {journal : List LeafRecord} (candid : Candid journal) {address : List Nat}
    {leaf : Transport} {failure : Option TransportError}
    (answered : ⟨address, leaf, .answered failure⟩ ∈ journal) : (Call.settled failure).Sound := by
  cases failure with
  | none => exact .accepted
  | some error => exact .failed (by simpa [Exchange.isCandid] using candid _ answered)

theorem joined (name : String) {calls : List Call} (each : ∀ call ∈ calls, call.Sound) :
    (Call.joined name calls).Sound := by
  rcases Call.joined_cases name calls with ⟨joined, -⟩ | ⟨outcomes, rfl, joined⟩
  · rw [joined]
    exact .fanOut name each
  · rw [joined, Call.groupOutcome]
    split
    · exact .accepted
    · refine .failed (anyReports_eq_false fun failure member => ?_)
      obtain ⟨outcome, outcomeMember, rfl⟩ := List.mem_filterMap.mp member
      exact (each _ (List.mem_map_of_mem outcomeMember)).clean_of_outcome rfl

section Attempts

variable {start : Scene → Call × Scene} {journal : Scene → List LeafRecord}
  {attempt : RetryAttempt} {scene : Scene}

theorem exhaust (clean : ∀ error ∈ attempt.errors, error.reportsUnusable = false) :
    (attempt.exhaust scene).1.Sound :=
  .failed (anyReports_eq_false clean)

/-- Whatever a retry does after a call of its inner transport. -/
theorem follows
    (each : ∀ scene, Candid (journal scene) → (start scene).1.Sound)
    {call : Call} {result : Call × Scene} {marks : List RetryMark}
    (follows : attempt.Follows start call scene result marks)
    (stocked : attempt.inner.Stocked)
    (clean : ∀ error ∈ attempt.errors, error.reportsUnusable = false)
    (sound : call.Sound) (candid : Candid (RetryMark.journal journal marks)) :
    result.1.Sound := by
  induction follows with
  | accepted attempt scene => exact .accepted
  | rejected attempt error scene => exact sound
  | pending attempt scene waits => exact .attempting stocked clean sound
  | backOff attempt error scene =>
      exact .backingOff _ stocked
        (List.forall_mem_cons.mpr ⟨sound.clean_of_outcome rfl, clean⟩)
  | exhaust attempt error scene =>
      exact exhaust (List.forall_mem_cons.mpr ⟨sound.clean_of_outcome rfl, clean⟩)
  | again attempt error scene _ _ _ _ inductionHypothesis =>
      simp only [RetryMark.journal, candid_append] at candid
      exact inductionHypothesis stocked
        (List.forall_mem_cons.mpr ⟨sound.clean_of_outcome rfl, clean⟩)
        (each _ candid.1) candid.2

theorem make
    (each : ∀ scene, Candid (journal scene) → (start scene).1.Sound)
    (stocked : attempt.inner.Stocked)
    (clean : ∀ error ∈ attempt.errors, error.reportsUnusable = false)
    (candid : Candid (RetryMark.journal journal (attempt.makeMarks start scene))) :
    (attempt.make start scene).1.Sound := by
  unfold RetryAttempt.make
  unfold RetryAttempt.makeMarks at candid
  split
  · exact exhaust clean
  · rw [if_neg ‹_›, RetryMark.journal, candid_append] at candid
    exact follows each (attempt.follow_follows _ _ _ _) stocked clean (each scene candid.1)
      candid.2

end Attempts

/-- The calls of a group that are started or resumed one after the other. -/
theorem swept {α : Type} {act : α → Scene → Call × Scene}
    {itemJournal : α → Scene → List LeafRecord} {items : List α} {position : Nat} {scene : Scene}
    (each : ∀ item ∈ items, ∀ moment, Candid (itemJournal item moment) →
      (act item moment).1.Sound)
    (candid : Candid (sweepJournal act itemJournal position items scene)) :
    ∀ call ∈ (sweep act items scene).1, call.Sound := by
  induction items generalizing position scene with
  | nil => exact List.forall_mem_nil _
  | cons item items inductionHypothesis =>
      rw [sweepJournal, candid_append, candid_under] at candid
      rw [List.forall_mem_cons] at each
      exact List.forall_mem_cons.mpr
        ⟨each.1 scene candid.1, inductionHypothesis each.2 candid.2⟩

theorem start {transport : Transport} (stocked : transport.Stocked) (events : List Event)
    (scene : Scene) (candid : Candid (transport.startJournal events scene)) :
    (transport.start events scene).1.Sound := by
  induction stocked generalizing scene with
  | collector index name =>
      simp only [Transport.start, Scene.callCollector]
      simp only [Transport.startJournal, Scene.collectorJournal] at candid
      split
      · exact .accepted
      · rename_i collector present
        split
        · simp only [present, if_pos ‹_›] at candid
          exact .answered candid (List.mem_cons_of_mem _ List.mem_cons_self)
        · exact .collecting index name _ _
  | debug name => exact .accepted
  | switch name _ inductionHypothesis => exact inductionHypothesis scene candid
  | @group name members retained _ inductionHypothesis =>
      obtain ⟨first, others, rfl⟩ := List.exists_cons_of_ne_nil retained
      rw [Transport.startJournal, startAllJournal_eq_sweepJournal] at candid
      rw [start_group_eq_joined]
      exact .joined name (swept inductionHypothesis candid)
  | @retry observer policy inner stocked inductionHypothesis =>
      exact make inductionHypothesis stocked (List.forall_mem_nil _) candid

theorem resume {call : Call} (sound : call.Sound) (scene : Scene)
    (candid : Candid (call.resumeJournal scene)) :
    (call.resume scene).1.Sound := by
  induction sound generalizing scene with
  | accepted => exact .accepted
  | failed clean => exact .failed clean
  | collecting index name due failure =>
      unfold Call.resume
      unfold Call.resumeJournal at candid
      split
      · rw [if_pos ‹_›] at candid
        exact .answered candid List.mem_cons_self
      · exact .collecting index name due failure
  | fanOut name _ inductionHypothesis =>
      rw [Call.resumeJournal, resumeAllJournal_eq_sweepJournal] at candid
      simp only [Call.resume, resumeAll_eq_sweep]
      exact .joined name (swept inductionHypothesis candid)
  | @attempting attempt call stocked clean _ inductionHypothesis =>
      rw [Call.resumeJournal, candid_append] at candid
      exact follows (start stocked attempt.events) (attempt.follow_follows _ _ _ _) stocked clean
        (inductionHypothesis scene candid.1) candid.2
  | @backingOff attempt due stocked clean =>
      unfold Call.resume
      unfold Call.resumeJournal Call.retryMarks at candid
      dsimp only at candid
      split
      · rw [if_pos ‹_›] at candid
        have advanced : attempt.advance.inner.Stocked := stocked
        exact make (start stocked attempt.events) advanced clean candid
      · exact .backingOff due stocked clean

end Call.Sound

theorem Handled.sound {transport : Transport} {events : List Event} {journal : List LeafRecord}
    {signs : List LeafSign} {call : Call} {scene : Scene}
    (handled : Handled transport events journal signs call scene) (stocked : transport.Stocked)
    (candid : Candid journal) : call.Sound := by
  induction handled with
  | start scene _ => exact .start stocked events scene candid
  | resume _ later _ inductionHypothesis =>
      rw [candid_append] at candid
      exact (inductionHypothesis candid.1).resume later candid.2

/-- A switch or a group, whose members are chosen when it is built. -/
def Transport.choosesMembers : Transport → Bool
  | .switch _ _ => true
  | .group _ _ => true
  | _ => false

/-- A transport that was built of leaves which report no composite themselves. If it is usable
at some moment, then no error that it ever answers a batch with reports, at any depth, that a
composite has no usable transport. If it is a switch or a group, then it stays as usable as it
is, and where it is not, it fails at once under its own name and calls no leaf. -/
theorem usable_transports_never_report_unusable {root : Transport} (built : root.Built) :
    (∀ moment, root.isUsable moment = true →
      ∀ {events journal signs call scene}, Handled root events journal signs call scene →
        Candid journal →
        ∀ error, call.outcome? = some (some error) → error.reportsUnusable = false) ∧
    (root.choosesMembers = true →
      (∀ moment later, root.isUsable later = root.isUsable moment) ∧
      ∀ moment, root.isUsable moment = false → ∀ events scene,
        root.start events scene = (.settled (some (.noUsableTransport root.name)), scene) ∧
          root.startJournal events scene = []) := by
  constructor
  · intro moment usable events journal signs call scene handled candid error outcome
    exact (handled.sound (built.stocked usable) candid).clean_of_outcome outcome
  · intro chooses
    cases root with
    | switch name pinned =>
        refine ⟨fun _ _ => rfl, fun _ unusable events scene => ?_⟩
        obtain rfl : pinned = none :=
          Option.not_isSome_iff_eq_none.mp (ne_true_of_eq_false unusable)
        exact ⟨rfl, rfl⟩
    | group name members =>
        refine ⟨fun _ _ => rfl, fun _ unusable events scene => ?_⟩
        obtain rfl : members = [] := by simpa [Transport.isUsable] using unusable
        exact ⟨rfl, rfl⟩
    | collector | debug | retry => cases chooses

/-- Two collectors that are usable by turns. One turns batches down, the other is busy. -/
def shiftScene (early late : Bool) : Scene where
  collectors := [
    { name := "early", usable := early
      answer := fun _ => { failure := some (.rejected "early" "bad request") } },
    { name := "late", usable := late
      answer := fun _ => { failure := some (.retryable "late" "busy") } }]

/-- The switch is built in the first shift and the group in the second, without the switch
that found nothing in between. -/
def shiftTransport : Transport :=
  (Transport.buildGroup .notes "all"
    [(Transport.buildSwitch .notes "first" [.collector 1 "late", .collector 0 "early"]
        (shiftScene true false)).1,
      .retry .notes { maxAttempts := 1 } (.collector 1 "late"),
      (Transport.buildSwitch .notes "none" [.collector 0 "early"] (shiftScene false true)).1]
    (shiftScene false true)).1

theorem shiftTransport_built : shiftTransport.Built := by
  have accepted : Transport.buildRetry .notes { maxAttempts := 1 } (.collector 1 "late") =
      .ok (.retry .notes { maxAttempts := 1 } (.collector 1 "late")) := rfl
  refine .group ?_ .notes "all" (shiftScene false true)
  simp only [List.forall_mem_cons, List.not_mem_nil, false_implies, implies_true, and_true]
  refine ⟨.switch ?_ .notes "first" _, .retry (.collector 1 "late") accepted,
    .switch ?_ .notes "none" _⟩
  · simp only [List.forall_mem_cons, List.not_mem_nil, false_implies, implies_true, and_true]
    exact ⟨.collector 1 "late", .collector 0 "early"⟩
  · simp only [List.forall_mem_cons, List.not_mem_nil, false_implies, implies_true, and_true]
    exact .collector 0 "early"

theorem shiftTransport_known : shiftTransport.Known (shiftScene false false).collectors.length := by
  have kept : shiftTransport = .group "all" [.switch "first" (some (.collector 0 "early")),
      .retry .notes { maxAttempts := 1 } (.collector 1 "late")] := rfl
  rw [kept]
  intro address index name active
  cases active with
  | @member _ _ position _ _ _ retained active =>
      match position with
      | 0 =>
          cases retained
          cases active with
          | pinned active =>
              cases active
              decide
      | 1 =>
          cases retained
          cases active with
          | inner active =>
              cases active
              decide
      | _ + 2 => cases retained

/-- The group is asked when neither collector is usable. -/
def shiftStarted : Call × Scene :=
  shiftTransport.start press (shiftScene false false)

/-- The busy collector has had its wait. -/
def shiftLater : Scene :=
  { shiftStarted.2 with now := 1000 }

/-- A group that was usable once, and whose collectors no longer are, fails with the errors of
both and no report of its own. -/
theorem group_fails_with_errors_of_its_collectors :
    ∃ journal signs call scene error, shiftTransport.Built ∧
      shiftTransport.isUsable (shiftScene false true) = true ∧
      Handled shiftTransport press journal signs call scene ∧ Candid journal ∧
      call.outcome? = some (some error) ∧ error.reportsUnusable = false := by
  have looked {journal : List LeafRecord} {signs : List LeafSign} {call : Call} {scene : Scene}
      (handled : Handled shiftTransport press journal signs call scene) :=
    handled.resume { scene with now := 1000 } (Nat.le_refl _)
  have handled : Handled shiftTransport press
      (shiftTransport.startJournal press (shiftScene false false) ++
        shiftStarted.1.resumeJournal shiftLater) _ (shiftStarted.1.resume shiftLater).1 _ :=
    looked (.start (shiftScene false false) shiftTransport_known)
  have candid : Candid (shiftTransport.startJournal press (shiftScene false false) ++
      shiftStarted.1.resumeJournal shiftLater) := by decide +kernel
  have failed : (shiftStarted.1.resume shiftLater).1.outcome?.join.isSome = true := by
    decide +kernel
  obtain ⟨error, failedWith⟩ := Option.isSome_iff_exists.mp failed
  have outcome := Option.join_eq_some_iff.mp failedWith
  exact ⟨_, _, _, _, error, shiftTransport_built, rfl, handled, candid, outcome,
    (usable_transports_never_report_unusable shiftTransport_built).1 (shiftScene false true) rfl
      handled candid error outcome⟩

end Telemetry
