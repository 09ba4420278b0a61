import Mathlib.Data.List.Pairwise
import Telemetry.Proofs.Transport.RetryPace

/-!
Contract: the shortest wait of a retry whose factor is a power of two.

Owns:
- the waits of a policy whose shortest wait is any time, not only a whole number of
  milliseconds;
- `RetryMark.Apart`: a call comes after a failure no sooner than a given time;
- the theorem on the policies whose waits are never shorter than their shortest wait,
  and whose retries keep it between a failure and the calls after it.

The waits are computed from the whole milliseconds of the shortest one. What is left
of a millisecond is lost, unless the growth makes up for it.
-/

namespace Telemetry

namespace RetryPolicy

variable {policy : RetryPolicy} {base : Nat}

/-- The waits depend on the whole milliseconds of the shortest one only. -/
theorem uncappedMilliseconds_of_whole (factor : policy.retryFactor = .ofNat (2 ^ base))
    (positive : 0 < policy.minTimeout.milliseconds)
    (short : policy.minTimeout.milliseconds < 2 ^ 53) (retry : Nat) :
    policy.uncappedMilliseconds retry =
      min (policy.minTimeout.milliseconds * 2 ^ (base * retry)) (Word.largest 64) := by
  let cut : RetryPolicy :=
    { policy with minTimeout := .ofMilliseconds policy.minTimeout.milliseconds }
  have same : cut.uncappedMilliseconds retry = policy.uncappedMilliseconds retry := by
    unfold uncappedMilliseconds
    rw [Duration.milliseconds_ofMilliseconds]
  have factorToo : cut.retryFactor = .ofNat (2 ^ base) := factor
  rw [← same]
  exact uncappedMilliseconds_two_pow factorToo rfl positive short retry

/-- A shortest wait below a millisecond counts as none, until the growth is infinite. -/
theorem uncappedMilliseconds_of_fraction (factor : policy.retryFactor = .ofNat (2 ^ base))
    (fraction : policy.minTimeout.milliseconds = 0) (retry : Nat) :
    policy.uncappedMilliseconds retry =
      if base * min retry (Word.largest 31) ≤ 1023 then 0 else Word.largest 64 := by
  simp only [uncappedMilliseconds, fraction, factor, Binary64.ofNat_two_pow,
    Binary64.power_two_pow, Binary64.zero_mul_two_pow]
  split
  · decide +kernel
  · rfl

/-- The longest wait is no shorter than the shortest, so it does not matter here. -/
theorem minTimeout_le_iff (accepted : policy.validate = .ok ()) (retry : Nat) :
    policy.minTimeout ≤ policy.nextTimeout retry ↔
      policy.minTimeout ≤ .ofMilliseconds (policy.uncappedMilliseconds retry) := by
  rw [nextTimeout_eq]
  constructor
  · intro le
    exact Nat.le_trans le (Duration.capped_le_span _ _)
  · intro le
    exact Duration.le_capped le (bounds_of_validate accepted).2

/-- What a wait is at least: the shortest one, if that is a whole number of milliseconds; otherwise
the growth has to make up for the part of a millisecond that is lost. -/
theorem minTimeout_le_nextTimeout_iff (accepted : policy.validate = .ok ())
    (factor : policy.retryFactor = .ofNat (2 ^ base))
    (short : policy.minTimeout.milliseconds < 2 ^ 53) (retry : Nat) :
    policy.minTimeout ≤ policy.nextTimeout retry ↔
      policy.minTimeout.subMilliseconds = 0 ∨
      0 < policy.minTimeout.milliseconds ∧ 0 < base * retry ∨
      1024 ≤ base * min retry (Word.largest 31) := by
  rw [minTimeout_le_iff accepted, Duration.le_ofMilliseconds_iff]
  rcases Nat.eq_zero_or_pos policy.minTimeout.milliseconds with fraction | positive
  · have nonzero := (bounds_of_validate accepted).1
    have left : policy.minTimeout.subMilliseconds ≠ 0 := by
      intro none
      have parts := Nat.div_add_mod policy.minTimeout.nanoseconds 1000000
      rw [show policy.minTimeout.nanoseconds / 1000000 = 0 from fraction,
        show policy.minTimeout.nanoseconds % 1000000 = 0 from none] at parts
      omega
    have room : 0 < Word.largest 64 := by decide
    rw [uncappedMilliseconds_of_fraction factor fraction]
    split <;> omega
  · rw [uncappedMilliseconds_of_whole factor positive short]
    have room : 2 ^ 53 ≤ Word.largest 64 := by decide
    rcases Nat.eq_zero_or_pos (base * retry) with still | grows
    · have held : base * min retry (Word.largest 31) = 0 := by
        have le : base * min retry (Word.largest 31) ≤ base * retry :=
          Nat.mul_le_mul_left _ (Nat.min_le_left _ _)
        omega
      rw [still, held, Nat.pow_zero, Nat.mul_one, Nat.min_eq_left (by omega)]
      omega
    · have doubled : 2 ≤ 2 ^ (base * retry) := Nat.le_self_pow (by omega) 2
      have twice : policy.minTimeout.milliseconds * 2 ≤
          policy.minTimeout.milliseconds * 2 ^ (base * retry) := Nat.mul_le_mul_left _ doubled
      have more : policy.minTimeout.milliseconds <
          min (policy.minTimeout.milliseconds * 2 ^ (base * retry)) (Word.largest 64) := by omega
      exact iff_of_true (.inl more) (.inr (.inl ⟨positive, grows⟩))

theorem forall_minTimeout_le_iff (accepted : policy.validate = .ok ())
    (factor : policy.retryFactor = .ofNat (2 ^ base))
    (short : policy.minTimeout.milliseconds < 2 ^ 53) :
    (∀ retry, policy.minTimeout ≤ policy.nextTimeout retry) ↔
      policy.minTimeout.subMilliseconds = 0 := by
  have iff := minTimeout_le_nextTimeout_iff accepted factor short
  constructor
  · intro always
    have first := (iff 0).mp (always 0)
    rw [Nat.zero_min, Nat.mul_zero] at first
    omega
  · intro whole retry
    exact (iff retry).mpr (.inl whole)

/-- The first wait is the shortest one without its part of a millisecond. -/
theorem waited_one (accepted : policy.validate = .ok ())
    (factor : policy.retryFactor = .ofNat (2 ^ base))
    (short : policy.minTimeout.milliseconds < 2 ^ 53) :
    policy.waited 1 = policy.minTimeout.milliseconds := by
  have first : policy.uncappedMilliseconds 0 = policy.minTimeout.milliseconds := by
    rcases Nat.eq_zero_or_pos policy.minTimeout.milliseconds with fraction | positive
    · rw [uncappedMilliseconds_of_fraction factor fraction, Nat.zero_min, Nat.mul_zero,
        if_pos (Nat.zero_le _), fraction]
    · have room : 2 ^ 53 ≤ Word.largest 64 := by decide
      rw [uncappedMilliseconds_of_whole factor positive short, Nat.mul_zero, Nat.pow_zero,
        Nat.mul_one, Nat.min_eq_left (by omega)]
  have whole : .ofMilliseconds policy.minTimeout.milliseconds ≤ policy.minTimeout :=
    Nat.mul_div_le _ _
  have uncut : (policy.nextTimeout 0).nanoseconds =
      (Duration.ofMilliseconds policy.minTimeout.milliseconds).nanoseconds := by
    rw [nextTimeout_eq, first]
    apply Nat.le_antisymm (Duration.capped_le_span _ _)
    exact Duration.le_capped (Nat.le_refl _) fun longest set =>
      Nat.le_trans whole ((bounds_of_validate accepted).2 longest set)
  show 0 + (policy.nextTimeout 0).timerMilliseconds = _
  rw [Nat.zero_add, Duration.timerMilliseconds, uncut]
  exact Duration.timerMilliseconds_ofMilliseconds _

end RetryPolicy

/-! ### Between a failure and the next call -/

namespace RetryMark

/-- If the mark is a failure, the span has passed since. -/
def Since (span : Duration) (time : Nat) : RetryMark → Prop
  | .failed _ failedAt => span ≤ .ofMilliseconds (time - failedAt)
  | _ => True

/-- If the later mark is a call, the span has passed since the earlier one, if that is a failure. -/
def Apart (span : Duration) (earlier : RetryMark) : RetryMark → Prop
  | .called _ scene => earlier.Since span scene.now
  | _ => True

theorem apart_of_not_isCall {span : Duration} {earlier later : RetryMark}
    (silent : ¬later.isCall = true) : earlier.Apart span later := by
  cases later with
  | called attempt scene => exact absurd rfl silent
  | _ => trivial

theorem since_failed {span : Duration} {attempt : RetryAttempt} {failedAt time : Nat}
    (passed : span ≤ .ofMilliseconds (time - failedAt)) :
    (RetryMark.failed attempt failedAt).Since span time :=
  passed

theorem Since.mono {span : Duration} {time later : Nat} {mark : RetryMark}
    (since : mark.Since span time) (le : time ≤ later) : mark.Since span later := by
  cases mark with
  | failed attempt failedAt =>
      exact Nat.le_trans since (Duration.ofMilliseconds_le (Nat.sub_le_sub_right le failedAt))
  | _ => trivial

end RetryMark

namespace RetryMoment

/-- The earliest time of the next call. -/
def soonest (moment : RetryMoment) : Nat :=
  match moment.stage with
  | .waiting due => due
  | _ => moment.scene.now

theorem soonest_waiting (attempt : RetryAttempt) (due : Nat) (scene : Scene)
    (marks : List RetryMark) : soonest ⟨attempt, .waiting due, scene, marks⟩ = due :=
  rfl

/-- All calls keep a span after the failures before them, and the next one will. -/
structure Spaced (moment : RetryMoment) (span : Duration) : Prop where
  waits : ∀ retry,
    span ≤ .ofMilliseconds (moment.attempt.policy.nextTimeout retry).timerMilliseconds
  apart : moment.marks.Pairwise (RetryMark.Apart span)
  since : ∀ mark ∈ moment.marks, mark.Since span moment.soonest

theorem Spaced.silent {moment next : RetryMoment} {span : Duration} (spaced : moment.Spaced span)
    (policy : next.attempt.policy = moment.attempt.policy) (marks : next.marks = moment.marks)
    (later : moment.soonest ≤ next.soonest) : next.Spaced span := by
  refine ⟨policy ▸ spaced.waits, marks ▸ spaced.apart, ?_⟩
  intro mark member
  rw [marks] at member
  exact (spaced.since mark member).mono later

theorem Spaced.marked {moment next : RetryMoment} {span : Duration} {mark : RetryMark}
    (spaced : moment.Spaced span) (policy : next.attempt.policy = moment.attempt.policy)
    (marks : next.marks = moment.marks ++ [mark]) (later : moment.soonest ≤ next.soonest)
    (apart : ∀ earlier ∈ moment.marks, earlier.Apart span mark)
    (since : mark.Since span next.soonest) : next.Spaced span := by
  refine ⟨policy ▸ spaced.waits, ?_, ?_⟩
  · rw [marks, List.pairwise_append]
    refine ⟨spaced.apart, List.pairwise_singleton _ _, ?_⟩
    intro earlier member last same
    rw [List.mem_singleton.mp same]
    exact apart earlier member
  · rw [marks]
    intro earlier member
    rcases List.mem_append.mp member with before | same
    · exact (spaced.since earlier before).mono later
    · rw [List.mem_singleton.mp same]
      exact since

theorem Spaced.step {moment next : RetryMoment} {span : Duration} (spaced : moment.Spaced span)
    (step : Step moment next) : next.Spaced span := by
  cases step with
  | @giveUp attempt scene marks exhausted =>
      refine spaced.marked rfl rfl ?_ (fun _ _ => trivial) trivial
      show scene.now ≤ (scene.observe attempt.observer _).now
      rw [Scene.observe]
      exact Nat.le_refl _
  | @call attempt scene marks allowed =>
      refine spaced.marked rfl rfl ?_ spaced.since trivial
      exact Nat.le_of_eq (attempt.startInner_now scene).symm
  | @goOn attempt call scene later marks onward =>
      refine spaced.silent rfl rfl ?_
      show scene.now ≤ (call.resume later).2.now
      rw [(Scene.Tells.resume .nothing call later).clock]
      exact onward
  | pass => exact spaced.silent rfl rfl (Nat.le_refl _)
  | @fail attempt error scene marks retryable =>
      -- By name, the wait is not computed.
      have due := attempt.schedule_due error scene
      refine spaced.marked rfl rfl ?_ (fun _ _ => trivial) (RetryMark.since_failed ?_)
      · rw [soonest_waiting, due]
        exact Nat.le_add_right _ _
      · rw [soonest_waiting, due, Nat.add_sub_cancel_left]
        exact spaced.waits _
  | wait onward => exact spaced.silent rfl rfl (Nat.le_refl _)
  | awake come => exact spaced.marked rfl rfl come (fun _ _ => trivial) trivial
  | rest onward => exact spaced.silent rfl rfl onward

theorem Spaced.reaches {moment last : RetryMoment} {span : Duration} (spaced : moment.Spaced span)
    (reaches : moment.Reaches last) : last.Spaced span := by
  induction reaches with
  | refl => exact spaced
  | tail _ step inductionHypothesis => exact inductionHypothesis.step step

end RetryMoment

namespace Transport

variable {policy : RetryPolicy}

/-- What all waits are at least, a retry keeps between a failure and any call after it. -/
theorem retryMarks_apart {span : Duration} (waits : ∀ retry, span ≤ policy.nextTimeout retry)
    (observer : Observer) (inner : Transport) (events : List Event) (scene : Scene)
    {changes : List (Scene → Scene)} (onward : Onward changes) :
    (retryMarks observer policy inner events changes scene).Pairwise (RetryMark.Apart span) := by
  obtain ⟨last, reaches, -, marked⟩ := retryMarks_reached observer policy inner events scene onward
  have spaced : RetryMoment.Spaced
      ⟨{ observer, policy, inner, events, startedAt := scene.now }, .deciding, scene, []⟩ span := by
    refine ⟨?_, .nil, ?_⟩
    · intro retry
      exact Nat.le_trans (waits retry) (Duration.le_timerMilliseconds _)
    · intro mark member
      cases member
  rw [← marked]
  exact (spaced.reaches reaches).apart

/-- With one call at most, none comes after a failure. -/
theorem retryMarks_apart_of_single (single : ¬policy.Permits 1) (span : Duration)
    (observer : Observer) (inner : Transport) (events : List Event) (scene : Scene)
    {changes : List (Scene → Scene)} (onward : Onward changes) :
    (retryMarks observer policy inner events changes scene).Pairwise (RetryMark.Apart span) := by
  have permitted := (retryMarks_paced observer policy inner events scene onward).1
  rcases retryMarks_cases observer policy inner events changes scene with
    ⟨-, marks⟩ | ⟨-, rest, marks⟩
  · rw [marks]
    exact List.pairwise_singleton _ _
  · rw [marks, List.countP_cons_of_pos rfl] at permitted
    have noCall : rest.countP RetryMark.isCall = 0 := by
      by_contra some
      exact single (permitted 1 (by omega))
    have apart {earlier : RetryMark} (later : RetryMark) (member : later ∈ rest) :
        earlier.Apart span later :=
      RetryMark.apart_of_not_isCall (List.countP_eq_zero.mp noCall later member)
    rw [marks, List.pairwise_cons]
    exact ⟨apart, List.pairwise_of_forall_mem_list fun _ _ later member => apart later member⟩

/-- A refusing collector is called again as soon as the first wait is over. -/
theorem exists_second_call (permits : ∀ failures ≤ 1, policy.Permits failures) :
    ∃ changes, Onward changes ∧ ∃ first woken second later,
      later.now = policy.waited 1 ∧
      [.called first .refusing, .failed first 0, .awoke woken later.now,
        .called second later] <+: refusedMarks policy changes := by
  obtain ⟨first, refused, course⟩ := exists_refused policy
  obtain ⟨woken, second, later, -, refusedAgain, goesOn⟩ :=
    refused.again (permits 0 (Nat.zero_le _))
  have called := RetryAttempt.MayBegin.called
    (refusedAgain.not_isExhausted (permits 1 (Nat.le_refl _)))
  obtain ⟨changes, onward, begins⟩ := course _ (goesOn _ called)
  exact ⟨changes, onward, first, woken, second, later, refusedAgain.now_eq, begins⟩

/-- A policy that permits a second call waits for it as long as it says only if the shortest wait
is a whole number of milliseconds. -/
theorem subMilliseconds_eq_zero_of_apart (permits : ∀ failures ≤ 1, policy.Permits failures)
    (first : policy.waited 1 = policy.minTimeout.milliseconds)
    (apart : ∀ changes, Onward changes →
      (refusedMarks policy changes).Pairwise (RetryMark.Apart policy.minTimeout)) :
    policy.minTimeout.subMilliseconds = 0 := by
  obtain ⟨changes, onward, call, woken, second, later, clock, begins⟩ :=
    exists_second_call permits
  have pairs := (apart changes onward).sublist begins.sublist
  have kept : policy.minTimeout ≤ .ofMilliseconds (later.now - 0) := by
    rw [List.pairwise_cons, List.pairwise_cons] at pairs
    exact pairs.2.1 _ (.tail _ (.head _))
  rw [Nat.sub_zero, clock, first, Duration.le_ofMilliseconds_iff] at kept
  omega

/-- For an accepted policy whose factor is a power of two, and whose shortest wait is any time:
which waits are as long as the shortest one; that all are exactly if it is a whole number of
milliseconds; and that whatever the inner transport does and whatever happens around it, so much
time is between a failure and any call after it exactly if it is such a number or the policy leaves
no second call, by the number of attempts or by the time for them. -/
theorem shortest_wait_is_kept_iff (accepted : policy.validate = .ok ()) {base : Nat}
    (factor : policy.retryFactor = .ofNat (2 ^ base))
    (short : policy.minTimeout < .ofMilliseconds (2 ^ 53)) :
    (∀ retry, policy.minTimeout ≤ policy.nextTimeout retry ↔
      policy.minTimeout.subMilliseconds = 0 ∨
      0 < policy.minTimeout.milliseconds ∧ 0 < base * retry ∨
      1024 ≤ base * min retry (Word.largest 31)) ∧
    ((∀ retry, policy.minTimeout ≤ policy.nextTimeout retry) ↔
      policy.minTimeout.subMilliseconds = 0) ∧
    ((∀ observer inner events scene changes, Onward changes →
        (retryMarks observer policy inner events changes scene).Pairwise
          (RetryMark.Apart policy.minTimeout)) ↔
      policy.minTimeout.subMilliseconds = 0 ∨ policy.maxAttempts ≤ 1 ∨
        ∃ limit ∈ policy.maxRetry, limit ≤ .ofMilliseconds policy.minTimeout.milliseconds) := by
  have few : policy.minTimeout.milliseconds < 2 ^ 53 :=
    Nat.div_lt_of_lt_mul (Nat.mul_comm _ _ ▸ short)
  have always := RetryPolicy.forall_minTimeout_le_iff accepted factor few
  have first := RetryPolicy.waited_one accepted factor few
  have ends : policy.EndsBy 1 ↔
      ∃ limit ∈ policy.maxRetry, limit ≤ .ofMilliseconds policy.minTimeout.milliseconds := by
    rw [RetryPolicy.EndsBy, first]
  have small : 1 < Word.largest 32 := by decide
  refine ⟨RetryPolicy.minTimeout_le_nextTimeout_iff accepted factor few, always, ?_⟩
  rw [← ends]
  constructor
  · intro apart
    by_contra none
    simp only [not_or, Nat.not_le] at none
    obtain ⟨fraction, several, goesOn⟩ := none
    apply fraction
    refine subMilliseconds_eq_zero_of_apart ?_ first (apart _ _ _ _)
    intro failures before
    apply RetryPolicy.permits_of_not_endsBy _ goesOn before
    rw [RetryAttempt.number_held (by omega)]
    omega
  · rintro (whole | single) observer inner events scene changes onward
    · exact retryMarks_apart (always.mpr whole) observer inner events scene onward
    · refine retryMarks_apart_of_single ?_ _ observer inner events scene onward
      rcases single with one | ends
      · exact RetryPolicy.not_permits_of_lt small one
      · exact ends.not_permits

/-- A shortest wait just below a millisecond. -/
def briefPolicy : RetryPolicy where
  minTimeout := ⟨999999⟩

theorem brief_waits_are_kept_after_1024_failures :
    briefPolicy.validate = .ok () ∧ briefPolicy.retryFactor = .ofNat (2 ^ 1) ∧
      briefPolicy.minTimeout < .ofMilliseconds (2 ^ 53) ∧
      (∀ retry, briefPolicy.minTimeout ≤ briefPolicy.nextTimeout retry ↔ 1024 ≤ retry) ∧
      ¬∀ observer inner events scene changes, Onward changes →
        (retryMarks observer briefPolicy inner events changes scene).Pairwise
          (RetryMark.Apart briefPolicy.minTimeout) := by
  have accepted : briefPolicy.validate = .ok () := by decide +kernel
  have factor : briefPolicy.retryFactor = .ofNat (2 ^ 1) := rfl
  have short : briefPolicy.minTimeout < .ofMilliseconds (2 ^ 53) := by decide +kernel
  have fraction : briefPolicy.minTimeout.subMilliseconds ≠ 0 := by decide
  have brief : briefPolicy.minTimeout.milliseconds = 0 := by decide
  have held : 1024 ≤ Word.largest 31 := by decide
  obtain ⟨waits, -, kept⟩ := shortest_wait_is_kept_iff accepted factor short
  refine ⟨accepted, factor, short, ?_, ?_⟩
  · intro retry
    rw [waits, brief]
    omega
  · rw [kept]
    rintro (whole | one | ⟨limit, set, -⟩)
    · exact fraction whole
    · exact absurd one (by decide)
    · cases set

/-- A shortest wait of one millisecond and a half. -/
def halfwayPolicy : RetryPolicy where
  minTimeout := ⟨1500000⟩

/-- The half of a millisecond is not waited. -/
theorem halfway_wait_is_cut :
    halfwayPolicy.validate = .ok () ∧ halfwayPolicy.nextTimeout 0 = .ofMilliseconds 1 ∧
      ¬halfwayPolicy.minTimeout ≤ halfwayPolicy.nextTimeout 0 ∧
      ∃ changes, Onward changes ∧
        ¬(refusedMarks halfwayPolicy changes).Pairwise
          (RetryMark.Apart halfwayPolicy.minTimeout) := by
  refine ⟨by decide +kernel, by decide +kernel, by decide +kernel, ?_⟩
  have permits (failures : Nat) (before : failures ≤ 1) : halfwayPolicy.Permits failures := by
    have small : 1 < Word.largest 32 := by decide
    refine ⟨?_, fun limit set => by cases set⟩
    rw [RetryAttempt.number_held (by omega)]
    show failures + 1 ≤ 10
    omega
  have first : halfwayPolicy.waited 1 = halfwayPolicy.minTimeout.milliseconds := by decide +kernel
  have fraction : halfwayPolicy.minTimeout.subMilliseconds ≠ 0 := by decide
  by_contra none
  apply fraction
  apply subMilliseconds_eq_zero_of_apart permits first
  intro changes onward
  by_contra cut
  exact none ⟨changes, onward, cut⟩

end Transport

end Telemetry
