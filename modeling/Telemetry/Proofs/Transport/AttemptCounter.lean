import Telemetry.Proofs.Transport.RetryPace

/-!
Contract: the number of an attempt and the limit of 32 bits.

Owns:
- `RetryMark.InRange`: the numbers that a retry takes before and after that of its
  attempt are numbers of 32 bits;
- the theorem on the policies whose retries stay in this range, and on those whose
  retries make no more calls than the policy allows.

The attempts are exhausted when the number of the next one is above the most that the
policy allows. No number of 32 bits is above the largest one, so a policy that allows
so many sets no limit. Its retries end by the time for them, if there is one, or else
count from zero again.
-/

namespace Telemetry

/-- The number before that of the attempt is not below zero where it is asked for, after a failure
and in the end, and the number after it is not above the largest one when the retry goes on. -/
def RetryMark.InRange : RetryMark → Prop
  | .called _ _ => True
  | .failed attempt _ | .gaveUp attempt _ => 1 ≤ attempt.count
  | .awoke attempt _ => attempt.count + 1 ≤ Word.largest 32

theorem RetryMark.NumberedIn.inRange {mark : RetryMark} {calls : Nat}
    (numbered : mark.NumberedIn calls) (few : calls < Word.largest 32) : mark.InRange := by
  cases mark with
  | called attempt scene => trivial
  | failed attempt time =>
      obtain ⟨failures, within, counted⟩ := numbered
      rw [RetryAttempt.number_held (by omega)] at counted
      show 1 ≤ attempt.count
      omega
  | awoke attempt time =>
      obtain ⟨failures, within, counted⟩ := numbered
      rw [RetryAttempt.number_held (by omega)] at counted
      show attempt.count + 1 ≤ Word.largest 32
      omega
  | gaveUp attempt time =>
      obtain ⟨failures, within, counted⟩ := numbered
      rw [RetryAttempt.number_held (by omega)] at counted
      show 1 ≤ attempt.count
      omega

/-- A policy that allows the largest number of attempts permits a call after any failure, as long
as there is time. -/
theorem RetryPolicy.permits_of_unlimited {policy : RetryPolicy} {last failures : Nat}
    (unlimited : policy.maxAttempts = Word.largest 32) (goesOn : ¬policy.EndsBy last)
    (before : failures ≤ last) : policy.Permits failures := by
  apply permits_of_not_endsBy _ goesOn before
  rw [unlimited]
  apply Nat.le_of_lt_succ
  rw [Nat.succ_eq_add_one, ← RetryAttempt.size_eq]
  exact Nat.mod_lt _ (by decide)

namespace Transport

theorem refusal_leaves_range {policy : RetryPolicy}
    (unlimited : policy.maxAttempts = Word.largest 32)
    (goesOn : ¬policy.EndsBy (Word.largest 32 - 1)) :
    ∃ changes, Onward changes ∧ ∃ mark ∈ refusedMarks policy changes, ¬mark.InRange := by
  have positive : 0 < Word.largest 32 := by decide
  have below : Word.largest 32 - 1 < Word.largest 32 := by omega
  obtain ⟨first, refused, course⟩ := exists_refused policy
  obtain ⟨marks, mayBegin, -, awakes⟩ := refused.calls (Word.largest 32) fun failures _ before =>
    RetryPolicy.permits_of_unlimited unlimited goesOn (by omega)
  obtain ⟨changes, onward, begins⟩ := course marks mayBegin
  obtain ⟨attempt, time, member, numbered⟩ :=
    awakes (Word.largest 32 - 1) (Nat.zero_le _) (by omega)
  refine ⟨changes, onward, _, begins.subset member, ?_⟩
  rw [RetryAttempt.number_held below] at numbered
  show ¬attempt.count + 1 ≤ Word.largest 32
  omega

theorem refusal_exceeds_attempts {policy : RetryPolicy}
    (unlimited : policy.maxAttempts = Word.largest 32)
    (goesOn : ¬policy.EndsBy (Word.largest 32)) :
    ∃ changes, Onward changes ∧
      policy.maxAttempts < (refusedMarks policy changes).countP RetryMark.isCall := by
  obtain ⟨first, refused, course⟩ := exists_refused policy
  obtain ⟨marks, mayBegin, counted, -⟩ :=
    refused.calls (Word.largest 32 + 1) fun failures _ before =>
      RetryPolicy.permits_of_unlimited unlimited goesOn (by omega)
  obtain ⟨changes, onward, begins⟩ := course marks mayBegin
  have many := begins.sublist.countP_le (p := RetryMark.isCall)
  refine ⟨changes, onward, ?_⟩
  omega

/-- For every policy with a number of attempts of 32 bits, whatever the inner transport does and
whatever happens around it: the numbers stay in the range exactly if the policy allows less than
the largest number of attempts, or the time for them is over before the last of these, and a retry
makes no more calls than allowed exactly if it is over after it at the latest. -/
theorem attempt_numbers_stay_in_range_iff {policy : RetryPolicy}
    (word : policy.maxAttempts ≤ Word.largest 32) :
    ((∀ observer inner events scene changes, Onward changes →
        ∀ mark ∈ retryMarks observer policy inner events changes scene, mark.InRange) ↔
      policy.maxAttempts < Word.largest 32 ∨ policy.EndsBy (Word.largest 32 - 1)) ∧
    ((∀ observer inner events scene changes, Onward changes →
        (retryMarks observer policy inner events changes scene).countP RetryMark.isCall ≤
          policy.maxAttempts) ↔
      policy.maxAttempts < Word.largest 32 ∨ policy.EndsBy (Word.largest 32)) := by
  have positive : 0 < Word.largest 32 := by decide
  have unlimited (not : ¬policy.maxAttempts < Word.largest 32) :
      policy.maxAttempts = Word.largest 32 := by omega
  refine ⟨⟨?_, ?_⟩, ⟨?_, ?_⟩⟩
  · intro inRange
    by_contra neither
    obtain ⟨most, goesOn⟩ := not_or.mp neither
    obtain ⟨changes, onward, mark, member, outside⟩ := refusal_leaves_range (unlimited most) goesOn
    exact outside (inRange _ _ _ _ changes onward mark member)
  · intro bounded observer inner events scene changes onward mark member
    obtain ⟨permitted, numbered⟩ :=
      retryMarks_paced observer policy inner events scene onward
    refine (numbered mark member).inRange ?_
    -- The call with the largest number is not permitted.
    by_contra many
    have last := permitted (Word.largest 32 - 1) (by omega)
    rcases bounded with few | ends
    · exact RetryPolicy.not_permits_of_lt (by omega) (by omega) last
    · exact ends.not_permits last
  · intro within
    by_contra neither
    obtain ⟨most, goesOn⟩ := not_or.mp neither
    obtain ⟨changes, onward, exceeds⟩ := refusal_exceeds_attempts (unlimited most) goesOn
    exact Nat.not_le.mpr exceeds (within _ _ _ _ changes onward)
  · intro bounded observer inner events scene changes onward
    obtain ⟨permitted, -⟩ := retryMarks_paced observer policy inner events scene onward
    by_contra many
    have next := permitted policy.maxAttempts (by omega)
    rcases Nat.lt_or_ge policy.maxAttempts (Word.largest 32) with few | most
    · exact RetryPolicy.not_permits_of_lt few (Nat.le_refl _) next
    · rw [unlimited (Nat.not_lt.mpr most)] at next
      exact (bounded.resolve_left (Nat.not_lt.mpr most)).not_permits next

/-- Any number of attempts, within a second. -/
def secondOfAttempts : RetryPolicy where
  maxAttempts := Word.largest 32
  maxRetry := some (.ofMilliseconds 1000)

theorem second_of_attempts_stays_in_range :
    secondOfAttempts.validate = .ok () ∧ secondOfAttempts.maxAttempts ≤ Word.largest 32 ∧
      (∀ observer inner events scene changes, Onward changes →
        ∀ mark ∈ retryMarks observer secondOfAttempts inner events changes scene, mark.InRange) ∧
      ∀ observer inner events scene changes, Onward changes →
        (retryMarks observer secondOfAttempts inner events changes scene).countP
          RetryMark.isCall ≤ secondOfAttempts.maxAttempts := by
  have word : secondOfAttempts.maxAttempts ≤ Word.largest 32 := Nat.le_refl _
  have firstWait : secondOfAttempts.waited 1 = 1000 := by decide +kernel
  have ends {failures : Nat} (waits : 1 ≤ failures) : secondOfAttempts.EndsBy failures := by
    refine ⟨.ofMilliseconds 1000, rfl, Duration.ofMilliseconds_le ?_⟩
    rw [← firstWait]
    exact RetryPolicy.waited_le waits _
  obtain ⟨range, within⟩ := attempt_numbers_stay_in_range_iff word
  exact ⟨by decide +kernel, word, range.mpr (.inr (ends (by decide))),
    within.mpr (.inr (ends (by decide)))⟩

/-- Any number of attempts, at any time. -/
def endlessAttempts : RetryPolicy where
  maxAttempts := Word.largest 32

/-- A retry that is meant to go on for ever leaves the range, and makes more calls than the largest
number of 32 bits. -/
theorem endless_attempts_leave_the_range :
    endlessAttempts.validate = .ok () ∧
      (∃ changes, Onward changes ∧
        ∃ mark ∈ refusedMarks endlessAttempts changes, ¬mark.InRange) ∧
      ∃ changes, Onward changes ∧
        endlessAttempts.maxAttempts <
          (refusedMarks endlessAttempts changes).countP RetryMark.isCall := by
  have goesOn (failures : Nat) : ¬endlessAttempts.EndsBy failures := by
    rintro ⟨limit, set, -⟩
    cases set
  exact ⟨by decide +kernel, refusal_leaves_range rfl (goesOn _),
    refusal_exceeds_attempts rfl (goesOn _)⟩

end Transport

end Telemetry
