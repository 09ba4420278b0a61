import Telemetry.Proofs.Binary64.Exactness
import Telemetry.Proofs.Duration
import Telemetry.Transport.RetryPolicy

/-!
Contract: the waits of a retry whose factor is a power of two.

Owns:
- the milliseconds of such a wait as a formula in natural numbers
  (`RetryPolicy.uncappedMilliseconds_two_pow`);
- the theorem that the waits follow the formula up to the longest one, grow, and
  stay between the shortest and the longest.

The exponent of the growth is held in 31 bits. A factor above one has passed
every limit long before that, and one to any power is one, so the limit of the
exponent is never seen.
-/

namespace Telemetry

theorem Word.largest_eq (bits : Nat) : Word.largest bits = 2 ^ bits - 1 :=
  rfl

namespace Duration

/-- A span cut at the longest one, if there is one. -/
def capped (cap : Option Duration) (span : Duration) : Duration :=
  cap.elim span (min span)

theorem capped_le_capped {first second : Duration} (le : first ≤ second) (cap : Option Duration) :
    capped cap first ≤ capped cap second := by
  cases cap with
  | none => exact le
  | some longest =>
      show (min first longest).nanoseconds ≤ (min second longest).nanoseconds
      rw [nanoseconds_min, nanoseconds_min]
      have leNanoseconds : first.nanoseconds ≤ second.nanoseconds := le
      omega

theorem le_capped {bound span : Duration} {cap : Option Duration} (le : bound ≤ span)
    (longestAbove : ∀ longest, cap = some longest → bound ≤ longest) :
    bound ≤ capped cap span := by
  cases cap with
  | none => exact le
  | some longest =>
      show bound.nanoseconds ≤ (min span longest).nanoseconds
      rw [nanoseconds_min]
      exact Nat.le_min.2 ⟨le, longestAbove longest rfl⟩

theorem capped_le_span (cap : Option Duration) (span : Duration) : capped cap span ≤ span := by
  cases cap with
  | none => exact Nat.le_refl _
  | some longest =>
      show (min span longest).nanoseconds ≤ span.nanoseconds
      rw [nanoseconds_min]
      exact Nat.min_le_left _ _

theorem capped_le (span longest : Duration) : capped (some longest) span ≤ longest := by
  show (min span longest).nanoseconds ≤ longest.nanoseconds
  rw [nanoseconds_min]
  omega

end Duration

namespace RetryPolicy

variable {policy : RetryPolicy}

/-- An accepted policy has a positive shortest wait, not above the longest. -/
theorem bounds_of_validate (accepted : policy.validate = .ok ()) :
    0 < policy.minTimeout.nanoseconds ∧
      ∀ longest, policy.maxTimeout = some longest → policy.minTimeout ≤ longest := by
  unfold validate at accepted
  split at accepted
  · cases accepted
  · split at accepted
    · cases accepted
    · next positive =>
      refine ⟨Nat.pos_of_ne_zero positive, ?_⟩
      intro longest set
      rw [set] at accepted
      dsimp only at accepted
      split at accepted
      · cases accepted
      · next ordered => exact Nat.le_of_not_lt ordered

theorem nextTimeout_eq (retry : Nat) :
    policy.nextTimeout retry =
      .capped policy.maxTimeout (.ofMilliseconds (policy.uncappedMilliseconds retry)) := by
  unfold nextTimeout
  -- Named, the wait is not computed when the two cut waits are compared.
  generalize Duration.ofMilliseconds (policy.uncappedMilliseconds retry) = wait
  split
  · next longest set => rw [set, Duration.capped, Option.elim_some]
  · next set => rw [set, Duration.capped, Option.elim_none]

/-- Holding the exponent does not show: what it cuts off is beyond every limit. -/
theorem growth_held (whole base retry : Nat) (positive : 0 < whole) :
    min (whole * 2 ^ (base * min retry (Word.largest 31))) (Word.largest 64) =
      min (whole * 2 ^ (base * retry)) (Word.largest 64) := by
  have beyond {exponent : Nat} (large : 64 ≤ exponent) :
      min (whole * 2 ^ exponent) (Word.largest 64) = Word.largest 64 := by
    apply Nat.min_eq_right
    calc Word.largest 64 ≤ 2 ^ 64 := Nat.sub_le _ _
      _ ≤ 2 ^ exponent := Nat.pow_le_pow_right (by decide) large
      _ ≤ whole * 2 ^ exponent := Nat.le_mul_of_pos_left _ positive
  have room : 64 ≤ Word.largest 31 := by decide
  rcases Nat.le_total retry (Word.largest 31) with held | cut
  · rw [Nat.min_eq_left held]
  · rw [Nat.min_eq_right cut]
    rcases Nat.eq_zero_or_pos base with rfl | steep
    · rw [Nat.zero_mul, Nat.zero_mul]
    · rw [beyond (Nat.le_trans room (Nat.le_mul_of_pos_left _ steep)),
        beyond (Nat.le_trans room (Nat.le_trans cut (Nat.le_mul_of_pos_left _ steep)))]

/-- With a power of two as the factor, no product is rounded: it is exact, or it is infinite
and the wait is at its limit. -/
theorem uncappedMilliseconds_two_pow {base whole : Nat}
    (factor : policy.retryFactor = .ofNat (2 ^ base))
    (minimum : policy.minTimeout = .ofMilliseconds whole) (positive : 0 < whole)
    (short : whole < 2 ^ 53) (retry : Nat) :
    policy.uncappedMilliseconds retry =
      min (whole * 2 ^ (base * retry)) (Word.largest 64) := by
  have product : Binary64.ofNat policy.minTimeout.milliseconds *
      policy.retryFactor.power (min retry (Word.largest 31)) =
        .scaled whole (base * min retry (Word.largest 31)) := by
    rw [minimum, Duration.milliseconds_ofMilliseconds, factor, Binary64.ofNat_two_pow,
      Binary64.power_two_pow, Binary64.ofNat_eq_scaled positive short,
      Binary64.scaled_mul_two_pow positive short, Nat.zero_add]
  have held : Word.largest 64 ≤ 2 ^ 64 := Nat.sub_le _ _
  simp only [uncappedMilliseconds, product]
  rw [Binary64.toNat_scaled positive _ held]
  exact growth_held whole base retry positive

/-- The wait number `retry` without its cap, when the factor is two to the power `base`. -/
def doubledWait (whole base retry : Nat) : Duration :=
  .ofMilliseconds (min (whole * 2 ^ (base * retry)) (2 ^ 64 - 1))

theorem doubledWait_le {earlier later : Nat} (before : earlier ≤ later) (whole base : Nat) :
    doubledWait whole base earlier ≤ doubledWait whole base later := by
  apply Duration.ofMilliseconds_le
  have powers : whole * 2 ^ (base * earlier) ≤ whole * 2 ^ (base * later) :=
    Nat.mul_le_mul_left _ (Nat.pow_le_pow_right (by decide) (Nat.mul_le_mul_left _ before))
  omega

theorem le_doubledWait {whole : Nat} (short : whole < 2 ^ 53) (base retry : Nat) :
    .ofMilliseconds whole ≤ doubledWait whole base retry := by
  apply Duration.ofMilliseconds_le
  have power : whole ≤ whole * 2 ^ (base * retry) :=
    Nat.le_mul_of_pos_right _ (Nat.two_pow_pos _)
  omega

/-- The waits of an accepted policy whose factor is a power of two and whose shortest wait is a
whole number of milliseconds: each is the shortest one times the power of the factor, held in 64
bits and cut at the longest wait. So they never decrease, and stay between the shortest and the
longest. -/
theorem waits_are_exact_for_powers_of_two (accepted : policy.validate = .ok ()) {base whole : Nat}
    (factor : policy.retryFactor = .ofNat (2 ^ base))
    (minimum : policy.minTimeout = .ofMilliseconds whole) (short : whole < 2 ^ 53) :
    (∀ retry, policy.nextTimeout retry =
      .capped policy.maxTimeout (doubledWait whole base retry)) ∧
    (∀ earlier later, earlier ≤ later → policy.nextTimeout earlier ≤ policy.nextTimeout later) ∧
    (∀ retry, policy.minTimeout ≤ policy.nextTimeout retry) ∧
    (∀ longest, policy.maxTimeout = some longest →
      ∀ retry, policy.nextTimeout retry ≤ longest) := by
  obtain ⟨nonzero, ordered⟩ := bounds_of_validate accepted
  have positive : 0 < whole := by
    rw [minimum] at nonzero
    exact Nat.pos_of_mul_pos_left nonzero
  have waits (retry : Nat) :
      policy.nextTimeout retry = .capped policy.maxTimeout (doubledWait whole base retry) := by
    rw [nextTimeout_eq, uncappedMilliseconds_two_pow factor minimum positive short,
      Word.largest_eq, doubledWait]
  refine ⟨waits, ?_, ?_, ?_⟩
  · intro earlier later before
    rw [waits, waits]
    exact Duration.capped_le_capped (doubledWait_le before whole base) _
  · intro retry
    rw [waits]
    apply Duration.le_capped
    · rw [minimum]
      exact le_doubledWait short base retry
    · exact ordered
  · intro longest set retry
    rw [waits, set]
    exact Duration.capped_le _ longest

/-- A factor of `2 ^ 31` and a longest wait that the third retry passes. -/
def steepPolicy : RetryPolicy where
  minTimeout := .ofMilliseconds 3
  maxTimeout := some (.ofMilliseconds 10000000000000000000)
  retryFactor := .ofNat (2 ^ 31)

theorem steep_waits_reach_the_longest :
    steepPolicy.validate = .ok () ∧
      steepPolicy.nextTimeout 1 = .ofMilliseconds 6442450944 ∧
      steepPolicy.nextTimeout 2 = .ofMilliseconds 10000000000000000000 ∧
      steepPolicy.nextTimeout 4294967295 ≤ .ofMilliseconds 10000000000000000000 := by
  have accepted : steepPolicy.validate = .ok () := by decide +kernel
  have factor : steepPolicy.retryFactor = .ofNat (2 ^ 31) := rfl
  have minimum : steepPolicy.minTimeout = .ofMilliseconds 3 := rfl
  obtain ⟨waits, -, -, below⟩ :=
    waits_are_exact_for_powers_of_two accepted factor minimum (by decide)
  refine ⟨accepted, ?_, ?_, below _ rfl _⟩
  · rw [waits 1]
    decide +kernel
  · rw [waits 2]
    decide +kernel

end RetryPolicy

end Telemetry
