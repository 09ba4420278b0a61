import Mathlib.Algebra.Order.Ring.Nat
import Telemetry.Binary64.Basic

/-!
Contract: arithmetic of double precision that rounds nothing.

Owns:
- `Binary64.scaled`, a whole number of at most 53 bits times a power of two, or
  infinity where that is too large;
- that rounding a ratio of that value gives it (`ofRatio_shifted`), and so that
  products with powers of two, repeated squaring of a power of two and the way
  back to natural numbers are exact.

A product that is too large becomes infinite and stays so. The highest bit of an
exponent is always multiplied in, so repeated squaring is infinite exactly if
the power is too large, whichever square was the first to be.

Does not own: what is rounded; see `Binary64.ofRatio`.
-/

namespace Telemetry.Binary64

/-- The number `significand * 2 ^ shift`, or infinity if it is too large. -/
def scaled (significand shift : Nat) : Binary64 :=
  if significand.log2 + shift ≤ 1023 then
    .finite false (significand * 2 ^ (52 - significand.log2))
      ((shift : Int) - (52 - significand.log2 : Nat))
  else .infinite false

/-- At the exponent of a shifted significand, the ratio is a whole number. -/
theorem scaledRatio_shifted (significand shift spare : Nat) : ∃ denominator, 0 < denominator ∧
    scaledRatio (significand * 2 ^ (shift + spare)) (2 ^ spare)
        ((shift : Int) - (52 - significand.log2 : Nat)) =
      (significand * 2 ^ (52 - significand.log2) * denominator, denominator) := by
  generalize missing : 52 - significand.log2 = lift
  unfold scaledRatio
  split
  · next whole =>
    refine ⟨2 ^ spare * Nat.pow 2 ((shift : Int) - lift).toNat,
      Nat.mul_pos (Nat.two_pow_pos _) (Nat.two_pow_pos _), ?_⟩
    have parts : shift + spare = lift + (spare + ((shift : Int) - lift).toNat) := by omega
    rw [parts, Nat.pow_add, Nat.pow_add, ← Nat.mul_assoc]
    rfl
  · next fraction =>
    refine ⟨2 ^ spare, Nat.two_pow_pos _, ?_⟩
    have parts : shift + spare + (-((shift : Int) - lift)).toNat = lift + spare := by omega
    rw [Nat.pow_eq, Nat.mul_assoc, Nat.mul_assoc, ← Nat.pow_add, ← Nat.pow_add, parts]

/-- A ratio that is a whole number at its exponent is not rounded. -/
theorem ofRatio_of_whole {numerator denominator whole unit : Nat} {exponent : Int}
    (nonzero : numerator ≠ 0) (normal : normalExponent numerator denominator = exponent)
    (present : 0 < unit)
    (ratio : scaledRatio numerator denominator exponent = (whole * unit, unit))
    (short : whole < 2 ^ 53) :
    ofRatio false numerator denominator =
      if maxExponent < exponent then .infinite false else .finite false whole exponent := by
  have divided : divideToEven (whole * unit) unit = whole := by
    simp only [divideToEven, Nat.mul_div_cancel _ present, Nat.mul_mod_left, Nat.mul_zero,
      if_pos present]
  have unfilled : whole ≠ Nat.pow 2 53 := by
    rw [Nat.pow_eq]
    exact Nat.ne_of_lt short
  unfold ofRatio
  -- The exponent goes first: reducing the pair would otherwise compute it.
  rw [if_neg nonzero, normal]
  simp only [ratio, divided, if_neg unfilled]

section Rounding

variable {significand : Nat} (positive : 0 < significand)

include positive

theorem log2_shifted (shift : Nat) :
    (significand * 2 ^ shift).log2 = significand.log2 + shift := by
  have nonzero : significand ≠ 0 := Nat.ne_of_gt positive
  have two_pow_pos : 0 < 2 ^ shift := Nat.two_pow_pos shift
  rw [Nat.log2_eq_iff (Nat.mul_ne_zero nonzero (Nat.ne_of_gt two_pow_pos))]
  constructor
  · rw [Nat.pow_add]
    exact Nat.mul_le_mul_right _ (Nat.log2_self_le nonzero)
  · rw [Nat.add_right_comm, Nat.pow_add]
    exact Nat.mul_lt_mul_of_pos_right Nat.lt_log2_self two_pow_pos

variable (short : significand < 2 ^ 53)

include short

theorem log2_le_of_short : significand.log2 ≤ 52 := by
  have below : significand.log2 < 53 := (Nat.log2_lt (Nat.ne_of_gt positive)).mpr short
  omega

/-- Shifted up to 53 bits, the significand has exactly 53. -/
theorem normal_bounds : 2 ^ 52 ≤ significand * 2 ^ (52 - significand.log2) ∧
    significand * 2 ^ (52 - significand.log2) < 2 ^ 53 := by
  have bits := log2_le_of_short positive short
  have length : (significand * 2 ^ (52 - significand.log2)).log2 = 52 := by
    rw [log2_shifted positive]
    omega
  have nonzero : significand * 2 ^ (52 - significand.log2) ≠ 0 :=
    Nat.mul_ne_zero (Nat.ne_of_gt positive) (Nat.ne_of_gt (Nat.two_pow_pos _))
  exact (Nat.log2_eq_iff nonzero).mp length

theorem normalExponent_shifted (shift spare : Nat) :
    normalExponent (significand * 2 ^ (shift + spare)) (2 ^ spare) =
      (shift : Int) - (52 - significand.log2 : Nat) := by
  have bits := log2_le_of_short positive short
  obtain ⟨denominator, present, ratio⟩ := scaledRatio_shifted significand shift spare
  have estimate : ((significand.log2 + (shift + spare) : Nat) : Int) - (spare : Nat) - 52 =
      (shift : Int) - (52 - significand.log2 : Nat) := by omega
  have enough : ¬ significand * 2 ^ (52 - significand.log2) * denominator <
      denominator * Nat.pow 2 52 := by
    rw [Nat.mul_comm, Nat.not_lt, Nat.pow_eq]
    exact Nat.mul_le_mul_left _ (normal_bounds positive short).1
  simp only [normalExponent, log2_shifted positive, Nat.log2_two_pow, estimate, ratio, if_neg enough,
    minExponent]
  omega

/-- A ratio that is a shifted significand is rounded to just that. -/
theorem ofRatio_shifted (shift spare : Nat) :
    ofRatio false (significand * 2 ^ (shift + spare)) (2 ^ spare) = scaled significand shift := by
  have bits := log2_le_of_short positive short
  obtain ⟨denominator, present, ratio⟩ := scaledRatio_shifted significand shift spare
  have nonzero : significand * 2 ^ (shift + spare) ≠ 0 :=
    Nat.mul_ne_zero (Nat.ne_of_gt positive) (Nat.ne_of_gt (Nat.two_pow_pos _))
  rw [ofRatio_of_whole nonzero (normalExponent_shifted positive short shift spare) present ratio
    (normal_bounds positive short).2, scaled, maxExponent]
  by_cases fits : significand.log2 + shift ≤ 1023
  · rw [if_pos fits, if_neg (by omega)]
  · rw [if_neg fits, if_pos (by omega)]

theorem ofNat_eq_scaled : ofNat significand = scaled significand 0 := by
  simpa [ofNat] using ofRatio_shifted positive short 0 0

end Rounding

theorem ofNat_two_pow (shift : Nat) : ofNat (2 ^ shift) = scaled 1 shift := by
  simpa [ofNat] using ofRatio_shifted Nat.one_pos (by decide) shift 0

/-- The magnitude of a shifted significand, however it is shifted. -/
theorem magnitudeRatio_shifted (significand lift shift : Nat) : ∃ spare,
    magnitudeRatio (significand * 2 ^ lift) ((shift : Int) - lift) =
      (significand * 2 ^ (shift + spare), 2 ^ spare) := by
  unfold magnitudeRatio scaledRatio
  split
  · refine ⟨lift - shift, ?_⟩
    have spare : (-((shift : Int) - lift)).toNat = lift - shift := by omega
    have parts : shift + (lift - shift) = lift := by omega
    rw [spare, parts, Nat.one_mul]
    rfl
  · refine ⟨0, ?_⟩
    have parts : lift + (- -((shift : Int) - lift)).toNat = shift + 0 := by omega
    rw [Nat.pow_eq, Nat.mul_assoc, ← Nat.pow_add, parts, Nat.pow_zero]

/-! ### Products and powers -/

/-- A product with a power of two shifts the significand. -/
theorem scaled_mul_two_pow {significand : Nat} (positive : 0 < significand)
    (short : significand < 2 ^ 53) (first second : Nat) :
    scaled significand first * scaled 1 second = scaled significand (first + second) := by
  have bits := log2_le_of_short positive short
  have oneBit : Nat.log2 1 = 0 := by decide
  have nonzero : significand * 2 ^ (52 - significand.log2) ≠ 0 :=
    Nat.mul_ne_zero (Nat.ne_of_gt positive) (Nat.ne_of_gt (Nat.two_pow_pos _))
  change Binary64.mul _ _ = _
  by_cases firstFits : significand.log2 + first ≤ 1023
  · by_cases secondFits : second ≤ 1023
    · -- Both are finite, and the exact product is rounded once.
      obtain ⟨spare, ratio⟩ := magnitudeRatio_shifted significand (52 - significand.log2 + 52)
        (first + second)
      have product : significand * 2 ^ (52 - significand.log2) * (1 * 2 ^ (52 - 0)) =
          significand * 2 ^ (52 - significand.log2 + 52) := by
        rw [Nat.one_mul, Nat.mul_assoc, ← Nat.pow_add]
      have exponents : ((first : Int) - (52 - significand.log2 : Nat)) +
          ((second : Int) - (52 - 0 : Nat)) =
            ((first + second : Nat) : Int) - (52 - significand.log2 + 52 : Nat) := by omega
      simp only [scaled, oneBit, Nat.zero_add, if_pos firstFits, if_pos secondFits, Binary64.mul,
        product, exponents, ratio, bne_self_eq_false]
      exact ofRatio_shifted positive short (first + second) spare
    · have tooLarge : ¬ significand.log2 + (first + second) ≤ 1023 := by omega
      simp only [scaled, oneBit, Nat.zero_add, if_pos firstFits, if_neg secondFits, if_neg tooLarge,
        Binary64.mul, if_neg nonzero, bne_self_eq_false]
  · have tooLarge : ¬ significand.log2 + (first + second) ≤ 1023 := by omega
    have powerNonzero : 1 * 2 ^ (52 - 0) ≠ 0 := by decide
    simp only [scaled, oneBit, Nat.zero_add, if_neg firstFits, if_neg tooLarge]
    split
    · simp only [Binary64.mul, if_neg powerNonzero, bne_self_eq_false]
    · rfl

theorem zero_mul_finite (significand : Nat) (exponent : Int) :
    ofNat 0 * .finite false significand exponent = ofNat 0 := by
  have ratio (exponent : Int) : (magnitudeRatio 0 exponent).1 = 0 := by
    unfold magnitudeRatio scaledRatio
    split
    · rfl
    · exact Nat.zero_mul _
  have none (denominator : Nat) : ofRatio false 0 denominator = .finite false 0 minExponent :=
    if_pos rfl
  rw [ofNat, none]
  change Binary64.mul _ _ = _
  simp only [Binary64.mul, Nat.zero_mul, ratio, bne_self_eq_false, none]

/-- A power of two makes nothing of zero, unless the power is infinite. -/
theorem zero_mul_two_pow (shift : Nat) :
    ofNat 0 * scaled 1 shift = if shift ≤ 1023 then ofNat 0 else .nan := by
  have oneBit : Nat.log2 1 = 0 := by decide
  rw [scaled, oneBit, Nat.zero_add]
  split
  · exact zero_mul_finite _ _
  · rfl

theorem powerLoop_two_pow (result base exponent : Nat) :
    powerLoop (scaled 1 result) (scaled 1 base) exponent =
      scaled 1 (result + base * exponent) := by
  have product (first second : Nat) : scaled 1 first * scaled 1 second = scaled 1 (first + second) :=
    scaled_mul_two_pow Nat.one_pos (by decide) first second
  -- The exponent halves while the base doubles; what is left over goes into the result.
  induction exponent using Nat.strongRecOn generalizing result base with
  | ind exponent inductionHypothesis =>
      have taken : (if exponent % 2 = 1 then scaled 1 result * scaled 1 base else scaled 1 result) =
          scaled 1 (result + base * (exponent % 2)) := by
        rcases Nat.mod_two_eq_zero_or_one exponent with even | odd
        · simp [even]
        · simp [odd, product]
      rw [powerLoop, taken]
      split
      · next last =>
        have single : exponent % 2 = exponent := by omega
        rw [single]
      · next more =>
        rw [product, inductionHypothesis (exponent / 2) (by omega)]
        congr 1
        calc result + base * (exponent % 2) + (base + base) * (exponent / 2)
            = result + base * (exponent % 2 + 2 * (exponent / 2)) := by
              rw [← Nat.two_mul, Nat.mul_comm 2 base, Nat.mul_assoc, Nat.add_assoc, ← Nat.mul_add]
          _ = result + base * exponent := by rw [Nat.mod_add_div]

theorem power_two_pow (base exponent : Nat) :
    (scaled 1 base).power exponent = scaled 1 (base * exponent) := by
  have one_eq : one = scaled 1 0 := ofNat_eq_scaled Nat.one_pos (by decide)
  rw [power, one_eq, powerLoop_two_pow, Nat.zero_add]

/-! ### Natural numbers again -/

theorem roundedMagnitude_shifted (significand lift shift : Nat) :
    roundedMagnitude (significand * 2 ^ lift) ((shift : Int) - lift) = significand * 2 ^ shift := by
  obtain ⟨spare, ratio⟩ := magnitudeRatio_shifted significand lift shift
  have present : 0 < 2 ^ spare := Nat.two_pow_pos spare
  simp only [roundedMagnitude, ratio]
  generalize value : significand * 2 ^ shift = whole
  have numerator : 2 * (significand * 2 ^ (shift + spare)) + 2 ^ spare =
      2 ^ spare + whole * (2 * 2 ^ spare) := by
    rw [Nat.pow_add, ← Nat.mul_assoc significand, value, Nat.mul_left_comm, Nat.add_comm]
  rw [numerator, Nat.add_mul_div_right _ _ (by omega), Nat.div_eq_of_lt (by omega), Nat.zero_add]

/-- A shifted significand goes back to the natural number that it is, up to the limit. -/
theorem toNat_scaled {significand : Nat} (positive : 0 < significand) (shift : Nat) {limit : Nat}
    (held : limit ≤ 2 ^ 64) :
    (if (scaled significand shift).isFinite then (scaled significand shift).toNatSaturated limit
      else limit) = min (significand * 2 ^ shift) limit := by
  unfold scaled
  split
  · simp only [isFinite, if_true, toNatSaturated, roundedMagnitude_shifted]
    rfl
  · next tooLarge =>
    have length := log2_shifted positive shift
    have nonzero : significand * 2 ^ shift ≠ 0 :=
      Nat.mul_ne_zero (Nat.ne_of_gt positive) (Nat.ne_of_gt (Nat.two_pow_pos _))
    have large : 2 ^ 64 ≤ significand * 2 ^ shift := by
      calc 2 ^ 64 ≤ 2 ^ (significand * 2 ^ shift).log2 :=
            Nat.pow_le_pow_right (by decide) (by omega)
        _ ≤ significand * 2 ^ shift := Nat.log2_self_le nonzero
    rw [Nat.min_eq_right (Nat.le_trans held large)]
    rfl

end Telemetry.Binary64
