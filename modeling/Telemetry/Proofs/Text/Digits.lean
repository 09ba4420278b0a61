import Mathlib.Data.Nat.Digits.Defs
import Mathlib.Logic.Function.Basic
import Telemetry.Text.Digits

/-!
Contract: the decimal digits of a number denote it.

Owns:
- the digits that a number is written with, their class, their value and the
  first of them;
- `Text.Numeral`, a number in a fixed number of places, and the texts that are
  filled up with zeros.

Does not own: where a number ends in a longer text; see `Proofs.Json.RoundTrip`.
-/

namespace Telemetry

namespace Text

theorem digitsValueFrom_cons (value : Nat) (digit : Char) (rest : List Char) :
    digitsValueFrom value (digit :: rest) =
      digitsValueFrom (value * 10 + digitValue digit) rest := by
  rfl

theorem digitsValueFrom_eq (value : Nat) (digits : List Char) :
    digitsValueFrom value digits = Nat.ofDigitChars 10 digits value := by
  induction digits generalizing value with
  | nil => exact Nat.ofDigitChars_nil.symm
  | cons digit rest inductionHypothesis =>
      rw [digitsValueFrom_cons, inductionHypothesis, Nat.ofDigitChars_cons, digitValue,
        Nat.mul_comm]

theorem digitsValue_toDigits (value : Nat) : digitsValue (Nat.toDigits 10 value) = value := by
  rw [digitsValue, digitsValueFrom_eq, Nat.ofDigitChars_toDigits (by decide) (by decide)]

theorem isDigit_of_mem_toDigits {value : Nat} {digit : Char}
    (member : digit ∈ Nat.toDigits 10 value) : isDigit digit = true := by
  have digitLike := Nat.isDigit_of_mem_toDigits (by decide) (by decide) member
  simpa [isDigit, Char.isDigit, Char.le_def] using digitLike

/-- Only zero is written with a leading zero. -/
theorem toDigits_eq_cons {value : Nat} (positive : 0 < value) :
    ∃ first rest, Nat.toDigits 10 value = first :: rest ∧ first ≠ '0' := by
  have digitChar_ne : ∀ digit < 10, 0 < digit → digit.digitChar ≠ '0' := by decide
  induction value using Nat.strongRecOn with
  | ind value inductionHypothesis =>
      by_cases small : value < 10
      · exact ⟨value.digitChar, [], Nat.toDigits_of_lt_base small,
          digitChar_ne value small positive⟩
      · obtain ⟨first, rest, front, nonzero⟩ :=
          inductionHypothesis (value / 10) (by omega) (by omega)
        refine ⟨first, rest ++ [(value % 10).digitChar], ?_, nonzero⟩
        rw [Nat.toDigits_of_base_le (by decide) (Nat.le_of_not_lt small), front]
        rfl

theorem toDigits_injective : Function.Injective (Nat.toDigits 10) :=
  Function.LeftInverse.injective digitsValue_toDigits

theorem toList_decimal (value : Nat) : (decimal value).toList = Nat.toDigits 10 value :=
  String.toList_ofList

/-! ### Numerals -/

/-- Digits that write a number in so many places. -/
structure Numeral (places value : Nat) (digits : List Char) : Prop where
  length : digits.length = places
  isDigit : ∀ digit ∈ digits, Text.isDigit digit = true
  value : digitsValue digits = value

/-- Numerals of the same length at the front of one text are the same. -/
theorem Numeral.front {places value other : Nat} {digits digitsToo rest restToo : List Char}
    (numeral : Numeral places value digits) (numeralToo : Numeral places other digitsToo)
    (same : digits ++ rest = digitsToo ++ restToo) : value = other ∧ rest = restToo := by
  obtain ⟨rfl, behind⟩ := List.append_inj same (numeral.length.trans numeralToo.length.symm)
  exact ⟨numeral.value.symm.trans numeralToo.value, behind⟩

theorem digitsValue_zeros (count : Nat) (digits : List Char) :
    digitsValue (List.replicate count '0' ++ digits) = digitsValue digits := by
  induction count with
  | zero => rfl
  | succ count inductionHypothesis =>
      rw [List.replicate_succ, List.cons_append, digitsValue, digitsValueFrom_cons]
      exact inductionHypothesis

theorem toList_padded (width value : Nat) :
    (padded width value).toList =
      List.replicate (width - (Nat.toDigits 10 value).length) '0' ++ Nat.toDigits 10 value :=
  String.toList_ofList

theorem padded_numeral (width value : Nat) :
    Numeral (max width (Nat.toDigits 10 value).length) value (padded width value).toList := by
  rw [toList_padded]
  refine ⟨?_, ?_, ?_⟩
  · rw [List.length_append, List.length_replicate]
    omega
  · intro digit member
    rcases List.mem_append.mp member with zero | written
    · rw [List.eq_of_mem_replicate zero]
      rfl
    · exact isDigit_of_mem_toDigits written
  · rw [digitsValue_zeros, digitsValue_toDigits]

/-- A number that fits its width is written in so many places. -/
theorem padded_numeral_of_lt {width value : Nat} (some : 0 < width) (fits : value < 10 ^ width) :
    Numeral width value (padded width value).toList := by
  have numeral := padded_numeral width value
  rwa [Nat.max_eq_left (Nat.toDigits_length 10 value width some fits)] at numeral

end Text

end Telemetry
