import Mathlib.Data.List.Nodup
import Telemetry.Event.Identifier
import Telemetry.Proofs.Text.Digits

/-!
Contract: sequential identifiers do not repeat.

Owns:
- the fields of an identifier, which can be told from its text;
- the identifiers of any number of calls, and which of them are the same;
- the theorem on fewer than `2 ^ 64` calls.

The clock may stand still or go back, so that two calls can differ by their
numbers alone. The numbers differ until they are used up, and their texts stand
apart from the other fields, which have digits only between the hyphens.

Calls that overlap are listed in the order in which they take their numbers,
each with the time that it has read before.

Does not own: the digits of a number; see `Proofs.Text.Digits`.
-/

namespace Telemetry

namespace Text

theorem hyphen_not_mem_toDigits (value : Nat) : '-' ∉ Nat.toDigits 10 value := by
  intro member
  have digit : isDigit '-' = true := isDigit_of_mem_toDigits member
  exact absurd digit (by decide)

end Text

namespace SequentialIds

/-! ### The fields of an identifier -/

/-- The pieces between the hyphens of an identifier are its fields. -/
theorem splitOn_text (milliseconds process number : Nat) :
    (text milliseconds process number).toList.splitOn '-' =
      "evt".toList :: [milliseconds, process, number].map (Nat.toDigits 10) := by
  have joined : (text milliseconds process number).toList =
      List.intercalate ['-']
        ("evt".toList :: [milliseconds, process, number].map (Nat.toDigits 10)) := by
    simp [text, Text.toList_decimal, List.intercalate]
  rw [joined]
  apply List.splitOn_intercalate
  · intro field member
    rcases List.mem_cons.mp member with rfl | numeral
    · decide
    · obtain ⟨value, -, rfl⟩ := List.mem_map.mp numeral
      exact Text.hyphen_not_mem_toDigits value
  · exact List.cons_ne_nil _ _

theorem text_inj {milliseconds process number otherMilliseconds otherProcess otherNumber : Nat} :
    text milliseconds process number = text otherMilliseconds otherProcess otherNumber ↔
      milliseconds = otherMilliseconds ∧ process = otherProcess ∧ number = otherNumber := by
  constructor
  · intro same
    have fields := congrArg (fun id : String => id.toList.splitOn '-') same
    simp only [splitOn_text, List.cons.injEq, true_and] at fields
    have values := List.map_injective_iff.mpr Text.toDigits_injective fields
    simpa using values
  · rintro ⟨rfl, rfl, rfl⟩
    rfl

/-! ### The identifiers of many calls -/

theorem next_generate_lt (ids : SequentialIds) (milliseconds process : Nat) :
    (ids.generate milliseconds process).2.next < Word.size 64 :=
  Nat.mod_lt _ (by decide)

/-- Each call has its own reading of the clock and the number after that of the call before,
modulo `2 ^ 64`. -/
theorem generateAll_eq_mapIdx {ids : SequentialIds} (held : ids.next < Word.size 64)
    (process : Nat) (clock : List Nat) :
    ids.generateAll process clock = clock.mapIdx fun place milliseconds =>
      text milliseconds process ((ids.next + place) % Word.size 64) := by
  induction clock generalizing ids with
  | nil => rfl
  | cons milliseconds rest inductionHypothesis =>
      have later := inductionHypothesis (next_generate_lt ids milliseconds process)
      have following (place : Nat) :
          ((ids.generate milliseconds process).2.next + place) % Word.size 64 =
            (ids.next + (place + 1)) % Word.size 64 := by
        rw [Nat.add_comm place 1, ← Nat.add_assoc]
        exact Nat.mod_add_mod _ _ _
      simp only [following] at later
      rw [List.mapIdx_cons, Nat.add_zero, Nat.mod_eq_of_lt held, ← later]
      rfl

theorem length_generateAll {ids : SequentialIds} (held : ids.next < Word.size 64)
    (process : Nat) (clock : List Nat) :
    (ids.generateAll process clock).length = clock.length := by
  rw [generateAll_eq_mapIdx held, List.length_mapIdx]

/-- Of any number of calls, two give the same identifier exactly if they read the same time and
the calls from one to the other are a multiple of `2 ^ 64`. -/
theorem getElem?_generateAll_eq_iff {ids : SequentialIds} (held : ids.next < Word.size 64)
    (process : Nat) {clock : List Nat} {first second : Nat} (firstCalled : first < clock.length)
    (secondCalled : second < clock.length) :
    (ids.generateAll process clock)[first]? = (ids.generateAll process clock)[second]? ↔
      clock[first] = clock[second] ∧ first % Word.size 64 = second % Word.size 64 := by
  have size : Word.size 64 = 18446744073709551616 := rfl
  have numbers : (ids.next + first) % Word.size 64 = (ids.next + second) % Word.size 64 ↔
      first % Word.size 64 = second % Word.size 64 := by
    rw [size]
    omega
  rw [generateAll_eq_mapIdx held, List.getElem?_mapIdx, List.getElem?_mapIdx,
    List.getElem?_eq_getElem firstCalled, List.getElem?_eq_getElem secondCalled,
    Option.map_some, Option.map_some, Option.some_inj, text_inj, numbers]
  simp only [true_and]

/-- As many calls as there are numbers of 64 bits give distinct identifiers. -/
theorem generateAll_nodup {ids : SequentialIds} (held : ids.next < Word.size 64)
    (process : Nat) {clock : List Nat} (few : clock.length ≤ Word.size 64) :
    (ids.generateAll process clock).Nodup := by
  rw [List.nodup_iff_getElem?_ne_getElem?, length_generateAll held]
  intro first second before called same
  obtain ⟨-, places⟩ :=
    (getElem?_generateAll_eq_iff held process (Nat.lt_trans before called) called).mp same
  -- Both places are below the modulus.
  rw [Nat.mod_eq_of_lt (by omega), Nat.mod_eq_of_lt (by omega)] at places
  omega

/-- For every generator that starts from zero or from one, in every process and for all readings of
the clock in fewer than `2 ^ 64` calls: no identifier is given twice, and each is made of its own
reading, the process and the next number. -/
theorem sequential_identifiers_never_repeat {ids : SequentialIds}
    (start : ids = {} ∨ ids = fromOne) (process : Nat) (clock : List Nat)
    (few : clock.length < Word.size 64) :
    (ids.generateAll process clock).Nodup ∧
      ids.generateAll process clock = clock.mapIdx fun place milliseconds =>
        "evt-" ++ Text.decimal milliseconds ++ "-" ++ Text.decimal process ++ "-" ++
          Text.decimal (ids.next + place) := by
  have first : ids.next ≤ 1 := by
    rcases start with rfl | rfl
    · exact Nat.zero_le 1
    · exact Nat.le_refl 1
  have size : 1 < Word.size 64 := by decide
  have held : ids.next < Word.size 64 := by omega
  refine ⟨generateAll_nodup held process (Nat.le_of_lt few), ?_⟩
  rw [generateAll_eq_mapIdx held]
  apply List.ext_getElem
  · rw [List.length_mapIdx, List.length_mapIdx]
  · intro place called _
    rw [List.length_mapIdx] at called
    -- One number is left even after a start from one, so none is taken modulo.
    have unwrapped : ids.next + place < Word.size 64 := by omega
    rw [List.getElem_mapIdx, List.getElem_mapIdx, Nat.mod_eq_of_lt unwrapped]
    rfl

/-- The clock stands still, goes back, and comes to a time with the digits of other fields. -/
theorem identifiers_differ_while_the_clock_goes_back :
    fromOne.generateAll 11 [1700000000000, 1700000000000, 1, 11, 1] =
        ["evt-1700000000000-11-1", "evt-1700000000000-11-2", "evt-1-11-3", "evt-11-11-4",
          "evt-1-11-5"] ∧
      [1700000000000, 1700000000000, 1, 11, 1].length < Word.size 64 ∧
      (fromOne.generateAll 11 [1700000000000, 1700000000000, 1, 11, 1]).Nodup := by
  have few : [1700000000000, 1700000000000, 1, 11, 1].length < Word.size 64 := by decide
  exact ⟨by decide +kernel, few,
    (sequential_identifiers_never_repeat (.inr rfl) 11 _ few).1⟩

end SequentialIds

end Telemetry
