import Mathlib.Algebra.Order.Group.Int
import Mathlib.Order.Monotone.Basic
import Mathlib.Order.SuccPred.IntervalSucc
import Telemetry.Timestamp

/-!
Contract: dates are found by counting days.

Owns:
- the rules of the Gregorian calendar: leap years, the lengths of the months and
  the date after a date;
- `CivilDate.Numbered`, the number of a date by counting from 1 January 1970 one
  day at a time, in both directions;
- that `CivilDate.ofDayNumber` gives the one date that has the number.

The computation divides where the count takes steps. In between stand years that
begin in March: a day has its place in such a year, both the count and the
divisions find this place, and the month follows from it by a table.

Does not own: the text of a date; see `Proofs.Timestamp.Reading`.
-/

namespace Telemetry.CivilDate

/-! ### The calendar -/

/-- Every fourth year is a leap year, but of the full centuries only every fourth. -/
def IsLeap (year : Int) : Prop :=
  year % 4 = 0 ∧ (year % 100 ≠ 0 ∨ year % 400 = 0)

instance (year : Int) : Decidable (IsLeap year) :=
  inferInstanceAs (Decidable (_ ∧ _))

def monthLength (year : Int) (month : Nat) : Nat :=
  if month = 2 then if IsLeap year then 29 else 28
  else if month = 4 ∨ month = 6 ∨ month = 9 ∨ month = 11 then 30
  else 31

/-- The calendar has the date. -/
structure Valid (date : CivilDate) : Prop where
  month_pos : 1 ≤ date.month
  month_le : date.month ≤ 12
  day_pos : 1 ≤ date.day
  day_le : date.day ≤ monthLength date.year date.month

/-- The date of the day after. -/
def next (date : CivilDate) : CivilDate :=
  if date.day < monthLength date.year date.month then { date with day := date.day + 1 }
  else if date.month < 12 then { date with month := date.month + 1, day := 1 }
  else { year := date.year + 1, month := 1, day := 1 }

/-- The number of a date, counted from 1 January 1970 on and back. -/
inductive Numbered : CivilDate → Int → Prop where
  | epoch : Numbered { year := 1970, month := 1, day := 1 } 0
  | after {date : CivilDate} {days : Int} (numbered : Numbered date days) :
      Numbered date.next (days + 1)
  | before {date : CivilDate} {days : Int} (valid : date.Valid)
      (numbered : Numbered date.next (days + 1)) : Numbered date days

theorem monthLength_le (year : Int) (month : Nat) : monthLength year month ≤ 31 := by
  unfold monthLength
  split_ifs <;> omega

/-- Only February depends on the year. -/
theorem monthLength_of_ne {month : Nat} (other : month ≠ 2) (year first : Int) :
    monthLength year month = monthLength first month := by
  unfold monthLength
  rw [if_neg other, if_neg other]

/-- A number that grows with the date. Years have fewer than 372 days, months at most 31. -/
def ordinal (date : CivilDate) : Int :=
  372 * date.year + 31 * date.month + date.day

theorem ordinal_lt_next {date : CivilDate} (valid : date.Valid) :
    date.ordinal < date.next.ordinal := by
  have longest := Nat.le_trans valid.day_le (monthLength_le _ _)
  have last := valid.month_le
  unfold next ordinal
  split_ifs
  · simp only
    omega
  · simp only
    omega
  · simp only
    omega

theorem next_of_day {year : Int} {month day : Nat} (inMonth : day < monthLength year month) :
    next { year, month, day } = { year, month, day := day + 1 } :=
  if_pos inMonth

theorem next_of_month {year : Int} {month day : Nat} (ends : monthLength year month ≤ day)
    (inYear : month < 12) :
    next { year, month, day } = { year, month := month + 1, day := 1 } := by
  unfold next
  rw [if_neg (Nat.not_lt.mpr ends), if_pos inYear]

theorem next_of_year {year : Int} {month day : Nat} (ends : monthLength year month ≤ day)
    (last : 12 ≤ month) :
    next { year, month, day } = { year := year + 1, month := 1, day := 1 } := by
  unfold next
  rw [if_neg (Nat.not_lt.mpr ends), if_neg (Nat.not_lt.mpr last)]

/-- Dates with the same day after them are the same. -/
theorem Valid.eq_of_next_eq {date other : CivilDate} (valid : date.Valid) (validToo : other.Valid)
    (same : date.next = other.next) : date = other := by
  obtain ⟨year, month, day⟩ := date
  obtain ⟨otherYear, otherMonth, otherDay⟩ := other
  obtain ⟨monthPos, monthLe, dayPos, dayLe⟩ := valid
  obtain ⟨otherMonthPos, otherMonthLe, otherDayPos, otherDayLe⟩ := validToo
  unfold next at same
  simp only at *
  split_ifs at same <;> rw [CivilDate.mk.injEq] at same ⊢
  all_goals obtain ⟨sameYear, sameMonth, sameDay⟩ := same
  · exact ⟨sameYear, sameMonth, Nat.succ.inj sameDay⟩
  · omega
  · omega
  · omega
  · obtain rfl := sameYear
    obtain rfl := Nat.succ.inj sameMonth
    exact ⟨rfl, rfl, by omega⟩
  · omega
  · omega
  · omega
  · obtain rfl : year = otherYear := by omega
    obtain rfl : month = otherMonth := by omega
    exact ⟨rfl, rfl, by omega⟩

/-! ### Years that begin in March -/

/-- Days of the year from March of `year` on, at whose end the leap day stands. -/
def marchLength (year : Int) : Nat :=
  if IsLeap (year + 1) then 366 else 365

theorem february_length (year : Int) : monthLength (year + 1) 2 + 337 = marchLength year := by
  unfold monthLength marchLength
  rw [if_pos rfl]
  split <;> rfl

theorem marchLength_bounds (year : Int) : 365 ≤ marchLength year ∧ marchLength year ≤ 366 := by
  unfold marchLength
  split <;> decide

theorem lt_marchLength_iff {year : Int} {day : Nat} :
    day < marchLength year ↔ day ≤ 364 ∨ day = 365 ∧ IsLeap (year + 1) := by
  unfold marchLength
  split_ifs with leap
  · simp only [leap, and_true]
    omega
  · simp only [leap, and_false, or_false]
    omega

/-- Days from 1 March of the year 0 to 1 March of a year. -/
def marchStart (year : Int) : Int :=
  365 * year + year / 4 - year / 100 + year / 400

theorem marchStart_succ (year : Int) :
    marchStart (year + 1) = marchStart year + marchLength year := by
  unfold marchLength
  split_ifs with leap
  · unfold IsLeap at leap
    unfold marchStart
    omega
  · unfold IsLeap at leap
    unfold marchStart
    omega

/-- Every day has its place in a year. -/
theorem exists_marchYear (days : Int) :
    ∃ year day, day < marchLength year ∧ days + 719468 = marchStart year + day := by
  induction days using Int.induction_on with
  | zero => exact ⟨1969, 306, by decide, rfl⟩
  | succ days inductionHypothesis =>
      obtain ⟨year, day, inside, place⟩ := inductionHypothesis
      by_cases inYear : day + 1 < marchLength year
      · exact ⟨year, day + 1, inYear, by omega⟩
      · have start := marchStart_succ year
        have bounds := marchLength_bounds (year + 1)
        exact ⟨year + 1, 0, by omega, by omega⟩
  | pred days inductionHypothesis =>
      obtain ⟨year, day, inside, place⟩ := inductionHypothesis
      cases day with
      | zero =>
          have start := marchStart_succ (year - 1)
          have bounds := marchLength_bounds (year - 1)
          rw [Int.sub_add_cancel] at start
          exact ⟨year - 1, marchLength (year - 1) - 1, by omega, by omega⟩
      | succ day => exact ⟨year, day, by omega, by omega⟩

/-! ### The divisions -/

/-- Days of a cycle of 400 years before one of its years. -/
def yearStart (year : Nat) : Nat := 365 * year + year / 4 - year / 100

/-- The year of a day of the cycle, by divisions alone. -/
def yearOfCycle (day : Nat) : Nat :=
  (day - day / 1460 + day / 36524 - day / 146096) / 365

theorem yearOfCycle_yearStart {year day : Nat} (inCycle : year < 400)
    (inside : day < marchLength year) : yearOfCycle (yearStart year + day) = year := by
  obtain ⟨century, four, one, rfl, centuryLt, fourLt, oneLt⟩ : ∃ century four one,
      year = 100 * century + 4 * four + one ∧ century < 4 ∧ four < 25 ∧ one < 4 :=
    ⟨year / 100, year % 100 / 4, year % 4, by omega, by omega, by omega, by omega⟩
  have start : yearStart (100 * century + 4 * four + one) =
      36524 * century + 1461 * four + 365 * one := by
    unfold yearStart
    omega
  have leapDay : day ≤ 364 ∨ day = 365 ∧ one = 3 ∧ (four = 24 → century = 3) := by
    rw [lt_marchLength_iff, IsLeap] at inside
    omega
  rw [start]
  by_cases last : century = 3 ∧ four = 24 ∧ one = 3 ∧ day = 365
  · obtain ⟨rfl, rfl, rfl, rfl⟩ := last
    decide
  · -- Without the last day of the cycle, a century has no more than 36524 days.
    have centuries : (36524 * century + 1461 * four + 365 * one + day) / 36524 = century := by
      omega
    have cycles : (36524 * century + 1461 * four + 365 * one + day) / 146096 = 0 := by
      omega
    have fours : (36524 * century + 1461 * four + 365 * one + day) / 1460 =
        25 * century + four +
          if 1460 ≤ 24 * century + four + 365 * one + day then 1 else 0 := by
      split <;> omega
    unfold yearOfCycle
    rw [centuries, cycles, fours]
    split <;> omega

/-- The month of a day of a year that begins in March. -/
def marchMonth (day : Nat) : Nat :=
  if (5 * day + 2) / 153 < 10 then (5 * day + 2) / 153 + 3 else (5 * day + 2) / 153 - 9

/-- Its day of the month. -/
def marchDay (day : Nat) : Nat :=
  day - (153 * ((5 * day + 2) / 153) + 2) / 5 + 1

/-- The date of a day of a year that begins in March. -/
def ofMarchYear (year : Int) (day : Nat) : CivilDate where
  year := year + if marchMonth day ≤ 2 then 1 else 0
  month := marchMonth day
  day := marchDay day

theorem ofDayNumber_eq {days year : Int} {day : Nat} (inside : day < marchLength year)
    (place : days + 719468 = marchStart year + day) :
    ofDayNumber days = ofMarchYear year day := by
  obtain ⟨cycle, ofCycle, rfl, inCycle⟩ : ∃ (cycle : Int) (ofCycle : Nat),
      year = ofCycle + cycle * 400 ∧ ofCycle < 400 :=
    ⟨year / 400, (year % 400).toNat, by omega, by omega⟩
  have sameLength : marchLength (ofCycle + cycle * 400) = marchLength ofCycle := by
    have sameLeap : IsLeap (ofCycle + cycle * 400 + 1) ↔ IsLeap (ofCycle + 1) := by
      unfold IsLeap
      omega
    simp only [marchLength, sameLeap]
  have start : marchStart (ofCycle + cycle * 400) = cycle * 146097 + yearStart ofCycle := by
    unfold marchStart yearStart
    omega
  rw [sameLength] at inside
  have bound : yearStart ofCycle + day < 146097 := by
    rw [lt_marchLength_iff, IsLeap] at inside
    unfold yearStart
    omega
  have cycleFound : (days + 719468).fdiv 146097 = cycle := by
    rw [Int.fdiv_eq_ediv_of_nonneg _ (by decide)]
    omega
  have dayOfCycle : (days + 719468 - cycle * 146097).toNat = yearStart ofCycle + day := by
    omega
  have yearFound := yearOfCycle_yearStart inCycle inside
  have dayOfYear :
      yearStart ofCycle + day - (365 * ofCycle + ofCycle / 4 - ofCycle / 100) = day :=
    Nat.add_sub_cancel_left ..
  unfold yearOfCycle at yearFound
  simp only [ofDayNumber, cycleFound, dayOfCycle, yearFound, dayOfYear]
  rfl

/-! ### One day after the other -/

/-- From March to January the months have the lengths of the calendar and follow one another. -/
theorem march_to_january : ∀ day < 337,
    marchMonth day ≠ 2 ∧ 1 ≤ marchMonth day ∧ marchMonth day ≤ 12 ∧ 1 ≤ marchDay day ∧
    ((marchDay day < monthLength 0 (marchMonth day) ∧
        marchMonth (day + 1) = marchMonth day ∧ marchDay (day + 1) = marchDay day + 1) ∨
      (marchDay day = monthLength 0 (marchMonth day) ∧
        marchMonth (day + 1) = marchMonth day % 12 + 1 ∧ marchDay (day + 1) = 1)) := by
  decide +kernel

theorem ofMarchYear_of_february (year : Int) {day : Nat} (late : 337 ≤ day) (inside : day ≤ 365) :
    ofMarchYear year day = { year := year + 1, month := 2, day := day - 336 } := by
  have month : (5 * day + 2) / 153 = 11 := by omega
  unfold ofMarchYear marchMonth marchDay
  rw [month, CivilDate.mk.injEq]
  exact ⟨rfl, rfl, by omega⟩

theorem ofMarchYear_valid {year : Int} {day : Nat} (inside : day < marchLength year) :
    (ofMarchYear year day).Valid := by
  by_cases early : day < 337
  · obtain ⟨other, monthPos, monthLe, dayPos, follows⟩ := march_to_january day early
    refine ⟨monthPos, monthLe, dayPos, ?_⟩
    show marchDay day ≤ monthLength _ (marchMonth day)
    rw [monthLength_of_ne other _ 0]
    omega
  · have february := february_length year
    have bounds := marchLength_bounds year
    rw [ofMarchYear_of_february year (by omega) (by omega)]
    constructor <;> simp only <;> omega

theorem next_ofMarchYear {year : Int} {day : Nat} (inYear : day + 1 < marchLength year) :
    (ofMarchYear year day).next = ofMarchYear year (day + 1) := by
  by_cases early : day < 337
  · obtain ⟨other, monthPos, monthLe, dayPos, follows⟩ := march_to_january day early
    unfold ofMarchYear
    rcases follows with ⟨inMonth, month, dayOfMonth⟩ | ⟨ends, month, dayOfMonth⟩
    · rw [monthLength_of_ne other 0 (year + if marchMonth day ≤ 2 then 1 else 0)] at inMonth
      rw [next_of_day inMonth, month, dayOfMonth]
    · rw [monthLength_of_ne other 0 (year + if marchMonth day ≤ 2 then 1 else 0)] at ends
      rw [month, dayOfMonth]
      by_cases december : 12 ≤ marchMonth day
      · rw [next_of_year (Nat.le_of_eq ends.symm) december, CivilDate.mk.injEq]
        refine ⟨?_, by omega, rfl⟩
        split_ifs <;> omega
      · rw [next_of_month (Nat.le_of_eq ends.symm) (by omega), CivilDate.mk.injEq]
        refine ⟨?_, by omega, rfl⟩
        split_ifs <;> omega
  · have february := february_length year
    have bounds := marchLength_bounds year
    rw [ofMarchYear_of_february year (by omega) (by omega),
      ofMarchYear_of_february year (by omega) (by omega), next_of_day (by omega),
      CivilDate.mk.injEq]
    exact ⟨rfl, rfl, by omega⟩

/-- After February comes March of the same calendar year. -/
theorem next_ofMarchYear_of_last {year : Int} {day : Nat} (last : day + 1 = marchLength year) :
    (ofMarchYear year day).next = ofMarchYear (year + 1) 0 := by
  have february := february_length year
  have bounds := marchLength_bounds year
  rw [ofMarchYear_of_february year (by omega) (by omega), next_of_month (by omega) (by decide)]
  simp [ofMarchYear, marchMonth, marchDay]

/-! ### Counting -/

theorem ofDayNumber_valid (days : Int) : (ofDayNumber days).Valid := by
  obtain ⟨year, day, inside, place⟩ := exists_marchYear days
  rw [ofDayNumber_eq inside place]
  exact ofMarchYear_valid inside

/-- One day later is the next date. -/
theorem ofDayNumber_succ (days : Int) : ofDayNumber (days + 1) = (ofDayNumber days).next := by
  obtain ⟨year, day, inside, place⟩ := exists_marchYear days
  rw [ofDayNumber_eq inside place]
  by_cases inYear : day + 1 < marchLength year
  · rw [next_ofMarchYear inYear]
    exact ofDayNumber_eq inYear (by omega)
  · have start := marchStart_succ year
    have bounds := marchLength_bounds (year + 1)
    rw [next_ofMarchYear_of_last (by omega)]
    exact ofDayNumber_eq (by omega) (by omega)

/-- Later days have later dates. -/
theorem ordinal_ofDayNumber_le_iff (days other : Int) :
    (ofDayNumber days).ordinal ≤ (ofDayNumber other).ordinal ↔ days ≤ other := by
  have increasing : StrictMono fun days => (ofDayNumber days).ordinal := by
    apply strictMono_int_of_lt_succ
    intro days
    rw [ofDayNumber_succ]
    exact ordinal_lt_next (ofDayNumber_valid days)
  exact increasing.le_iff_le

/-- A year has begun exactly from its first day on. -/
theorem le_year_iff {first year : Int}
    (newYear : ofDayNumber first = { year, month := 1, day := 1 }) (days : Int) :
    year ≤ (ofDayNumber days).year ↔ first ≤ days := by
  have valid := ofDayNumber_valid days
  have longest := Nat.le_trans valid.day_le (monthLength_le _ _)
  have monthPos := valid.month_pos
  have monthLe := valid.month_le
  have dayPos := valid.day_pos
  have ordered := ordinal_ofDayNumber_le_iff first days
  rw [newYear] at ordered
  rw [← ordered]
  simp only [ordinal]
  omega

/-- The computed date has the number by counting. -/
theorem ofDayNumber_numbered (days : Int) : (ofDayNumber days).Numbered days := by
  induction days using Int.induction_on with
  | zero => exact .epoch
  | succ days inductionHypothesis =>
      rw [ofDayNumber_succ]
      exact .after inductionHypothesis
  | pred days inductionHypothesis =>
      refine .before (ofDayNumber_valid _) ?_
      rw [← ofDayNumber_succ, Int.sub_add_cancel]
      exact inductionHypothesis

/-- No other date has it. -/
theorem Numbered.eq_ofDayNumber {date : CivilDate} {days : Int} (numbered : date.Numbered days) :
    date = ofDayNumber days := by
  induction numbered with
  | epoch => rfl
  | after _ inductionHypothesis => rw [ofDayNumber_succ, inductionHypothesis]
  | before valid _ inductionHypothesis =>
      rw [ofDayNumber_succ] at inductionHypothesis
      exact valid.eq_of_next_eq (ofDayNumber_valid _) inductionHypothesis

/-- A date has one number. -/
theorem Numbered.unique {date : CivilDate} {days other : Int} (numbered : date.Numbered days)
    (numberedToo : date.Numbered other) : days = other := by
  have same : ofDayNumber days = ofDayNumber other :=
    numbered.eq_ofDayNumber.symm.trans numberedToo.eq_ofDayNumber
  apply Int.le_antisymm
  · rw [← ordinal_ofDayNumber_le_iff, same]
  · rw [← ordinal_ofDayNumber_le_iff, same]

end Telemetry.CivilDate
