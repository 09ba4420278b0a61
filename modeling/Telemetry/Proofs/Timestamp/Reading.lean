import Telemetry.Proofs.Text.Digits
import Telemetry.Proofs.Timestamp.Calendar
import Telemetry.Transport.Call

/-!
Contract: which instant a time text denotes, and which time the debug log shows.

Owns:
- `Timestamp.Denotes`, the reading of RFC 3339 texts in UTC with milliseconds;
- that a text denotes one instant at most, and that the text of an instant
  denotes this instant;
- the instants that have a text;
- the theorem about the times in the debug log.

A time of an event has 64 bits without a sign, and an instant has 64 bits with
one. The log takes the bits as they are, so that the last times before `2 ^ 64`
are shown as instants before 1970.

Does not own: the calendar; see `Proofs.Timestamp.Calendar`.
-/

namespace Telemetry

open Text (Numeral)

namespace Timestamp

/-! ### Reading -/

/-- Four digits, or more of them that begin with no zero. -/
def Tight (digits : List Char) : Prop :=
  digits.length = 4 ∨ 4 < digits.length ∧ digits.head? ≠ some '0'

/-- A year as it is written: in four digits, or with a sign outside 0 to 9999. -/
inductive YearNumeral : Int → List Char → Prop where
  | plain {year : Nat} {digits : List Char} (numeral : Numeral 4 year digits) :
      YearNumeral year digits
  | late {year places : Nat} {digits : List Char} (beyond : 9999 < year)
      (numeral : Numeral places year digits) (tight : Tight digits) :
      YearNumeral year ('+' :: digits)
  | early {year places : Nat} {digits : List Char} (before : 0 < year)
      (numeral : Numeral places year digits) (tight : Tight digits) :
      YearNumeral (-year) ('-' :: digits)

/-- A date and a time of day. -/
structure Moment where
  date : CivilDate
  hour : Nat
  minute : Nat
  second : Nat
  millisecond : Nat

/-- The moment stands in the text, every part at its place. -/
inductive Moment.Written (moment : Moment) (text : String) : Prop where
  | layout {year month day hour minute second millisecond : List Char}
      (hasYear : YearNumeral moment.date.year year)
      (hasMonth : Numeral 2 moment.date.month month)
      (hasDay : Numeral 2 moment.date.day day)
      (hasHour : Numeral 2 moment.hour hour)
      (hasMinute : Numeral 2 moment.minute minute)
      (hasSecond : Numeral 2 moment.second second)
      (hasMillisecond : Numeral 3 moment.millisecond millisecond)
      (parts : text.toList = year ++ '-' :: (month ++ '-' :: (day ++ 'T' :: (hour ++ ':' ::
        (minute ++ ':' :: (second ++ '.' :: (millisecond ++ ['Z'])))))))

/-- The moment, on the day with this number, is so many milliseconds after the start of 1970. -/
def Moment.instant (moment : Moment) (days : Int) : Int :=
  (((days * 24 + moment.hour) * 60 + moment.minute) * 60 + moment.second) * 1000 +
    moment.millisecond

/-- The text denotes the instant so many milliseconds after the start of 1970. -/
def Denotes (text : String) (instant : Int) : Prop :=
  ∃ (moment : Moment) (days : Int), moment.Written text ∧ moment.date.Numbered days ∧
    moment.hour < 24 ∧ moment.minute < 60 ∧ moment.second < 60 ∧ instant = moment.instant days

/-! ### One reading -/

theorem YearNumeral.unique {year other : Int} {text : List Char} (numeral : YearNumeral year text)
    (numeralToo : YearNumeral other text) : year = other := by
  have unsigned {places value : Nat} {sign : Char} {digits : List Char}
      (numeral : Numeral places value (sign :: digits)) : Text.isDigit sign = true :=
    numeral.isDigit sign List.mem_cons_self
  cases numeral with
  | plain numeral =>
      cases numeralToo with
      | plain numeralToo => rw [← numeral.value, ← numeralToo.value]
      | late => cases unsigned numeral
      | early => cases unsigned numeral
  | late _ numeral =>
      cases numeralToo with
      | plain numeralToo => cases unsigned numeralToo
      | late _ numeralToo => rw [← numeral.value, ← numeralToo.value]
  | early _ numeral =>
      cases numeralToo with
      | plain numeralToo => cases unsigned numeralToo
      | early _ numeralToo => rw [← numeral.value, ← numeralToo.value]

theorem Moment.Written.unique {moment other : Moment} {text : String}
    (written : moment.Written text) (writtenToo : other.Written text) : moment = other := by
  obtain ⟨year, month, day, hour, minute, second, millisecond, parts⟩ := written
  obtain ⟨yearToo, monthToo, dayToo, hourToo, minuteToo, secondToo, millisecondToo, partsToo⟩ :=
    writtenToo
  -- All that follows the year has the same length in both.
  obtain ⟨rfl, rest⟩ := List.append_inj' (parts.symm.trans partsToo) (by
    simp [month.length, day.length, hour.length, minute.length, second.length,
      millisecond.length, monthToo.length, dayToo.length, hourToo.length, minuteToo.length,
      secondToo.length, millisecondToo.length])
  obtain ⟨sameMonth, rest⟩ := month.front monthToo (List.cons.inj rest).2
  obtain ⟨sameDay, rest⟩ := day.front dayToo (List.cons.inj rest).2
  obtain ⟨sameHour, rest⟩ := hour.front hourToo (List.cons.inj rest).2
  obtain ⟨sameMinute, rest⟩ := minute.front minuteToo (List.cons.inj rest).2
  obtain ⟨sameSecond, rest⟩ := second.front secondToo (List.cons.inj rest).2
  obtain ⟨sameMillisecond, -⟩ := millisecond.front millisecondToo (List.cons.inj rest).2
  have sameYear := year.unique yearToo
  obtain ⟨⟨_, _, _⟩, _, _, _, _⟩ := moment
  obtain ⟨⟨_, _, _⟩, _, _, _, _⟩ := other
  simp only at *
  subst sameYear sameMonth sameDay sameHour sameMinute sameSecond sameMillisecond
  rfl

theorem Denotes.unique {text : String} {instant other : Int} (denotes : Denotes text instant)
    (denotesToo : Denotes text other) : instant = other := by
  obtain ⟨moment, days, written, numbered, -, -, -, rfl⟩ := denotes
  obtain ⟨same, daysToo, writtenToo, numberedToo, -, -, -, rfl⟩ := denotesToo
  obtain rfl := written.unique writtenToo
  rw [numbered.unique numberedToo]

theorem Denotes.ne_empty {text : String} {instant : Int} (denotes : Denotes text instant) :
    text ≠ "" := by
  rintro rfl
  obtain ⟨moment, days, written, -⟩ := denotes
  obtain ⟨-, -, -, -, -, -, -, parts⟩ := written
  simp at parts

/-! ### The texts of instants -/

/-- Zeros are filled in up to four digits only. -/
theorem padded_tight (value : Nat) : Tight (Text.padded 4 value).toList := by
  have length := (Text.padded_numeral 4 value).length
  by_cases short : (Nat.toDigits 10 value).length ≤ 4
  · rw [Nat.max_eq_left short] at length
    exact .inl length
  · rw [Nat.max_eq_right (by omega)] at length
    refine .inr ⟨by omega, ?_⟩
    have positive : 0 < value := by
      rw [Nat.pos_iff_ne_zero]
      rintro rfl
      exact short (by decide)
    obtain ⟨first, digits, written, nonzero⟩ := Text.toDigits_eq_cons positive
    have unfilled : 4 - (Nat.toDigits 10 value).length = 0 := by omega
    rw [Text.toList_padded, unfilled, written]
    simpa using nonzero

theorem yearText_numeral (year : Int) : YearNumeral year (yearText year).toList := by
  unfold yearText
  split_ifs with plain early
  · obtain ⟨year, rfl⟩ := Int.eq_ofNat_of_zero_le plain.1
    exact .plain (Text.padded_numeral_of_lt (by decide) (by omega))
  · obtain ⟨magnitude, rfl⟩ : ∃ magnitude : Nat, year = -magnitude := ⟨year.natAbs, by omega⟩
    rw [String.toList_append, Int.natAbs_neg]
    exact .early (by omega) (Text.padded_numeral 4 magnitude) (padded_tight magnitude)
  · obtain ⟨magnitude, rfl⟩ := Int.eq_ofNat_of_zero_le (by omega : 0 ≤ year)
    rw [String.toList_append]
    exact .late (by omega) (Text.padded_numeral 4 magnitude) (padded_tight magnitude)

/-- The text of an instant denotes this instant. -/
theorem denotes_of_text? {instant : Int} {text : String} (given : text? instant = some text) :
    Denotes text instant := by
  simp only [text?, Option.ite_none_right_eq_some, Option.some.injEq] at given
  obtain ⟨-, rfl⟩ := given
  have within : instant.fdiv 86400000 * 86400000 ≤ instant ∧
      instant < instant.fdiv 86400000 * 86400000 + 86400000 := by
    rw [Int.fdiv_eq_ediv_of_nonneg _ (by decide)]
    omega
  generalize instant.fdiv 86400000 = days at within ⊢
  obtain ⟨ofDay, inDay, rfl⟩ : ∃ ofDay : Nat, ofDay < 86400000 ∧
      instant = days * 86400000 + ofDay := ⟨(instant - days * 86400000).toNat, by omega, by omega⟩
  rw [add_sub_cancel_left, Int.toNat_natCast]
  have valid := CivilDate.ofDayNumber_valid days
  have longest := CivilDate.monthLength_le (CivilDate.ofDayNumber days).year
    (CivilDate.ofDayNumber days).month
  have month : (CivilDate.ofDayNumber days).month < 10 ^ 2 := by
    have last := valid.month_le
    omega
  have day : (CivilDate.ofDayNumber days).day < 10 ^ 2 := by
    have last := valid.day_le
    omega
  have hour : ofDay / 3600000 < 24 := by omega
  have minute : ofDay / 60000 % 60 < 60 := by omega
  have second : ofDay / 1000 % 60 < 60 := by omega
  have millisecond : ofDay % 1000 < 10 ^ 3 := by omega
  have twoPlaces : 60 ≤ 10 ^ 2 := by decide
  refine ⟨{
    date := CivilDate.ofDayNumber days
    hour := ofDay / 3600000
    minute := ofDay / 60000 % 60
    second := ofDay / 1000 % 60
    millisecond := ofDay % 1000 }, days, ?_, CivilDate.ofDayNumber_numbered days, hour, minute,
    second, ?_⟩
  · exact .layout (yearText_numeral _)
      (Text.padded_numeral_of_lt (by decide) month)
      (Text.padded_numeral_of_lt (by decide) day)
      (Text.padded_numeral_of_lt (by decide) (Nat.lt_trans hour (by decide)))
      (Text.padded_numeral_of_lt (by decide) (Nat.lt_of_lt_of_le minute twoPlaces))
      (Text.padded_numeral_of_lt (by decide) (Nat.lt_of_lt_of_le second twoPlaces))
      (Text.padded_numeral_of_lt (by decide) millisecond)
      (by simp [String.toList_append])
  · show days * 86400000 + (ofDay : Int) = (((days * 24 + (ofDay / 3600000 : Nat)) * 60 +
      (ofDay / 60000 % 60 : Nat)) * 60 + (ofDay / 1000 % 60 : Nat)) * 1000 + (ofDay % 1000 : Nat)
    omega

/-- The first and the last instant that have a text: the start of the year -262143 and the end
of the year 262142. -/
def earliest : Int := -8334601228800000

def latest : Int := 8210266876799999

/-- Instants have a text from the first year to the last. -/
theorem text?_isSome_iff (instant : Int) :
    (text? instant).isSome ↔ earliest ≤ instant ∧ instant ≤ latest := by
  have first : CivilDate.ofDayNumber (-96465292) = { year := -262143, month := 1, day := 1 } := by
    decide
  have behind : CivilDate.ofDayNumber 95026237 = { year := 262143, month := 1, day := 1 } := by
    decide
  have begun := CivilDate.le_year_iff first (instant.fdiv 86400000)
  have ended := CivilDate.le_year_iff behind (instant.fdiv 86400000)
  have given : (text? instant).isSome ↔
      -262143 ≤ (CivilDate.ofDayNumber (instant.fdiv 86400000)).year ∧
        (CivilDate.ofDayNumber (instant.fdiv 86400000)).year ≤ 262142 := by
    simp only [text?, Option.isSome_ite]
  rw [given]
  rw [Int.fdiv_eq_ediv_of_nonneg _ (by decide)] at begun ended ⊢
  unfold earliest latest
  omega

/-! ### The times of events -/

theorem ofEventTime_denotes {time : Nat} (begun : earliest ≤ signed time)
    (goesOn : signed time ≤ latest) : Denotes (ofEventTime time) (signed time) := by
  have given := (text?_isSome_iff (signed time)).mpr ⟨begun, goesOn⟩
  obtain ⟨text, found⟩ := Option.isSome_iff_exists.mp given
  rw [ofEventTime, found]
  exact denotes_of_text? found

theorem ofEventTime_empty {time : Nat} (outside : signed time < earliest ∨ latest < signed time) :
    ofEventTime time = "" := by
  have missing : ¬(text? (signed time)).isSome := by
    rw [text?_isSome_iff]
    omega
  rw [ofEventTime, Option.not_isSome_iff_eq_none.mp missing]
  rfl

/-- The first time of an event that is shown as an instant before 1970: `2 ^ 64` milliseconds after
the earliest instant. -/
def firstMistaken : Nat := 18438409472480751616

theorem latest_lt_firstMistaken : latest < firstMistaken := by
  decide

/-- What is shown for each time: the text of the instant, nothing, or the text of the instant
`2 ^ 64` milliseconds before. -/
theorem ofEventTime_cases {time : Nat} (held : time < Word.size 64) :
    (time ≤ latest ∧ Denotes (ofEventTime time) time) ∨
    (latest < time ∧ time < firstMistaken ∧ ofEventTime time = "") ∨
    (firstMistaken ≤ time ∧ Denotes (ofEventTime time) (time - Word.size 64)) := by
  have size : Word.size 64 = 18446744073709551616 := rfl
  have half : Word.size 63 = 9223372036854775808 := rfl
  have first : earliest = -8334601228800000 := rfl
  have last : latest = 8210266876799999 := rfl
  have mistaken : firstMistaken = 18438409472480751616 := rfl
  by_cases positive : time < Word.size 63
  · have same : signed time = time := if_pos positive
    by_cases inTime : time ≤ latest
    · have denotes : Denotes (ofEventTime time) (signed time) :=
        ofEventTime_denotes (by omega) (by omega)
      rw [same] at denotes
      exact .inl ⟨inTime, denotes⟩
    · exact .inr (.inl ⟨by omega, by omega, ofEventTime_empty (by omega)⟩)
  · have same : signed time = time - Word.size 64 := if_neg positive
    by_cases begun : firstMistaken ≤ time
    · have denotes : Denotes (ofEventTime time) (signed time) :=
        ofEventTime_denotes (by omega) (by omega)
      rw [same] at denotes
      exact .inr (.inr ⟨begun, denotes⟩)
    · exact .inr (.inl ⟨by omega, by omega, ofEventTime_empty (by omega)⟩)

/-- Only an instant `2 ^ 64` milliseconds before is shown in place of the time. -/
theorem ofEventTime_denotes_of_ne {time : Nat} (held : time < Word.size 64)
    (shown : ofEventTime time ≠ "") :
    ∃ instant, Denotes (ofEventTime time) instant ∧
      (instant = time ∨ instant = time - Word.size 64) := by
  rcases ofEventTime_cases held with ⟨-, denotes⟩ | ⟨-, -, empty⟩ | ⟨-, denotes⟩
  · exact ⟨time, denotes, .inl rfl⟩
  · exact absurd empty shown
  · exact ⟨time - Word.size 64, denotes, .inr rfl⟩

/-- Times with the same text are the same. -/
theorem ofEventTime_injective {time other : Nat} (held : time < Word.size 64)
    (heldToo : other < Word.size 64) (same : ofEventTime time = ofEventTime other)
    (shown : ofEventTime time ≠ "") : time = other := by
  obtain ⟨instant, denotes, place⟩ := ofEventTime_denotes_of_ne held shown
  rw [same] at denotes shown
  obtain ⟨instantToo, denotesToo, placeToo⟩ := ofEventTime_denotes_of_ne heldToo shown
  obtain rfl := denotes.unique denotesToo
  omega

theorem ofEventTime_eq_empty_iff {time : Nat} (held : time < Word.size 64) :
    ofEventTime time = "" ↔ latest < time ∧ time < firstMistaken := by
  rcases ofEventTime_cases held with ⟨inTime, denotes⟩ | ⟨late, before, empty⟩ | ⟨begun, denotes⟩
  · exact iff_of_false denotes.ne_empty (by omega)
  · exact iff_of_true empty ⟨late, before⟩
  · exact iff_of_false denotes.ne_empty (by omega)

/-- A text is empty or denotes the time of the event, up to the times that are mistaken. -/
theorem ofEventTime_exact_iff {time : Nat} (held : time < Word.size 64) :
    (ofEventTime time = "" ∨ Denotes (ofEventTime time) time) ↔ time < firstMistaken := by
  have apart := latest_lt_firstMistaken
  rcases ofEventTime_cases held with ⟨inTime, denotes⟩ | ⟨-, before, empty⟩ | ⟨begun, denotes⟩
  · exact iff_of_true (.inr denotes) (by omega)
  · exact iff_of_true (.inl empty) before
  · refine iff_of_false ?_ (by omega)
    rintro (empty | exact)
    · exact denotes.ne_empty empty
    · have instants := denotes.unique exact
      omega

/-- Only the mistaken times are shown as instants before 1970. -/
theorem ofEventTime_before_epoch_iff {time : Nat} (held : time < Word.size 64) :
    (∃ instant < 0, Denotes (ofEventTime time) instant) ↔ firstMistaken ≤ time := by
  have apart := latest_lt_firstMistaken
  rcases ofEventTime_cases held with ⟨inTime, denotes⟩ | ⟨-, before, empty⟩ | ⟨begun, denotes⟩
  · refine iff_of_false ?_ (by omega)
    rintro ⟨instant, negative, denotesToo⟩
    have instants := denotes.unique denotesToo
    omega
  · refine iff_of_false ?_ (by omega)
    rintro ⟨instant, -, denotes⟩
    exact denotes.ne_empty empty
  · exact iff_of_true ⟨_, by omega, denotes⟩ begun

theorem ofEventTime_mistaken {time : Nat} (held : time < Word.size 64)
    (late : firstMistaken ≤ time) : Denotes (ofEventTime time) (time - Word.size 64) := by
  have apart := latest_lt_firstMistaken
  rcases ofEventTime_cases held with ⟨inTime, -⟩ | ⟨-, before, -⟩ | ⟨-, denotes⟩
  · omega
  · omega
  · exact denotes

/-! ### The debug log -/

/-- The debug log gets one entry for each event, in order. -/
theorem start_debug (name : String) (events : List Event) (scene : Scene) :
    Transport.start events (.debug name) scene =
      (.settled none, { scene with
        notes := scene.notes ++ events.map (Note.logged <| Scene.debugEntry name ·) }) := by
  have logged : events.foldl (fun scene event => scene.log (Scene.debugEntry name event)) scene =
      { scene with
        notes := scene.notes ++ events.map (Note.logged <| Scene.debugEntry name ·) } := by
    induction events generalizing scene with
    | nil => simp
    | cons event events inductionHypothesis =>
        rw [List.foldl_cons, inductionHypothesis]
        simp [Scene.log, Scene.note]
  rw [Transport.start, logged]

theorem debugEntry_time (name : String) (event : Event) :
    (Scene.debugEntry name event).fields.lookup "time" =
      some (.text (ofEventTime event.time)) :=
  rfl

/-- The debug log has an entry for each event. Its time is empty or denotes exactly the time of
the event, unless that is one of the last before `2 ^ 64`: those are shown as instants before
1970. Events with different times never have the same time in the log. -/
theorem logged_times_are_exact_iff (name : String) (events : List Event) (scene : Scene)
    (held : ∀ event ∈ events, event.time < Word.size 64) :
    Transport.start events (.debug name) scene =
      (.settled none, { scene with
        notes := scene.notes ++ events.map (Note.logged <| Scene.debugEntry name ·) }) ∧
    (∀ event ∈ events, ∃ text,
      (Scene.debugEntry name event).fields.lookup "time" = some (.text text) ∧
      (text = "" ↔ latest < event.time ∧ event.time < firstMistaken) ∧
      ((text = "" ∨ Denotes text event.time) ↔ event.time < firstMistaken) ∧
      ((∃ instant < 0, Denotes text instant) ↔ firstMistaken ≤ event.time) ∧
      (firstMistaken ≤ event.time → Denotes text (event.time - Word.size 64))) ∧
    ∀ event ∈ events, ∀ otherName other text, other.time < Word.size 64 →
      (Scene.debugEntry name event).fields.lookup "time" = some (.text text) →
      (Scene.debugEntry otherName other).fields.lookup "time" = some (.text text) →
      text ≠ "" → event.time = other.time := by
  refine ⟨start_debug name events scene, ?_, ?_⟩
  · intro event member
    have fits := held event member
    exact ⟨_, debugEntry_time name event, ofEventTime_eq_empty_iff fits,
      ofEventTime_exact_iff fits, ofEventTime_before_epoch_iff fits, ofEventTime_mistaken fits⟩
  · intro event member otherName other text fitsToo shown shownToo nonempty
    rw [debugEntry_time, Option.some.injEq, LogValue.text.injEq] at shown shownToo
    subst shown
    exact ofEventTime_injective (held event member) fitsToo shownToo.symm nonempty

/-- An event on the leap day at the end of a century. -/
def leapDay (id : String) : Event :=
  .make { type := "PressEvent" } id 951827696789

/-- Another log shows the same for another event of that time. -/
theorem leap_day_is_logged_exactly :
    (∀ event ∈ [leapDay "e-1"], event.time < Word.size 64) ∧
    (Scene.debugEntry "log" (leapDay "e-1")).fields.lookup "time" =
      some (.text "2000-02-29T12:34:56.789Z") ∧
    Denotes "2000-02-29T12:34:56.789Z" 951827696789 ∧
    (leapDay "e-1").time = (leapDay "e-2").time := by
  have fits (id : String) : (leapDay id).time < Word.size 64 :=
    (by decide : 951827696789 < Word.size 64)
  have held : ∀ event ∈ [leapDay "e-1"], event.time < Word.size 64 := by
    intro event member
    rw [List.mem_singleton.mp member]
    exact fits "e-1"
  have shown (name id : String) : (Scene.debugEntry name (leapDay id)).fields.lookup "time" =
      some (.text "2000-02-29T12:34:56.789Z") := by
    have text : ofEventTime 951827696789 = "2000-02-29T12:34:56.789Z" := by decide +kernel
    rw [← text]
    rfl
  obtain ⟨-, exactly, distinct⟩ := logged_times_are_exact_iff "log" [leapDay "e-1"] {} held
  obtain ⟨text, found, -, exact, -⟩ := exactly (leapDay "e-1") List.mem_cons_self
  obtain rfl : "2000-02-29T12:34:56.789Z" = text := by
    rw [shown, Option.some.injEq, LogValue.text.injEq] at found
    exact found
  refine ⟨held, shown _ _, ?_, ?_⟩
  · rcases exact.mpr (by decide) with empty | denotes
    · exact absurd empty (by decide)
    · exact denotes
  · exact distinct _ List.mem_cons_self "copy" _ _ (fits _) (shown _ _) (shown _ _) (by decide)

/-- The last time there is, of an event in the far future. -/
def lastTime : Event :=
  .make { type := "PressEvent" } "e-1" 18446744073709551615

/-- It is shown as the millisecond before 1970. -/
theorem last_time_is_logged_before_epoch :
    lastTime.time < Word.size 64 ∧
    (Scene.debugEntry "log" lastTime).fields.lookup "time" =
      some (.text "1969-12-31T23:59:59.999Z") ∧
    Denotes "1969-12-31T23:59:59.999Z" (-1) ∧
    ¬("1969-12-31T23:59:59.999Z" = "" ∨ Denotes "1969-12-31T23:59:59.999Z" lastTime.time) := by
  have held : 18446744073709551615 < Word.size 64 := by decide
  have text : ofEventTime 18446744073709551615 = "1969-12-31T23:59:59.999Z" := by decide +kernel
  have mistaken := ofEventTime_exact_iff held
  have denotes : Denotes (ofEventTime 18446744073709551615) (signed 18446744073709551615) :=
    ofEventTime_denotes (by decide) (by decide)
  rw [text] at mistaken denotes
  refine ⟨held, ?_, denotes, ?_⟩
  · rw [← text]
    rfl
  · exact fun exact => absurd (mistaken.mp exact) (by decide)

end Timestamp

end Telemetry
