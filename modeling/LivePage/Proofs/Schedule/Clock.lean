import LivePage.Proofs.Calendar.Date
import LivePage.Proofs.Text.Piece
import LivePage.Schedule.Token
/-!
# Dates and clock times as they are written

A date is `dddd-dd-dd` and a clock time is an hour with or without a minute, before `am` or `pm`, or an hour of the day
with a minute, all in ASCII digits. The digits of other scripts have the shape of a date or a time and are none.
-/
namespace LivePage

open Calendar

/-! ## Dates -/

/-- The calendar has a date with a year, month and day iff they are the year, month and day of a date, and the year is
one of the calendar's. -/
theorem Date.ofCivil?_eq_some_iff {year : Int} {month day : Nat} {d : Date} :
    Date.ofCivil? year month day = some d ↔ d.civil = ⟨year, month, day⟩ ∧ minYear ≤ year ∧ year ≤ maxYear := by
  unfold Date.ofCivil?
  constructor
  · intro h
    split_ifs at h with hcivil
    obtain ⟨hmin, hmax, h1, h2⟩ := hcivil
    rw [← Option.some.inj h]
    exact ⟨civil_dayNumber h1 h2, hmin, hmax⟩
  · rintro ⟨hcivil, hmin, hmax⟩
    obtain ⟨hm1, hm2, hd1, hd2, hdays⟩ := d.civil_spec
    simp only [Date.monthIndex, Date.month, Date.day, Date.year, hcivil] at hm1 hm2 hd1 hd2 hdays
    rw [monthDays_monthOf hm1 hm2] at hd2
    rw [← dayNumber_eq hm1 hm2] at hdays
    rw [if_pos ⟨hmin, hmax, hd1, hd2⟩, ← hdays]

namespace Schedule

open Text

/-- A date with four digits of the year and two of the month and the day. -/
def IsDate (cs : List Char) (d : Date) : Prop :=
  ∃ year month day, cs = year ++ '-' :: (month ++ '-' :: day) ∧
    year.length = 4 ∧ month.length = 2 ∧ day.length = 2 ∧
    ∃ y m n, IsNumeral year y ∧ IsNumeral month m ∧ IsNumeral day n ∧ d.civil = ⟨y, m, n⟩

section
variable {cs year month day : List Char} {n : Nat}

theorem isDigits_iff : isDigits n cs = true ↔ cs.length = n ∧ ∀ c ∈ cs, isDecimalDigit c = true := by
  simp [isDigits]

theorem isDigits_of_isNumeral {value : Nat} (h : IsNumeral cs value) (hlength : cs.length = n) :
    isDigits n cs = true :=
  isDigits_iff.2 ⟨hlength, fun c hc => isDecimalDigit_of_isDigit (h.2.1 c hc)⟩

theorem not_mem_of_isDigits {c : Char} (h : isDigits n cs = true) (hc : isDecimalDigit c = false) :
    c ∉ cs := fun hmem =>
  absurd ((isDigits_iff.1 h).2 c hmem) (by simp [hc])

theorem dateParts?_eq_some_iff : dateParts? cs = some (year, month, day) ↔
    cs = year ++ '-' :: (month ++ '-' :: day) ∧
      isDigits 4 year = true ∧ isDigits 2 month = true ∧ isDigits 2 day = true := by
  have hsplit : (∃ a b c, cs.splitOnP (· == '-') = [a, b, c]) ∨ dateParts? cs = none := by
    unfold dateParts?
    split
    · exact .inl ⟨_, _, _, ‹_›⟩
    · exact .inr rfl
  constructor
  · intro h
    obtain ⟨a, b, c, hparts⟩ := hsplit.resolve_right (by simp [h])
    simp only [dateParts?, hparts] at h
    split_ifs at h with hdigits
    obtain ⟨rfl, rfl, rfl⟩ : a = year ∧ b = month ∧ c = day := by simpa using h
    obtain ⟨-, -, rfl⟩ := splitOn_eq_iff.1 hparts
    simpa [and_assoc, List.intercalate] using hdigits
  · rintro ⟨rfl, hyear, hmonth, hday⟩
    have hparts : (year ++ '-' :: (month ++ '-' :: day)).splitOnP (· == '-') = [year, month, day] := by
      refine splitOn_eq_iff.2 ⟨by simp, ?_, by simp [List.intercalate]⟩
      simp only [List.mem_cons, List.not_mem_nil, or_false, forall_eq_or_imp, forall_eq]
      exact ⟨not_mem_of_isDigits hyear (by decide), not_mem_of_isDigits hmonth (by decide),
        not_mem_of_isDigits hday (by decide)⟩
    simp [dateParts?, hparts, hyear, hmonth, hday]

/-- A text of the shape of a date that names a date is one, and each date has its shape. -/
theorem isDate_iff {d : Date} : IsDate cs d ↔
    ∃ year month day, dateParts? cs = some (year, month, day) ∧ dateOf? year month day = some d := by
  refine exists_congr fun year => exists_congr fun month => exists_congr fun day => ?_
  rw [dateParts?_eq_some_iff]
  constructor
  · rintro ⟨rfl, hyear, hmonth, hday, y, m, n, hy, hm, hn, hcivil⟩
    refine ⟨⟨rfl, isDigits_of_isNumeral hy hyear, isDigits_of_isNumeral hm hmonth, isDigits_of_isNumeral hn hday⟩, ?_⟩
    have hrange := hy.lt_pow_length
    rw [hyear] at hrange
    simp only [dateOf?, digitsValue?_eq_some_iff.2 hy, digitsValue?_eq_some_iff.2 hm, digitsValue?_eq_some_iff.2 hn]
    exact Date.ofCivil?_eq_some_iff.2 ⟨hcivil, by unfold minYear; omega, by unfold maxYear; omega⟩
  · rintro ⟨⟨rfl, hyear, hmonth, hday⟩, hdate⟩
    obtain ⟨y, hy, m, hm, n, hn, hciv⟩ : ∃ y, digitsValue? year = some y ∧ ∃ m, digitsValue? month = some m ∧
        ∃ n, digitsValue? day = some n ∧ Date.ofCivil? y m n = some d := by
      simpa [dateOf?, Option.bind_eq_some_iff] using hdate
    exact ⟨rfl, (isDigits_iff.1 hyear).1, (isDigits_iff.1 hmonth).1, (isDigits_iff.1 hday).1, y, m, n,
      digitsValue?_eq_some_iff.1 hy, digitsValue?_eq_some_iff.1 hm, digitsValue?_eq_some_iff.1 hn,
      (Date.ofCivil?_eq_some_iff.1 hciv).1⟩

end

/-! ## Clock times -/

/-- Hour and minute as a clock time has them: one or two digits, and two digits after a colon. -/
def IsHourMinute (cs : List Char) (hour minute : Nat) : Prop :=
  ∃ h m, cs = h ++ ':' :: m ∧ IsNumeral h hour ∧ h.length ≤ 2 ∧ IsNumeral m minute ∧ m.length = 2 ∧ minute < 60

def halfDay (afternoon : Bool) : List Char := if afternoon then ['p', 'm'] else ['a', 'm']

/-- An hour with or without a minute. -/
inductive IsClockFace : List Char → Nat → Nat → Prop
  | hour {cs : List Char} {hour : Nat} : IsNumeral cs hour → cs.length ≤ 2 → IsClockFace cs hour 0
  | minute {cs : List Char} {hour minute : Nat} : IsHourMinute cs hour minute → IsClockFace cs hour minute

/-- A clock time. The hours of half a day are 1 to 12, and its first hour is 12. -/
inductive IsClock : List Char → TimeOfDay → Prop
  | halfDay {cs : List Char} {hour minute : Nat} (afternoon : Bool) :
      IsClockFace cs hour minute → 1 ≤ hour → hour ≤ 12 →
      IsClock (cs ++ halfDay afternoon) ⟨(hour % 12 + 12 * afternoon.toNat) * 3600 + minute * 60⟩
  | fullDay {cs : List Char} {hour minute : Nat} :
      IsHourMinute cs hour minute → hour < 24 → IsClock cs ⟨hour * 3600 + minute * 60⟩

section
variable {cs h m : List Char} {hour minute : Nat} {t : TimeOfDay}

theorem ofClock?_eq_some_iff :
    TimeOfDay.ofClock? hour minute 0 = some t ↔ hour < 24 ∧ minute < 60 ∧ t = ⟨hour * 3600 + minute * 60⟩ := by
  unfold TimeOfDay.ofClock?
  split_ifs with hclock
  · simp [hclock.1, hclock.2.1, eq_comm]
  · refine iff_of_false nofun ?_
    rintro ⟨hhour, hminute, -⟩
    exact hclock ⟨hhour, hminute, by omega⟩

theorem isHour_iff : isHour cs = true ↔ (cs.length = 1 ∨ cs.length = 2) ∧ ∀ c ∈ cs, isDecimalDigit c = true := by
  simp [isHour]

theorem isHour_of_isNumeral (hnum : IsNumeral cs hour) (hlength : cs.length ≤ 2) : isHour cs = true := by
  have hpos : 0 < cs.length := List.length_pos_iff.2 hnum.1
  exact isHour_iff.2 ⟨by omega, fun c hc => isDecimalDigit_of_isDigit (hnum.2.1 c hc)⟩

theorem colon_not_mem_of_isHour (hhour : isHour cs = true) : ':' ∉ cs := fun hmem =>
  absurd ((isHour_iff.1 hhour).2 ':' hmem) (by decide)

theorem clockParts?_eq_some_iff {minute : Option (List Char)} : clockParts? cs = some (h, minute) ↔
    isHour h = true ∧ (minute = none ∧ cs = h ∨ ∃ m, minute = some m ∧ isDigits 2 m = true ∧ cs = h ++ ':' :: m) := by
  constructor
  · intro hparts
    unfold clockParts? at hparts
    split at hparts
    · rename_i h' hsplit
      obtain ⟨-, -, rfl⟩ := splitOn_eq_iff.1 hsplit
      split_ifs at hparts with hhour
      obtain ⟨rfl, rfl⟩ : h' = h ∧ none = minute := by simpa using hparts
      exact ⟨hhour, .inl ⟨rfl, by simp [List.intercalate]⟩⟩
    · rename_i h' m hsplit
      obtain ⟨-, -, rfl⟩ := splitOn_eq_iff.1 hsplit
      split_ifs at hparts with hdigits
      obtain ⟨rfl, rfl⟩ : h' = h ∧ some m = minute := by simpa using hparts
      rw [Bool.and_eq_true] at hdigits
      exact ⟨hdigits.1, .inr ⟨m, rfl, hdigits.2, by simp [List.intercalate]⟩⟩
    · cases hparts
  · rintro ⟨hhour, ⟨rfl, rfl⟩ | ⟨m, rfl, hm, rfl⟩⟩
    · have hsplit : cs.splitOnP (· == ':') = [cs] :=
        splitOn_eq_iff.2 ⟨by simp, by simpa using colon_not_mem_of_isHour hhour, by simp [List.intercalate]⟩
      simp [clockParts?, hsplit, hhour]
    · have hsplit : (h ++ ':' :: m).splitOnP (· == ':') = [h, m] := by
        refine splitOn_eq_iff.2 ⟨by simp, ?_, by simp [List.intercalate]⟩
        simp only [List.mem_cons, List.not_mem_nil, or_false, forall_eq_or_imp, forall_eq]
        exact ⟨colon_not_mem_of_isHour hhour, not_mem_of_isDigits hm (by decide)⟩
      simp [clockParts?, hsplit, hhour, hm]

theorem isHourMinute_iff : IsHourMinute cs hour minute ↔ ∃ h m, clockParts? cs = some (h, some m) ∧
    IsNumeral h hour ∧ IsNumeral m minute ∧ minute < 60 := by
  refine exists_congr fun h => exists_congr fun m => ?_
  rw [clockParts?_eq_some_iff]
  constructor
  · rintro ⟨rfl, hhour, hhlength, hminute, hmlength, hlt⟩
    exact ⟨⟨isHour_of_isNumeral hhour hhlength, .inr ⟨m, rfl, isDigits_of_isNumeral hminute hmlength, rfl⟩⟩,
      hhour, hminute, hlt⟩
  · rintro ⟨⟨hisHour, ⟨hm, -⟩ | ⟨m', hm, hdigits, rfl⟩⟩, hhour, hminute, hlt⟩
    · cases hm
    · obtain rfl := Option.some.inj hm
      exact ⟨rfl, hhour, by have := (isHour_iff.1 hisHour).1; omega, hminute, (isDigits_iff.1 hdigits).1, hlt⟩

/-- What the minute of a clock time before the half of the day says, if there is one. -/
def MinuteIs (minute : Option (List Char)) (n : Nat) : Prop :=
  match minute with
  | none => n = 0
  | some m => IsNumeral m n

theorem isClockFace_iff : IsClockFace cs hour minute ↔ ∃ h m, clockParts? cs = some (h, m) ∧
    IsNumeral h hour ∧ MinuteIs m minute ∧ minute < 60 := by
  constructor
  · rintro (⟨hhour, hlength⟩ | hminute)
    · exact ⟨cs, none, clockParts?_eq_some_iff.2 ⟨isHour_of_isNumeral hhour hlength, .inl ⟨rfl, rfl⟩⟩, hhour, rfl,
        by decide⟩
    · obtain ⟨h, m, hparts, hhour, hm, hlt⟩ := isHourMinute_iff.1 hminute
      exact ⟨h, some m, hparts, hhour, hm, hlt⟩
  · rintro ⟨h, _ | m, hparts, hhour, hm, hlt⟩
    · obtain ⟨hisHour, ⟨-, rfl⟩ | ⟨m, hm, -⟩⟩ := clockParts?_eq_some_iff.1 hparts
      · obtain rfl : minute = 0 := hm
        exact .hour hhour (by have := (isHour_iff.1 hisHour).1; omega)
      · cases hm
    · exact .minute (isHourMinute_iff.2 ⟨h, m, hparts, hhour, hm, hlt⟩)

theorem hourOfDay_eq (afternoon : Bool) (h1 : 1 ≤ hour) (h2 : hour ≤ 12) :
    hourOfDay afternoon hour = hour % 12 + 12 * afternoon.toNat := by
  have htwelve : (if hour = 12 then 0 else hour) = hour % 12 := by split_ifs <;> omega
  rw [hourOfDay, htwelve]
  cases afternoon <;> rfl

theorem halfDayTime?_eq_some_iff (afternoon : Bool) {m : Option (List Char)} : halfDayTime? afternoon h m = some t ↔
    ∃ hour minute, IsNumeral h hour ∧ MinuteIs m minute ∧ minute < 60 ∧ 1 ≤ hour ∧ hour ≤ 12 ∧
      t = ⟨(hour % 12 + 12 * afternoon.toNat) * 3600 + minute * 60⟩ := by
  have hminute (n : Nat) : m.elim (some 0) digitsValue? = some n ↔ MinuteIs m n := by
    cases m with
    | none => simp [MinuteIs, eq_comm]
    | some m => exact digitsValue?_eq_some_iff
  have hread : halfDayTime? afternoon h m = (digitsValue? h).bind fun hour => (m.elim (some 0) digitsValue?).bind
      fun n => if 1 ≤ hour ∧ hour ≤ 12 then TimeOfDay.ofClock? (hourOfDay afternoon hour) n 0 else none := by
    cases m <;> rfl
  simp only [hread, Option.bind_eq_some_iff, digitsValue?_eq_some_iff, hminute]
  refine exists_congr fun hour => ?_
  rw [← exists_and_left]
  refine exists_congr fun minute => and_congr_right fun _ => and_congr_right fun _ => ?_
  by_cases hrange : 1 ≤ hour ∧ hour ≤ 12
  · have hlt : hour % 12 + 12 * afternoon.toNat < 24 := by
      have := afternoon.toNat_le
      omega
    rw [if_pos hrange, ofClock?_eq_some_iff, hourOfDay_eq afternoon hrange.1 hrange.2]
    simp only [hlt, hrange.1, hrange.2, true_and]
  · rw [if_neg hrange]
    refine iff_of_false nofun ?_
    rintro ⟨-, h1, h2, -⟩
    exact hrange ⟨h1, h2⟩

theorem fullDayTime?_eq_some_iff : fullDayTime? cs = some t ↔
    ∃ hour minute, IsHourMinute cs hour minute ∧ hour < 24 ∧ t = ⟨hour * 3600 + minute * 60⟩ := by
  constructor
  · intro htime
    unfold fullDayTime? at htime
    split at htime
    · rename_i h m hparts
      obtain ⟨hour, hhour, minute, hminute, hclock⟩ : ∃ hour, digitsValue? h = some hour ∧
          ∃ minute, digitsValue? m = some minute ∧ TimeOfDay.ofClock? hour minute 0 = some t := by
        simpa [Option.bind_eq_some_iff] using htime
      obtain ⟨hlt, hmlt, rfl⟩ := ofClock?_eq_some_iff.1 hclock
      exact ⟨hour, minute, isHourMinute_iff.2 ⟨h, m, hparts, digitsValue?_eq_some_iff.1 hhour,
        digitsValue?_eq_some_iff.1 hminute, hmlt⟩, hlt, rfl⟩
    · cases htime
  · rintro ⟨hour, minute, hclock, hlt, rfl⟩
    obtain ⟨h, m, hparts, hhour, hminute, hmlt⟩ := isHourMinute_iff.1 hclock
    simp only [fullDayTime?, hparts, digitsValue?_eq_some_iff.2 hhour, digitsValue?_eq_some_iff.2 hminute]
    exact ofClock?_eq_some_iff.2 ⟨hlt, hmlt, rfl⟩

theorem IsClockFace.mem {c : Char} (hclock : IsClockFace cs hour minute) (hc : c ∈ cs) :
    c.isDigit = true ∨ c = ':' := by
  obtain ⟨hhour, -⟩ | ⟨h, m, rfl, hhour, -, hminute, -⟩ := hclock
  · exact .inl (hhour.2.1 c hc)
  · rcases List.mem_append.1 hc with hc | hc
    · exact .inl (hhour.2.1 c hc)
    · rcases List.mem_cons.1 hc with rfl | hc
      · exact .inr rfl
      · exact .inl (hminute.2.1 c hc)

/-- The half of the day that a time before `am` or `pm` is read in. -/
theorem bind_clockParts?_eq_some_iff (afternoon : Bool) {m : Option (List Char)} :
    (dropSuffix? (halfDay afternoon) cs).bind clockParts? = some (h, m) ↔
      ∃ face, cs = face ++ halfDay afternoon ∧ clockParts? face = some (h, m) := by
  simp only [Option.bind_eq_some_iff, dropSuffix?_eq_some_iff]

theorem timeOfDay?_eq_some_iff : timeOfDay? cs = some t ↔ IsClock cs t := by
  have hread (afternoon : Bool) {h face : List Char} {m : Option (List Char)} (hparts : clockParts? face = some (h, m))
      (htime : halfDayTime? afternoon h m = some t) : IsClock (face ++ halfDay afternoon) t := by
    obtain ⟨hour, minute, hhour, hminute, hlt, h1, h2, rfl⟩ := (halfDayTime?_eq_some_iff afternoon).1 htime
    exact .halfDay afternoon (isClockFace_iff.2 ⟨h, m, hparts, hhour, hminute, hlt⟩) h1 h2
  constructor
  · intro htime
    unfold timeOfDay? at htime
    split at htime
    · obtain ⟨face, rfl, hparts⟩ := (bind_clockParts?_eq_some_iff false).1 ‹_›
      exact hread false hparts htime
    · obtain ⟨face, rfl, hparts⟩ := (bind_clockParts?_eq_some_iff true).1 ‹_›
      exact hread true hparts htime
    · obtain ⟨hour, minute, hclock, hlt, rfl⟩ := fullDayTime?_eq_some_iff.1 htime
      exact .fullDay hclock hlt
  · intro hclock
    cases hclock with
    | @halfDay face hour minute afternoon hface h1 h2 =>
      obtain ⟨h, m, hparts, hhour, hminute, hlt⟩ := isClockFace_iff.1 hface
      have htime := (halfDayTime?_eq_some_iff afternoon).2 ⟨hour, minute, hhour, hminute, hlt, h1, h2, rfl⟩
      have hhalf : (dropSuffix? (halfDay afternoon) (face ++ halfDay afternoon)).bind clockParts? = some (h, m) :=
        (bind_clockParts?_eq_some_iff afternoon).2 ⟨face, rfl, hparts⟩
      cases afternoon with
      | false =>
        have ham : (dropSuffix? ['a', 'm'] (face ++ halfDay false)).bind clockParts? = some (h, m) := hhalf
        simp only [timeOfDay?, ham]
        exact htime
      | true =>
        have hpm : (dropSuffix? ['p', 'm'] (face ++ halfDay true)).bind clockParts? = some (h, m) := hhalf
        -- The ending `am` is looked for first, and no clock face ends with its first letter.
        have ham : dropSuffix? ['a', 'm'] (face ++ halfDay true) = none := by
          refine dropSuffix?_eq_none (c := 'a') List.mem_cons_self fun ha => ?_
          rcases List.mem_append.1 ha with ha | ha
          · exact absurd (hface.mem ha) (by decide)
          · exact absurd ha (by decide)
        simp only [timeOfDay?, ham, hpm, Option.bind_none]
        exact htime
    | fullDay hminute hlt =>
      have hnone (afternoon : Bool) : dropSuffix? (halfDay afternoon) cs = none := by
        refine dropSuffix?_eq_none (c := 'm') (by cases afternoon <;> decide) fun hm => ?_
        exact absurd ((IsClockFace.minute hminute).mem hm) (by decide)
      have ham : dropSuffix? ['a', 'm'] cs = none := hnone false
      have hpm : dropSuffix? ['p', 'm'] cs = none := hnone true
      simp only [timeOfDay?, ham, hpm, Option.bind_none]
      exact fullDayTime?_eq_some_iff.2 ⟨_, _, hminute, hlt, rfl⟩

theorem IsClock.head (hclock : IsClock cs t) : ∃ c ds, cs = c :: ds ∧ c.isDigit = true := by
  have hnumeral {cs : List Char} {hour : Nat} (hhour : IsNumeral cs hour) (rest : List Char) :
      ∃ c ds, cs ++ rest = c :: ds ∧ c.isDigit = true := by
    obtain ⟨c, ds, rfl⟩ := List.exists_cons_of_ne_nil hhour.1
    exact ⟨c, ds ++ rest, rfl, hhour.2.1 c List.mem_cons_self⟩
  cases hclock with
  | halfDay afternoon hface =>
    obtain ⟨hhour, -⟩ | ⟨h, m, rfl, hhour, -⟩ := hface
    · exact hnumeral hhour _
    · rw [List.append_assoc]
      exact hnumeral hhour _
  | fullDay hminute =>
    obtain ⟨h, m, rfl, hhour, -⟩ := hminute
    exact hnumeral hhour _

theorem IsClock.dateParts?_eq_none (hclock : IsClock cs t) : dateParts? cs = none := by
  refine Option.eq_none_iff_forall_ne_some.2 fun ⟨year, month, day⟩ hparts => ?_
  obtain ⟨hcs, -⟩ := dateParts?_eq_some_iff.1 hparts
  have hhyphen : '-' ∈ cs := by rw [hcs]; exact List.mem_append_right _ List.mem_cons_self
  cases hclock with
  | halfDay afternoon hface =>
    rcases List.mem_append.1 hhyphen with hmem | hmem
    · exact absurd (hface.mem hmem) (by decide)
    · exact absurd hmem (by cases afternoon <;> decide)
  | fullDay hminute => exact absurd ((IsClockFace.minute hminute).mem hhyphen) (by decide)

/-- A text that starts with a letter has not the shape of a date. -/
theorem dateParts?_eq_none {c : Char} (hc : isDecimalDigit c = false) : dateParts? (c :: cs) = none := by
  refine Option.eq_none_iff_forall_ne_some.2 fun ⟨year, month, day⟩ hparts => ?_
  obtain ⟨hcs, hyear, -⟩ := dateParts?_eq_some_iff.1 hparts
  obtain ⟨hlength, hdigits⟩ := isDigits_iff.1 hyear
  obtain ⟨d, ds, rfl⟩ : ∃ d ds, year = d :: ds := List.exists_cons_of_length_pos (by omega)
  rw [List.cons_append] at hcs
  rw [(List.cons.inj hcs).1, hdigits d List.mem_cons_self] at hc
  cases hc

end
end Schedule
end LivePage
