import LivePage.Calendar.Date
import Mathlib
/-!
# Days, months and years

The count of days and the calendar agree: `civil` undoes `dayNumber`, every day is the day of some month, and
months follow each other without a gap. Months are counted too, from January of the year 0, so that the month
after December needs no case of its own.
-/
namespace LivePage.Calendar

theorem isLeap_iff (year : Int) :
    isLeap year = true ↔ year % 4 = 0 ∧ (year % 100 ≠ 0 ∨ year % 400 = 0) := by
  simp [isLeap]

theorem month_of_day {year : Int} {month day : Nat} (h1 : 1 ≤ day) (h2 : day ≤ monthLength year month) :
    1 ≤ month ∧ month ≤ 12 := by
  unfold monthLength at h2
  split at h2 <;> simp_all

/-! ## Years that start in March -/

/-- The year that a month belongs to when years start in March. -/
def marchYear (year : Int) (month : Nat) : Int := if month ≤ 2 then year - 1 else year

def marchMonth (month : Nat) : Nat := if month ≤ 2 then month + 9 else month - 3

def marchDay (month day : Nat) : Nat := (153 * marchMonth month + 2) / 5 + day - 1

theorem dayNumber_eq_march {year : Int} {month day : Nat} (h1 : 1 ≤ day) :
    dayNumber year month day + 719468 =
      365 * marchYear year month + marchYear year month / 4 - marchYear year month / 100 +
        marchYear year month / 400 + marchDay month day := by
  simp only [dayNumber, marchYear, marchMonth, marchDay]
  omega

/-- A day of a year that starts in March tells its month, and only the last day of a leap year has number 365. -/
theorem marchDay_spec {year : Int} {month day : Nat} (h1 : 1 ≤ day) (h2 : day ≤ monthLength year month) :
    marchDay month day ≤ 365 ∧ (marchDay month day = 365 → isLeap (marchYear year month + 1) = true) ∧
      (5 * marchDay month day + 2) / 153 = marchMonth month := by
  obtain ⟨hm1, hm2⟩ := month_of_day h1 h2
  by_cases hl : isLeap year = true
  · interval_cases month <;> simp [monthLength, hl] at h2 <;> simp [marchDay, marchMonth, marchYear, hl] <;> omega
  · interval_cases month <;> simp [monthLength, hl] at h2 <;> simp [marchDay, marchMonth, marchYear] <;> omega

/-- The year of an era of 400 years from a day of it: the four corrections count the leap days before. -/
theorem yearOfEra_eq {c q r day d : Nat} (hc : c < 4) (hq : q < 25) (hr : r < 4) (hday : day ≤ 365)
    (hleap : day = 365 → r = 3 ∧ (q = 24 → c = 3)) (hd : d = 36524 * c + 1461 * q + 365 * r + day) :
    (d - d / 1460 + d / 36524 - d / 146096) / 365 = 100 * c + 4 * q + r := by
  have hlast : d / 36524 = c + d / 146096 := by
    by_cases hl : d = 146096
    · omega
    · have hlt : d < 36524 * (c + 1) := by omega
      have h1 : d / 36524 = c := by omega
      have h2 : d / 146096 = 0 := by omega
      omega
  rcases Nat.lt_or_ge (24 * c + q + 365 * r + day) 1460 with h | h
  · have h4 : d / 1460 = 25 * c + q := by omega
    omega
  · have h4 : d / 1460 = 25 * c + q + 1 := by omega
    omega

theorem civil_eq_of_march {d : Date} {y : Int} {m p : Nat} (hp : p ≤ 365)
    (hleap : p = 365 → isLeap (y + 1) = true) (hm : (5 * p + 2) / 153 = m)
    (hd : d.days + 719468 = 365 * y + y / 4 - y / 100 + y / 400 + p) :
    d.civil = ⟨if (if m < 10 then m + 3 else m - 9) ≤ 2 then y + 1 else y, if m < 10 then m + 3 else m - 9,
      p - (153 * m + 2) / 5 + 1⟩ := by
  obtain ⟨n, hn⟩ : ∃ n : Nat, (n : Int) = y % 400 := ⟨(y % 400).toNat, by omega⟩
  obtain ⟨c, q, r, hc, hq, hr, hcqr⟩ : ∃ c q r : Nat, c < 4 ∧ q < 25 ∧ r < 4 ∧ n = 100 * c + 4 * q + r :=
    ⟨n / 100, n % 100 / 4, n % 4, by omega, by omega, by omega, by omega⟩
  have hy : y = 400 * (y / 400) + 100 * c + 4 * q + r := by omega
  have h4 : y / 4 = 100 * (y / 400) + 25 * c + q := by omega
  have h100 : y / 100 = 4 * (y / 400) + c := by omega
  have hlast : p = 365 → r = 3 ∧ (q = 24 → c = 3) := by
    intro h
    have := (isLeap_iff _).1 (hleap h)
    clear hd hm hleap
    omega
  obtain ⟨e, he⟩ : ∃ e : Nat, e = 36524 * c + 1461 * q + 365 * r + p := ⟨_, rfl⟩
  have he' : e < 146097 := by clear hy h4 h100 hd hm hleap; omega
  -- Eras have 146097 days each, and `e` is the day within one.
  have hd' : d.days + 719468 = 146097 * (y / 400) + e := by
    rw [hd, h4, h100]
    clear h4 h100 hd hm hleap hlast
    generalize y / 400 = x at *
    omega
  have hera : (d.days + 719468) / 146097 = y / 400 := by rw [hd']; omega
  have hdoe : ((d.days + 719468) % 146097).toNat = e := by rw [hd']; omega
  have hyoe := yearOfEra_eq hc hq hr hp hlast he
  rw [← hcqr] at hyoe
  have hdoy : e - (365 * n + n / 4 - n / 100) = p := by
    have h1 : n / 4 = 25 * c + q := by omega
    have h2 : n / 100 = c := by omega
    rw [h1, h2]; omega
  have hyear : (n : Int) + 400 * (y / 400) = y := by omega
  simp only [Date.civil, hdoe, hyoe, hdoy, hm, hera, hyear]

/-- The calendar date of the day that a calendar date counts to. -/
theorem civil_dayNumber {year : Int} {month day : Nat} (h1 : 1 ≤ day) (h2 : day ≤ monthLength year month) :
    (Date.mk (dayNumber year month day)).civil = ⟨year, month, day⟩ := by
  obtain ⟨hp, hleap, hm⟩ := marchDay_spec h1 h2
  obtain ⟨hm1, hm2⟩ := month_of_day h1 h2
  rw [civil_eq_of_march (d := ⟨dayNumber year month day⟩) hp hleap hm (dayNumber_eq_march h1)]
  have hmonth : (if marchMonth month < 10 then marchMonth month + 3 else marchMonth month - 9) = month := by
    simp only [marchMonth]; split_ifs <;> omega
  rw [hmonth]
  simp only [CivilDate.mk.injEq, true_and]
  constructor
  · simp only [marchYear]; split_ifs <;> omega
  · simp only [marchDay]; omega

/-! ## Months -/

theorem dayNumber_next_month {year : Int} {month : Nat} (h1 : 1 ≤ month) (h2 : month < 12) :
    dayNumber year (month + 1) 1 = dayNumber year month 1 + monthLength year month := by
  by_cases hl : isLeap year = true
  · have := (isLeap_iff year).1 hl
    interval_cases month <;> simp [dayNumber, monthLength, hl] <;> omega
  · have := (isLeap_iff year).not.1 hl
    interval_cases month <;> simp [dayNumber, monthLength, hl] <;> omega

theorem dayNumber_next_year (year : Int) :
    dayNumber (year + 1) 1 1 = dayNumber year 12 1 + monthLength year 12 := by
  simp [dayNumber, monthLength]
  omega

/-- The month with a number in a year. -/
def monthOf (year : Int) (month : Nat) : Int := 12 * year + month - 1

def monthDays (i : Int) : Nat := monthLength (i / 12) ((i % 12).toNat + 1)

def monthStart (i : Int) : Int := dayNumber (i / 12) ((i % 12).toNat + 1) 1

theorem exists_monthOf (i : Int) : ∃ year month, 1 ≤ month ∧ month ≤ 12 ∧ i = monthOf year month :=
  ⟨i / 12, (i % 12).toNat + 1, by omega, by omega, by unfold monthOf; omega⟩

section
variable {year : Int} {month : Nat}

theorem monthOf_div (h1 : 1 ≤ month) (h2 : month ≤ 12) : monthOf year month / 12 = year := by
  unfold monthOf; omega

theorem monthOf_mod (h1 : 1 ≤ month) (h2 : month ≤ 12) : (monthOf year month % 12).toNat + 1 = month := by
  unfold monthOf; omega

theorem monthDays_monthOf (h1 : 1 ≤ month) (h2 : month ≤ 12) :
    monthDays (monthOf year month) = monthLength year month := by
  rw [monthDays, monthOf_div h1 h2, monthOf_mod h1 h2]

theorem dayNumber_eq (h1 : 1 ≤ month) (h2 : month ≤ 12) (day : Nat) :
    dayNumber year month day = monthStart (monthOf year month) + day - 1 := by
  rw [monthStart, monthOf_div h1 h2, monthOf_mod h1 h2]
  simp only [dayNumber]
  omega

end

theorem monthDays_le (i : Int) : 28 ≤ monthDays i ∧ monthDays i ≤ 31 := by
  obtain ⟨year, month, h1, h2, rfl⟩ := exists_monthOf i
  rw [monthDays_monthOf h1 h2]
  interval_cases month <;> simp [monthLength]
  split_ifs <;> simp

/-- A month starts when the days of the month before are over. -/
theorem monthStart_succ (i : Int) : monthStart (i + 1) = monthStart i + monthDays i := by
  obtain ⟨year, month, h1, h2, rfl⟩ := exists_monthOf i
  have hstart (y : Int) {m : Nat} (h1 : 1 ≤ m) (h2 : m ≤ 12) : monthStart (monthOf y m) = dayNumber y m 1 := by
    rw [dayNumber_eq h1 h2]; omega
  rw [monthDays_monthOf h1 h2, hstart year h1 h2]
  by_cases h : month < 12
  · have hnext : monthOf year month + 1 = monthOf year (month + 1) := by unfold monthOf; omega
    rw [hnext, hstart year (by omega) (by omega), dayNumber_next_month h1 h]
  · obtain rfl : month = 12 := by omega
    have hnext : monthOf year 12 + 1 = monthOf (year + 1) 1 := by unfold monthOf; omega
    rw [hnext, hstart (year + 1) (by omega) (by omega), dayNumber_next_year]

theorem monthStart_strictMono : StrictMono monthStart :=
  strictMono_int_of_lt_succ fun i => by
    have := monthDays_le i
    rw [monthStart_succ]; omega

theorem exists_month (n : Int) : ∃ i, monthStart i ≤ n ∧ n < monthStart (i + 1) := by
  induction n using Int.inductionOn' (b := 0) with
  | zero => exact ⟨monthOf 1970 1, by decide, by decide⟩
  | succ n _ ih =>
    obtain ⟨i, h1, h2⟩ := ih
    by_cases h : n + 1 < monthStart (i + 1)
    · exact ⟨i, by omega, h⟩
    · exact ⟨i + 1, by omega, by have := monthDays_le (i + 1); rw [monthStart_succ (i + 1)]; omega⟩
  | pred n _ ih =>
    obtain ⟨i, h1, h2⟩ := ih
    by_cases h : monthStart i ≤ n - 1
    · exact ⟨i, h, by omega⟩
    · refine ⟨i - 1, ?_, by rw [sub_add_cancel]; omega⟩
      have hd := monthDays_le (i - 1)
      have hs := monthStart_succ (i - 1)
      rw [sub_add_cancel] at hs
      omega

end LivePage.Calendar

namespace LivePage.Date

open Calendar

/-- The month of a date, counted from January of the year 0. -/
def monthIndex (d : Date) : Int := monthOf d.year d.month

/-- What the calendar says about a date: its month exists, its day lies in the month, and it is that day. -/
theorem civil_spec (d : Date) :
    1 ≤ d.month ∧ d.month ≤ 12 ∧ 1 ≤ d.day ∧ d.day ≤ monthDays d.monthIndex ∧
      d.days = monthStart d.monthIndex + d.day - 1 := by
  obtain ⟨i, h1, h2⟩ := exists_month d.days
  obtain ⟨year, month, hm1, hm2, rfl⟩ := exists_monthOf i
  obtain ⟨day, hday⟩ : ∃ day : Nat, d.days = monthStart (monthOf year month) + day - 1 :=
    ⟨(d.days - monthStart (monthOf year month) + 1).toNat, by omega⟩
  have hle : 1 ≤ day ∧ day ≤ monthLength year month := by
    rw [monthStart_succ, monthDays_monthOf hm1 hm2] at h2
    omega
  have hcivil : d.civil = ⟨year, month, day⟩ := by
    rw [← civil_dayNumber hle.1 hle.2, dayNumber_eq hm1 hm2, ← hday]
  simp only [monthIndex, Date.month, Date.day, Date.year, hcivil, monthDays_monthOf hm1 hm2]
  exact ⟨hm1, hm2, hle.1, hle.2, hday⟩

theorem monthStart_le (d : Date) : monthStart d.monthIndex ≤ d.days := by
  have := d.civil_spec
  omega

theorem lt_monthStart (d : Date) : d.days < monthStart (d.monthIndex + 1) := by
  have := d.civil_spec
  rw [monthStart_succ]; omega

/-- The month of a date is the only one that the date lies in. -/
theorem monthIndex_eq {d : Date} {i : Int} (h1 : monthStart i ≤ d.days) (h2 : d.days < monthStart (i + 1)) :
    d.monthIndex = i := by
  have h3 := monthStart_strictMono.lt_iff_lt.1 (lt_of_le_of_lt h1 d.lt_monthStart)
  have h4 := monthStart_strictMono.lt_iff_lt.1 (lt_of_le_of_lt d.monthStart_le h2)
  omega

theorem monthIndex_mono {d e : Date} (h : d.days ≤ e.days) : d.monthIndex ≤ e.monthIndex := by
  have := monthStart_strictMono.lt_iff_lt.1 (lt_of_le_of_lt (d.monthStart_le.trans h) e.lt_monthStart)
  omega

theorem year_mono {d e : Date} (h : d.days ≤ e.days) : d.year ≤ e.year := by
  have hm := monthIndex_mono h
  have hd := d.civil_spec
  have he := e.civil_spec
  unfold monthIndex monthOf at hm
  omega

/-- Within four weeks at most one year ends. -/
theorem year_le_succ {d e : Date} (h : e.days ≤ d.days + 28) : e.year ≤ d.year + 1 := by
  have hlt : e.days < monthStart (d.monthIndex + 1 + 1) := by
    have := d.lt_monthStart
    have := monthDays_le (d.monthIndex + 1)
    rw [monthStart_succ]; omega
  have hm := monthStart_strictMono.lt_iff_lt.1 (lt_of_le_of_lt e.monthStart_le hlt)
  have hd := d.civil_spec
  have he := e.civil_spec
  unfold monthIndex monthOf at hm
  omega

end LivePage.Date
