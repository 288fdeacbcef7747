/-!
# Dates

Days of the proleptic Gregorian calendar, counted from 1 January 1970. Years and months are computed from the
count with the year taken to start in March, so that the day that leap years add is the last one of its year. The
calendar reaches from 1 January -262143 to 31 December 262142; a date outside does not exist.
-/
namespace LivePage

inductive Weekday where
  | mon
  | tue
  | wed
  | thu
  | fri
  | sat
  | sun
deriving DecidableEq, Repr

namespace Weekday

/-- Days since the Monday before. -/
def fromMonday : Weekday → Nat
  | mon => 0
  | tue => 1
  | wed => 2
  | thu => 3
  | fri => 4
  | sat => 5
  | sun => 6

/-- The day of the week so many days after a Monday, for less than a week. -/
def ofMonday : Nat → Weekday
  | 0 => mon
  | 1 => tue
  | 2 => wed
  | 3 => thu
  | 4 => fri
  | 5 => sat
  | _ => sun

end Weekday

namespace Calendar

def isLeap (year : Int) : Bool := year % 4 = 0 && (year % 100 ≠ 0 || year % 400 = 0)

/-- Number of days of a month; zero for a number that is no month. -/
def monthLength (year : Int) (month : Nat) : Nat :=
  match month with
  | 1 | 3 | 5 | 7 | 8 | 10 | 12 => 31
  | 4 | 6 | 9 | 11 => 30
  | 2 => if isLeap year then 29 else 28
  | _ => 0

/-- The first and the last year of the calendar. -/
def minYear : Int := -262143

def maxYear : Int := 262142

/-- Days from 1 January 1970 to a date, for a month and a day that exist. -/
def dayNumber (year : Int) (month day : Nat) : Int :=
  let y := if month ≤ 2 then year - 1 else year
  let fromMarch : Nat := if month ≤ 2 then month + 9 else month - 3
  365 * y + y / 4 - y / 100 + y / 400 + ((153 * fromMarch + 2) / 5 : Nat) + (day : Int) - 1 - 719468

def minDay : Int := dayNumber minYear 1 1

def maxDay : Int := dayNumber maxYear 12 31

end Calendar

/-- A day, counted from 1 January 1970. -/
structure Date where
  days : Int
deriving DecidableEq, Repr

/-- A day by year, month and day of the month. -/
structure CivilDate where
  year : Int
  month : Nat
  day : Nat
deriving DecidableEq, Repr

namespace Date

open Calendar

/-- The date that so many days after 1 January 1970 is, if the calendar has it. -/
def ofDays? (days : Int) : Option Date := if minDay ≤ days ∧ days ≤ maxDay then some ⟨days⟩ else none

def ofCivil? (year : Int) (month day : Nat) : Option Date :=
  if minYear ≤ year ∧ year ≤ maxYear ∧ 1 ≤ day ∧ day ≤ monthLength year month then
    some ⟨dayNumber year month day⟩
  else none

def civil (d : Date) : CivilDate :=
  let z := d.days + 719468
  let dayOfEra := (z % 146097).toNat
  let yearOfEra := (dayOfEra - dayOfEra / 1460 + dayOfEra / 36524 - dayOfEra / 146096) / 365
  let dayOfYear := dayOfEra - (365 * yearOfEra + yearOfEra / 4 - yearOfEra / 100)
  let fromMarch := (5 * dayOfYear + 2) / 153
  let month := if fromMarch < 10 then fromMarch + 3 else fromMarch - 9
  let year := yearOfEra + 400 * (z / 146097)
  ⟨if month ≤ 2 then year + 1 else year, month, dayOfYear - (153 * fromMarch + 2) / 5 + 1⟩

def year (d : Date) : Int := d.civil.year

def month (d : Date) : Nat := d.civil.month

def day (d : Date) : Nat := d.civil.day

/-- The day of the week of a date; 1 January 1970 was a Thursday. -/
def weekday (d : Date) : Weekday := .ofMonday ((d.days + 3) % 7).toNat

/-- The date so many days later, if the calendar has it. -/
def addDays? (d : Date) (n : Int) : Option Date := ofDays? (d.days + n)

end Date

end LivePage
