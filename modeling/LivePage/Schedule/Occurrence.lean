import LivePage.Schedule.Basic
/-!
# Occurrences

The next time at which a schedule fires, in the zone in which it is read. Recurring schedules and bare times look
for a time after now; a date means its midnight, which may lie in the past. Where no valid time is found the
answer is now itself.
-/
namespace LivePage

open Calendar

/-- The date with a day of a month, or the month's last day when it is shorter (`clamped_date`). The month after has to
exist, for a month's length is the distance to it. -/
def clampedDate? (year : Int) (month day : Nat) : Option Date :=
  if monthLength year month = 0 ∨ (month = 12 ∧ year = maxYear) then none
  else Date.ofCivil? year month (min day (monthLength year month))

namespace Schedule

/-- Today at a time if that is still ahead, else tomorrow at that time (`next_daily`). -/
def nextDaily? (z : Zone) (now : Instant) (clock : TimeOfDay) : Option Instant := do
  let today := (z.localAt now).date
  let candidate ← z.resolve? (.on today clock)
  if now.before candidate then some candidate
  else z.resolve? (.on (← today.addDays? 1) clock)

/-- The first day among today and the seven days after that is listed and whose time is still ahead. -/
def nextWeekly? (z : Zone) (now : Instant) (days : List Weekday) (clock : TimeOfDay) : Option Instant :=
  let today := (z.localAt now).date
  (List.range 8).findSome? fun (ahead : Nat) => do
    let day ← today.addDays? ahead
    if days.contains day.weekday then (z.resolve? (.on day clock)).filter now.before else none

/-- The day in a month if that is still ahead, else the day in a later month. -/
def nextDated? (z : Zone) (now : Instant) (clock : TimeOfDay) (this next : Option Date) : Option Instant := do
  let candidate ← z.resolve? (.on (← this) clock)
  if now.before candidate then some candidate else z.resolve? (.on (← next) clock)

/-- The first time at or after now at which a schedule fires, where there is one (`try_next`). -/
def next? (z : Zone) (now : Instant) : Schedule → Option Instant
  | relative day => do z.resolve? (.on (← (z.localAt now).date.addDays? day.offset) .midnight)
  | weekday day => do
    let today := (z.localAt now).date
    let ahead := (7 + day.fromMonday - today.weekday.fromMonday) % 7
    z.resolve? (.on (← today.addDays? (if ahead = 0 then 7 else ahead)) .midnight)
  | date day => z.resolve? (.on day .midnight)
  | offset minutes =>
    let seconds := now.seconds + 60 * minutes
    if Zone.hasSecond seconds then some ⟨seconds, now.nanos⟩ else none
  | time clock => nextDaily? z now clock
  | daily clock => nextDaily? z now (clock.getD .midnight)
  | weekly days clock => nextWeekly? z now days (clock.getD .midnight)
  | monthly day clock =>
    let today := (z.localAt now).date
    let (year, month) := (today.year, today.month)
    nextDated? z now (clock.getD .midnight) (clampedDate? year month day)
      (if month = 12 then clampedDate? (year + 1) 1 day else clampedDate? year (month + 1) day)
  | yearly month day clock =>
    let year := (z.localAt now).date.year
    nextDated? z now (clock.getD .midnight) (clampedDate? year month day) (clampedDate? (year + 1) month day)

/-- The next time at which a schedule fires (`next_occurrence`); now if there is none. -/
def nextOccurrence (s : Schedule) (z : Zone) (now : Instant) : Instant := (s.next? z now).getD now

/-- The next `n` times, each found from the one before. -/
def nextOccurrences (s : Schedule) (z : Zone) : Nat → Instant → List Instant
  | 0, _ => []
  | n + 1, now =>
    let t := s.nextOccurrence z now
    t :: nextOccurrences s z n t

end Schedule

end LivePage
