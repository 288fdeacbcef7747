import LivePage.Calendar.Date
/-!
# Instants and time zones

An instant is a point in time; a local time is what a clock on the wall shows. A time zone is an offset east of
UTC that holds at first, followed by transitions to other offsets. Clocks that go back show some local times
twice, and clocks that go forward never show others.
-/
namespace LivePage

def daySeconds : Int := 86400

/-- A point in time: seconds since the start of 1970 in UTC, and nanoseconds. -/
structure Instant where
  seconds : Int
  nanos : Nat
deriving DecidableEq, Repr

namespace Instant

def before (a b : Instant) : Bool := a.seconds < b.seconds || (a.seconds == b.seconds && a.nanos < b.nanos)

end Instant

structure TimeOfDay where
  seconds : Nat
deriving DecidableEq, Repr

namespace TimeOfDay

def midnight : TimeOfDay := ⟨0⟩

/-- The time with an hour, minute and second, if a clock shows it. -/
def ofClock? (hour minute second : Nat) : Option TimeOfDay :=
  if hour < 24 ∧ minute < 60 ∧ second < 60 then some ⟨hour * 3600 + minute * 60 + second⟩ else none

end TimeOfDay

/-- What a wall clock and a calendar show: seconds since the start of 1970 as if there were no zones. -/
structure LocalTime where
  seconds : Int
deriving DecidableEq, Repr

namespace LocalTime

def on (d : Date) (t : TimeOfDay) : LocalTime := ⟨d.days * daySeconds + t.seconds⟩

def date (l : LocalTime) : Date := ⟨l.seconds / daySeconds⟩

/-- Whether the calendar has the date of a local time. -/
def exists? (l : LocalTime) : Option LocalTime := (Date.ofDays? l.date.days).map fun _ => l

def addMinutes? (l : LocalTime) (n : Int) : Option LocalTime := exists? ⟨l.seconds + 60 * n⟩

end LocalTime

/-- A time zone: an offset in seconds east of UTC, and the instants from which other offsets hold, ascending. -/
structure Zone where
  base : Int
  transitions : List (Int × Int) := []
deriving DecidableEq, Repr

namespace Zone

def utc : Zone := { base := 0 }

/-- The offset that holds at a second. -/
def offsetAt (z : Zone) (seconds : Int) : Int :=
  ((z.transitions.filter (·.1 ≤ seconds)).getLast?.map (·.2)).getD z.base

/-- Every offset that holds at some time. -/
def offsets (z : Zone) : List Int := z.base :: z.transitions.map (·.2)

/-- Whether the calendar has the date on which a second lies in UTC. -/
def hasSecond (seconds : Int) : Bool := (Date.ofDays? (seconds / daySeconds)).isSome

/-- Every instant at which the zone's clocks show a local time. -/
def instants (z : Zone) (l : LocalTime) : List Int :=
  (z.offsets.map (l.seconds - ·)).filter fun t => l.seconds - t == z.offsetAt t && hasSecond t

/-- The first instant at which the zone's clocks show a local time. -/
def earliest? (z : Zone) (l : LocalTime) : Option Instant := (z.instants l).min?.map fun t => ⟨t, 0⟩

/-- What the zone's clocks show at an instant. -/
def localAt (z : Zone) (t : Instant) : LocalTime := ⟨t.seconds + z.offsetAt t.seconds⟩

/-- The first instant at or after a local time, looked for in steps of a quarter of an hour for at most a day
(`resolve`). A local time that clocks never show moves to the first step that they do show. -/
def resolve? (z : Zone) (l : LocalTime) : Option Instant :=
  (List.range 97).findSome? fun (step : Nat) => (l.addMinutes? (15 * step)).bind z.earliest?

end Zone

end LivePage
