import LivePage.Calendar.Zone
/-!
# Schedules

When something is to happen, in local wall-clock time. Four of the nine kinds repeat.
-/
namespace LivePage

inductive RelativeDay where
  | yesterday
  | today
  | tomorrow
deriving DecidableEq, Repr

namespace RelativeDay

def name : RelativeDay → String
  | yesterday => "yesterday"
  | today => "today"
  | tomorrow => "tomorrow"

def offset : RelativeDay → Int
  | yesterday => -1
  | today => 0
  | tomorrow => 1

end RelativeDay

/-- When a token fires; midnight where a time is left out. -/
inductive Schedule where
  | daily (time : Option TimeOfDay)
  | weekly (days : List Weekday) (time : Option TimeOfDay)
  /-- A day past the end of a month means the month's last day. -/
  | monthly (day : Nat) (time : Option TimeOfDay)
  | yearly (month day : Nat) (time : Option TimeOfDay)
  | relative (day : RelativeDay)
  | weekday (day : Weekday)
  | date (date : Date)
  | time (time : TimeOfDay)
  | offset (minutes : Int)
deriving DecidableEq, Repr

inductive TokenKind where
  | daily
  | weekly
  | monthly
  | yearly
  | relative
  | weekday
  | absoluteDate
  | timeOnly
  | offset
deriving DecidableEq, Repr

def TokenKind.name : TokenKind → String
  | daily => "daily"
  | weekly => "weekly"
  | monthly => "monthly"
  | yearly => "yearly"
  | relative => "relative"
  | weekday => "weekday"
  | absoluteDate => "absolute-date"
  | timeOnly => "time-only"
  | offset => "offset"

namespace Schedule

def kind : Schedule → TokenKind
  | daily _ => .daily
  | weekly _ _ => .weekly
  | monthly _ _ => .monthly
  | yearly _ _ _ => .yearly
  | relative _ => .relative
  | weekday _ => .weekday
  | date _ => .absoluteDate
  | time _ => .timeOnly
  | offset _ => .offset

def isRecurring : Schedule → Bool
  | daily _ | weekly _ _ | monthly _ _ | yearly _ _ _ => true
  | _ => false

end Schedule

/-- A schedule as written on a page. -/
structure ScheduleToken where
  raw : String
  line : Nat
  /-- Column of the at sign, counted in bytes from one. -/
  column : Nat
  schedule : Schedule
deriving DecidableEq, Repr

/-- Something that looks like a schedule and is none, or that has no effect. -/
structure ScheduleWarning where
  raw : String
  line : Nat
  column : Nat
  message : String
deriving DecidableEq, Repr

def ScheduleWarning.display (w : ScheduleWarning) : String := s!"line {w.line}:{w.column}: {w.message}"

end LivePage
