import LivePage.Schedule.Basic
import LivePage.Text.Basic
import LivePage.Text.Digit
/-!
# Reading schedule tokens

A token is an at sign and a text read without regard to the case of ASCII letters: a day, a date, a time of day,
or a keyword with arguments after a colon. The shape of dates, times and offsets is checked over the decimal
digits of every script, and the numbers in them over ASCII digits, so a shape with other digits is a malformed
token and not an unknown one.
-/
namespace LivePage

open Text

/-- Why a text is no schedule token (`TokenError`). -/
inductive TokenFault where
  | missingAt
  | empty
  | unrecognized (token : String)
  | invalid (token what : String)
deriving DecidableEq, Repr

def TokenFault.message : TokenFault → String
  | missingAt => "schedule token must start with `@`"
  | empty => "empty schedule token"
  | unrecognized token => s!"unrecognized schedule token `{token}`"
  | invalid token what => s!"invalid {what} in schedule token `{token}`"

namespace Schedule

/-! ## Days and months -/

/-- The relative day with a name (`relative_day`). -/
def relativeDay? (s : String) : Option RelativeDay :=
  match s with
  | "today" => some .today
  | "tomorrow" => some .tomorrow
  | "yesterday" => some .yesterday
  | _ => none

/-- The day of the week with a name, in full or by its first three letters (`weekday`). -/
def weekday? (s : String) : Option Weekday :=
  match s with
  | "mon" | "monday" => some .mon
  | "tue" | "tuesday" => some .tue
  | "wed" | "wednesday" => some .wed
  | "thu" | "thursday" => some .thu
  | "fri" | "friday" => some .fri
  | "sat" | "saturday" => some .sat
  | "sun" | "sunday" => some .sun
  | _ => none

def monthNames : List String :=
  ["january", "february", "march", "april", "may", "june", "july", "august", "september", "october",
    "november", "december"]

/-- The month with a number, with a name, or with the first three letters of a name (`month`). -/
def month? (s : List Char) : Option Nat :=
  match parseUnsigned? maxU32 s with
  | some n => if 1 ≤ n ∧ n ≤ 12 then some n else none
  | none =>
    (monthNames.findIdx? fun name => name.toList == s || (s.length == 3 && s.isPrefixOf name.toList)).map (· + 1)

/-- The day of the month with a number, which may carry the ending of an ordinal (`day_of_month`). -/
def dayOfMonth? (s : List Char) : Option Nat :=
  let endings := ["st", "nd", "rd", "th"]
  let digits := (endings.findSome? fun e => dropSuffix? e.toList s).getD s
  (parseUnsigned? maxU32 digits).filter fun d => 1 ≤ d && d ≤ 31

/-! ## Dates and times -/

/-- The number of digits at the start of a text. -/
def digitRun (cs : List Char) : List Char := cs.takeWhile isDecimalDigit

/-- A text made of `n` decimal digits of any script. -/
def isDigits (n : Nat) (cs : List Char) : Bool := cs.length == n && cs.all isDecimalDigit

/-- The parts of a text of the shape `dddd-dd-dd` (`ISO_DATE`). -/
def dateParts? (cs : List Char) : Option (List Char × List Char × List Char) :=
  match cs.splitOnP (· == '-') with
  | [y, m, d] => if isDigits 4 y && isDigits 2 m && isDigits 2 d then some (y, m, d) else none
  | _ => none

def dateOf? (y m d : List Char) : Option Date := do
  Date.ofCivil? (← digitsValue? y) (← digitsValue? m) (← digitsValue? d)

def isHour (cs : List Char) : Bool := (cs.length == 1 || cs.length == 2) && cs.all isDecimalDigit

/-- Hour and minute of a clock time before `am` or `pm` (`TIME_12H`); the minute may be left out. -/
def clockParts? (cs : List Char) : Option (List Char × Option (List Char)) :=
  match cs.splitOnP (· == ':') with
  | [h] => if isHour h then some (h, none) else none
  | [h, m] => if isHour h && isDigits 2 m then some (h, some m) else none
  | _ => none

/-- The hour of the day for an hour of the half day. -/
def hourOfDay (afternoon : Bool) (hour : Nat) : Nat :=
  (if hour = 12 then 0 else hour) + (if afternoon then 12 else 0)

/-- A time of the half day: `9am`, `9:30pm`, `12am` for midnight. -/
def halfDayTime? (afternoon : Bool) (hour : List Char) (minute : Option (List Char)) : Option TimeOfDay := do
  let h ← digitsValue? hour
  let m ← match minute with
    | none => some 0
    | some m => digitsValue? m
  if 1 ≤ h ∧ h ≤ 12 then TimeOfDay.ofClock? (hourOfDay afternoon h) m 0 else none

/-- A time of the whole day (`TIME_24H`): `14:00`. -/
def fullDayTime? (cs : List Char) : Option TimeOfDay :=
  match clockParts? cs with
  | some (h, some m) => do TimeOfDay.ofClock? (← digitsValue? h) (← digitsValue? m) 0
  | _ => none

/-- A time of day in either form (`time_of_day`). -/
def timeOfDay? (cs : List Char) : Option TimeOfDay :=
  match (dropSuffix? ['a', 'm'] cs).bind clockParts?, (dropSuffix? ['p', 'm'] cs).bind clockParts? with
  | some (h, m), _ => halfDayTime? false h m
  | none, some (h, m) => halfDayTime? true h m
  | none, none => fullDayTime? cs

/-- Arguments and an optional time after a colon (`split_time`); none when the time is there and malformed. -/
def splitTime? (args : List Char) : Option (List Char × Option TimeOfDay) :=
  match splitFirst? ':' args with
  | some (head, clock) => (timeOfDay? clock).map fun t => (head, some t)
  | none => some (args, none)

/-! ## Offsets -/

def unitMinutes? (s : String) : Option Nat :=
  match s with
  | "m" | "min" | "mins" | "minute" | "minutes" => some 1
  | "h" | "hr" | "hrs" | "hour" | "hours" => some 60
  | "d" | "day" | "days" => some (60 * 24)
  | "w" | "week" | "weeks" => some (60 * 24 * 7)
  | _ => none

/-- The largest number of minutes that an offset may come to. -/
def maxMinutes : Nat := 9223372036854775807

/-- Minutes of an offset such as `90m` or `2weeks` (`offset_minutes`). -/
def offsetMinutes? (cs : List Char) : Option Nat := do
  let value ← digitsValue? (digitRun cs)
  let unit ← unitMinutes? (String.ofList (cs.dropWhile isDecimalDigit))
  if value ≤ maxMinutes ∧ value * unit ≤ maxMinutes then some (value * unit) else none

/-! ## Tokens -/

def weekdays? (cs : List Char) : Option (List Weekday) :=
  (splitOn ',' cs).mapM fun name => weekday? (String.ofList (trim name))

/-- Month and day of a text `month-day`. -/
def monthDay? (cs : List Char) : Option (Nat × Nat) := do
  let (m, d) ← splitFirst? '-' cs
  let m ← month? m
  let d ← parseUnsigned? maxU32 d
  if 1 ≤ d ∧ d ≤ 31 then some (m, d) else none

/-- A value, or the fault that a part of the token is invalid. -/
def orInvalid {α : Type} (raw what : String) : Option α → Except TokenFault α
  | some a => .ok a
  | none => .error (.invalid raw what)

/-- A keyword with its arguments. -/
def parseKeyword (raw : String) (keyword : String) (args : List Char) : Except TokenFault Schedule :=
  match keyword with
  | "daily" => do return .daily (some (← orInvalid raw "time" (timeOfDay? args)))
  | "weekly" => do
    let (days, clock) ← orInvalid raw "time" (splitTime? args)
    return .weekly (← orInvalid raw "weekday list" (weekdays? days)) clock
  | "monthly" => do
    let (day, clock) ← orInvalid raw "time" (splitTime? args)
    return .monthly (← orInvalid raw "day of month" (dayOfMonth? day)) clock
  | "yearly" => do
    let (dated, clock) ← orInvalid raw "time" (splitTime? args)
    let (month, day) ← orInvalid raw "month-day" (monthDay? dated)
    return .yearly month day clock
  | "in" => do return .offset (← orInvalid raw "offset" (offsetMinutes? args))
  | _ => .error (.unrecognized raw)

/-- The text after the at sign, in lower case. -/
def parseBody (raw : String) (body : List Char) : Except TokenFault Schedule :=
  let name := String.ofList body
  match relativeDay? name, weekday? name, dateParts? body, timeOfDay? body with
  | some day, _, _, _ => .ok (.relative day)
  | none, some day, _, _ => .ok (.weekday day)
  | none, none, some (y, m, d), _ => do return .date (← orInvalid raw "date" (dateOf? y m d))
  | none, none, none, some clock => .ok (.time clock)
  | none, none, none, none =>
    if name = "daily" then .ok (.daily none)
    else match splitFirst? ':' body with
      | some (keyword, args) => parseKeyword raw (String.ofList keyword) args
      | none => .error (.unrecognized raw)

/-- Reads one token, at sign included (`parse_token`). -/
def parseToken (raw : String) : Except TokenFault Schedule :=
  match raw.toList with
  | '@' :: body => if body.isEmpty then .error .empty else parseBody raw (asciiLower body)
  | _ => .error .missingAt

end Schedule

end LivePage
