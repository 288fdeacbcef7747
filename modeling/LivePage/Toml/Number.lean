import LivePage.Number.Binary64
import LivePage.Toml.Input
/-!
# Numbers and moments of TOML

What starts with a digit or a sign is a date, a time, a number with a point or an exponent, or a whole number, and is
tried as these in this order. Once its beginning leaves one choice, the rest has to be that.
-/
namespace LivePage.Toml

open Text Parse

/-- A value that is no collection and no text. -/
inductive Figure where
  | integer (n : Int)
  | float (x : FloatValue)
  | moment

/-- The cause of a number that is too large or otherwise impossible. -/
def outOfRange : String := "value is out of range"

/-! ## Moments -/

/-- The number that the next `count` digits make, if so many come. -/
def figure? (count : Nat) : Parse (Option Nat) := do
  let ds := ((← get).rest.takeWhile Char.isDigit).take count
  return if ds.length = count then digitsValue? ds else none

def twoDigits (label : String) (low high : Nat) : Parse Nat := do
  match ← figure? 2 with
  | none => fail (some label) []
  | some n =>
    if low ≤ n ∧ n ≤ high then
      skip 2
      return n
    else fail (some label) [] (some outOfRange)

def must (label : String) (c : Char) : Parse Unit := do if !(← skipIf c) then fail (some label) []

/-- Goes past an hour and a colon if they come next. -/
def hour : Parse Bool := do
  match ← figure? 2, (← get).rest[2]? with
  | some n, some ':' =>
    if n ≤ 23 then
      skip 3
      return true
    else return false
  | _, _ => return false

/-- The rest of a time after the colon of its hour. -/
def restOfTime (label : String) : Parse Unit := do
  let _ ← twoDigits label 0 59
  must label ':'
  let _ ← twoDigits label 0 60
  match (← get).rest with
  | '.' :: c :: _ =>
    if c.isDigit then
      skip 1
      let _ ← many Char.isDigit
  | _ => return

def zone : Parse Unit := do
  let label := "time offset"
  match ← peek with
  | some 'Z' | some 'z' => skip 1
  | some '+' | some '-' =>
    skip 1
    let _ ← twoDigits label 0 23
    must label ':'
    let _ ← twoDigits label 0 59
  | _ => return

def daysOf (year month : Nat) : Nat :=
  if month = 2 then (if year % 4 = 0 ∧ (year % 100 ≠ 0 ∨ year % 400 = 0) then 29 else 28)
  else if [4, 6, 9, 11].contains month then 30 else 31

/-- Goes past a date and what may follow it, if the start of one comes next. -/
def date : Parse Bool := do
  let label := "date-time"
  match ← figure? 4, (← get).rest[4]? with
  | some year, some '-' =>
    skip 5
    let month ← twoDigits label 1 12
    must label '-'
    let start ← get
    let day ← twoDigits label 1 31
    if daysOf year month < day then
      set start
      fail (some label) [] (some outOfRange)
    let stop ← get
    match ← peek with
    | some 'T' | some 't' | some ' ' =>
      skip 1
      if ← hour then
        restOfTime label
        zone
      else set stop
    | _ => pure ()
    return true
  | _, _ => return false

def time : Parse Bool := do
  if ← hour then
    restOfTime "time"
    return true
  else return false

/-! ## Numbers -/

/-- More digits, with single underscores between them, in at most `fuel` steps. -/
def moreDigits (isDigit : Char → Bool) (label : String) (expected : List String) : Nat → Parse (List Char)
  | 0 => return []
  | fuel + 1 => do
    let ds ← many isDigit
    if ← skipIf '_' then
      match ← peek with
      | some c => if isDigit c then return ds ++ (← moreDigits isDigit label expected fuel)
      | none => pure ()
      fail (some label) expected
    else return ds

/-- Digits with single underscores between them; the first must come. -/
def someDigits (isDigit : Char → Bool) (label : String) (first more : List String) : Parse (List Char) := do
  match ← peek with
  | some c => if isDigit c then return ← moreDigits isDigit label more ((← get).rest.length)
  | none => pure ()
  fail (some label) first

def sign : Parse (List Char) := do
  match ← peek with
  | some '+' =>
    skip 1
    return []
  | some '-' =>
    skip 1
    return ['-']
  | _ => return []

/-- The digits of a whole number: a single zero, or digits that start with another one. -/
def wholeDigits : Parse (List Char) := do
  match ← peek with
  | some '0' =>
    skip 1
    return ['0']
  | some c =>
    if c.isDigit then
      return ← moreDigits Char.isDigit "integer" ["digit"] ((← get).rest.length)
  | none => pure ()
  fail (some "integer") [] none true

def exponent : Parse (List Char) := do
  match ← peek with
  | some 'e' | some 'E' =>
    skip 1
    let s ← sign
    return 'e' :: s ++ (← someDigits Char.isDigit "floating-point number" [] ["digit"])
  | _ => return []

def fraction : Parse (List Char) := do
  if ← skipIf '.' then
    return '.' :: (← someDigits Char.isDigit "floating-point number" ["digit"] ["digit", "digit"])
  else return []

/-- A whole number that has to fit into 64 bits. -/
def bounded (start : Input) (n : Int) : Parse Figure := do
  let wrong (size : String) : Parse Figure := do
    set start
    fail none [] (some s!"number too {size} to fit in target type")
  if n < -(1 <<< 63 : Nat) then wrong "small" else if (1 <<< 63 : Nat) ≤ n then wrong "large"
  else return .integer n

/-- A whole number with the mark of its base. -/
def based (base : Nat) (label : String) : Parse Figure := do
  let start ← get
  skip 2
  let isDigit (c : Char) : Bool := isHexDigit c && hexValue c < base
  let ds ← someDigits isDigit label [] ["digit"]
  bounded start (ds.foldl (fun n c => base * n + hexValue c) 0 : Nat)

def decimal (start : Input) (negative : Bool) : Parse Figure := do
  let whole ← wholeDigits
  let fraction ← fraction
  let exponent ← exponent
  if fraction.isEmpty ∧ exponent.isEmpty then
    let n := (digitsValue? whole).getD 0
    bounded start (if negative then -(n : Int) else n)
  else
    let number := do
      let (digits, power) ← Binary64.decimal? (whole ++ fraction ++ exponent)
      Binary64.ofDecimal? negative digits power
    match number with
    | some x => return .float (.finite x)
    | none =>
      if negative then return .float (.infinite true) else
      set start
      fail (some "floating-point number") []

/-- Infinity or what is no number, if it comes next. -/
def special? (negative : Bool) : Parse (Option Figure) := do
  if ← isNext "inf" then
    skip 3
    return some (.float (.infinite negative))
  else if ← isNext "nan" then
    skip 3
    return some (.float .notANumber)
  else return none

/-- What starts with a digit or a sign. -/
def figure : Parse Figure := do
  if ← date then return .moment
  else if ← time then return .moment
  else if ← isNext "0x" then based 16 "hexadecimal integer"
  else if ← isNext "0o" then based 8 "octal integer"
  else if ← isNext "0b" then based 2 "binary integer"
  else
    let start ← get
    let negative := (← sign) == ['-']
    match ← special? negative with
    | some x => return x
    | none => decimal start negative

end LivePage.Toml
