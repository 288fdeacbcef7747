import LivePage.Number.Binary64
import LivePage.Text.Basic
import LivePage.Text.Quoted
import LivePage.Yaml.Document
/-!
# Values of scalars

What a plain scalar means by itself: nothing, a truth value, a number, or else its text. A number is decimal or has
a base of its own, and one with a zero before its digits is text.
-/
namespace LivePage.Yaml

open Text

inductive ScalarValue where
  | null
  | bool (b : Bool)
  | unsigned (n : Nat)
  | signed (n : Int)
  /-- A number that needs more than 64 bits. -/
  | wide (n : Int)
  | float (x : FloatValue)
  | text (s : String)

namespace ScalarValue

/-- How messages describe a value that was not expected. -/
def describe : ScalarValue → String
  | null => "unit value"
  | bool b => s!"boolean `{b}`"
  | unsigned n => s!"integer `{n}`"
  | signed n => s!"integer `{n}`"
  | wide n => s!"integer `{n}` as " ++ (if 0 ≤ n then "u128" else "i128")
  | float x => s!"floating point `{x.display}`"
  | text s => s!"string {quoted s}"

end ScalarValue

def isNull (s : String) : Bool := ["null", "Null", "NULL", "~"].contains s

def bool? (s : String) : Option Bool :=
  if ["true", "True", "TRUE"].contains s then some true
  else if ["false", "False", "FALSE"].contains s then some false
  else none

/-- The value of a digit in bases up to sixteen. -/
def digitValue? (base : Nat) (c : Char) : Option Nat :=
  if isHexDigit c && hexValue c < base then some (hexValue c) else none

def natural? (base : Nat) (cs : List Char) : Option Nat :=
  if cs.isEmpty then none
  else cs.foldl (fun n c => n.bind fun n => (digitValue? base c).map fun d => base * n + d) (some 0)

/-- The value of digits after a mark for their base. -/
def based? (cs : List Char) : Option Nat :=
  match cs with
  | '0' :: 'x' :: ds => natural? 16 ds
  | '0' :: 'o' :: ds => natural? 8 ds
  | '0' :: 'b' :: ds => natural? 2 ds
  | _ => none

/-- Whether a text is a zero and more digits, after a sign or none. -/
def isPadded (cs : List Char) : Bool :=
  let cs := match cs with
    | '-' :: ds | '+' :: ds => ds
    | ds => ds
  1 < cs.length && cs.head? == some '0' && cs.all Char.isDigit

/-- A whole number without a minus sign. -/
def unsigned? (cs : List Char) : Option Nat :=
  let digits := match cs with
    | '+' :: ds => ds
    | ds => ds
  (based? digits).or (if isPadded cs then none else natural? 10 digits)

/-- A whole number with a minus sign, or without any sign. -/
def signed? (cs : List Char) : Option Int :=
  match cs with
  | '-' :: ds => ((based? ds).or (if isPadded cs then none else natural? 10 ds)).map fun n => -(n : Int)
  | _ => none

def integer? (cs : List Char) : Option ScalarValue :=
  match unsigned? cs, signed? cs with
  | some n, _ => if n < 1 <<< 64 then some (.unsigned n) else if n < 1 <<< 128 then some (.wide n) else none
  | none, some n =>
    if -(1 <<< 63 : Nat) ≤ n then some (.signed n) else if -(1 <<< 127 : Nat) ≤ n then some (.wide n) else none
  | none, none => none

/-- A decimal that is not too large. -/
def finite? (negative : Bool) (cs : List Char) : Option ScalarValue := do
  let (digits, power) ← Binary64.decimal? cs
  return .float (.finite (← Binary64.ofDecimal? negative digits power))

/-- The number with a point or an exponent that a text stands for. -/
def float? (s : String) : Option ScalarValue :=
  let cs := s.toList
  let positive := match cs with
    | '+' :: ds => ds
    | ds => ds
  if [".inf", ".Inf", ".INF"].contains (String.ofList positive) then some (.float (.infinite false))
  else if ["-.inf", "-.Inf", "-.INF"].contains s then some (.float (.infinite true))
  else if [".nan", ".NaN", ".NAN"].contains s then some (.float .notANumber)
  else match positive with
    | '-' :: ds => if cs.head? = some '+' then none else finite? true ds
    | ds => finite? false ds

def plainValue (s : String) : ScalarValue :=
  let cs := s.toList
  if cs.isEmpty || isNull s then .null else
  match bool? s, integer? cs with
  | some b, _ => .bool b
  | none, some n => n
  | none, none => ((if isPadded cs then none else float? s)).getD (.text s)

end LivePage.Yaml
