/-!
# Double precision

Numbers with a mantissa of 53 bits. A decimal is read as the number of this form that is nearest to it, and a number
is shown with the fewest digits that read back as it. Everything is counted exactly in natural numbers.
-/
namespace LivePage

/-- The number `mantissa · 2 ^ exponent`, with a sign. -/
structure Binary64 where
  negative : Bool := false
  mantissa : Nat
  exponent : Int
deriving DecidableEq, Repr

namespace Binary64

/-! ## Reading -/

def minExponent : Int := -1074

def maxExponent : Int := 971

/-- The integer nearest to a quotient; a half goes to the even neighbour. -/
def roundDiv (num den : Nat) : Nat :=
  let q := num / den
  let twice := 2 * (num % den)
  if twice < den then q else if den < twice then q + 1 else q + q % 2

/-- A fraction times a power of a base, as numerator and denominator. -/
def scale (base num den : Nat) (power : Int) : Nat × Nat :=
  if 0 ≤ power then (num * base.pow power.toNat, den) else (num, den * base.pow (-power).toNat)

/-- The greatest power of two that is no more than a positive fraction. -/
def floorLog2 (num den : Nat) : Int :=
  let guess : Int := num.log2 - den.log2
  let (n, d) := scale 2 num den (-guess)
  if d ≤ n then guess else guess - 1

/-- The mantissa and exponent nearest to a fraction, unless it is too large. -/
def nearest? (num den : Nat) : Option (Nat × Int) :=
  if num = 0 then some (0, minExponent) else
  let exponent := max (floorLog2 num den - 52) minExponent
  let (n, d) := scale 2 num den (-exponent)
  let mantissa := roundDiv n d
  let (mantissa, exponent) := if mantissa = 1 <<< 53 then (1 <<< 52, exponent + 1) else (mantissa, exponent)
  if maxExponent < exponent then none else some (mantissa, exponent)

/-- The number nearest to `digits · 10 ^ power`, unless it is too large. -/
def ofDecimal? (negative : Bool) (digits : Nat) (power : Int) : Option Binary64 :=
  let size : Int := (Nat.toDigits 10 digits).length + power
  if digits ≠ 0 ∧ 400 < size then none else
  let (num, den) := if digits = 0 ∨ size < -400 then (0, 1) else scale 10 digits 1 power
  (nearest? num den).map fun (mantissa, exponent) => { negative, mantissa, exponent }

/-- The value of a non-empty run of digits. -/
def digits? (cs : List Char) : Option Nat :=
  if cs.isEmpty || !cs.all Char.isDigit then none
  else some (cs.foldl (fun n c => 10 * n + (c.toNat - 48)) 0)

/-- An exponent of ten after its letter. -/
def exponent? (cs : List Char) : Option Int :=
  match cs with
  | '-' :: ds => (digits? ds).map fun n => -(n : Int)
  | '+' :: ds => (digits? ds).map Int.ofNat
  | ds => (digits? ds).map Int.ofNat

/-- The digits of a decimal with or without point and exponent, and their power of ten. -/
def decimal? (cs : List Char) : Option (Nat × Int) := do
  let whole := cs.takeWhile Char.isDigit
  let rest := cs.dropWhile Char.isDigit
  let (fraction, rest) := match rest with
    | '.' :: ds => (ds.takeWhile Char.isDigit, ds.dropWhile Char.isDigit)
    | _ => ([], rest)
  let power ← match rest with
    | [] => some 0
    | 'e' :: ds | 'E' :: ds => exponent? ds
    | _ => none
  let digits ← digits? (whole ++ fraction)
  return (digits, power - fraction.length)

/-! ## Showing -/

/-- The fractions between which decimals read back as a number, in quarters of its last place: the number itself, the
lowest and the highest. -/
def bounds (x : Binary64) : Nat × Nat × Nat :=
  let isPower := x.mantissa = 1 <<< 52 ∧ minExponent < x.exponent
  (4 * x.mantissa, 4 * x.mantissa - (if isPower then 1 else 2), 4 * x.mantissa + 2)

/-- The greatest power of ten that is no more than a positive number. -/
def floorLog10 (x : Binary64) : Int :=
  let (n, d) := scale 2 x.mantissa 1 x.exponent
  (Nat.toDigits 10 (n * Nat.pow 10 400 / d)).length - 401

/-- The multiple of a power of ten that reads back as a number: of the two multiples next to it the nearer one that
does, and the greater of two that are equally near. -/
def onGrid? (x : Binary64) (power : Int) : Option Nat :=
  let (value, low, high) := x.bounds
  let (unit, den) := scale 2 1 1 (x.exponent - 2)
  let (ten, tenDen) := scale 10 1 1 power
  let multiple (k : Nat) : Nat := k * ten * den
  let quarters (q : Nat) : Nat := q * unit * tenDen
  let k := quarters value / (ten * den)
  let inside (k : Nat) : Bool :=
    if x.mantissa % 2 = 0 then quarters low ≤ multiple k && multiple k ≤ quarters high
    else quarters low < multiple k && multiple k < quarters high
  let below := quarters value - multiple k
  let above := multiple (k + 1) - quarters value
  if inside k && (!inside (k + 1) || below < above) then some k
  else if inside (k + 1) then some (k + 1)
  else none

/-- The shortest decimal that reads back as a positive number: its digits and their power of ten. -/
def shortest (x : Binary64) : Nat × Int :=
  let top := x.floorLog10
  ((List.range 18).findSome? fun n => (x.onGrid? (top - (n : Nat))).map fun k => (k, top - (n : Nat))).getD (0, 0)

/-- A decimal in positional form. -/
def positional (digits : Nat) (power : Int) : List Char :=
  let ds := Nat.toDigits 10 digits
  if 0 ≤ power then ds ++ List.replicate power.toNat '0'
  else
    let places := (-power).toNat
    let ds := List.replicate (places + 1 - ds.length) '0' ++ ds
    ds.take (ds.length - places) ++ '.' :: ds.drop (ds.length - places)

/-- A number with the fewest digits that read back, and at least one after the point. -/
def display (x : Binary64) : String :=
  let (digits, power) := if x.mantissa = 0 then (0, 0) else x.shortest
  let text := positional digits power
  let text := if text.contains '.' then text else text ++ ['.', '0']
  String.ofList (if x.negative then '-' :: text else text)

end Binary64

/-- A number of this form, or what takes the place of one. -/
inductive FloatValue where
  | finite (x : Binary64)
  | infinite (negative : Bool)
  | notANumber
deriving DecidableEq, Repr

def FloatValue.display : FloatValue → String
  | finite x => x.display
  | infinite negative => if negative then "-inf" else "inf"
  | notANumber => "NaN"

end LivePage
