/-!
# Character classes

A class of characters is kept as the sorted list of code points at which membership changes, so a table is no
longer than the number of its ranges and membership is a single walk. Case mappings are kept as runs of code
points that all move by the same distance.
-/
namespace LivePage.Text

/-- A set of code points: the first belongs to it, the second is the first after it that does not, and so on. -/
abbrev Boundaries := List Nat

def Boundaries.holds : Boundaries → Nat → Bool
  | [], _ => false
  | [lo], c => lo ≤ c
  | lo :: hi :: rest, c => if c < lo then false else if c < hi then true else Boundaries.holds rest c

/-- White space: the property White_Space, which holds for 25 characters. -/
def blankBoundaries : Boundaries := [
  0x9, 0xe, 0x20, 0x21, 0x85, 0x86, 0xa0, 0xa1, 0x1680, 0x1681, 0x2000, 0x200b, 0x2028, 0x202a, 0x202f, 0x2030,
  0x205f, 0x2060, 0x3000, 0x3001]

/-- Whether a character is white space in the sense of Unicode. -/
def isBlank (c : Char) : Bool := blankBoundaries.holds c.toNat

/-- Every `step`-th code point from `first` to `last` maps to the one `shift` away. -/
structure CaseRun where
  first : Nat
  last : Nat
  step : Nat
  shift : Int

def CaseRun.covers (r : CaseRun) (c : Nat) : Bool :=
  r.first ≤ c && c ≤ r.last && (c - r.first) % r.step == 0

/-- The image of a character under a list of runs; a character that no run covers is its own image. -/
def shiftCase (runs : List CaseRun) (c : Char) : Char :=
  match runs.find? (·.covers c.toNat) with
  | some r => Char.ofNat (c.toNat + r.shift).toNat
  | none => c

end LivePage.Text
