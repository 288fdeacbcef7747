import LivePage.Text.Lines
/-!
# Line maps

A body may start below a header and may have had lines replaced before it is read, so a position in it is not yet a
position in the file. A line map takes byte offsets of the body to line numbers of the file. Columns are those of
the body's own line.
-/
namespace LivePage

open Text

/-- From byte offsets of a body to lines of the file that it came from. -/
structure LineMap where
  starts : List Nat
  /-- For each line of a body with replaced lines, the line of the body as written that it came from. -/
  origins : Option (List Nat)
  firstLine : Nat

namespace LineMap

/-- A body that stands in the file as it is. -/
def identity (text : String) (firstLine : Nat) : LineMap := ⟨lineStarts text.toList, none, firstLine⟩

/-- A body with replaced lines, and the origins of its lines. -/
def remapped (text : String) (firstLine : Nat) (origins : List Nat) : LineMap :=
  ⟨lineStarts text.toList, some origins, firstLine⟩

/-- Line of the file that holds a byte of the body (`line_of`); past the listed origins the last one stands. -/
def lineOf (m : LineMap) (offset : Nat) : Nat :=
  let index := lineIndex m.starts offset
  match m.origins with
  | none => m.firstLine + index
  | some origins => m.firstLine + (origins[index]?.or origins.getLast?).getD 0

/-- Column of a byte within its line, counted in bytes from one (`column_of`). -/
def columnOf (m : LineMap) (offset : Nat) : Nat :=
  offset - (m.starts[lineIndex m.starts offset]?).getD 0 + 1

end LineMap

end LivePage
