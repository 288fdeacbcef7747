import LivePage.Markdown.Buffer
/-!
# Columns at the start of a line

Reads the indentation and the markers that open a line. A tab stands for the spaces up to the next column that is a
multiple of four; when only some of them are wanted the others stay owed.
-/
namespace LivePage.Markdown

/-- A place at the start of a line. -/
structure Cursor where
  ix : Nat
  /-- The position from which tab stops are counted. -/
  tabStart : Nat
  /-- Spaces of a tab that are not yet used up. -/
  owed : Nat := 0

namespace Cursor

/-- The start of a line or of what follows a marker. -/
def start (i : Nat) : Cursor := { ix := i, tabStart := i }

/-- Steps over up to `n` columns of space; returns how many are missing. -/
def skipColumns (b : Buffer) (c : Cursor) (n : Nat) : Cursor × Nat :=
  let used := min c.owed n
  go (n - used) { c with owed := c.owed - used } (n - used)
where
  go : Nat → Cursor → Nat → Cursor × Nat
    | 0, c, n => (c, n)
    | fuel + 1, c, n =>
      if n = 0 then (c, 0)
      else if b.isAt c.ix ' ' then go fuel { c with ix := c.ix + 1 } (n - 1)
      else if b.isAt c.ix '\t' then
        let width := 4 - (c.ix - c.tabStart) % 4
        let used := min width n
        go fuel { ix := c.ix + 1, tabStart := c.ix + 1, owed := width - used } (n - used)
      else (c, n)

/-- Steps over up to `n` columns of space; returns how many there were. -/
def skipUpTo (b : Buffer) (c : Cursor) (n : Nat) : Cursor × Nat :=
  let (c, missing) := c.skipColumns b n
  (c, n - missing)

/-- Steps over up to `n` columns of space; tells whether all were there. -/
def skipExactly (b : Buffer) (c : Cursor) (n : Nat) : Cursor × Bool :=
  let (c, missing) := c.skipColumns b n
  (c, missing == 0)

def skipAll (b : Buffer) (c : Cursor) : Cursor :=
  { c with ix := b.skipWhile (fun x => x == 32 || x == 9) c.ix, owed := 0 }

def isAtEol (b : Buffer) (c : Cursor) : Bool := (b.get? c.ix).all isEol

/-- Steps over the marker of a block quote and one column of space after it. -/
def skipQuoteMarker? (b : Buffer) (c : Cursor) : Option Cursor :=
  if b.isAt c.ix '>' then some ((Cursor.skipColumns b { c with ix := c.ix + 1 } 1).1) else none

end Cursor

end LivePage.Markdown
