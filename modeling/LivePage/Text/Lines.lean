import LivePage.Text.Basic
/-!
# Lines

A line ends with a line feed. Three ways to list the lines of a text are in use: with their terminators, between
the line feeds, and as shown to a reader, where a carriage return before the line feed is dropped too.
-/
namespace LivePage.Text

/-- Lines with their line feeds; nothing follows a final line feed. -/
def linesWithEnds : List Char → List (List Char)
  | [] => []
  | '\n' :: cs => ['\n'] :: linesWithEnds cs
  | c :: cs =>
    match linesWithEnds cs with
    | [] => [[c]]
    | l :: ls => (c :: l) :: ls

/-- Whether a character ends a line or belongs to its end. -/
def isLineEnd (c : Char) : Bool := c == '\n' || c == '\r'

/-- A line without its line feed and the carriage returns before it. -/
def dropLineEnd (line : List Char) : List Char := dropEndWhile isLineEnd line

/-- A line as shown: without its line feed, and then without one carriage return. -/
def shownLine (line : List Char) : List Char :=
  match dropSuffix? ['\n'] line with
  | none => line
  | some l => (dropSuffix? ['\r'] l).getD l

/-- The lines of a text as shown to a reader. -/
def shownLines (cs : List Char) : List (List Char) := (linesWithEnds cs).map shownLine

/-- Byte offsets at which lines start (`line_starts`): zero and the place after each line feed. -/
def lineStarts (cs : List Char) : List Nat := 0 :: go 0 cs
where
  go : Nat → List Char → List Nat
    | _, [] => []
    | offset, c :: cs =>
      let next := offset + c.utf8Size
      if c = '\n' then next :: go next cs else go next cs

/-- Index of the line that holds an offset (`body_line`): the last one that starts at or before it. -/
def lineIndex (starts : List Nat) (offset : Nat) : Nat := (starts.takeWhile (· ≤ offset)).length - 1

/-- Byte range of a line, counted from one, without its line end (`line_range`). -/
def lineRange? (cs : List Char) (line : Nat) : Option (Nat × Nat) :=
  if line = 0 then none else
  let ls := linesWithEnds cs
  match ls[line - 1]? with
  | none => none
  | some l =>
    let start := byteLength (ls.take (line - 1)).flatten
    some (start, start + byteLength (dropLineEnd l))

end LivePage.Text
