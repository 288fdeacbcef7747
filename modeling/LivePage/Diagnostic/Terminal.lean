import LivePage.Diagnostic.Basic
import LivePage.Text.Width
/-!
# Diagnostics on a terminal

A diagnostic as text: what is wrong, the lines with marked ranges, and notes. Line numbers stand to the left of a bar,
and carets stand below what is marked.
-/
namespace LivePage

open Text

def Severity.name : Severity → String
  | error => "error"
  | warning => "warning"

/-- A source text with the name that messages give it. -/
structure NamedText where
  name : String
  text : List Char

namespace Diagnostic

def tabWidth : Nat := 4

/-- The characters of a line, each with its byte offset and the columns that it takes; `column` is where they start. -/
def measured (offset column : Nat) : List Char → List (Char × Nat × Nat)
  | [] => []
  | c :: cs =>
    let columns := if c = '\t' then tabWidth - column % tabWidth else columnsOf c
    (c, offset, columns) :: measured (offset + c.utf8Size) (column + columns) cs

def copies (count : Nat) (c : Char) : List Char := List.replicate count c

/-- A line of text with blanks for tabulators. -/
def expanded (line : List Char) : List Char :=
  (measured 0 0 line).flatMap fun (c, _, columns) => if c = '\t' then copies columns ' ' else [c]

/-- Carets below the bytes of a line from `start` up to `stop`. One column behind the line can be marked too. -/
def carets (line : List Char) (start stop : Nat) : List Char :=
  (measured 0 0 line ++ [('\x00', byteLength line, 1)]).flatMap fun ((c, offset, columns) : Char × Nat × Nat) =>
    if max start offset < min stop (offset + c.utf8Size) then copies columns '^'
    else if offset < stop then copies columns ' '
    else []

/-- A marked range on one line. -/
structure MarkedLine where
  number : Nat
  /-- Column of the start, counted in characters from one. -/
  column : Nat
  line : List Char
  /-- Where the mark starts and ends in the line, in bytes. -/
  start : Nat
  stop : Nat

/-- The line on which a range starts; at least one byte of it counts as marked. -/
def markedLine (text : List Char) (range : Span) : MarkedLine :=
  let lines := linesWithEnds text
  let starts := lineStarts text
  let index := lineIndex starts range.start
  let start := range.start - starts.getD index 0
  let line := lines[index]?.getD []
  { number := index + 1
    column := ((takeBytes? line start).getD line).length + 1
    line := dropEndWhile (fun c => isLineEnd c || c == '\x00') line
    start
    stop := max (range.stop - starts.getD index 0) (start + 1) }

/-- The bar to the right of the line numbers, which may be followed by text. -/
def barred (width : Nat) (text : List Char) : String :=
  String.ofList (copies width ' ') ++ " │" ++ (if text.isEmpty then "" else " " ++ String.ofList text)

/-- The lines that show a marked range. -/
def snippet (name : String) (width : Nat) (m : MarkedLine) : List String :=
  let number := toString m.number
  let padding := String.ofList (copies (width - number.length) ' ')
  [ String.ofList (copies width ' ') ++ s!" ┌─ {name}:{m.number}:{m.column}",
    barred width [],
    padding ++ number ++ " │ " ++ String.ofList (expanded m.line),
    String.ofList (copies width ' ') ++ " │ " ++ String.ofList (carets m.line m.start m.stop) ]

/-- The text of a diagnostic about one source, whose ranges lie on one line each. -/
def render (d : Diagnostic) (source : NamedText) : String :=
  let code := (d.code.map fun c => s!"[{c}]").getD ""
  let marks := d.labels.map fun label => markedLine source.text label.range
  let width := ((marks.map fun m => (toString m.number).length).max?).getD 0
  let snippets := marks.flatMap (snippet source.name width)
  let border := if marks.isEmpty || d.notes.isEmpty then [] else [barred width []]
  let notes := d.notes.flatMap fun note =>
    (shownLines note.toList).mapIdx fun i line =>
      String.ofList (copies width ' ') ++ (if i = 0 then " = " else "   ") ++ String.ofList line
  String.join (([s!"{d.severity.name}{code}: {d.message}"] ++ snippets ++ border ++ notes ++ [""]).map (· ++ "\n"))

/-- The diagnostic for a warning about a range. -/
def ofWarning (message : String) (fileId : Nat) (range : Span) : Diagnostic :=
  { severity := .warning, code := none, message, labels := [{ fileId, range }] }

end Diagnostic

end LivePage
