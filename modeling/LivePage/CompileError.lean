import LivePage.Span
import LivePage.Text.Lines
/-!
# Compile errors

The first fatal problem of a page: what is wrong, where, and what may help. A compile error prints as one line and
as a report that shows the lines around the problem.
-/
namespace LivePage

open Text

/-- What a fatal problem is about. -/
inductive ErrorKind where
  /-- The header could not be split off or decoded, or the source could not be read. -/
  | structural
  | unknownBlockType
  | reference
  /-- A collected block has no place in the rendered page. -/
  | render
deriving DecidableEq, Repr

/-- The name of a kind, as reports and expectations use it. -/
def ErrorKind.name : ErrorKind → String
  | .structural => "structural"
  | .unknownBlockType => "unknown-block-type"
  | .reference => "reference"
  | .render => "render"

/-- A fatal problem with its place in the file (`ParseError`). -/
structure CompileError where
  kind : ErrorKind
  file : String
  line : Nat
  message : String
  /-- Column in bytes, counted from one, when it is known. -/
  column : Option Nat := none
  span : Option Span := none
  hint : Option String := none
  related : Option String := none
deriving DecidableEq, Repr

namespace CompileError

/-- The problem on one line: file, line and message. -/
def display (e : CompileError) : String := s!"{e.file}:{e.line}: {e.message}"

/-- A problem without a range gets the range of its line (`located_in`). -/
def locatedIn (e : CompileError) (source : String) : CompileError :=
  match e.span with
  | some _ => e
  | none => { e with span := (lineRange? source.toList e.line).map fun (a, b) => ⟨a, b⟩ }

/-- A line number right-aligned to two places, with the bar that separates it from the line's text. -/
def contextLabel (number : Nat) : String :=
  let digits := toString number
  "  " ++ (if digits.length < 2 then " " ++ digits else digits) ++ " | "

/-- One context line; the line in question has a caret under the column, if one is known. -/
def contextLine (e : CompileError) (number : Nat) (text : List Char) : String :=
  let label := contextLabel number
  let shown := label ++ String.ofList text ++ "\n"
  match e.column with
  | some column =>
    if number = e.line ∧ 0 < column then
      shown ++ String.ofList (List.replicate (label.length + column - 1) ' ') ++ "^\n"
    else shown
  | none => shown

/-- Up to two lines on either side of the line in question (`context`); none when the source has no such line. -/
def context? (e : CompileError) (source : String) : Option String :=
  let lines := shownLines source.toList
  if e.line < 1 || lines.length < e.line then none else
  let first := max (e.line - 2) 1
  let last := min (e.line + 2) lines.length
  let shown := (lines.drop (first - 1)).take (last + 1 - first)
  some ("\n" ++ String.join ((shown.zipIdx first).map fun (text, number) => e.contextLine number text))

/-- The full report (`render_report`); without the source it has no context lines. -/
def report (e : CompileError) (source : Option String) : String :=
  s!"Error in {e.file}\n\nLine {e.line}: {e.message}\n"
    ++ ((source.bind e.context?).getD "")
    ++ (match e.hint with | some h => s!"\nHint: {h}\n" | none => "")
    ++ (match e.related with | some r => s!"\nRelated: {r}\n" | none => "")

end CompileError

end LivePage
