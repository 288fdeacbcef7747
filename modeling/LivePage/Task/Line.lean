import LivePage.Anchor
import LivePage.Markdown.Document
import LivePage.Task.Item
import LivePage.Text.Lines
/-!
# Lines and their kinds

What each line of a text is, as far as sections of tasks care: a heading, a task item, a line of code, a blank
line, or something else. Headings, code and task items come from the events of the text, so they have the bounds
that the rest of a page gives them.
-/
namespace LivePage

open Text Markdown

/-- What a line is. -/
inductive LineKind where
  /-- The line of a heading, with its anchor and whether the author wrote it. -/
  | heading (level : Nat) (text anchor : String) (explicit : Bool)
  | task
  | blank
  | code
  | other
deriving DecidableEq, Repr

namespace LineKind

def isHeading : LineKind → Bool
  | heading _ _ _ _ => true
  | _ => false

/-- What a line is by itself. -/
def plain (line : List Char) : LineKind := if isBlankText line then blank else other

end LineKind

/-- The lines of a text with the offsets at which they start. -/
structure TextLines where
  lines : List (List Char)
  starts : List Nat

namespace TextLines

/-- The pieces of a text between its line feeds. -/
def ofText (text : List Char) : TextLines := ⟨splitOn '\n' text, lineStarts text⟩

def lineOf (t : TextLines) (offset : Nat) : Nat := lineIndex t.starts offset

/-- The line that holds the last byte of a range. -/
def lastLineOf (t : TextLines) (s : Span) : Nat := t.lineOf (max (s.stop - 1) s.start)

def line (t : TextLines) (i : Nat) : List Char := t.lines.getD i []

/-- What stands on a line before an offset. -/
def before (t : TextLines) (offset : Nat) : List Char :=
  let i := t.lineOf offset
  (takeBytes? (t.line i) (offset - t.starts.getD i 0)).getD []

end TextLines

/-- Sets the kind of the lines from one to another. -/
def setKinds (kind : LineKind) (first last : Nat) (kinds : List LineKind) : List LineKind :=
  kinds.mapIdx fun i k => if first ≤ i ∧ i ≤ last then kind else k

/-- The words of a heading whose content starts a sequence of events. -/
def headingText (events : List PlacedEvent) : String :=
  String.join ((events.takeWhile (!·.event.closesHeading)).map (·.event.words))

/-- The kind of a heading's line. -/
def headingKind (level : Nat) (attributes : HeadingAttributes) (words : String) : LineKind :=
  let text := String.ofList (trim words.toList)
  match attributes.id with
  | some id => .heading level text id.text true
  | none => .heading level text (slugify text) false

/-- Notes a heading. One that does not come first on its line, apart from white space, is part of a container and
counts for nothing; the line under an underlined one is part of it. -/
def markHeading (t : TextLines) (span : Span) (kind : LineKind) (kinds : List LineKind) : List LineKind :=
  if !isBlankText (t.before span.start) then kinds else
  let i := t.lineOf span.start
  setKinds .other (i + 1) (t.lastLineOf span) (setKinds kind i i kinds)

/-- Notes what events say about lines (`classify_lines`). Inside a heading nothing counts. -/
def markLines (t : TextLines) : Bool → List PlacedEvent → List LineKind → List LineKind
  | _, [], kinds => kinds
  | true, e :: rest, kinds => markLines t (!e.event.closesHeading) rest kinds
  | false, e :: rest, kinds =>
    match e.event with
    | .start (.codeBlock _) =>
      markLines t false rest (setKinds .code (t.lineOf e.span.start) (t.lastLineOf e.span) kinds)
    | .start (.heading level attributes) =>
      markLines t true rest (markHeading t e.span (headingKind level attributes (headingText rest)) kinds)
    | .taskMarker _ =>
      let i := t.lineOf e.span.start
      markLines t false rest (if TaskItem.isItem (t.line i) then setKinds .task i i kinds else kinds)
    | _ => markLines t false rest kinds

/-- What each line of a text with these events is. -/
def lineKindsOf (text : String) (events : List PlacedEvent) : List LineKind :=
  let t := TextLines.ofText text.toList
  markLines t false events (t.lines.map .plain)

/-- What each line of a text is (`classify_lines`); a line feed at the end starts one more. -/
def lineKinds (text : String) : List LineKind := lineKindsOf text (events text)

end LivePage
