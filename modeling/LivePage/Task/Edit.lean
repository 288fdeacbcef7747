import LivePage.Task.Line
/-!
# Editing tasks

Reads and edits the task items of one anchored section of a text. An edit changes no more than it has to: a
toggle changes the mark of one item, an addition inserts one line.
-/
namespace LivePage

open Text

inductive EditError where
  | sectionNotFound (anchor : String)
  | taskNotFound (id : String)
  | invalidText
deriving DecidableEq, Repr

def EditError.message : EditError → String
  | sectionNotFound anchor => s!"section `{anchor}` not found"
  | taskNotFound id => s!"task `{id}` not found in section"
  | invalidText => "task text must be a single non-empty line"

/-- A text as lines with their line ends, and what each line is (`Lines`). -/
structure EditableText where
  lines : List (List Char)
  kinds : List LineKind

namespace EditableText

/-- Cuts a text into lines whose kinds are those of its own events. -/
def ofText (text : String) : EditableText :=
  let lines := linesWithEnds text.toList
  ⟨lines, (lineKinds text).take lines.length⟩

/-- Whether a line is a heading with an anchor, written by the author or not. -/
def hasAnchor (anchor : String) (explicit : Bool) : LineKind → Bool
  | .heading _ _ a e => a == anchor && e == explicit
  | _ => false

/-- The line of the heading that an anchor names: one with that id, else one with that text. -/
def headingLine? (t : EditableText) (anchor : String) : Option Nat :=
  (t.kinds.findIdx? (hasAnchor anchor true)).or (t.kinds.findIdx? (hasAnchor anchor false))

/-- The heading line of the section that an anchor names, and the line after the section (`Lines.section`). -/
def section? (t : EditableText) (anchor : String) : Except EditError (Nat × Nat) :=
  let anchor := match anchor.toList with
    | '#' :: rest => String.ofList rest
    | _ => anchor
  match t.headingLine? anchor with
  | some heading =>
    .ok (heading, heading + 1 + ((t.kinds.drop (heading + 1)).takeWhile (!·.isHeading)).length)
  | none => .error (.sectionNotFound anchor)

/-- The item on a line that is a task, with the parts of the line. -/
def itemAt? (t : EditableText) (i : Nat) : Option (TaskItem × TaskItem.Parts) :=
  if t.kinds[i]? = some .task then TaskItem.read? (dropLineEnd (t.lines.getD i [])) (i + 1) else none

/-- The items between a heading and the end of its section (`Lines.items`). -/
def items (t : EditableText) (heading stop : Nat) : List (TaskItem × TaskItem.Parts) :=
  (List.range' (heading + 1) (stop - (heading + 1))).filterMap t.itemAt?

/-- The text with one line changed. -/
def replaceLine (t : EditableText) (i : Nat) (f : List Char → List Char) : String :=
  String.ofList (t.lines.modify i f).flatten

end EditableText

/-- The task items of the section that an anchor names (`read_tasks`). -/
def readTasks (text anchor : String) : Except EditError (List TaskItem) := do
  let t := EditableText.ofText text
  let (heading, stop) ← t.section? anchor
  return (t.items heading stop).map (·.1)

/-- A line with another mark after what comes before its mark. -/
def setMark (before : List Char) (mark : Char) (line : List Char) : List Char :=
  before ++ mark :: line.drop (before.length + 1)

/-- Opens or closes the first item with an id in the section that an anchor names (`toggle_task`). -/
def toggleTask (text anchor id : String) : Except EditError String := do
  let t := EditableText.ofText text
  let (heading, stop) ← t.section? anchor
  match (t.items heading stop).find? (·.1.id == id) with
  | none => throw (.taskNotFound id)
  | some (item, parts) =>
    return t.replaceLine (item.line - 1) (setMark parts.before (if item.done then ' ' else 'x'))

/-- An open item after a line; a line without a line end gets one, and then the item has none. -/
def appendItem (newline item line : List Char) : List Char :=
  let added := "- [ ] ".toList ++ item
  if line.getLast? = some '\n' then line ++ added ++ newline else line ++ newline ++ added

/-- Adds an open item after the last line of a section that is not blank (`add_task`). -/
def addTask (text anchor item : String) : Except EditError String := do
  let item := trim item.toList
  if item.isEmpty || item.any isLineEnd then throw .invalidText
  let t := EditableText.ofText text
  let (heading, stop) ← t.section? anchor
  let inSection := (t.kinds.take stop).drop heading
  let last := heading + (dropBlankEnd inSection).length - 1
  let newline := if (dropSuffix? "\r\n".toList (t.lines.getD heading [])).isSome then "\r\n" else "\n"
  return t.replaceLine last (appendItem newline.toList item)
where
  dropBlankEnd (kinds : List LineKind) : List LineKind := (kinds.reverse.dropWhile (· == .blank)).reverse

end LivePage
