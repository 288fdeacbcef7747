import LivePage.Task.ContentId
import LivePage.Text.Basic
import LivePage.Text.Word
/-!
# Task items

A task item is a list item with a mark in brackets: a space when it is open, an `x` in either case when it is
done. Its text may end with a comment that gives the item an id of its own; without one the text gives the id.
-/
namespace LivePage

open Text

/-- One task item of a section. -/
structure TaskItem where
  id : String
  text : String
  done : Bool
  /-- Line of the text, counted from one. -/
  line : Nat
deriving DecidableEq, Repr

namespace TaskItem

/-- A line of a task item, cut at its mark. -/
structure Parts where
  before : List Char
  mark : Char
  after : List Char
deriving DecidableEq, Repr

def isBullet (c : Char) : Bool := c == '-' || c == '*' || c == '+'

def isMark (c : Char) : Bool := c == ' ' || c == 'x' || c == 'X'

/-- Cuts a line at its mark: white space, a bullet, white space, and the mark in brackets. -/
def parts? (line : List Char) : Option Parts :=
  match line.dropWhile isBlank with
  | [] => none
  | bullet :: rest =>
    if !isBullet bullet || (rest.takeWhile isBlank).isEmpty then none else
    match rest.dropWhile isBlank with
    | '[' :: mark :: ']' :: after =>
      if isMark mark then
        some ⟨line.takeWhile isBlank ++ bullet :: rest.takeWhile isBlank ++ ['['], mark, after⟩
      else none
    | _ => none

/-- Whether a line looks like a task item (`TASK_ITEM`): white space, or nothing, comes after the closing bracket. -/
def isItem (line : List Char) : Bool := (parts? line).any fun p => p.after.head?.all isBlank

/-- The text before a comment that ends a text and names an id, and the id. -/
def splitId? (cs : List Char) : Option (List Char × List Char) := do
  let rest ← dropPrefix? ">--".toList (cs.reverse.dropWhile isBlank)
  let named := rest.dropWhile isBlank
  let id := named.takeWhile isWord
  if id.isEmpty then none
  let rest ← dropPrefix? ":di".toList (named.dropWhile isWord)
  let before ← dropPrefix? "--!<".toList (rest.dropWhile isBlank)
  return (before.reverse, id.reverse)

/-- The text of an item and the id that it names, from what comes after the closing bracket. -/
def content? (after : List Char) : Option (List Char × Option (List Char)) :=
  if after.head?.all isBlank then
    let body := after.dropWhile isBlank
    match splitId? body with
    | some (text, id) => some (dropEndWhile isBlank text, some id)
    | none => some (dropEndWhile isBlank body, none)
  else match splitId? after with
    | some ([], id) => some ([], some id)
    | _ => none

/-- Reads the item on a line without its line end, which has a number (`TASK_LINE`). -/
def read? (chars : List Char) (line : Nat) : Option (TaskItem × Parts) := do
  let parts ← parts? chars
  let (text, id) ← content? parts.after
  let text := String.ofList text
  let id := match id with
    | some id => String.ofList id
    | none => contentId text
  return (⟨id, text, parts.mark != ' ', line⟩, parts)

end TaskItem

end LivePage
