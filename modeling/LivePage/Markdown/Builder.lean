import LivePage.Markdown.Container
import LivePage.Markdown.Definition
import LivePage.Markdown.Node
/-!
# Building the tree of blocks

The state in which blocks are read: the containers that are open, innermost first, each with what it holds so far.
Opening, closing and adding go to the innermost one. A list is tight until a blank line between its items loosens it.
-/
namespace LivePage.Markdown

/-- An open container or block with what it holds so far. -/
structure OpenNode where
  body : Body
  start : Nat
  children : Array Node := #[]

/-- The state of reading blocks. -/
structure Builder where
  source : Buffer
  roots : Array Node := #[]
  opened : List OpenNode := []
  /-- The end of the marker line of a list item that has nothing in it yet. -/
  emptyItem : Option Nat := none
  blankBefore : Bool := false
  /-- The task marker that the next paragraph starts with. -/
  task : Option Node := none
  links : LabelTable LinkDefinition := []
  footnotes : LabelTable Unit := []

abbrev BlockM := StateM Builder

/-! ## The tree -/

namespace Node

/-- A paragraph in a tight list has no tags of its own. -/
def tightenParagraph (n : Node) : Node :=
  if n.body = .paragraph then { n with body := .tightParagraph } else n

/-- Loosens the paragraphs of the items of a tight list from their tags. -/
def tighten (n : Node) : Node :=
  { n with children := n.children.map fun item => { item with children := item.children.map tightenParagraph } }

end Node

namespace Builder

/-- Where the next line is read. -/
def context (s : Builder) : Context := ⟨s.source, (s.opened.map (·.body)).reverse⟩

def top? (s : Builder) : Option Body := s.opened.head?.map (·.body)

/-- What the innermost open node holds, or the document if nothing is open. -/
def children (s : Builder) : Array Node :=
  match s.opened with
  | o :: _ => o.children
  | [] => s.roots

def setChildren (s : Builder) (nodes : Array Node) : Builder :=
  match s.opened with
  | o :: rest => { s with opened := { o with children := nodes } :: rest }
  | [] => { s with roots := nodes }

def append (s : Builder) (n : Node) : Builder := s.setChildren (s.children.push n)

def appendText (s : Builder) (start stop : Nat) : Builder :=
  s.setChildren (Node.appendText s.children start stop)

/-- Opens a node in the innermost open one. -/
def push (s : Builder) (body : Body) (start : Nat) : Builder :=
  { s with opened := { body, start } :: s.opened }

def setTop (s : Builder) (body : Body) : Builder :=
  match s.opened with
  | o :: rest => { s with opened := { o with body } :: rest }
  | [] => s

/-- Closes the innermost open node at a position. -/
def pop (s : Builder) (stop : Nat) : Builder :=
  match s.opened with
  | [] => s
  | o :: rest =>
    let node : Node := { body := o.body, start := o.start, stop, children := o.children.toList }
    let s := { s with opened := rest }
    match o.body with
    | .list true _ _ => { s.append node.tighten with emptyItem := none }
    | _ => s.append node

/-- Closes nodes at a position until so many are open. -/
def popTo (s : Builder) (stop : Nat) (count : Nat) : Builder :=
  (List.range (s.opened.length - count)).foldl (fun s _ => s.pop stop) s

def finish (s : Builder) (stop : Nat) : Builder := s.popTo stop 0

/-! ## Lists -/

/-- Closes a list item that starts with two blank lines, for nothing more can be in it. -/
def finishEmptyItem (s : Builder) : Builder :=
  let closed := match s.emptyItem, s.top? with
    | some stop, some (.item _) => if s.blankBefore then s.pop stop else s
    | _, _ => s
  { closed with emptyItem := none }

/-- Marks the list that the innermost open node is an item of as loose, after a blank line. -/
def loosenOuter (s : Builder) : Builder :=
  if !s.blankBefore then s else
  match s.opened with
  | inner :: outer :: rest =>
    match outer.body with
    | .list _ mark start =>
      { s with opened := inner :: { outer with body := .list false mark start } :: rest, blankBefore := false }
    | _ => { s with blankBefore := false }
  | _ => { s with blankBefore := false }

/-- Closes a list that no item of is open, for a line that starts something else. -/
def finishList (s : Builder) (stop : Nat) : Builder :=
  let s := s.finishEmptyItem
  let s := match s.top? with
    | some (.list _ _ _) => s.pop stop
    | _ => s
  s.loosenOuter

/-- Goes on with a list whose items have this mark, or starts one. -/
def continueList (s : Builder) (start : Nat) (mark : Char) (number : Nat) : Builder :=
  let s := s.finishEmptyItem
  let fresh (s : Builder) := { s.push (.list true mark number) start with blankBefore := false }
  match s.top? with
  | some (.list _ m n) =>
    if m ≠ mark then fresh (s.finishList start)
    else if s.blankBefore then { s.setTop (.list false m n) with blankBefore := false }
    else s
  | some _ => fresh (s.finishList start)
  | none => fresh s

end Builder

end LivePage.Markdown
