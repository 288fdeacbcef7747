import LivePage.Markdown.Node
import LivePage.Span
/-!
# Events

A document as a sequence of events in reading order: an opening and a closing event for everything that has
content, with the content between them, and single events for the rest. Each event names the byte range that it
covers; a closing event has the range of its opening one.
-/
namespace LivePage.Markdown

/-- What an opening event opens. -/
inductive Tag where
  | paragraph
  | heading (level : Nat) (attributes : HeadingAttributes)
  | blockQuote
  /-- A code block, with its info string if it is fenced. -/
  | codeBlock (info : Option String)
  | htmlBlock
  /-- A list, with its first number if it is ordered. -/
  | list (first : Option Nat)
  | item
  | footnoteDefinition (label : String)
  | table (columns : List Alignment)
  | tableHead
  | tableRow
  | tableCell
  | emphasis
  | strong
  | strikethrough
  | link (target : LinkTarget)
  | image (target : LinkTarget)
deriving DecidableEq, Repr

inductive EndTag where
  | paragraph
  | heading (level : Nat)
  | blockQuote
  | codeBlock
  | htmlBlock
  | list (ordered : Bool)
  | item
  | footnoteDefinition
  | table
  | tableHead
  | tableRow
  | tableCell
  | emphasis
  | strong
  | strikethrough
  | link
  | image
deriving DecidableEq, Repr

def Tag.toEnd : Tag → EndTag
  | paragraph => .paragraph
  | heading level _ => .heading level
  | blockQuote => .blockQuote
  | codeBlock _ => .codeBlock
  | htmlBlock => .htmlBlock
  | list first => .list first.isSome
  | item => .item
  | footnoteDefinition _ => .footnoteDefinition
  | table _ => .table
  | tableHead => .tableHead
  | tableRow => .tableRow
  | tableCell => .tableCell
  | emphasis => .emphasis
  | strong => .strong
  | strikethrough => .strikethrough
  | link _ => .link
  | image _ => .image

inductive Event where
  | start (tag : Tag)
  | stop (tag : EndTag)
  | text (text : String)
  | code (text : String)
  /-- Raw markup of a block. -/
  | html (text : String)
  /-- Raw markup within a line. -/
  | inlineHtml (text : String)
  | footnoteReference (label : String)
  | softBreak
  | hardBreak
  | thematicBreak
  | taskMarker (ticked : Bool)
deriving DecidableEq, Repr

/-- An event with the byte range that it covers. -/
structure PlacedEvent where
  event : Event
  span : Span
deriving DecidableEq, Repr

namespace Event

/-- The words that an event adds to the text around it. -/
def words : Event → String
  | text s | code s => s
  | _ => ""

def closesHeading : Event → Bool
  | stop (.heading _) => true
  | _ => false

def closesCode : Event → Bool
  | stop .codeBlock => true
  | _ => false

end Event

end LivePage.Markdown
