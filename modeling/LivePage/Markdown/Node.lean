import LivePage.Markdown.Marker
/-!
# Document trees

A document is a tree of nodes, each with the byte range that it covers. Reading blocks gives a tree whose leaves
are pieces of lines; among them are tokens that may or may not turn out to be markup. Reading inlines replaces the
tokens by what they are.
-/
namespace LivePage.Markdown

/-- The id of a heading. White space would end it, so it stands on one line. -/
structure HeadingName where
  text : String
  oneLine : '\n' ∉ text.toList
deriving DecidableEq, Repr

/-- The id, the classes and the other attributes written after a heading. -/
structure HeadingAttributes where
  id : Option HeadingName := none
  classes : List String := []
  others : List (String × Option String) := []
deriving DecidableEq, Repr

/-- How a link was written. -/
inductive LinkKind where
  | inline
  | reference
  | collapsed
  | shortcut
  | autolink
  | email
deriving DecidableEq, Repr

/-- A link or image: how it was written, where it leads, and its title. -/
structure LinkTarget where
  kind : LinkKind
  destination : String
  title : String
deriving DecidableEq, Repr

inductive Body where
  -- containers of blocks
  | document
  | blockQuote
  | list (tight : Bool) (mark : Char) (start : Nat)
  | item (indent : Nat)
  | footnoteDefinition (label : String)
  -- blocks
  | paragraph
  | tightParagraph
  | heading (level : Nat) (attributes : HeadingAttributes)
  | fencedCode (info : String)
  | indentedCode
  | htmlBlock
  | thematicBreak
  | table (columns : List Alignment)
  | tableHead
  | tableRow
  | tableCell
  -- inlines
  | text (escaped : Bool)
  | literal (text : String)
  | html
  | inlineHtml (text : String)
  | code (text : String)
  | softBreak
  | hardBreak (backslash : Bool)
  | taskMarker (ticked : Bool)
  | emphasis
  | strong
  | strikethrough
  | link (target : LinkTarget)
  | image (target : LinkTarget)
  | footnoteReference (label : String)
  -- tokens that may turn out to be inlines
  | delimiters (mark : Char) (count : Nat) (canOpen canClose : Bool)
  | backticks (count : Nat) (escaped : Bool)
  | angle
  | linkOpen
  | imageOpen
  | linkClose (mayRefer : Bool)
deriving DecidableEq, Repr

/-- A node with the byte range that it covers. -/
structure Node where
  body : Body
  start : Nat
  stop : Nat
  children : List Node := []

namespace Body

/-- Whether a token may turn out to be markup. -/
def isToken : Body → Bool
  | delimiters _ _ _ _ | backticks _ _ | angle | linkOpen | imageOpen | linkClose _ => true
  | _ => false

def isText : Body → Bool
  | text _ => true
  | _ => false

end Body

namespace Node

def text (start stop : Nat) (escaped : Bool := false) : Node := { body := .text escaped, start, stop }

/-- A token that has turned out to be no markup. -/
def toText (n : Node) : Node := if n.body.isToken then { n with body := .text false } else n

/-- Adds text after other nodes, joining it to text that it continues; empty text adds nothing. -/
def appendText (nodes : Array Node) (start stop : Nat) (escaped : Bool := false) : Array Node :=
  if stop ≤ start then nodes else
  match nodes.back? with
  | some last =>
    if last.body.isText && last.stop == start then nodes.pop.push { last with stop }
    else nodes.push (text start stop escaped)
  | none => nodes.push (text start stop escaped)

end Node

end LivePage.Markdown
