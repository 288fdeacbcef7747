import LivePage.Markdown.Emphasis
import LivePage.Markdown.Event
import LivePage.Markdown.Links
/-!
# Documents

Reads a source into its events. Blocks come first; then every block that holds lines of text has its inlines
found: what binds tightly from left to right, and emphasis in what is left.
-/
namespace LivePage.Markdown

namespace Node

/-! ## Inlines -/

/-- Finds emphasis among pieces, if any of them may turn out to be markup. -/
def pairRuns (nodes : List Node) : List Node :=
  if nodes.any (·.body.isToken) then findEmphasis nodes else nodes

mutual

def pairRunsInside : Node → Node
  | ⟨body, start, stop, children⟩ => ⟨body, start, stop, pairRuns (pairRunsInAll children)⟩

def pairRunsInAll : List Node → List Node
  | [] => []
  | n :: rest => pairRunsInside n :: pairRunsInAll rest

end

def findInlines (ctx : InlineContext) (nodes : List Node) : List Node :=
  if nodes.any (·.body.isToken) then findEmphasis (pairRunsInAll (ctx.findLinks nodes)) else nodes

def holdsText : Body → Bool
  | .paragraph | .tightParagraph | .heading _ _ | .tableCell => true
  | _ => false

mutual

/-- Finds the inlines of a block inside others, outermost first. -/
def readInlines (b : Buffer) (o : Outline) (spine : List Body) : Node → Node
  | ⟨body, start, stop, children⟩ =>
    let spine := spine ++ [body]
    if holdsText body then
      ⟨body, start, stop, findInlines ⟨⟨b.upTo stop, spine⟩, o.links, o.footnotes⟩ children⟩
    else ⟨body, start, stop, readInlinesOfAll b o spine children⟩

def readInlinesOfAll (b : Buffer) (o : Outline) (spine : List Body) : List Node → List Node
  | [] => []
  | n :: rest => readInlines b o spine n :: readInlinesOfAll b o spine rest

end

end Node

/-! ## Events -/

/-- What the events of a node open, if it has opening and closing events. -/
def Body.tag? : Body → Option Tag
  | .blockQuote => some .blockQuote
  | .list _ mark start => some (.list (if mark == '.' || mark == ')' then some start else none))
  | .item _ => some .item
  | .footnoteDefinition label => some (.footnoteDefinition label)
  | .paragraph => some .paragraph
  | .heading level attributes => some (.heading level attributes)
  | .fencedCode info => some (.codeBlock (some info))
  | .indentedCode => some (.codeBlock none)
  | .htmlBlock => some .htmlBlock
  | .table columns => some (.table columns)
  | .tableHead => some .tableHead
  | .tableRow => some .tableRow
  | .tableCell => some .tableCell
  | .emphasis => some .emphasis
  | .strong => some .strong
  | .strikethrough => some .strikethrough
  | .link target => some (.link target)
  | .image target => some (.image target)
  | _ => none

/-- The event of a node without content, which covers a piece of the source. -/
def Body.event (piece : String) : Body → Event
  | .literal s => .text s
  | .html => .html piece
  | .inlineHtml s => .inlineHtml s
  | .code s => .code s
  | .softBreak => .softBreak
  | .hardBreak _ => .hardBreak
  | .thematicBreak => .thematicBreak
  | .taskMarker ticked => .taskMarker ticked
  | .footnoteReference label => .footnoteReference label
  | _ => .text piece

namespace Node

/-- The event of a piece of code, which is text as it is written. -/
def codeEvent (b : Buffer) (n : Node) : PlacedEvent :=
  match n.body with
  | .literal s => ⟨.text s, ⟨n.start, n.stop⟩⟩
  | _ => ⟨.text (b.slice n.start n.stop), ⟨n.start, n.stop⟩⟩

mutual

/-- The events of a node. In a code block there is nothing but text, and the lines of a paragraph in a tight list stand
without events of their own. -/
def events (b : Buffer) : Node → List PlacedEvent
  | ⟨body, start, stop, children⟩ =>
    match body.tag? with
    | some (.codeBlock info) =>
      ⟨.start (.codeBlock info), ⟨start, stop⟩⟩ ::
        (children.map (codeEvent b) ++ [⟨.stop .codeBlock, ⟨start, stop⟩⟩])
    | some tag =>
      ⟨.start tag, ⟨start, stop⟩⟩ :: (eventsOfAll b children ++ [⟨.stop tag.toEnd, ⟨start, stop⟩⟩])
    | none =>
      if body = .tightParagraph then eventsOfAll b children
      else [⟨body.event (b.slice start stop), ⟨start, stop⟩⟩]

def eventsOfAll (b : Buffer) : List Node → List PlacedEvent
  | [] => []
  | n :: rest => events b n ++ eventsOfAll b rest

end

end Node

/-- The events of a source. -/
def events (source : String) : List PlacedEvent :=
  let b := Buffer.ofString source
  let o := Outline.read b
  Node.eventsOfAll b (Node.readInlinesOfAll b o [] o.nodes)

end LivePage.Markdown
