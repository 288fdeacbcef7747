import LivePage.Markdown.Event
import LivePage.Text.Lines
/-!
# HTML

Writes a sequence of events as HTML. Most blocks start on a line of their own, so the state remembers whether what
has been written ends a line. The content of an image becomes its alternative text, and footnotes are numbered in
the order in which their labels are first met.
-/
namespace LivePage.Markdown

namespace Html

/-! ## Escaping -/

def escapeChar : Char → String
  | '&' => "&amp;"
  | '<' => "&lt;"
  | '>' => "&gt;"
  | c => String.singleton c

def escapeText (s : String) : String := String.join (s.toList.map escapeChar)

def escapeValue (s : String) : String :=
  String.join (s.toList.map fun c => if c = '"' then "&quot;" else escapeChar c)

def hexDigit (n : Nat) : Char := "0123456789ABCDEF".toList.getD n '0'

/-- One byte of an address: kept if it is safe there, and otherwise escaped. -/
def escapeAddressByte (x : UInt8) : String :=
  let c := Char.ofUInt8 x
  if isLetterOrDigit x || isOneOf "!#$%()*+,-./:;=?@_~" x then String.singleton c
  else if c = '&' then "&amp;"
  else if c = '\'' then "&#x27;"
  else String.ofList ['%', hexDigit (x.toNat / 16), hexDigit (x.toNat % 16)]

def escapeAddress (s : String) : String := String.join (s.toUTF8.toList.map escapeAddressByte)

/-! ## Writing -/

/-- An image whose content is being read. -/
structure OpenImage where
  title : String
  /-- Openings inside the image that are not closed yet. -/
  depth : Nat := 0

structure Writer where
  out : String := ""
  atLineStart : Bool := true
  columns : List Alignment := []
  inHead : Bool := false
  cell : Nat := 0
  footnotes : List String := []
  image : Option OpenImage := none

namespace Writer

/-- Writes without regard to where lines end. -/
def emit (w : Writer) (s : String) : Writer := { w with out := w.out ++ s }

/-- Writes markup. -/
def put (w : Writer) (s : String) : Writer :=
  { w.emit s with atLineStart := if s.isEmpty then w.atLineStart else s.toList.getLast? == some '\n' }

/-- Writes text that is escaped, and ends a line if the text does. -/
def putText (w : Writer) (escape : String → String) (s : String) : Writer :=
  { w.emit (escape s) with atLineStart := s.toList.getLast? == some '\n' }

/-- Writes markup that starts on a line of its own. -/
def putOnLine (w : Writer) (s : String) : Writer := w.put (if w.atLineStart then s else "\n" ++ s)

def footnote (w : Writer) (label : String) : Nat × Writer :=
  match w.footnotes.idxOf? label with
  | some k => (k + 1, w)
  | none => (w.footnotes.length + 1, { w with footnotes := w.footnotes ++ [label] })

/-- An attribute of a tag, with its value. -/
def pairOf (name value : String) : String := s!" {name}=\"{escapeValue value}\""

def headingAttributes (h : HeadingAttributes) : String :=
  (match h.id with
    | some id => pairOf "id" id.text
    | none => "")
  ++ (if h.classes.isEmpty then "" else " class=\"" ++ " ".intercalate (h.classes.map escapeValue) ++ "\"")
  ++ String.join (h.others.map fun (name, value) => pairOf (escapeValue name) (value.getD ""))

/-- The title of a link or image, if it has one, after its address. -/
def title (s : String) : String := if s.isEmpty then "" else "\" title=\"" ++ escapeValue s

def openCell (w : Writer) : Writer :=
  let name := if w.inHead then "th" else "td"
  let align := match w.columns[w.cell]? with
    | some .left => " style=\"text-align: left\""
    | some .center => " style=\"text-align: center\""
    | some .right => " style=\"text-align: right\""
    | _ => ""
  w.put s!"<{name}{align}>"

def codeTag (info : Option String) : String :=
  let language := ((info.getD "").toList.takeWhile (· ≠ ' '))
  if language.isEmpty then "<pre><code>"
  else s!"<pre><code class=\"language-{escapeValue (String.ofList language)}\">"

def linkTag (t : LinkTarget) : String :=
  let scheme := if t.kind = .email then "mailto:" else ""
  "<a href=\"" ++ scheme ++ escapeAddress t.destination ++ title t.title ++ "\">"

def openTag (w : Writer) : Tag → Writer
  | .paragraph => w.putOnLine "<p>"
  | .heading level h => w.putOnLine s!"<h{level}{headingAttributes h}>"
  | .blockQuote => w.putOnLine "<blockquote>\n"
  | .codeBlock info => w.putOnLine (codeTag info)
  | .htmlBlock => w
  | .list none => w.putOnLine "<ul>\n"
  | .list (some first) => w.putOnLine (if first = 1 then "<ol>\n" else s!"<ol start=\"{first}\">\n")
  | .item => w.putOnLine "<li>"
  | .footnoteDefinition label =>
    let (n, w) := w.footnote label
    w.putOnLine <|
      s!"<div class=\"footnote-definition\" id=\"{escapeValue label}\">"
        ++ s!"<sup class=\"footnote-definition-label\">{n}</sup>"
  | .table columns => { w with columns }.put "<table>"
  | .tableHead => { w with inHead := true, cell := 0 }.put "<thead><tr>"
  | .tableRow => { w with cell := 0 }.put "<tr>"
  | .tableCell => w.openCell
  | .emphasis => w.put "<em>"
  | .strong => w.put "<strong>"
  | .strikethrough => w.put "<del>"
  | .link target => w.put (linkTag target)
  | .image target =>
    { w.put ("<img src=\"" ++ escapeAddress target.destination ++ "\" alt=\"") with image := some ⟨target.title, 0⟩ }

def closeTag (w : Writer) : EndTag → Writer
  | .paragraph => w.put "</p>\n"
  | .heading level => w.put s!"</h{level}>\n"
  | .blockQuote => w.put "</blockquote>\n"
  | .codeBlock => w.put "</code></pre>\n"
  | .htmlBlock => w
  | .list ordered => w.put (if ordered then "</ol>\n" else "</ul>\n")
  | .item => w.put "</li>\n"
  | .footnoteDefinition => w.put "</div>\n"
  | .table => w.put "</tbody></table>\n"
  | .tableHead => { w.put "</tr></thead><tbody>\n" with inHead := false }
  | .tableRow => w.put "</tr>\n"
  | .tableCell => { w.put (if w.inHead then "</th>" else "</td>") with cell := w.cell + 1 }
  | .emphasis => w.put "</em>"
  | .strong => w.put "</strong>"
  | .strikethrough => w.put "</del>"
  | .link => w.put "</a>"
  | .image => w

/-- Writes an event inside an image, as alternative text. -/
def writeInImage (w : Writer) (image : OpenImage) : Event → Writer
  | .start _ => { w with image := some { image with depth := image.depth + 1 } }
  | .stop _ =>
    match image.depth with
    | 0 => { w with image := none }.put (title image.title ++ "\" />")
    | depth + 1 => { w with image := some { image with depth } }
  | .html _ => w
  | .text s | .code s | .inlineHtml s => w.putText escapeValue s
  | .softBreak | .hardBreak | .thematicBreak => w.put " "
  | .footnoteReference label =>
    let (n, w) := w.footnote label
    w.emit s!"[{n}]"
  | .taskMarker ticked => w.put (if ticked then "[x]" else "[ ]")

/-- Writes an event outside images. -/
def writeOutside (w : Writer) : Event → Writer
  | .start tag => w.openTag tag
  | .stop tag => w.closeTag tag
  | .text s => w.putText escapeText s
  | .code s => w.put ("<code>" ++ escapeText s ++ "</code>")
  | .html s | .inlineHtml s => w.put s
  | .softBreak => w.put "\n"
  | .hardBreak => w.put "<br />\n"
  | .thematicBreak => w.putOnLine "<hr />\n"
  | .footnoteReference label =>
    let (n, w) := w.footnote label
    w.put s!"<sup class=\"footnote-reference\"><a href=\"#{escapeValue label}\">{n}</a></sup>"
  | .taskMarker ticked =>
    w.put (if ticked then "<input disabled=\"\" type=\"checkbox\" checked=\"\"/>\n"
      else "<input disabled=\"\" type=\"checkbox\"/>\n")

def write (w : Writer) (e : Event) : Writer :=
  match w.image with
  | some image => w.writeInImage image e
  | none => w.writeOutside e

end Writer

/-- The HTML of a sequence of events. -/
def render (events : List Event) : String := (events.foldl Writer.write {}).out

end Html

end LivePage.Markdown
