import LivePage.Markdown.Node
import LivePage.Text.Basic
/-!
# Heading lines

A heading may end with a block of attributes in braces, and a heading that opens with number signs may end with
more of them. Neither is part of its text.
-/
namespace LivePage.Markdown

namespace HeadingAttributes

def isSeparator (c : Char) : Bool := c == ' ' || c == '\t' || c == '\n' || c == '\r' || c == '\x0c'

/-- A word between the braces. -/
abbrev Word := { word : List Char // '\n' ∉ word }

def words (text : String) : List Word :=
  (text.toList.splitOnP isSeparator).attach.map fun ⟨word, h⟩ =>
    ⟨word, fun hmem => absurd (Text.eq_false_of_mem_splitOnP h _ hmem) (by decide)⟩

/-- Reads one attribute: an id, a class, a pair or a name. One character alone says nothing. -/
def add (h : HeadingAttributes) : Word → HeadingAttributes
  | ⟨[], _⟩ | ⟨[_], _⟩ => h
  | ⟨'#' :: id, hword⟩ =>
    { h with id := some ⟨String.ofList id, fun hmem => hword (List.mem_cons_of_mem _ (by simpa using hmem))⟩ }
  | ⟨'.' :: name, _⟩ => { h with classes := h.classes ++ [String.ofList name] }
  | ⟨word, _⟩ =>
    let key := word.takeWhile (· != '=')
    let value := match word.dropWhile (· != '=') with
      | [] => none
      | _ :: v => some (String.ofList v)
    { h with others := h.others ++ [(String.ofList key, value)] }

def parse (text : String) : HeadingAttributes :=
  (words text).foldl add {}

end HeadingAttributes

namespace Buffer

/-- The end of a heading's text before its attributes, and the attributes, if the heading has them. -/
def headingAttributes (b : Buffer) (start stop : Nat) : Nat × Option HeadingAttributes :=
  let close := stop - b.countBack (isOneOf " \t\r\n") start stop
  if close ≤ start || !b.isAt (close - 1) '\x7d' then (stop, none) else
  let inner := close - 1 - b.countBack (fun x => !isOneOf "\x7b\x7d<>\\\n\r" x) start (close - 1)
  if inner ≤ start || !b.isAt (inner - 1) '\x7b' then (stop, none)
  else (inner - 1, some (.parse (b.slice inner (close - 1))))

/-- The end of the text of a heading that opens with number signs: before white space and number signs that a space
separates from the text. -/
def headingTextEnd (b : Buffer) (start stop : Nat) : Nat :=
  let stop := stop - b.countBack (isOneOf " \r\n") start stop
  let closer := stop - b.countBack (· == 35) start stop
  if closer = start then start else
  let spaces := b.countBack (· == 32) start closer
  if 0 < spaces then closer - spaces else stop

end Buffer

namespace Node

/-- Moves the end of the last node. -/
def setLastStop (nodes : Array Node) (stop : Nat) : Array Node :=
  match nodes.back? with
  | some last => nodes.pop.push { last with stop }
  | none => nodes

/-- Cuts nodes off at a position. Text that starts there right after a backslash leaves the backslash as text. -/
def truncate (b : Buffer) (nodes : Array Node) (stop : Nat) : Array Node :=
  go #[] nodes.toList
where
  go (kept : Array Node) : List Node → Array Node
    | [] => kept
    | n :: rest =>
      if n.stop < stop then go (kept.push n) rest
      else if n.stop = stop then kept.push n
      else if n.start = stop then
        if 0 < stop && b.isAt (stop - 1) '\\' && n.body == .text true then
          kept.push { n with start := stop - 1, stop }
        else kept
      else kept.push { n with stop }

end Node

end LivePage.Markdown
