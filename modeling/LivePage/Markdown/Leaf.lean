import LivePage.Markdown.Builder
import LivePage.Markdown.Heading
import LivePage.Markdown.Line
/-!
# Leaf blocks

Reads code blocks, blocks of raw markup and headings. Each reader starts where the containers of a line end and
answers the position after the block, which it has closed.
-/
namespace LivePage.Markdown

/-! ## Code and raw markup -/

/-- Adds a line of code, after columns of a tab that count as spaces; a carriage return before the line feed is
left out. -/
def appendCodeLine (owed start stop : Nat) : BlockM Unit := modify fun s =>
  let s := if 0 < owed then
      s.append { body := .literal (String.ofList (List.replicate owed ' ')), start, stop := start }
    else s
  if 2 ≤ stop && s.source.isAt (stop - 2) '\r' then (s.appendText start (stop - 2)).appendText (stop - 1) stop
  else s.appendText start stop

/-- Adds a line of raw markup, after columns of space. -/
def appendMarkupLine (spaces start stop : Nat) : BlockM Unit := modify fun s =>
  let s := if 0 < spaces then
      s.append { body := .literal (String.ofList (List.replicate spaces ' ')), start, stop := start }
    else s
  let line (start stop : Nat) : Node := { body := .html, start, stop }
  if 2 ≤ stop && s.source.isAt (stop - 2) '\r' then
    (s.append (line start (stop - 2))).append (line (stop - 1) stop)
  else s.append (line start stop)

def fencedLines (mark : Char) (length indent : Nat) : Nat → Nat → BlockM Nat
  | 0, i => return i
  | fuel + 1, i => do
    let s ← get
    let b := s.source
    let (c, inside) := s.context.enter i
    if !inside then
      modify (·.pop i)
      return i
    let (c, _) := c.skipUpTo b indent
    let (closing, code) := c.skipExactly b (4 - indent)
    match if code then none else b.closingFence? mark length closing.ix with
    | some stop =>
      modify (·.pop stop)
      return (b.skipBlankLine? stop).getD stop
    | none =>
      let next := b.nextLine c.ix
      appendCodeLine c.owed c.ix next
      fencedLines mark length indent fuel next

def fencedCode (start indent : Nat) (mark : Char) (length : Nat) : BlockM Nat := do
  let s ← get
  let b := s.source
  let infoStart := b.skipSpace (start + length)
  let next := b.nextLine infoStart
  let infoStop := next - b.countBack isSpace infoStart next
  set (s.push (.fencedCode (b.unescape s.context.inTable infoStart infoStop)) start)
  fencedLines mark length indent (b.stop - start + 1) next

/-- The lines of an indented code block: the position after them, how many pieces of code there are up to the last
line that is not blank, and the end of that line. -/
def indentedLines : Nat → Nat → Nat → Nat → Nat → BlockM (Nat × Nat × Nat)
  | 0, _, i, kept, stop => return (i, kept, stop)
  | fuel + 1, owed, i, kept, stop => do
    let b := (← get).source
    let next := b.nextLine i
    appendCodeLine owed i next
    let s ← get
    let (kept, stop) := if s.blankBefore then (kept, stop) else (s.children.size, next)
    let (c, inside) := s.context.enter next
    let (c, code) := c.skipExactly b 4
    if !inside || !(code || c.isAtEol b) || b.stop ≤ c.ix then return (next, kept, stop)
    set { s with blankBefore := b.isBlankAt c.ix }
    indentedLines fuel c.owed c.ix kept stop

/-- A code block made by indentation; blank lines at its end are not part of it. -/
def indentedCode (start owed : Nat) : BlockM Nat := do
  let s ← get
  set { s.push .indentedCode start with blankBefore := false }
  let (next, kept, stop) ← indentedLines (s.source.stop - start + 1) owed start 0 start
  modify fun s => (s.setChildren (Node.setLastStop (s.children.extract 0 kept) stop)).pop stop
  return next

/-- The lines of a block of raw markup up to one that ends it. -/
def markupLines (ends : Nat → Nat → Bool) : Nat → Nat → Nat → BlockM Nat
  | 0, _, i => return i
  | fuel + 1, spaces, i => do
    let b := (← get).source
    let next := b.nextLine i
    appendMarkupLine spaces i next
    let s ← get
    let (c, inside) := s.context.enter next
    if !inside || ends i next then
      set (s.pop next)
      return next
    if b.stop ≤ c.ix then
      set (s.pop c.ix)
      return next
    markupLines ends fuel c.owed c.ix

/-- A block of raw markup that runs up to a line with a fixed text. -/
def markupTo (start spaces : Nat) (text : String) : BlockM Nat := do
  let s ← get
  set (s.push .htmlBlock start)
  markupLines (fun i next => ((s.source.upTo next).afterText? text i).isSome) (s.source.stop - start + 1) spaces start

/-- A block of raw markup that runs up to a blank line. -/
def markupToBlank (start spaces : Nat) : BlockM Nat := do
  let s ← get
  set (s.push .htmlBlock start)
  let ctx := (← get).context
  markupLines (fun _ next => s.source.isBlankAt (ctx.skipLineStart next)) (s.source.stop - start + 1) spaces start

/-! ## Headings -/

def numberSignHeading (start level : Nat) : BlockM Nat := do
  let s ← get
  let b := s.source
  let i := start + level
  match b.skipEol? i with
  | some next =>
    set (s.append { body := .heading level {}, start, stop := next })
    return next
  | none =>
    let textStart := b.skipSpace i
    let next := b.nextLine textStart
    let (textStop, attributes) := b.headingAttributes textStart next
    let line := (b.upTo textStop).line #[] textStart .plain (fun _ _ _ => none)
    let nodes := Node.setLastStop line.nodes (b.headingTextEnd textStart textStop)
    set (s.append
      { body := .heading level (attributes.getD {}), start, stop := next, children := nodes.toList })
    return next

/-- Makes the open paragraph a heading if the line at a position underlines it: the position after that line. -/
def underlinedHeading? (i : Nat) (trailing : Bool) : BlockM (Option Nat) := do
  let s ← get
  let b := s.source
  match b.underline? i, s.opened with
  | some (next, level), paragraph :: _ =>
    match paragraph.children.back? with
    | none => set (s.setTop (.heading level {}))
    | some last =>
      let (textStop, attributes) := b.headingAttributes paragraph.start last.stop
      let stop := if trailing then textStop else textStop - b.countBack isInlineSpace paragraph.start textStop
      let nodes := if attributes.isSome then Node.truncate b paragraph.children stop else paragraph.children
      set ((s.setChildren (Node.setLastStop nodes stop)).setTop (.heading level (attributes.getD {})))
    return some next
  | _, _ => return none

end LivePage.Markdown
