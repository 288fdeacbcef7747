import LivePage.Markdown.Paragraph
/-!
# Blocks

Reads a document line by line into a tree of blocks. At any time some containers are open; each line goes on in
those whose markers it repeats, closes the others, may open new ones, and then starts a leaf block, which takes in
as many lines as belong to it.
-/
namespace LivePage.Markdown

/-! ## Lines -/

/-- Opens a footnote definition if one starts at a position: the position after its colon. -/
def footnote? (i : Nat) : BlockM (Option Nat) := do
  let s ← get
  if !s.source.hasText i "[^" then return none
  match s.context.definedLabel? (i + 2) with
  | some (label, colon) =>
    if !s.source.isAt colon ':' then return none
    let s := s.finishList i
    let s := match s.top? with
      | some (.footnoteDefinition _) => s.pop i
      | _ => s
    set { s.push (.footnoteDefinition label) i with footnotes := s.footnotes.define label () }
    return some (s.source.skipSpace (colon + 1))
  | none => return none

/-- Opens a list item after its marker. Tells the position after the line if nothing else is on it. -/
def listItem (start : Nat) (marker : Buffer.ListMarker) (c : Cursor) : BlockM (Option Nat × Cursor) := do
  let s := ((← get).continueList start marker.mark marker.start).push (.item marker.indent) start
  let b := s.source
  match b.skipBlankLine? c.ix with
  | some next =>
    set { s with emptyItem := some next }
    return (some next, c)
  | none =>
    match c.taskMarker? b with
    | none =>
      set s
      return (none, c)
    | some (ticked, after) =>
      let task : Node := { body := .taskMarker ticked, start := c.ix, stop := after.ix }
      match b.skipBlankLine? after.ix with
      | some next =>
        set { s.append task with emptyItem := some next }
        return (some next, after)
      | none =>
        set { s with task := some task }
        return (none, after)

/-- Opens the containers that a line starts, from a cursor on; `start` is where the line, or what follows a
footnote label on it, begins. Tells the position after the line if nothing else is on it. -/
def openContainers : Nat → Nat → Cursor → BlockM (Option Nat × Nat × Cursor)
  | 0, start, c => return (none, start, c)
  | fuel + 1, start, c => do
    let b := (← get).source
    let (inner, indent) := c.skipUpTo b 4
    if 4 ≤ indent then return (none, start, c)
    match ← footnote? inner.ix with
    | some next => openContainers fuel next (.start next)
    | none =>
      match inner.listMarker? b indent with
      | some (marker, after) =>
        let (done, after) ← listItem (inner.ix - indent) marker after
        if done.isSome || (← get).task.isSome then return (done, start, after)
        openContainers fuel start after
      | none =>
        match inner.skipQuoteMarker? b with
        | some after =>
          modify fun s => (s.finishList start).push .blockQuote inner.ix
          openContainers fuel start after
        | none => return (none, start, c)

/-- What a blank line means for the containers that are open. -/
def blankLine : BlockM Unit := modify fun s =>
  match s.top? with
  | some .blockQuote => s
  | some (.item _) => { (if s.emptyItem.isSome then s.setTop (.item 0) else s) with blankBefore := true }
  | _ => { s with blankBefore := true }

/-- A leaf block at a cursor. After a task marker there can only be a paragraph. -/
def leafBlock (c : Cursor) : BlockM Nat := do
  let s ← get
  let b := s.source
  if s.task.isSome then return ← paragraph (c.skipAll b).ix
  let (inner, indent) := c.skipUpTo b 4
  let i := inner.ix
  if indent = 4 then indentedCode i inner.owed
  else if b.isAt i '<' && (b.rawBlockEnd? (i + 1)).isSome then
    markupTo i (max c.owed indent) ((b.rawBlockEnd? (i + 1)).getD "")
  else if b.isAt i '<' && (b.startsBlockElement (i + 1) || b.isTagLine i) then
    markupToBlank i (max c.owed indent)
  else match b.thematicBreak? i, b.headingLevel? i, b.codeFence? i with
    | some next, _, _ =>
      set (s.append { body := .thematicBreak, start := i, stop := next })
      return next
    | none, some level, _ => numberSignHeading i level
    | none, none, some (mark, length) => fencedCode i indent mark length
    | none, none, none =>
      match s.context.definition? i with
      | some (label, definition, next) =>
        set { s with links := s.links.define label definition }
        return (b.skipBlankLine? next).getD next
      | none => paragraph i

/-- Reads the block or blank line that starts at a position. -/
def block (start : Nat) : BlockM Nat := do
  let s ← get
  let (c, n) := enterContainers s.source s.context.spine (.start start)
  set (s.popTo start n)
  let (done, lineStart, c) ← openContainers (s.source.stop - start + 1) start c
  if let some next := done then return next
  match s.source.skipBlankLine? c.ix with
  | some next =>
    blankLine
    return next
  | none =>
    modify (·.finishList lineStart)
    leafBlock c

/-- Reads blocks from a position to the end of the source. -/
def blocksFrom : Nat → Nat → BlockM Unit
  | 0, i => modify (·.finish i)
  | fuel + 1, i => do
    if (← get).source.stop ≤ i then modify (·.finish i)
    else blocksFrom fuel (← block i)

/-- A document as blocks, with what its labels name. -/
structure Outline where
  nodes : List Node
  links : LabelTable LinkDefinition
  footnotes : LabelTable Unit

def Outline.read (b : Buffer) : Outline :=
  let s := ((blocksFrom (b.stop + 1) 0).run { source := b }).2
  ⟨s.roots.toList, s.links, s.footnotes⟩

end LivePage.Markdown
