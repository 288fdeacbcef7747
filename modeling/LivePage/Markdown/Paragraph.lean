import LivePage.Markdown.Leaf
/-!
# Paragraphs and tables

Reads a paragraph, line by line, until a line ends it. A line of marks below turns it into a heading, and a line of
column marks below its first line turns it into a table.
-/
namespace LivePage.Markdown

/-! ## Tables -/

/-- The cells of a table row from a position on, with the position after the row. -/
def rowCells (b : Buffer) : Nat → Nat → Array Node → Array Node × Nat
  | 0, i, cells => (cells, i)
  | fuel + 1, i, cells =>
    let start := b.skipChar '|' i
    let textStart := b.skipSpace start
    match b.skipEol? textStart with
    | some next => (cells, next)
    | none =>
      let line := b.line #[] textStart .cell (fun _ _ _ => none)
      rowCells b fuel line.next
        (cells.push { body := .tableCell, start, stop := line.next, children := line.nodes.toList })

/-- A row of a table with so many columns, and the position after it; none when the line has no cells. Missing cells
are empty and further cells are dropped. -/
def tableRow? (b : Buffer) (body : Body) (columns start : Nat) : Option (Node × Nat) :=
  let (cells, next) := rowCells b (b.stop - start + 1) start #[]
  if cells.isEmpty then none else
  let missing := List.replicate (columns - cells.size) { body := .tableCell, start := next, stop := next : Node }
  some ({ body, start, stop := next, children := (cells.extract 0 columns).toList ++ missing }, next)

/-- The body rows of the open table, from a position on: the position after them. -/
def tableRows (columns : Nat) : Nat → Nat → BlockM Nat
  | 0, i => return i
  | fuel + 1, i => do
    let s ← get
    let (c, inside) := s.context.enter i
    let c := c.skipAll s.source
    if !inside || s.context.startsBlock inside c.ix then return i
    match tableRow? s.source .tableRow columns c.ix with
    | none => return i
    | some (row, next) =>
      set (s.append row)
      tableRows columns fuel next

/-- Makes the open paragraph a table with these columns. -/
def tableBlock (columns : List Alignment) (headStart bodyStart : Nat) : BlockM Nat := do
  let s ← get
  let head := (tableRow? s.source .tableHead columns.length headStart).map (·.1)
  set (((s.setTop (.table columns)).setChildren #[]).setChildren head.toArray)
  let next ← tableRows columns.length (s.source.stop - bodyStart + 1) bodyStart
  modify (·.pop next)
  return next

/-! ## Paragraphs -/

/-- The lines of the open paragraph, from a position on: the position after the block, which has been closed. -/
def paragraphLines : Nat → Bool → Nat → BlockM Nat
  | 0, _, i => do
    modify (·.pop i)
    return i
  | fuel + 1, isFirst, i => do
    let s ← get
    let b := s.source
    let line := b.line s.children i (if isFirst then .first else .plain) (s.context.tableAfter? i)
    set (s.setChildren line.nodes)
    match line.ending with
    | .tableHead columns => tableBlock columns i line.next
    | ending =>
      let s ← get
      let next := line.next
      let brk : Option Node := match ending with
        | .broken n => some n
        | _ => none
      let backslash : Option Nat := brk.bind fun n => if n.body = .hardBreak true then some n.start else none
      let keepBackslash : BlockM Unit := match backslash with
        | some p => modify (·.appendText p (p + 1))
        | none => pure ()
      let (c, inside) := s.context.enter next
      let (c, code) := c.skipExactly b 4
      if !code && inside then
        if let some stop ← underlinedHeading? c.ix backslash.isSome then
          keepBackslash
          modify (·.pop stop)
          return stop
      let after := c.skipAll b
      if (!code && s.context.interrupts inside c.ix) || after.isAtEol b then
        keepBackslash
        modify (·.pop next)
        return next
      match brk with
      | some n => modify (·.append n)
      | none => pure ()
      paragraphLines fuel false after.ix

/-- A paragraph, which may turn out to be a heading or a table. -/
def paragraph (start : Nat) : BlockM Nat := do
  let s ← get
  let opened := s.push .paragraph start
  set { (match s.task with | some n => opened.append n | none => opened) with task := none }
  paragraphLines (s.source.stop - start + 1) true start

end LivePage.Markdown
