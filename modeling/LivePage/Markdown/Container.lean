import LivePage.Markdown.Label
import LivePage.Markdown.Node
/-!
# Containers

A line belongs to the open containers whose markers or indentation it repeats. What it goes on with decides
whether it continues a paragraph, which it may do even without the markers, or starts something else.
-/
namespace LivePage.Markdown

namespace Body

/-- The cursor after what a line has to repeat for a container to go on, if it is there. -/
def continue? (b : Buffer) (c : Cursor) : Body → Option Cursor
  | blockQuote => (c.skipUpTo b 3).1.skipQuoteMarker? b
  | item indent => indented indent
  | footnoteDefinition _ => indented 4
  | _ => some c
where
  indented (n : Nat) : Option Cursor :=
    let (next, all) := c.skipExactly b n
    if all || next.isAtEol b then some next else none

end Body

/-- Steps over what a line repeats of containers, outermost first; counts those that go on. -/
def enterContainers (b : Buffer) : List Body → Cursor → Cursor × Nat
  | [], c => (c, 0)
  | body :: rest, c =>
    match body.continue? b c with
    | some next =>
      let (last, n) := enterContainers b rest next
      (last, n + 1)
    | none => (c, 0)

/-- Where a line is read: the source and what is open around the line, outermost first. -/
structure Context where
  source : Buffer
  spine : List Body

namespace Context

/-- The start of a line after what it repeats of the open containers, and whether it repeats all. -/
def enter (ctx : Context) (i : Nat) : Cursor × Bool :=
  let (c, n) := enterContainers ctx.source ctx.spine (.start i)
  (c, n == ctx.spine.length)

/-- Whether a table is open and nothing but its parts inside it. -/
def inTable (ctx : Context) : Bool :=
  ctx.spine.any fun
    | .table _ => true
    | _ => false

def startsFootnote (ctx : Context) (i : Nat) : Bool :=
  let b := ctx.source
  b.hasText i "[^" &&
    (b.label? (fun _ => none) ctx.inTable (i + 2)).any fun (_, j) => b.isAt j ':'

/-- Whether a line starts a block other than a table, and so ends a paragraph before it. -/
def startsBlock (ctx : Context) (inside : Bool) (i : Nat) : Bool :=
  let b := ctx.source
  (b.skipEol? i).isSome || (b.thematicBreak? i).isSome || (b.headingLevel? i).isSome || (b.codeFence? i).isSome
    || b.isAt i '>' || b.interruptsAsItem i (!inside || ctx.inTable)
    || (b.isAt i '<' && ((b.rawBlockEnd? (i + 1)).isSome || b.startsBlockElement (i + 1)))
    || ctx.startsFootnote i

/-- The number of pipes on a line that no backslash escapes, with the place of the last one. -/
def countPipes (b : Buffer) (start stop : Nat) : Nat × Nat :=
  let places := (List.range (stop - start)).filter fun k =>
    b.isAt (start + k) '|' && !(0 < k && b.isAt (start + k - 1) '\\')
  (places.length, start + places.getLast?.getD 0)

/-- The columns of a table whose head has some pipes and whose delimiter row would start at a position. -/
def tableAfter? (ctx : Context) (headStart next pipes lastPipe : Nat) : Option (List Alignment × Nat) :=
  let (c, inside) := ctx.enter next
  if !inside then none else
  (ctx.source.delimiterRow? c.ix).filter fun (columns, _) =>
    columns.length == ctx.source.rowColumns headStart pipes lastPipe

def startsTable (ctx : Context) (i : Nat) : Bool :=
  let b := ctx.source
  let stop := b.find isEol i
  let (pipes, lastPipe) := countPipes b i stop
  0 < pipes && stop < b.stop && (ctx.tableAfter? i ((b.skipEol? stop).getD stop) pipes lastPipe).isSome

/-- Whether a line ends a paragraph before it. -/
def interrupts (ctx : Context) (inside : Bool) (i : Nat) : Bool :=
  ctx.startsBlock inside i || ctx.startsTable i

/-- The position at which a line goes on that continues what the line before left open: after containers and
indentation, unless it starts a block. -/
def continueLine? (ctx : Context) (i : Nat) : Option Nat :=
  let (c, inside) := ctx.enter i
  let (c, code) := c.skipExactly ctx.source 4
  if !code && (ctx.interrupts inside c.ix || (inside && (ctx.source.underline? c.ix).isSome)) then none
  else some c.ix

/-- The position after what a line repeats of the open containers. -/
def skipLineStart (ctx : Context) (i : Nat) : Nat := (ctx.enter i).1.ix

end Context

end LivePage.Markdown
