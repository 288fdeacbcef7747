import LivePage.Markdown.Cursor
import LivePage.Markdown.HtmlTag
/-!
# Block markers

Recognises what opens a block at a position on a line: thematic breaks, headings, code fences, list markers, task
markers and the delimiter row of a table.
-/
namespace LivePage.Markdown

inductive Alignment where
  | none
  | left
  | center
  | right
deriving DecidableEq, Repr

namespace Buffer

/-! ## Thematic breaks and headings -/

/-- The position after a thematic break: three or more of one character, with spaces between them. -/
def thematicBreak? (b : Buffer) (i : Nat) : Option Nat :=
  match b.get? i with
  | some c =>
    if !isOneOf "*-_" c then none else
    let j := b.skipWhile (fun x => x == c || x == 32 || x == 9) i
    let marks := (List.range (j - i)).countP fun k => b.get? (i + k) == some c
    if 3 ≤ marks then b.skipEol? j else none
  | none => none

def headingLevel? (b : Buffer) (i : Nat) : Option Nat :=
  let j := b.skipRun '#' i
  if (b.get? j).all isSpace && 1 ≤ j - i && j - i ≤ 6 then some (j - i) else none

/-- The position after the line that underlines a heading, with the level. -/
def underline? (b : Buffer) (i : Nat) : Option (Nat × Nat) :=
  if b.isAt i '=' then (b.skipBlankLine? (b.skipRun '=' i)).map fun j => (j, 1)
  else if b.isAt i '-' then (b.skipBlankLine? (b.skipRun '-' i)).map fun j => (j, 2)
  else none

/-! ## Code fences -/

/-- The character and the length of a fence that opens a code block. -/
def codeFence? (b : Buffer) (i : Nat) : Option (Char × Nat) :=
  let open_ (c : Char) : Option (Char × Nat) :=
    let j := b.skipRun c i
    if 3 ≤ j - i then some (c, j - i) else none
  if b.isAt i '~' then open_ '~'
  else if b.isAt i '`' then
    let stop := b.find (· == 10) i
    (open_ '`').filter fun (_, n) => b.find (· == '`'.toUInt8) (i + n) ≥ stop
  else none

/-- The position after a fence that closes a code block, before its line end; the end of the source closes it too. -/
def closingFence? (b : Buffer) (c : Char) (length i : Nat) : Option Nat :=
  if (b.get? i).isNone then some i else
  let j := b.skipRun c i
  if j - i < length then none else
  let k := b.skipRun ' ' j
  (b.skipEol? k).map fun _ => k

/-! ## Lists -/

/-- A list marker: its character, its number, and the columns that the content of its item is indented by. -/
structure ListMarker where
  mark : Char
  start : Nat
  indent : Nat
deriving DecidableEq, Repr

/-- The number at a position, of at most nine digits, and the position after it. -/
def number (b : Buffer) (i : Nat) : Nat × Nat := go 9 0 i
where
  go : Nat → Nat → Nat → Nat × Nat
    | 0, n, i => (n, i)
    | fuel + 1, n, i =>
      match b.get? i with
      | some x => if isDigit x then go fuel (10 * n + (x.toNat - 48)) (i + 1) else (n, i)
      | none => (n, i)

/-- Whether a line that interrupts a paragraph would do so with a list item: one with content, and with the number
one if it has a number. -/
def interruptsAsItem (b : Buffer) (i : Nat) (anyItem : Bool) : Bool :=
  let after? : Option (Nat × Bool) :=
    match b.get? i with
    | some x =>
      if isOneOf "-+*" x then some (i + 1, true)
      else if isDigit x then
        let (n, j) := b.number i
        if b.isAt j '.' || b.isAt j ')' then some (j + 1, n == 1) else none
      else none
    | none => none
  match after? with
  | none => false
  | some (j, first) =>
    if (b.get? j).all (fun x => x == 32 || x == 9 || isEol x) then
      anyItem || (first && !twoBlankLines j)
    else false
where
  twoBlankLines (j : Nat) : Bool := ((b.skipBlankLine? j).bind b.skipBlankLine?).isSome

end Buffer

namespace Cursor

/-- Columns of content after a list marker, and the cursor before that content. -/
def afterMarker (b : Buffer) (c : Cursor) (mark : Char) (start indent : Nat) : Buffer.ListMarker × Cursor :=
  if b.isBlankAt c.ix then (⟨mark, start, indent⟩, c) else
  let (next, n) := c.skipUpTo b 4
  if n < 4 then (⟨mark, start, indent + n⟩, next) else (⟨mark, start, indent⟩, c)

/-- A list marker that comes after so many columns of space. -/
def listMarker? (b : Buffer) (c : Cursor) (indent : Nat) : Option (Buffer.ListMarker × Cursor) :=
  match b.get? c.ix with
  | none => none
  | some x =>
    if isOneOf "-+*" x then
      if (b.thematicBreak? c.ix).isSome then none else
      let (next, spaced) := Cursor.skipExactly b { c with ix := c.ix + 1 } 1
      if spaced || next.isAtEol b then some (next.afterMarker b (Char.ofUInt8 x) 0 (indent + 2)) else none
    else if isDigit x then
      let (n, j) := b.number c.ix
      match b.get? j with
      | some d =>
        if isOneOf ".)" d then
          let (next, spaced) := Cursor.skipExactly b { c with ix := j + 1 } 1
          if spaced || next.isAtEol b then
            some (next.afterMarker b (Char.ofUInt8 d) n (indent + 1 + (j + 1 - c.ix)))
          else none
        else none
      | none => none
    else none

/-- The marker of a task at the start of a list item, ticked or not, with white space after it. -/
def taskMarker? (b : Buffer) (c : Cursor) : Option (Bool × Cursor) :=
  let (c, _) := c.skipUpTo b 3
  let ticked? : Option Bool :=
    match b.get? (c.ix + 1) with
    | some x => if isInlineSpace x then some false else if isOneOf "xX" x then some true else none
    | none => none
  match ticked? with
  | some ticked =>
    if b.isAt c.ix '[' && b.isAt (c.ix + 2) ']' && b.holdsAt isSpace (c.ix + 3) then
      some (ticked, { c with ix := c.ix + 3 })
    else none
  | none => none

end Cursor

/-! ## Tables -/

structure DelimiterColumn where
  alignment : Alignment := .none
  fresh : Bool := true
  hyphen : Bool := false

namespace DelimiterColumn

/-- Reads a colon: before the hyphens it aligns to the left, after them to the right. -/
def colon (c : DelimiterColumn) : DelimiterColumn :=
  let alignment := match c.fresh, c.alignment with
    | true, .none => .left
    | false, .left => .center
    | false, .none => .right
    | _, a => a
  { c with alignment, fresh := false }

end DelimiterColumn

namespace Buffer

/-- The columns of a delimiter row and the position after it; no columns when the line is none. -/
def delimiterRow? (b : Buffer) (i : Nat) : Option (List Alignment × Nat) :=
  let (c, spaces) := (Cursor.start i).skipUpTo b 4
  if 3 < spaces || (b.get? c.ix).isNone then none else
  let leading := b.isAt c.ix '|'
  let start := if leading then c.ix + 1 else c.ix
  go (b.stop - start + 1) start leading false {} []
where
  /-- Reads columns, with whether a pipe and a hyphen have been seen at all. -/
  go : Nat → Nat → Bool → Bool → DelimiterColumn → List Alignment → Option (List Alignment × Nat)
    | 0, _, _, _, _, _ => none
    | fuel + 1, i, pipe, hyphen, column, done =>
      match b.skipEol? i with
      | some j =>
        let columns := if column.fresh then done else column.alignment :: done
        if pipe && hyphen && !columns.isEmpty then some (columns.reverse, j) else none
      | none =>
        if b.isAt i ' ' then go fuel (i + 1) pipe hyphen column done
        else if b.isAt i ':' then go fuel (i + 1) pipe hyphen column.colon done
        else if b.isAt i '-' then
          go fuel (i + 1) pipe true { column with fresh := false, hyphen := true } done
        else if b.isAt i '|' then
          if column.hyphen then go fuel (i + 1) true hyphen {} (column.alignment :: done) else none
        else none

/-- Number of columns of a table row that starts at a position, from the number of pipes in it and the place of the
last one. -/
def rowColumns (b : Buffer) (start pipes lastPipe : Nat) : Nat :=
  let inner := if b.isAt (b.skipSpace start) '|' then pipes - 1 else pipes
  if b.isBlankAt (lastPipe + 1) then inner else inner + 1

end Buffer

end LivePage.Markdown
