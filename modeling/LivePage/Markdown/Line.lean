import LivePage.Markdown.Delimiter
import LivePage.Markdown.Entity
import LivePage.Markdown.Node
/-!
# Lines of text

Cuts one line of a paragraph, heading or table cell into text and tokens, and tells how the line ends.
-/
namespace LivePage.Markdown

/-- What a line may be part of. -/
inductive LineMode where
  | plain
  /-- The first line of a paragraph, which may turn out to be the head of a table. -/
  | first
  | cell
deriving DecidableEq, Repr

inductive LineEnd where
  /-- At a pipe, at the end of the source or of what may be read. -/
  | bare
  | broken (break_ : Node)
  | tableHead (columns : List Alignment)

structure Line where
  nodes : Array Node
  ending : LineEnd
  next : Nat

structure LineState where
  nodes : Array Node
  /-- Where the text starts that is not yet in a node. -/
  textStart : Nat
  escaped : Bool := false
  pipes : Nat := 0
  lastPipe : Nat

namespace LineState

/-- Puts the text up to a position into a node. -/
def flush (s : LineState) (stop : Nat) : LineState :=
  { s with nodes := Node.appendText s.nodes s.textStart stop s.escaped, escaped := false }

def push (s : LineState) (body : Body) (start stop : Nat) : LineState :=
  { s with nodes := s.nodes.push { body, start, stop }, textStart := stop }

/-- Adds a node after the text before it. -/
def token (s : LineState) (body : Body) (start stop : Nat) : LineState := (s.flush start).push body start stop

end LineState

/-- Whether a line may be the head of a table: from the position after it, the number of its pipes and the place of
the last one, the columns and the position after the delimiter row. -/
abbrev TableRule := Nat → Nat → Nat → Option (List Alignment × Nat)

namespace Buffer

/-- A line that ends at a position without a break; white space at its end is no text. -/
def bareLine (b : Buffer) (s : LineState) (i : Nat) : Line :=
  ⟨(s.flush (i - b.countBack isInlineSpace (min s.textStart i) i)).nodes, .bare, i⟩

/-- The end of a line at the line end that starts at a position. -/
def lineBreak (b : Buffer) (mode : LineMode) (rule : TableRule) (s : LineState) (i : Nat) : Line :=
  let next := (b.skipEol? i).getD i
  let backslashes := b.countBack (· == 92) 0 i
  let table := if mode == .first && 0 < s.pipes then rule next s.pipes s.lastPipe else none
  let spaces := b.countBack isInlineSpace 0 i
  if mode == .cell then b.bareLine s i
  else if backslashes % 2 == 1 && next < b.stop then
    ⟨(s.flush (i - 1)).nodes, .broken { body := .hardBreak true, start := i - 1, stop := next }, next⟩
  else match table with
    | some (columns, after) => ⟨s.nodes, .tableHead columns, after⟩
    | none =>
      let body := if 2 ≤ spaces then Body.hardBreak false else .softBreak
      ⟨(s.flush (i - spaces)).nodes, .broken { body, start := i - spaces, stop := next }, next⟩

/-- One step of reading a line: the state and the position to go on from, or the line if it ends. -/
def lineStep (b : Buffer) (mode : LineMode) (rule : TableRule) (s : LineState) (i : Nat) (x : UInt8) :
    (LineState × Nat) ⊕ Line :=
  if isEol x then .inr (b.lineBreak mode rule s i)
  else if x == 92 then
    if !b.holdsAt isPunct (i + 1) then .inl (s, i + 1)
    else if b.isAt (i + 1) '`' then
      let stop := b.skipRun '`' (i + 1)
      .inl ((s.flush i).push (.backticks (stop - (i + 1)) true) (i + 1) stop, stop)
    else
      .inl ({ s.flush i with textStart := i + 1, escaped := !(mode == .cell && b.isAt (i + 1) '|') }, i + 2)
  else if isOneOf "*_~" x then
    let run := b.delimiterRun (Char.ofUInt8 x) (mode == .cell) i
    let stop := i + run.length
    if (run.canOpen || run.canClose) && run.isValid then
      .inl (s.token (.delimiters run.mark run.length run.canOpen run.canClose) i stop, stop)
    else .inl (s, stop)
  else if x == '`'.toUInt8 then
    let stop := b.skipRun '`' i
    .inl (s.token (.backticks (stop - i) false) i stop, stop)
  else if x == '<'.toUInt8 && !b.isAt (i + 1) '\\' then .inl (s.token .angle i (i + 1), i + 1)
  else if x == '!'.toUInt8 && b.isAt (i + 1) '[' then .inl (s.token .imageOpen i (i + 2), i + 2)
  else if x == '['.toUInt8 then .inl (s.token .linkOpen i (i + 1), i + 1)
  else if x == ']'.toUInt8 then .inl (s.token (.linkClose true) i (i + 1), i + 1)
  else if x == '&'.toUInt8 then
    match b.characterReference? i with
    | some (text, stop) => .inl (s.token (.literal text) i stop, stop)
    | none => .inl (s, i + 1)
  else if x == '|'.toUInt8 then
    if 0 < i && b.isAt (i - 1) '\\' then .inl (s, i + 1)
    else if mode == .cell then
      .inr (b.bareLine s i)
    else .inl ({ s with pipes := s.pipes + 1, lastPipe := i }, i + 1)
  else .inl (s, i + 1)

/-- Reads a line from a position on, in at most `fuel` steps. -/
def lineFrom (b : Buffer) (mode : LineMode) (rule : TableRule) : Nat → LineState → Nat → Line
  | fuel + 1, s, i =>
    match b.get? i with
    | some x =>
      match b.lineStep mode rule s i x with
      | .inl (s, i) => lineFrom b mode rule fuel s i
      | .inr line => line
    | none => b.bareLine s i
  | 0, s, i => ⟨s.nodes, .bare, i⟩

/-- Reads the line that starts at a position, after other nodes. -/
def line (b : Buffer) (nodes : Array Node) (start : Nat) (mode : LineMode) (rule : TableRule) : Line :=
  b.lineFrom mode rule (b.stop - start + 1) { nodes, textStart := start, lastPipe := start } start

end Buffer

end LivePage.Markdown
