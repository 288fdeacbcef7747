import LivePage.Yaml.Property
import LivePage.Yaml.Scalar
/-!
# Scanning tokens

Cuts a text into tokens. A scalar turns out to be a key only when a colon follows it, on the same line and not too
far away; so its place in the queue is remembered, and the tokens that make it a key are inserted there. Tokens are
scanned no further than they are asked for, because a reader may stop before a fault.
-/
namespace LivePage.Yaml

/-- A scalar or collection that a colon may turn into a key. -/
structure SimpleKey where
  possible : Bool := false
  /-- Whether it has to become a key, for nothing else can start a line here. -/
  required : Bool := false
  number : Nat := 0
  mark : Mark := {}
deriving Inhabited

structure Scanner where
  cursor : Cursor
  started : Bool := false
  queue : List Token := []
  taken : Nat := 0
  flowLevel : Nat := 0
  /-- Column of the innermost collection that is made by indentation. -/
  indent : Int := -1
  outer : List Int := []
  keyAllowed : Bool := true
  /-- What may become a key, one for each flow level, innermost first. -/
  keys : List SimpleKey := [{}]

abbrev ScanM := StateT Scanner (Except SyntaxFault)

namespace Scanner

def ofText (text : List Char) : Scanner := { cursor := ⟨text, {}⟩ }

/-! ## The queue -/

def enqueue (t : Token) : ScanM Unit := modify fun s => { s with queue := s.queue ++ [t] }

/-- Adds a token before the one with a number. -/
def insertAt (number : Nat) (t : Token) : ScanM Unit := modify fun s =>
  { s with queue := s.queue.insertIdx (number - s.taken) t }

/-- Adds a token of some characters from here on. -/
def enqueueHere (kind : TokenKind) (length : Nat) : ScanM Unit := modify fun s =>
  let next := s.cursor.skipMany length
  { s with queue := s.queue ++ [⟨kind, s.cursor.mark, next.mark⟩], cursor := next }

/-- Adds a token that is read from here on. -/
def enqueueRead (read : Cursor → Reading (Token × Cursor)) : ScanM Unit := do
  let s ← get
  let (t, next) ← read s.cursor
  set { s with queue := s.queue ++ [t], cursor := next }

def allowKey (allowed : Bool) : ScanM Unit := modify fun s => { s with keyAllowed := allowed }

/-! ## Keys -/

/-- The fault of a line that had to be a key. -/
def missingColon {α : Type} (c : Cursor) (key : SimpleKey) : Except SyntaxFault α :=
  c.fault "while scanning a simple key" key.mark "could not find expected ':'"

/-- Whether a key can no longer be one, for it has to end on its line and before 1024 more characters. -/
def isStale (c : Cursor) (key : SimpleKey) : Bool :=
  key.possible && (key.mark.line < c.mark.line || key.mark.index + 1024 < c.mark.index)

/-- Gives up what can no longer become a key. -/
def dropStaleKeys : ScanM Unit := do
  let s ← get
  match s.keys.reverse.find? fun key => isStale s.cursor key && key.required with
  | some key => missingColon s.cursor key
  | none =>
    set { s with keys := s.keys.map fun key => if isStale s.cursor key then { key with possible := false } else key }

/-- Gives up what could become a key at this level. -/
def dropKey : ScanM Unit := do
  let s ← get
  match s.keys with
  | [] => pure ()
  | key :: rest =>
    if key.possible && key.required then missingColon s.cursor key
    set { s with keys := { key with possible := false } :: rest }

/-- Remembers that what comes next may become a key. -/
def saveKey : ScanM Unit := do
  let s ← get
  if !s.keyAllowed then return
  let required := s.flowLevel == 0 && s.indent == s.cursor.mark.column
  dropKey
  modify fun s =>
    { s with keys := ⟨true, required, s.taken + s.queue.length, s.cursor.mark⟩ :: s.keys.drop 1 }

/-! ## Indentation -/

/-- Opens a collection at a column if it is indented more than the one around it; its token goes before the token with
a number, if one is given. -/
def rollIndent (column : Nat) (number : Option Nat) (kind : TokenKind) (mark : Mark) : ScanM Unit := do
  let s ← get
  if s.flowLevel == 0 && s.indent < column then
    set { s with indent := column, outer := s.indent :: s.outer }
    match number with
    | some n => insertAt n ⟨kind, mark, mark⟩
    | none => enqueue ⟨kind, mark, mark⟩

/-- The state after closing collections that are indented by more than a column, given the columns around the
innermost one. -/
def closeBelow (column : Int) (s : Scanner) : List Int → Scanner
  | [] => s
  | parent :: rest =>
    if column < s.indent then
      let closing : Token := ⟨.blockEnd, s.cursor.mark, s.cursor.mark⟩
      closeBelow column { s with queue := s.queue ++ [closing], indent := parent, outer := rest } rest
    else s

/-- Closes collections that are indented by more than a column. -/
def unrollIndent (column : Int) : ScanM Unit := modify fun s =>
  if s.flowLevel == 0 then closeBelow column s s.outer else s

/-! ## Tokens by kind -/

def fetchStart : ScanM Unit := do
  modify fun s => { s with started := true }
  enqueueHere .streamStart 0

/-- The end of the text, which starts a line of its own. -/
def fetchEnd : ScanM Unit := do
  modify fun s =>
    let m := s.cursor.mark
    if m.column == 0 then s else { s with cursor := { s.cursor with mark := { m with line := m.line + 1, column := 0 } } }
  unrollIndent (-1)
  dropKey
  allowKey false
  enqueueHere .streamEnd 0

def fetchDirective : ScanM Unit := do
  unrollIndent (-1)
  dropKey
  allowKey false
  enqueueRead takeDirective

def fetchDocumentMark (kind : TokenKind) : ScanM Unit := do
  unrollIndent (-1)
  dropKey
  allowKey false
  enqueueHere kind 3

def fetchFlowStart (kind : TokenKind) : ScanM Unit := do
  saveKey
  modify fun s => { s with flowLevel := s.flowLevel + 1, keys := {} :: s.keys, keyAllowed := true }
  enqueueHere kind 1

def fetchFlowEnd (kind : TokenKind) : ScanM Unit := do
  dropKey
  modify fun s =>
    let s := if s.flowLevel == 0 then s else { s with flowLevel := s.flowLevel - 1, keys := s.keys.drop 1 }
    { s with keyAllowed := false }
  enqueueHere kind 1

def fetchFlowEntry : ScanM Unit := do
  dropKey
  allowKey true
  enqueueHere .flowEntry 1

def fetchBlockEntry : ScanM Unit := do
  let s ← get
  if s.flowLevel == 0 then
    if !s.keyAllowed then s.cursor.bareFault "block sequence entries are not allowed in this context"
    rollIndent s.cursor.mark.column none .blockSequenceStart s.cursor.mark
  dropKey
  allowKey true
  enqueueHere .blockEntry 1

def fetchKey : ScanM Unit := do
  let s ← get
  if s.flowLevel == 0 then
    if !s.keyAllowed then s.cursor.bareFault "mapping keys are not allowed in this context"
    rollIndent s.cursor.mark.column none .blockMappingStart s.cursor.mark
  dropKey
  allowKey (s.flowLevel == 0)
  enqueueHere .key 1

/-- The colon of a value; it turns what may be a key into one. -/
def fetchValue : ScanM Unit := do
  let s ← get
  let key := s.keys.headD {}
  if key.possible then
    insertAt key.number ⟨.key, key.mark, key.mark⟩
    rollIndent key.mark.column (some key.number) .blockMappingStart key.mark
    modify fun s => { s with keys := { key with possible := false } :: s.keys.drop 1, keyAllowed := false }
  else
    if s.flowLevel == 0 then
      if !s.keyAllowed then s.cursor.bareFault "mapping values are not allowed in this context"
      rollIndent s.cursor.mark.column none .blockMappingStart s.cursor.mark
    allowKey (s.flowLevel == 0)
  enqueueHere .value 1

/-- An anchor, an alias, a tag or a quoted scalar. -/
def fetchNode (read : Cursor → Reading (Token × Cursor)) : ScanM Unit := do
  saveKey
  allowKey false
  enqueueRead read

/-- A plain scalar; after it a key may start if a line ends. -/
def fetchPlain : ScanM Unit := do
  saveKey
  allowKey false
  let s ← get
  let (t, broken, next) ← takePlain (0 < s.flowLevel) (s.indent + 1).toNat s.cursor
  set { s with queue := s.queue ++ [t], cursor := next, keyAllowed := s.keyAllowed || broken }

def fetchBlock (literal : Bool) : ScanM Unit := do
  dropKey
  allowKey true
  let s ← get
  enqueueRead (takeBlock literal s.indent)

/-! ## The next token -/

/-- Steps over white space, comments and line ends before a token, in at most `fuel` rounds. Tabs do not count where a
key may start. -/
def skipToToken : Nat → Scanner → Scanner
  | 0, s => s
  | fuel + 1, s =>
    let c := s.cursor
    let c := if c.mark.column == 0 && c.isAt '\uFEFF' then c.skip else c
    let c := c.skipWhile fun x => x == ' ' || (x == '\t' && (0 < s.flowLevel || !s.keyAllowed))
    let c := if c.isAt '#' then c.skipRestOfLine else c
    if c.isBreak then
      skipToToken fuel { s with cursor := c.skipBreak, keyAllowed := s.keyAllowed || s.flowLevel == 0 }
    else { s with cursor := c }

/-- Whether a plain scalar starts at a cursor. -/
def startsPlain (inFlow : Bool) (c : Cursor) : Bool :=
  !(c.isSpaceOrEnd || c.isOneOf "-?:,[]\x7b\x7d#&*!|>'\"%@`")
    || (c.isAt '-' && !(c.peek? 1).any isBlankChar)
    || (!inFlow && c.isOneOf "?:" && !c.isSpaceOrEnd 1)

def fetchHere : ScanM Unit := do
  let s ← get
  let c := s.cursor
  let inFlow := 0 < s.flowLevel
  if c.isAtEnd then fetchEnd
  else if c.mark.column == 0 && c.isAt '%' then fetchDirective
  else if c.isDocumentMark '-' then fetchDocumentMark .documentStart
  else if c.isDocumentMark '.' then fetchDocumentMark .documentEnd
  else if c.isAt '[' then fetchFlowStart .flowSequenceStart
  else if c.isAt '\x7b' then fetchFlowStart .flowMappingStart
  else if c.isAt ']' then fetchFlowEnd .flowSequenceEnd
  else if c.isAt '\x7d' then fetchFlowEnd .flowMappingEnd
  else if c.isAt ',' then fetchFlowEntry
  else if c.isAt '-' && c.isSpaceOrEnd 1 then fetchBlockEntry
  else if c.isAt '?' && (inFlow || c.isSpaceOrEnd 1) then fetchKey
  else if c.isAt ':' && (inFlow || c.isSpaceOrEnd 1) then fetchValue
  else if c.isAt '*' then fetchNode (takeAnchor true)
  else if c.isAt '&' then fetchNode (takeAnchor false)
  else if c.isAt '!' then fetchNode (takeTag inFlow)
  else if c.isAt '|' && !inFlow then fetchBlock true
  else if c.isAt '>' && !inFlow then fetchBlock false
  else if c.isAt '\'' then fetchNode (takeQuoted true)
  else if c.isAt '"' then fetchNode (takeQuoted false)
  else if startsPlain inFlow c then fetchPlain
  else c.fault "while scanning for the next token" c.mark "found character that cannot start any token"

def fetchNext : ScanM Unit := do
  if !(← get).started then fetchStart
  else
    modify fun s => skipToToken (s.cursor.rest.length + 1) s
    dropStaleKeys
    unrollIndent (← get).cursor.mark.column
    fetchHere

/-- Scans until the first token of the queue is settled, in at most `fuel` steps. -/
def fetchMore : Nat → ScanM Unit
  | 0 => pure ()
  | fuel + 1 => do
    if !(← get).queue.isEmpty then
      dropStaleKeys
      let s ← get
      if !s.keys.any fun key => key.possible && key.number == s.taken then return
    fetchNext
    fetchMore fuel

/-- The first token of the queue, which is scanned if it has to be. -/
def peek : ScanM Token := do
  fetchMore ((← get).cursor.rest.length + 3)
  return (← get).queue.headD ⟨.streamEnd, {}, {}⟩

def skip : ScanM Unit := modify fun s => { s with queue := s.queue.drop 1, taken := s.taken + 1 }

end Scanner

end LivePage.Yaml
