import LivePage.Yaml.Scanner
/-!
# Events

Reads the tokens of a YAML text as nested nodes and gives one event for each place where a node or document starts
or ends. The states say what may come next; those of the nodes around the present one wait on a stack.
-/
namespace LivePage.Yaml

/-- What happens at one place of a text. -/
inductive Event where
  | streamStart
  | streamEnd
  | documentStart
  | documentEnd
  | alias_ (name : String)
  | scalar (anchor tag : Option String) (text : String) (style : ScalarStyle)
  | sequenceStart (anchor tag : Option String)
  | sequenceEnd
  | mappingStart (anchor tag : Option String)
  | mappingEnd
deriving DecidableEq, Repr

/-- An event with the place where it starts. -/
structure MarkedEvent where
  event : Event
  mark : Mark
deriving Repr

/-- What may come next. -/
inductive ParserState where
  | streamStart
  | documentStart (implicit : Bool)
  | documentContent
  | documentEnd
  | blockNode
  | blockSequenceEntry (first : Bool)
  | indentlessEntry
  | blockMappingKey (first : Bool)
  | blockMappingValue
  | flowSequenceEntry (first : Bool)
  | pairKey
  | pairValue
  | pairEnd
  | flowMappingKey (first : Bool)
  | flowMappingValue (empty : Bool)
  | finished
deriving DecidableEq, Repr

structure Parser where
  scanner : Scanner
  state : ParserState := .streamStart
  states : List ParserState := []
  marks : List Mark := []
  /-- What the handles of tags stand for. -/
  tagLeads : List (String × String) := []

abbrev ParseM := StateT Parser (Except SyntaxFault)

namespace Parser

/-- The parser at the start of a text. -/
def ofText (text : List Char) : Parser := { scanner := .ofText text }

/-! ## Tokens and states -/

def scan {α : Type} (action : ScanM α) : ParseM α := do
  let p ← get
  let (a, scanner) ← action.run p.scanner
  set { p with scanner }
  return a

def peek : ParseM Token := scan Scanner.peek

/-- Takes the next token; the one after it is the answer. -/
def advance : ParseM Token := do
  scan Scanner.skip
  peek

def skip : ParseM Unit := scan Scanner.skip

def goTo (state : ParserState) : ParseM Unit := modify fun p => { p with state }

/-- Lets a state wait until what comes next is over. -/
def wait (state : ParserState) : ParseM Unit := modify fun p => { p with states := state :: p.states }

/-- Goes on with the state that waits. -/
def resume : ParseM Unit := modify fun p =>
  { p with state := p.states.headD .finished, states := p.states.drop 1 }

/-- Opens a collection that starts at a mark. -/
def openAt (mark : Mark) : ParseM Unit := modify fun p => { p with marks := mark :: p.marks }

/-- Closes the innermost collection; tells where it started. -/
def close : ParseM Mark := modifyGet fun p => (p.marks.headD {}, { p with marks := p.marks.drop 1 })

def fail {α : Type} (problem : String) (mark : Mark) : ParseM α := throw { problem, mark }

/-- A fault at a mark, met while something was read that started at another. -/
def failIn {α : Type} (context : String) (contextMark : Mark) (problem : String) (mark : Mark) : ParseM α :=
  throw { problem, mark, context := some context, contextMark }

def emptyScalar (mark : Mark) : MarkedEvent := ⟨.scalar none none "" .plain, mark⟩

/-! ## Nodes -/

structure Properties where
  anchor : Option String := none
  tag : Option (String × String × Mark) := none
  start : Option Mark := none

/-- Reads anchor and tag in either order; also gives the token after them. -/
def properties (t : Token) : ParseM (Properties × Token) := do
  match t.kind with
  | .anchor name =>
    let next ← advance
    match next.kind with
    | .tag handle suffix => return (⟨name, some (handle, suffix, next.start), t.start⟩, ← advance)
    | _ => return (⟨name, none, t.start⟩, next)
  | .tag handle suffix =>
    let tag := some (handle, suffix, t.start)
    let next ← advance
    match next.kind with
    | .anchor name => return (⟨name, tag, t.start⟩, ← advance)
    | _ => return (⟨none, tag, t.start⟩, next)
  | _ => return ({}, t)

def resolveTag (start : Mark) : Option (String × String × Mark) → ParseM (Option String)
  | none => return none
  | some (handle, suffix, mark) => do
    if handle.isEmpty then return some suffix
    match (← get).tagLeads.lookup handle with
    | some lead => return some (lead ++ suffix)
    | none => failIn "while parsing a node" start "found undefined tag handle" mark

/-- A node. Collections made by indentation are nodes only in a block, and a sequence that is not indented only after
a key or a colon. -/
def node (block indentless : Bool) : ParseM MarkedEvent := do
  let t ← peek
  if let .alias_ name := t.kind then
    resume
    skip
    return ⟨.alias_ name, t.start⟩
  let (props, t) ← properties t
  let start := props.start.getD t.start
  let tag ← resolveTag start props.tag
  let opening (event : Event) (state : ParserState) : ParseM MarkedEvent := do
    goTo state
    return ⟨event, start⟩
  match t.kind with
  | .scalar text style =>
    resume
    skip
    return ⟨.scalar props.anchor (tag.filter (· ≠ "!")) text style, start⟩
  | .flowSequenceStart => opening (.sequenceStart props.anchor tag) (.flowSequenceEntry true)
  | .flowMappingStart => opening (.mappingStart props.anchor tag) (.flowMappingKey true)
  | kind =>
    if indentless && kind = .blockEntry then opening (.sequenceStart props.anchor tag) .indentlessEntry
    else if block && kind = .blockSequenceStart then
      opening (.sequenceStart props.anchor tag) (.blockSequenceEntry true)
    else if block && kind = .blockMappingStart then
      opening (.mappingStart props.anchor tag) (.blockMappingKey true)
    else if props.anchor.isSome || tag.isSome then
      resume
      return ⟨.scalar props.anchor tag "" .plain, start⟩
    else
      failIn (if block then "while parsing a block node" else "while parsing a flow node") start
        "did not find expected node content" t.start

/-- A node, after which a state goes on; where some tokens come next, an empty scalar at a mark instead. -/
def nodeUnless (stops : List TokenKind) (after : ParserState) (t : Token) (mark : Mark)
    (block indentless : Bool) : ParseM MarkedEvent := do
  if stops.contains t.kind then
    goTo after
    return emptyScalar mark
  wait after
  node block indentless

def endCollection (event : Event) (t : Token) : ParseM MarkedEvent := do
  resume
  let _ ← close
  skip
  return ⟨event, t.start⟩

/-! ## Documents -/

/-- Lets a handle stand for something, unless it does so already. -/
def addLead (handle lead : String) (mark : Option Mark) : ParseM Unit := do
  let p ← get
  if (p.tagLeads.lookup handle).isSome then
    if let some mark := mark then fail "found duplicate %TAG directive" mark
  else set { p with tagLeads := p.tagLeads ++ [(handle, lead)] }

/-- Reads directives, in at most `fuel` steps; tells what comes after them. -/
def directives : Nat → Bool → ParseM Token
  | 0, _ => peek
  | fuel + 1, versioned => do
    let t ← peek
    match t.kind with
    | .versionDirective major minor =>
      if versioned then fail "found duplicate %YAML directive" t.start
      if major ≠ 1 || (minor ≠ 1 && minor ≠ 2) then fail "found incompatible YAML document" t.start
      skip
      directives fuel true
    | .tagDirective handle lead =>
      addLead handle lead (some t.start)
      skip
      directives fuel versioned
    | _ => return t

/-- Reads directives and adds the usual handles of tags. -/
def prepareDocument : ParseM Token := do
  let t ← directives ((← get).scanner.cursor.rest.length + 3) false
  addLead "!" "!" none
  addLead "!!" "tag:yaml.org,2002:" none
  return t

/-- Takes the marks of ended documents, in at most `fuel` steps; tells what comes after them. -/
def skipDocumentEnds : Nat → ParseM Token
  | 0 => peek
  | fuel + 1 => do
    let t ← peek
    if t.kind ≠ .documentEnd then return t
    skip
    skipDocumentEnds fuel

/-- Whether a token starts a document with a mark or directives. -/
def startsExplicitly : TokenKind → Bool
  | .versionDirective _ _ | .tagDirective _ _ | .documentStart => true
  | _ => false

/-- The start of a document or the end of the text. -/
def documentStart (implicit : Bool) : ParseM MarkedEvent := do
  let t ← if implicit then peek else skipDocumentEnds ((← get).scanner.cursor.rest.length + 3)
  if t.kind = .streamEnd then
    goTo .finished
    skip
    return ⟨.streamEnd, t.start⟩
  let next ← prepareDocument
  wait .documentEnd
  if implicit && !startsExplicitly t.kind then
    goTo .blockNode
  else
    if next.kind ≠ .documentStart then fail "did not find expected <document start>" next.start
    goTo .documentContent
    skip
  return ⟨.documentStart, t.start⟩

/-- The content of a document that starts with a mark. -/
def documentContent : ParseM MarkedEvent := do
  let t ← peek
  if startsExplicitly t.kind || t.kind = .documentEnd || t.kind = .streamEnd then
    resume
    return emptyScalar t.start
  node true false

def documentEnd : ParseM MarkedEvent := do
  let t ← peek
  if t.kind = .documentEnd then skip
  modify fun p => { p with tagLeads := [] }
  goTo (.documentStart false)
  return ⟨.documentEnd, t.start⟩

/-! ## Collections made by indentation -/

def blockSequenceEntry (first : Bool) : ParseM MarkedEvent := do
  let mut t ← peek
  if first then
    openAt t.start
    t ← advance
  match t.kind with
  | .blockEntry =>
    let mark := t.stop
    nodeUnless [.blockEntry, .blockEnd] (.blockSequenceEntry false) (← advance) mark true false
  | .blockEnd => endCollection .sequenceEnd t
  | _ => failIn "while parsing a block collection" (← close) "did not find expected '-' indicator" t.start

/-- An entry of a sequence that is not indented. -/
def indentlessEntry : ParseM MarkedEvent := do
  let t ← peek
  if t.kind = .blockEntry then
    nodeUnless [.blockEntry, .key, .value, .blockEnd] .indentlessEntry (← advance) t.stop true false
  else
    resume
    return ⟨.sequenceEnd, t.start⟩

def blockMappingKey (first : Bool) : ParseM MarkedEvent := do
  let mut t ← peek
  if first then
    openAt t.start
    t ← advance
  match t.kind with
  | .key =>
    let mark := t.stop
    nodeUnless [.key, .value, .blockEnd] .blockMappingValue (← advance) mark true true
  | .blockEnd => endCollection .mappingEnd t
  | _ => failIn "while parsing a block mapping" (← close) "did not find expected key" t.start

def blockMappingValue : ParseM MarkedEvent := do
  let t ← peek
  if t.kind = .value then
    nodeUnless [.key, .value, .blockEnd] (.blockMappingKey false) (← advance) t.stop true true
  else
    goTo (.blockMappingKey false)
    return emptyScalar t.start

/-! ## Collections in brackets -/

/-- An entry of a sequence in brackets; one with a colon is a mapping of its own. -/
def flowSequenceEntry (first : Bool) : ParseM MarkedEvent := do
  let mut t ← peek
  if first then
    openAt t.start
    t ← advance
  if t.kind = .flowSequenceEnd then return ← endCollection .sequenceEnd t
  if !first then
    if t.kind ≠ .flowEntry then
      failIn "while parsing a flow sequence" (← close) "did not find expected ',' or ']'" t.start
    t ← advance
  if t.kind = .key then
    goTo .pairKey
    skip
    return ⟨.mappingStart none none, t.start⟩
  if t.kind = .flowSequenceEnd then return ← endCollection .sequenceEnd t
  wait (.flowSequenceEntry false)
  node false false

/-- The key of a mapping that is an entry of a sequence. -/
def pairKey : ParseM MarkedEvent := do
  let t ← peek
  if [TokenKind.value, .flowEntry, .flowSequenceEnd].contains t.kind then
    skip
    goTo .pairValue
    return emptyScalar t.stop
  wait .pairValue
  node false false

def pairValue : ParseM MarkedEvent := do
  let t ← peek
  if t.kind = .value then
    let next ← advance
    nodeUnless [.flowEntry, .flowSequenceEnd] .pairEnd next next.start false false
  else
    goTo .pairEnd
    return emptyScalar t.start

def pairEnd : ParseM MarkedEvent := do
  let t ← peek
  goTo (.flowSequenceEntry false)
  return ⟨.mappingEnd, t.start⟩

def flowMappingKey (first : Bool) : ParseM MarkedEvent := do
  let mut t ← peek
  if first then
    openAt t.start
    t ← advance
  if t.kind = .flowMappingEnd then return ← endCollection .mappingEnd t
  if !first then
    if t.kind ≠ .flowEntry then
      failIn "while parsing a flow mapping" (← close) "did not find expected ',' or '\x7d'" t.start
    t ← advance
  if t.kind = .key then
    let next ← advance
    return ← nodeUnless [.value, .flowEntry, .flowMappingEnd] (.flowMappingValue false) next next.start false false
  if t.kind = .flowMappingEnd then return ← endCollection .mappingEnd t
  wait (.flowMappingValue true)
  node false false

/-- A value of a mapping in brackets, which is empty after a key without a colon. -/
def flowMappingValue (empty : Bool) : ParseM MarkedEvent := do
  let t ← peek
  if !empty && t.kind = .value then
    let next ← advance
    nodeUnless [.flowEntry, .flowMappingEnd] (.flowMappingKey false) next next.start false false
  else
    goTo (.flowMappingKey false)
    return emptyScalar t.start

/-! ## The next event -/

def next : ParseM MarkedEvent := do
  match (← get).state with
  | .streamStart =>
    let t ← peek
    goTo (.documentStart true)
    skip
    return ⟨.streamStart, t.start⟩
  | .documentStart implicit => documentStart implicit
  | .documentContent => documentContent
  | .documentEnd => documentEnd
  | .blockNode => node true false
  | .blockSequenceEntry first => blockSequenceEntry first
  | .indentlessEntry => indentlessEntry
  | .blockMappingKey first => blockMappingKey first
  | .blockMappingValue => blockMappingValue
  | .flowSequenceEntry first => flowSequenceEntry first
  | .pairKey => pairKey
  | .pairValue => pairValue
  | .pairEnd => pairEnd
  | .flowMappingKey first => flowMappingKey first
  | .flowMappingValue empty => flowMappingValue empty
  | .finished => return ⟨.streamEnd, {}⟩

end Parser

end LivePage.Yaml
