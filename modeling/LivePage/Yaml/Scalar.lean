import LivePage.Yaml.Token
/-!
# Scalars

Reads scalars in their five styles. A line break between two lines of text becomes a space, and of several the
first one is dropped; only a literal block keeps its breaks. A break other than the usual ones is always kept.
-/
namespace LivePage.Yaml

open Text

/-- Breaks between two lines of text: the first one and those after it. -/
structure Breaks where
  first : List Char := []
  others : List Char := []

namespace Breaks

/-- The text that folded breaks leave. -/
def folded (b : Breaks) : List Char :=
  if b.first.head? = some '\n' then (if b.others.isEmpty then [' '] else b.others) else b.first ++ b.others

end Breaks

/-- White space between two pieces of a scalar. -/
structure Gap where
  blanks : List Char := []
  breaks : Breaks := {}
  broken : Bool := false

namespace Gap

/-- The text that the white space leaves. -/
def text (g : Gap) : List Char := if g.broken then g.breaks.folded else g.blanks

def addBreak (g : Gap) (s : List Char) : Gap :=
  if g.broken then { g with breaks.others := g.breaks.others ++ s }
  else { blanks := [], breaks := { g.breaks with first := s }, broken := true }

end Gap

/-- Reads spaces, tabs and breaks, in at most `fuel` steps. Where a tab may not stand in for indentation, `least` is
the column from which on it may stand. -/
def takeGap (least : Option Nat) (start : Mark) : Nat → Gap → Cursor → Reading (Gap × Cursor)
  | 0, g, c => .ok (g, c)
  | fuel + 1, g, c =>
    match c.peek? with
    | none => .ok (g, c)
    | some x =>
      if isBlankChar x then
        if g.broken && x == '\t' && least.any (c.mark.column < ·) then
          c.fault "while scanning a plain scalar" start "found a tab character that violates indentation"
        else takeGap least start fuel (if g.broken then g else { g with blanks := g.blanks ++ [x] }) c.skip
      else if isBreak x then
        let (s, next) := c.takeBreak
        takeGap least start fuel (g.addBreak s) next
      else .ok (g, c)

/-! ## Quoted scalars -/

/-- What a character after a backslash stands for, by itself. -/
def simpleEscape? : Char → Option Char
  | '0' => some '\x00'
  | 'a' => some '\x07'
  | 'b' => some '\x08'
  | 't' | '\t' => some '\t'
  | 'n' => some '\n'
  | 'v' => some '\x0b'
  | 'f' => some '\x0c'
  | 'r' => some '\r'
  | 'e' => some '\x1b'
  | ' ' => some ' '
  | '"' => some '"'
  | '/' => some '/'
  | '\\' => some '\\'
  | 'N' => some '\u0085'
  | '_' => some '\u00a0'
  | 'L' => some '\u2028'
  | 'P' => some '\u2029'
  | _ => none

/-- Number of hexadecimal digits after a letter that a backslash precedes. -/
def escapeDigits? : Char → Option Nat
  | 'x' => some 2
  | 'u' => some 4
  | 'U' => some 8
  | _ => none

/-- An escape sequence at a backslash that does not end its line. -/
def takeEscape (start : Mark) (c : Cursor) : Reading (Char × Cursor) :=
  let context := "while parsing a quoted scalar"
  match (c.peek? 1).bind simpleEscape?, (c.peek? 1).bind escapeDigits? with
  | some x, _ => .ok (x, c.skipMany 2)
  | none, some n =>
    let digits := c.skipMany 2
    let chars := digits.rest.take n
    let value := chars.foldl (fun v x => 16 * v + hexValue x) 0
    if chars.length < n || !chars.all isHexDigit then
      digits.fault context start "did not find expected hexdecimal number"
    else if !value.isValidChar then digits.fault context start "found invalid Unicode character escape code"
    else .ok (Char.ofNat value, digits.skipMany n)
  | none, none => c.fault context start "found unknown escape character"

/-- Reads the characters of a quoted scalar up to white space or the closing mark, in at most `fuel` steps; tells
whether an escaped break ended them. -/
def takeQuotedPiece (single : Bool) (start : Mark) :
    Nat → List Char → Cursor → Reading (List Char × Bool × Cursor)
  | 0, text, c => .ok (text, false, c)
  | fuel + 1, text, c =>
    if c.isSpaceOrEnd then .ok (text, false, c)
    else if single && c.isAt '\'' && c.isAt '\'' 1 then
      takeQuotedPiece single start fuel (text ++ ['\'']) (c.skipMany 2)
    else if c.isAt (if single then '\'' else '"') then .ok (text, false, c)
    else if !single && c.isAt '\\' then
      if c.skip.isBreak then .ok (text, true, c.skip.skipBreak)
      else do
        let (x, next) ← takeEscape start c
        takeQuotedPiece single start fuel (text ++ [x]) next
    else takeQuotedPiece single start fuel (text ++ c.rest.take 1) c.skip

def takeQuotedText (single : Bool) (start : Mark) : Nat → List Char → Cursor → Reading (List Char × Cursor)
  | 0, text, c => .ok (text, c)
  | fuel + 1, text, c => do
    let context := "while scanning a quoted scalar"
    if c.isDocumentMark '-' || c.isDocumentMark '.' then
      c.fault context start "found unexpected document indicator"
    if c.isAtEnd then c.fault context start "found unexpected end of stream"
    let (text, escaped, c) ← takeQuotedPiece single start (c.rest.length + 1) text c
    if c.isAt (if single then '\'' else '"') then return (text, c.skip)
    let (gap, c) ← takeGap none start (c.rest.length + 1) { broken := escaped } c
    takeQuotedText single start fuel (text ++ gap.text) c

def takeQuoted (single : Bool) (c : Cursor) : Reading (Token × Cursor) := do
  let (text, next) ← takeQuotedText single c.mark (c.rest.length + 1) [] c.skip
  let style := if single then ScalarStyle.singleQuoted else .doubleQuoted
  return (⟨.scalar (String.ofList text) style, c.mark, next.mark⟩, next)

/-! ## Plain scalars -/

/-- The characters of a plain scalar that are read, with the place after the last of them. -/
structure PlainText where
  text : List Char := []
  stop : Mark
  /-- White space that has not been followed by text yet. -/
  gap : Gap := {}

/-- Whether a plain scalar ends before the next character, which is no white space. -/
def endsPlain (inFlow : Bool) (c : Cursor) : Bool :=
  (c.isAt ':' && c.isSpaceOrEnd 1) || (inFlow && c.isOneOf ",[]\x7b\x7d")

/-- Reads the characters of a plain scalar up to white space or its end, in at most `fuel` steps. -/
def takePlainPiece (inFlow : Bool) (start : Mark) : Nat → PlainText → Cursor → Reading (PlainText × Cursor)
  | 0, p, c => .ok (p, c)
  | fuel + 1, p, c =>
    if c.isSpaceOrEnd then .ok (p, c)
    else if inFlow && c.isAt ':' && c.isOneOf ",?[]\x7b\x7d" 1 then
      c.fault "while scanning a plain scalar" start "found unexpected ':'"
    else if endsPlain inFlow c then .ok (p, c)
    else
      let next := c.skip
      takePlainPiece inFlow start fuel
        { text := p.text ++ p.gap.text ++ c.rest.take 1, stop := next.mark, gap := {} } next

/-- Reads a plain scalar from a place on, in at most `fuel` rounds. Outside flow collections its lines have to reach
the column `least`. -/
def takePlainText (inFlow : Bool) (least : Nat) (start : Mark) :
    Nat → PlainText → Cursor → Reading (PlainText × Cursor)
  | 0, p, c => .ok (p, c)
  | fuel + 1, p, c => do
    if c.isDocumentMark '-' || c.isDocumentMark '.' || c.isAt '#' then return (p, c)
    let (p, c) ← takePlainPiece inFlow start (c.rest.length + 1) p c
    if !(c.isBlank || c.isBreak) then return (p, c)
    let (gap, c) ← takeGap (some least) start (c.rest.length + 1) p.gap c
    let p := { p with gap }
    if !inFlow && c.mark.column < least then return (p, c)
    takePlainText inFlow least start fuel p c

/-- A plain scalar; tells whether white space after it holds a break. -/
def takePlain (inFlow : Bool) (least : Nat) (c : Cursor) : Reading (Token × Bool × Cursor) := do
  let (p, next) ← takePlainText inFlow least c.mark (c.rest.length + 1) { stop := c.mark } c
  return (⟨.scalar (String.ofList p.text) .plain, c.mark, p.stop⟩, p.gap.broken, next)

/-! ## Block scalars -/

/-- What becomes of the breaks at the end of a block scalar. -/
inductive Chomping where
  | strip
  | clip
  | keep
deriving DecidableEq, Repr

/-- The indicators after the one that opens a block scalar. -/
structure BlockHeader where
  chomping : Chomping := .clip
  indent : Option Nat := none

def takeChomping (c : Cursor) : Option (Chomping × Cursor) :=
  if c.isAt '+' then some (.keep, c.skip) else if c.isAt '-' then some (.strip, c.skip) else none

def takeIndent (start : Mark) (c : Cursor) : Reading (Option Nat × Cursor) :=
  match c.peek? with
  | some x =>
    if x = '0' then
      c.fault "while scanning a block scalar" start "found an indentation indicator equal to 0"
    else if x.isDigit then .ok (some (x.toNat - 48), c.skip)
    else .ok (none, c)
  | none => .ok (none, c)

def takeBlockHeader (start : Mark) (c : Cursor) : Reading (BlockHeader × Cursor) := do
  match takeChomping c with
  | some (chomping, c) =>
    let (indent, c) ← takeIndent start c
    return ({ chomping, indent }, c)
  | none =>
    let (indent, c) ← takeIndent start c
    match if indent.isSome then takeChomping c else none with
    | some (chomping, c) => return ({ chomping, indent }, c)
    | none => return ({ indent }, c)

/-- The breaks between two lines of a block scalar, and the place after the last one. -/
structure BlockBreaks where
  text : List Char := []
  widest : Nat := 0
  stop : Mark

/-- Reads indentation and breaks, in at most `fuel` rounds. Indentation ends at a column, if it is known. -/
def takeBlockBreaks (indent : Option Nat) (start : Mark) :
    Nat → BlockBreaks → Cursor → Reading (BlockBreaks × Cursor)
  | 0, b, c => .ok (b, c)
  | fuel + 1, b, c => do
    let spaces := (c.rest.takeWhile (· == ' ')).length
    let c := c.skipMany (match indent with | some n => min spaces (n - c.mark.column) | none => spaces)
    let b := { b with widest := max b.widest c.mark.column }
    if c.isAt '\t' && indent.all (c.mark.column < ·) then
      c.fault "while scanning a block scalar" start "found a tab character where an indentation space is expected"
    if !c.isBreak then return (b, c)
    let (s, c) := c.takeBreak
    takeBlockBreaks indent start fuel { b with text := b.text ++ s, stop := c.mark } c

/-- A block scalar as far as it has been read. -/
structure BlockText where
  text : List Char := []
  lastBreak : List Char := []
  breaks : BlockBreaks
  spaced : Bool := false

/-- Reads the lines of a block scalar, in at most `fuel` rounds. -/
def takeBlockLines (literal : Bool) (indent : Nat) (start : Mark) :
    Nat → BlockText → Cursor → Reading (BlockText × Cursor)
  | 0, t, c => .ok (t, c)
  | fuel + 1, t, c => do
    if c.mark.column != indent || c.isAtEnd then return (t, c)
    let spaced := c.isBlank
    let fold := !literal && t.lastBreak.head? == some '\n' && !t.spaced && !spaced
    let lead := if fold then (if t.breaks.text.isEmpty then [' '] else []) else t.lastBreak
    let (line, c) := c.takeWhile (!isBreak ·)
    let (lastBreak, c) := c.takeBreak
    let (breaks, c') ← takeBlockBreaks (some indent) start (c.rest.length + 1) { stop := c.mark } c
    takeBlockLines literal indent start fuel
      { text := t.text ++ lead ++ t.breaks.text ++ line, lastBreak, breaks, spaced } c'

/-- A block scalar in a collection that is indented by `parent` columns, or by less than none at the top. -/
def takeBlock (literal : Bool) (parent : Int) (c : Cursor) : Reading (Token × Cursor) := do
  let start := c.mark
  let (header, c) ← takeBlockHeader start c.skip
  let c := c.skipComment
  if !c.isBreakOrEnd then
    c.fault "while scanning a block scalar" start "did not find expected comment or line break"
  let c := c.skipBreak
  let declared := header.indent.map fun n => parent.toNat + n
  let (breaks, c) ← takeBlockBreaks declared start (c.rest.length + 1) { stop := c.mark } c
  let indent := declared.getD (max (max breaks.widest (parent + 1).toNat) 1)
  let (t, next) ← takeBlockLines literal indent start (c.rest.length + 1) { breaks } c
  let text := t.text ++ (if header.chomping = .strip then [] else t.lastBreak)
    ++ (if header.chomping = .keep then t.breaks.text else [])
  return (⟨.scalar (String.ofList text) (if literal then .literal else .folded), start, t.breaks.stop⟩, next)

end LivePage.Yaml
