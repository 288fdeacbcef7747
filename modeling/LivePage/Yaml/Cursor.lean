import LivePage.Text.Basic
/-!
# Reading YAML text

The place up to which a text has been read, with its line and column, and the classes of characters that YAML
tells apart. Columns count characters.
-/
namespace LivePage.Yaml

/-- A place in a text: characters before it, lines before it, and characters before it on its line. -/
structure Mark where
  index : Nat := 0
  line : Nat := 0
  column : Nat := 0
deriving DecidableEq, Repr, Inhabited

namespace Mark

/-- Whether a mark stands at the start of a text, where messages do not name it. -/
def isOrigin (m : Mark) : Bool := m.line == 0 && m.column == 0

/-- Line and column as messages name them. -/
def display (m : Mark) : String := s!"line {m.line + 1} column {m.column + 1}"

end Mark

/-- The part of a text that is still to be read, with its place. -/
structure Cursor where
  rest : List Char
  mark : Mark := {}

/-! ## Character classes -/

def isBlankChar (c : Char) : Bool := c == ' ' || c == '\t'

def isBreak (c : Char) : Bool :=
  c == '\r' || c == '\n' || c == '\u0085' || c == '\u2028' || c == '\u2029'

def isNameChar (c : Char) : Bool := c.isAlphanum || c == '_' || c == '-'

/-- Whether a character may stand in a text at all. -/
def isPrintable (c : Char) : Bool :=
  let n := c.toNat
  n = 9 || n = 10 || n = 13 || (32 ≤ n && n ≤ 126) || n = 0x85 || (0xa0 ≤ n && n ≤ 0xd7ff)
    || (0xe000 ≤ n && n ≤ 0xfffd) || (0x10000 ≤ n && n ≤ 0x10ffff)

namespace Cursor

/-! ## Looking -/

def peek? (c : Cursor) (k : Nat := 0) : Option Char := c.rest[k]?

def isAt (c : Cursor) (x : Char) (k : Nat := 0) : Bool := c.peek? k == some x

def isOneOf (c : Cursor) (xs : String) (k : Nat := 0) : Bool := (c.peek? k).any xs.toList.contains

def isAtEnd (c : Cursor) : Bool := c.rest.isEmpty

def isBlank (c : Cursor) : Bool := (c.peek?).any isBlankChar

def isBreak (c : Cursor) : Bool := (c.peek?).any Yaml.isBreak

def isBreakOrEnd (c : Cursor) : Bool := (c.peek?).all Yaml.isBreak

/-- Whether white space or the end is `k` places ahead. -/
def isSpaceOrEnd (c : Cursor) (k : Nat := 0) : Bool := (c.peek? k).all fun x => isBlankChar x || Yaml.isBreak x

/-- Whether a line starts here with three hyphens or three dots that stand alone. -/
def isDocumentMark (c : Cursor) (x : Char) : Bool :=
  c.mark.column == 0 && c.isAt x && c.isAt x 1 && c.isAt x 2 && c.isSpaceOrEnd 3

/-! ## Moving -/

def skip (c : Cursor) : Cursor :=
  match c.rest with
  | [] => c
  | _ :: rest => ⟨rest, { c.mark with index := c.mark.index + 1, column := c.mark.column + 1 }⟩

def skipMany (c : Cursor) : Nat → Cursor
  | 0 => c
  | n + 1 => c.skip.skipMany n

/-- Steps over the characters of a class that stays on a line; tells which they were. -/
def takeWhile (p : Char → Bool) (c : Cursor) : List Char × Cursor :=
  let taken := c.rest.takeWhile p
  let n := taken.length
  (taken, ⟨c.rest.drop n, { c.mark with index := c.mark.index + n, column := c.mark.column + n }⟩)

/-- Steps over the characters of a class that stays on a line. -/
def skipWhile (p : Char → Bool) (c : Cursor) : Cursor := (c.takeWhile p).2

def skipBlanks (c : Cursor) : Cursor := c.skipWhile isBlankChar

def skipRestOfLine (c : Cursor) : Cursor := c.skipWhile (!Yaml.isBreak ·)

/-- Steps over spaces and tabs and over a comment after them. -/
def skipComment (c : Cursor) : Cursor :=
  let c := c.skipBlanks
  if c.isAt '#' then c.skipRestOfLine else c

/-- Steps over a line break, if one comes next; tells how it counts as text. -/
def takeBreak (c : Cursor) : List Char × Cursor :=
  let after (n : Nat) : Mark := { index := c.mark.index + n, line := c.mark.line + 1, column := 0 }
  match c.rest with
  | '\r' :: '\n' :: rest => (['\n'], ⟨rest, after 2⟩)
  | x :: rest =>
    if !Yaml.isBreak x then ([], c)
    else ([if x = '\u2028' || x = '\u2029' then x else '\n'], ⟨rest, after 1⟩)
  | [] => ([], c)

def skipBreak (c : Cursor) : Cursor := c.takeBreak.2

end Cursor

/-! ## Faults -/

/-- Why a text is no YAML: what is wrong and where, and what was being read and where that started. -/
structure SyntaxFault where
  problem : String
  mark : Mark := {}
  /-- Byte offset of a character that may not stand in a text. -/
  offset : Nat := 0
  context : Option String := none
  contextMark : Mark := {}
deriving DecidableEq, Repr

namespace SyntaxFault

/-- The fault in words. -/
def message (f : SyntaxFault) : String :=
  let place :=
    if !f.mark.isOrigin then s!" at {f.mark.display}"
    else if f.offset != 0 then s!" at position {f.offset}"
    else ""
  let context := match f.context with
    | none => ""
    | some context =>
      let same := f.contextMark.line == f.mark.line && f.contextMark.column == f.mark.column
      if f.contextMark.isOrigin || same then s!", {context}" else s!", {context} at {f.contextMark.display}"
  f.problem ++ place ++ context

end SyntaxFault

end LivePage.Yaml
