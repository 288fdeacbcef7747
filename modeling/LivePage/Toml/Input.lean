import LivePage.Text.Basic
/-!
# Reading TOML

The part of a TOML text that is still to be read, the fault that ends reading, and the pieces without meaning: blanks,
line ends and comments.
-/
namespace LivePage.Toml

open Text

/-- A text from one place on. -/
structure Input where
  rest : List Char
  offset : Nat := 0

/-- Why a text cannot be read. -/
structure Fault where
  offset : Nat
  label : Option String := none
  expected : List String := []
  cause : Option String := none
  /-- Whether nothing of what was looked for has been met, so that it may just be absent. -/
  absent : Bool := false
deriving DecidableEq, Repr

def Fault.message (f : Fault) : String :=
  let label := f.label.map fun what => s!"invalid {what}"
  let expected := if f.expected.isEmpty then none else some ("expected " ++ ", ".intercalate f.expected)
  "\n".intercalate (label.toList ++ expected.toList ++ f.cause.toList)

/-- Reads a part of a text. -/
abbrev Parse := StateT Input (Except Fault)

namespace Parse

def fail {α : Type} (label : Option String) (expected : List String) (cause : Option String := none)
    (absent : Bool := false) : Parse α := do
  throw { offset := (← get).offset, label, expected, cause, absent }

/-- The fault of a part is told as one of something larger, unless it is known better. -/
def labelled {α : Type} (label : String) (part : Parse α) : Parse α :=
  tryCatch part fun f => throw { f with label := f.label.or (some label) }

def peek : Parse (Option Char) := return (← get).rest.head?

def isNext (s : String) : Parse Bool := return s.toList.isPrefixOf (← get).rest

def skip (count : Nat) : Parse Unit :=
  modify fun s => { rest := s.rest.drop count, offset := s.offset + byteLength (s.rest.take count) }

/-- Reads characters of a class for as long as they come. -/
def many (p : Char → Bool) : Parse (List Char) := do
  let cs := (← get).rest.takeWhile p
  skip cs.length
  return cs

/-- Goes past a character if it comes next. -/
def skipIf (c : Char) : Parse Bool := do
  if (← peek) = some c then
    skip 1
    return true
  else return false

/-! ## Blanks and comments -/

def isWhite (c : Char) : Bool := c == ' ' || c == '\t'

def blanks : Parse Unit := do let _ ← many isWhite

/-- Goes past a line end if it comes next. -/
def lineEnd : Parse Bool := do
  match (← get).rest with
  | '\n' :: _ =>
    skip 1
    return true
  | '\r' :: '\n' :: _ =>
    skip 2
    return true
  | _ => return false

def isCommentChar (c : Char) : Bool := c == '\t' || (32 ≤ c.toNat && c.toNat ≠ 127)

def comment : Parse Unit := do if ← skipIf '#' then let _ ← many isCommentChar

/-- Goes past the end of a line or of the text. -/
def lineStop (label : Option String) (expected : List String) : Parse Unit := do
  if (← peek).isSome then
    if !(← lineEnd) then fail label expected

/-- Goes past what may follow on a line, and its end. -/
def trailing : Parse Unit := do
  blanks
  comment
  lineStop none ["newline", "`#`"]

/-- Goes past blanks, line ends and comments, in at most `fuel` steps. -/
def spaceFrom : Nat → Parse Unit
  | 0 => return
  | fuel + 1 => do
    blanks
    if ← lineEnd then spaceFrom fuel
    else if (← peek) = some '#' then
      comment
      spaceFrom fuel

/-- Goes past blanks, line ends and comments. -/
def space : Parse Unit := do spaceFrom (2 * (← get).rest.length + 1)

end Parse

end LivePage.Toml
