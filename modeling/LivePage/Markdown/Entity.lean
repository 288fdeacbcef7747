import LivePage.Markdown.Buffer
import LivePage.Markdown.EntityTable
/-!
# Character references and escapes

A character may be written as a reference, by name or by number, and punctuation may be written after a backslash.
Destinations, titles and info strings are read with both undone.
-/
namespace LivePage.Markdown

namespace Buffer

/-- The character of a numeric reference; zero stands for the replacement character. -/
def referenceChar? (n : Nat) : Option Char :=
  if n = 0 then some '\uFFFD' else if n.isValidChar then some (Char.ofNat n) else none

def digitsBetween (b : Buffer) (base start stop : Nat) : Nat :=
  (b.slice start stop).foldl (fun n c => base * n + hexValue c) 0

def isHexDigit (x : UInt8) : Bool := isDigit x || isOneOf "abcdefABCDEF" x

/-- A numeric reference whose digits start at a position: at most so many digits, then a semicolon. -/
def numericReference? (b : Buffer) (base most : Nat) (digit : UInt8 → Bool) (i : Nat) : Option (String × Nat) :=
  let stop := min (b.skipWhile digit i) (i + most)
  if stop = i || !b.isAt stop ';' then none
  else (referenceChar? (b.digitsBetween base i stop)).map fun c => (String.singleton c, stop + 1)

/-- The character reference at an ampersand: the text it stands for and the position after it. -/
def characterReference? (b : Buffer) (i : Nat) : Option (String × Nat) :=
  if !b.isAt i '&' then none
  else if b.isAt (i + 1) '#' then
    if b.isAt (i + 2) 'x' || b.isAt (i + 2) 'X' then b.numericReference? 16 6 isHexDigit (i + 3)
    else b.numericReference? 10 7 isDigit (i + 2)
  else
    let stop := b.skipWhile isLetterOrDigit (i + 1)
    if b.isAt stop ';' then (entities.lookup (b.slice (i + 1) stop)).map fun s => (s, stop + 1) else none

/-- The text between two positions with references and escapes undone and carriage returns left out. In a table
cell an escaped backslash before a pipe is left out as well, for the pipe was escaped once more there. -/
def unescape (b : Buffer) (inTable : Bool) (start stop : Nat) : String :=
  go (stop - start) start
where
  go : Nat → Nat → String
    | 0, _ => ""
    | fuel + 1, i =>
      let c := b.upTo stop
      if stop ≤ i then ""
      else if inTable && c.hasText i "\\\\|" then "|" ++ go fuel (i + 3)
      else if c.isAt i '\\' && c.holdsAt isPunct (i + 1) then
        b.slice (i + 1) (i + 2) ++ go fuel (i + 2)
      else match c.characterReference? i with
        | some (text, next) => text ++ go fuel next
        | none =>
          if c.isAt i '\r' then go fuel (i + 1)
          else
            let next := c.skipWhile isContinuation (i + 1)
            b.slice i next ++ go fuel next

end Buffer

end LivePage.Markdown
