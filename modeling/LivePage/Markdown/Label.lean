import LivePage.Markdown.Buffer
import LivePage.Text.CaseFold
/-!
# Link labels

A label names a link definition or a footnote. Within a label, white space counts as one space however much of it
there is, and two labels are the same when their case foldings are equal.
-/
namespace LivePage.Markdown

/-- What stands between a line end inside a label and the rest of the label: the position after it, or none when
the label may not go on. -/
abbrev LabelLineRule := Nat → Option Nat

namespace Buffer

def labelLimit : Nat := 1000

/-- White space inside a label: the position after it, and how many characters wide it counts, one space being one
and everything else two. -/
def labelSpace? (b : Buffer) (rule : LabelLineRule) : Nat → Nat → Nat → Nat → Option (Nat × Nat)
  | 0, i, width, _ => some (i, width)
  | fuel + 1, i, width, lines =>
    match b.get? i with
    | none => some (i, width)
    | some x =>
      if isEol x then
        if lines = 1 then none
        else do
          let next ← rule (← b.skipEol? i)
          labelSpace? b rule fuel next (width + 2) (lines + 1)
      else if isInlineSpace x then labelSpace? b rule fuel (i + 1) (width + if x == 32 then 1 else 2) lines
      else some (i, width)

/-- Reads a label up to its closing bracket, after its opening bracket. The state holds the text read so far, the
number of characters, and whether one of them was not white space. -/
def labelFrom? (b : Buffer) (rule : LabelLineRule) (inTable : Bool) :
    Nat → Nat → String → Nat → Bool → Option (String × Nat)
  | 0, _, _, _, _ => none
  | fuel + 1, i, text, count, filled =>
    if labelLimit ≤ count then none else
    match b.get? i with
    | none => none
    | some x =>
      if x == '['.toUInt8 then none
      else if x == ']'.toUInt8 then if filled then some (text, i + 1) else none
      else if inTable && b.hasText i "\\|" then
        labelFrom? b rule inTable fuel (i + 2) (text ++ "|") (count + 1) true
      else if x == '\\'.toUInt8 && b.holdsAt isPunct (i + 1) then
        labelFrom? b rule inTable fuel (i + 2) (text ++ b.slice i (i + 2)) (count + 2) true
      else if isSpace x then do
        let (next, width) ← labelSpace? b rule (b.stop - i) i 0 0
        let shown := if 1 < width then " " else b.slice i next
        labelFrom? b rule inTable fuel next (text ++ shown) (count + if 1 < width then next - i else 1) filled
      else
        let next := b.skipWhile isContinuation (i + 1)
        labelFrom? b rule inTable fuel next (text ++ b.slice i next) (count + 1) true

def isAsciiSpace (c : Char) : Bool := c.toNat < 128 && isSpace c.toUInt8

/-- The label whose text starts at a position, and the position after its closing bracket. -/
def label? (b : Buffer) (rule : LabelLineRule) (inTable : Bool) (i : Nat) : Option (String × Nat) :=
  (b.labelFrom? rule inTable (b.stop - i) i "" 0 false).map fun (text, next) =>
    let kept := (text.toList.dropWhile isAsciiSpace).reverse.dropWhile isAsciiSpace
    (String.ofList kept.reverse, next)

end Buffer

/-- Labels with what they name, the first to be defined first. -/
abbrev LabelTable (α : Type) := List (String × α)

namespace LabelTable

def find? {α : Type} (t : LabelTable α) (label : String) : Option α := t.lookup (Text.foldCase label)

/-- Lets a label name something, unless it names something already. -/
def define {α : Type} (t : LabelTable α) (label : String) (a : α) : LabelTable α :=
  if (t.find? label).isSome then t else t ++ [(Text.foldCase label, a)]

end LabelTable

end LivePage.Markdown
