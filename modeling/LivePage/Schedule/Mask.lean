import LivePage.Span
import LivePage.Text.Lines
/-!
# Masks

A mask blanks out byte ranges of a text with spaces and keeps line breaks, so offsets into the masked text are
offsets into the text. A range that cuts a character leaves no readable text; then nothing is masked at all.
-/
namespace LivePage

open Text

/-- How ranges meet a character. -/
inductive Cover where
  | clear
  | covered
  | cut
deriving DecidableEq, Repr

namespace Mask

/-- Whether a byte lies in one of the ranges. -/
def skips (ranges : List Span) (i : Nat) : Bool := ranges.any (·.contains i)

/-- How ranges meet the character of some bytes that starts at an offset; a line break is never covered. -/
def cover (ranges : List Span) (c : Char) (start : Nat) : Cover :=
  if isLineEnd c then .clear else
  let bytes := (List.range c.utf8Size).map fun i => skips ranges (start + i)
  if bytes.all id then .covered else if bytes.any id then .cut else .clear

/-- The text with covered characters blanked out, each by as many spaces as it has bytes; none when a range cuts a
character. -/
def blank? (ranges : List Span) : Nat → List Char → Option (List Char)
  | _, [] => some []
  | offset, c :: cs =>
    match cover ranges c offset, blank? ranges (offset + c.utf8Size) cs with
    | .clear, some rest => some (c :: rest)
    | .covered, some rest => some (List.replicate c.utf8Size ' ' ++ rest)
    | _, _ => none

/-- Whether every range, cut off at the end of the text, runs forward. -/
def wellFormed (ranges : List Span) (length : Nat) : Bool :=
  ranges.all fun r => min r.start length ≤ min r.stop length

/-- The masked text (`mask`). -/
def apply (ranges : List Span) (cs : List Char) : List Char := (blank? ranges 0 cs).getD cs

end Mask

end LivePage
