import LivePage.Markdown.Buffer
import LivePage.Text.Punctuation
/-!
# Delimiter runs

A run of asterisks, underscores or tildes may open or close emphasis, as the characters on either side of it
allow.
-/
namespace LivePage.Markdown

open Text

/-- A run of one delimiter character with its neighbours. -/
structure DelimiterRun where
  mark : Char
  length : Nat
  before : Option Char
  after : Option Char
  /-- Whether the run stands in a table cell, where pipes are the ends of the text. -/
  inCell : Bool
  /-- Whether the character before is a pipe that is not escaped. -/
  afterPipe : Bool

namespace DelimiterRun

def canOpen (r : DelimiterRun) : Bool :=
  match r.after, r.before with
  | none, _ => false
  | some next, before =>
    if isBlank next then false
    else match before with
      | none => true
      | some previous =>
        if r.inCell && r.afterPipe then true
        else if r.inCell && next == '|' then false
        else if r.mark == '*' && !isPunctuation next then true
        else if r.mark == '~' && 1 < r.length then true
        else if r.mark == '~' && previous == '~' && !isPunctuation next then true
        else isBlank previous || isPunctuation previous

def canClose (r : DelimiterRun) : Bool :=
  match r.before, r.after with
  | none, _ => false
  | some previous, after =>
    if isBlank previous then false
    else match after with
      | none => true
      | some next =>
        if r.inCell && r.afterPipe then false
        else if r.inCell && next == '|' then true
        else if (r.mark == '*' || (r.mark == '~' && 1 < r.length)) && !isPunctuation previous then true
        else if r.mark == '~' && previous == '~' then true
        else isBlank next || isPunctuation next

/-- Whether the run counts as delimiters at all: three tildes or more do not. -/
def isValid (r : DelimiterRun) : Bool := r.mark != '~' || r.length ≤ 2

end DelimiterRun

/-- The run of a delimiter character that starts at a position. -/
def Buffer.delimiterRun (b : Buffer) (mark : Char) (inCell : Bool) (i : Nat) : DelimiterRun :=
  let stop := b.skipRun mark i
  { mark
    length := stop - i
    before := b.charBefore? i
    after := b.charAt? stop
    inCell
    afterPipe := 0 < i && b.isAt (i - 1) '|' && !(1 < i && b.isAt (i - 2) '\\') }

end LivePage.Markdown
