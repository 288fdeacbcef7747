import LivePage.Markdown.Container
import LivePage.Markdown.Destination
/-!
# Link definitions

A link definition gives a label a destination and perhaps a title. It may run over several lines, each of which
has to be able to continue a paragraph.
-/
namespace LivePage.Markdown

/-- Where a label leads. -/
structure LinkDefinition where
  destination : String
  title : String := ""
deriving DecidableEq, Repr

/-- A text with references and escapes undone. -/
def unescapeText (s : String) (inTable : Bool) : String := (Buffer.ofString s).unescape inTable 0 s.utf8ByteSize

namespace Context

/-- White space within a definition: the position after it and the number of line ends in it, at most one. -/
def definitionSpace? (ctx : Context) (i : Nat) : Option (Nat × Nat) :=
  let b := ctx.source
  let i := b.skipSpace i
  if !b.holdsAt isEol i && (b.get? i).isSome then some (i, 0) else
  match (b.skipEol? i).bind ctx.continueLine? with
  | none => none
  | some j =>
    let j := b.skipSpace j
    if (b.skipEol? j).isSome then none else some (j, 1)

/-- A title between quotation marks or brackets, from after the opening one: its text and the position after it. -/
def definitionTitleFrom? (ctx : Context) (close : Char) : Nat → Nat → Nat → String → Option (String × Nat)
  | 0, _, _, _ => none
  | fuel + 1, lineStart, i, text =>
    let b := ctx.source
    match b.get? i with
    | none => none
    | some x =>
      if close == ')' && x == '('.toUInt8 then none
      else if isEol x then do
        let next ← b.skipEol? i
        let after := b.skipWhile (fun y => y == 32 || y == 9) (← ctx.continueLine? next)
        if (b.skipEol? after).isSome then none
        else definitionTitleFrom? ctx close fuel after after (text ++ b.slice lineStart next)
      else if x == '\\'.toUInt8 then
        let after := if (b.get? (i + 1)).all isEol then i + 1 else i + 2
        definitionTitleFrom? ctx close fuel lineStart after text
      else if x == close.toUInt8 then some (text ++ b.slice lineStart i, i + 1)
      else definitionTitleFrom? ctx close fuel lineStart (i + 1) text

def definitionTitle? (ctx : Context) (i : Nat) : Option (String × Nat) :=
  let b := ctx.source
  let read (close : Char) := ctx.definitionTitleFrom? close (b.stop - i) (i + 1) (i + 1) ""
  if b.isAt i '\'' then read '\'' else if b.isAt i '"' then read '"' else if b.isAt i '(' then read ')' else none

/-- The label at a position after its opening bracket, in a place where it may define something. -/
def definedLabel? (ctx : Context) (i : Nat) : Option (String × Nat) :=
  ctx.source.label? ctx.continueLine? ctx.inTable i

/-- What follows the colon of a definition: the definition and the position after it. -/
def definitionBody? (ctx : Context) (i : Nat) : Option (LinkDefinition × Nat) := do
  let b := ctx.source
  let (i, _) ← ctx.definitionSpace? i
  let (start, stop, next) ← b.destination? 1 i
  if next = i then none else
  let plain : LinkDefinition := { destination := b.unescape ctx.inTable start stop }
  match ctx.definitionSpace? next with
  | none => some (plain, next)
  | some (i, lines) =>
    if i = next && lines = 0 then none else
    let untitled := if 0 < lines then some (plain, next) else none
    match ctx.definitionTitle? i with
    | some (title, after) =>
      if b.isBlankAt after then some ({ plain with title := unescapeText title ctx.inTable }, after) else untitled
    | none => untitled

/-- The definition at a position: its label, what it says, and the position after it. -/
def definition? (ctx : Context) (i : Nat) : Option (String × LinkDefinition × Nat) := do
  let b := ctx.source
  if !b.isAt i '[' then none else
  let (label, colon) ← ctx.definedLabel? (i + 1)
  if !b.isAt colon ':' then none else
  let (definition, next) ← ctx.definitionBody? (colon + 1)
  some (label, definition, next)

end Context

end LivePage.Markdown
