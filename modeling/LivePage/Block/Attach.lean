import LivePage.Block.Container
import LivePage.HeadingId
import LivePage.Markdown.Html
/-!
# Attaching blocks

Puts the containers of live blocks among the events of a page. A block knows the index of the event that opens its
code; there must be one, and every block has to be reached.
-/
namespace LivePage

open Markdown

/-- Why blocks cannot be attached. -/
inductive AttachFault where
  | notCode (id : String)
  | incomplete (attached total : Nat)
deriving DecidableEq, Repr

def AttachFault.message : AttachFault → String
  | notCode id => s!"block '{id}' is not attached to a code block"
  | incomplete attached total => s!"rewrote {attached} of {total} blocks while rendering HTML"

/-- What happens to the content of a code block. -/
inductive CodeMode where
  | outside
  /-- The code is kept, and its container has to be closed after it. -/
  | keep
  | drop
deriving DecidableEq, Repr

/-- A live block as collected and as resolved. -/
abbrev PendingBlock := CodeBlock × Block

/-- Events with containers in place, and the blocks that were not reached. -/
abbrev Attached := List Event × List PendingBlock

namespace Attached

def after (before : List Event) (a : Attached) : Attached := (before ++ a.1, a.2)

end Attached

/-- Attaches blocks to events of which the first has an index (`render_html`). -/
def attachFrom : Nat → CodeMode → List PendingBlock → List Event → Except (AttachFault × Nat) Attached
  | _, .keep, pending, [] => .ok ([.html Block.wrapperClose], pending)
  | _, _, pending, [] => .ok ([], pending)
  | i, .keep, pending, e :: rest =>
    if e.closesCode then
      (attachFrom (i + 1) .outside pending rest).map (Attached.after [e, .html Block.wrapperClose])
    else (attachFrom (i + 1) .keep pending rest).map (Attached.after [e])
  | i, .drop, pending, e :: rest => attachFrom (i + 1) (if e.closesCode then .outside else .drop) pending rest
  | i, .outside, [], e :: rest => (attachFrom (i + 1) .outside [] rest).map (Attached.after [e])
  | i, .outside, (cb, block) :: pending, e :: rest =>
    if cb.eventIndex ≠ i then
      (attachFrom (i + 1) .outside ((cb, block) :: pending) rest).map (Attached.after [e])
    else match e with
      | .start (.codeBlock _) =>
        if block.type = .lvt then
          (attachFrom (i + 1) .drop pending rest).map (Attached.after [.html block.placeholder])
        else (attachFrom (i + 1) .keep pending rest).map (Attached.after [.html block.wrapperOpen, e])
      | _ => .error (.notCode block.id, cb.line)

/-- The events of a page with its blocks attached; a fault has the line of its block, if there is one. -/
def attachBlocks (events : List Event) (collected : List CodeBlock) (blocks : List Block) :
    Except (AttachFault × Nat) (List Event) :=
  match attachFrom 0 .outside (collected.zip blocks) events with
  | .error e => .error e
  | .ok (attached, pending) =>
    let reached := (collected.zip blocks).length - pending.length
    if reached = blocks.length ∧ collected.length = blocks.length then .ok attached
    else .error (.incomplete reached blocks.length, (pending.head?.map (·.1.line)).getD 1)

/-- The page as HTML with its blocks attached (`render_html`). -/
def renderPage (events : List Event) (collected : List CodeBlock) (blocks : List Block) (headingIds : Bool) :
    Except (AttachFault × Nat) String :=
  let events := if headingIds then assignHeadingIds events else events
  (attachBlocks events collected blocks).map Html.render

end LivePage
