import LivePage.Markdown.Blocks
/-!
# Code spans, raw markup and links

Reads the pieces of a block from left to right and finds what binds more tightly than emphasis: code spans, raw
markup, autolinks, links, images and footnote references. Pieces that have been read stand on one side and pieces
to come on the other; a link takes in the pieces between its brackets.
-/
namespace LivePage.Markdown

/-- Where inlines are read: the place of their block, and what labels name. -/
structure InlineContext where
  place : Context
  links : LabelTable LinkDefinition
  footnotes : LabelTable Unit

/-- An opening bracket that may start a link or image. -/
structure Bracket where
  index : Nat
  image : Bool
  /-- Whether a link may start here; it may not when a link has been found after it. -/
  active : Bool := true

structure InlineState where
  done : Array Node := #[]
  brackets : List Bracket := []

namespace Node

/-- Pieces from the first one that reaches past a position, which is cut to start there. -/
def resumeAt (nodes : List Node) (i : Nat) : List Node :=
  match nodes.dropWhile (·.stop ≤ i) with
  | [] => []
  | n :: rest => { n with start := max n.start i } :: rest

end Node

namespace InlineContext

def source (ctx : InlineContext) : Buffer := ctx.place.source

/-- Parentheses that the destination of a link may have open. -/
def maxNesting : Nat := 5

/-! ## Code spans -/

/-- The text of a code span: line ends count as spaces, and one space is dropped from either end when there is one
at both and something else between. -/
def codeText (ctx : InlineContext) (start stop : Nat) : String :=
  let text := collect (stop - start + 1) start
  let cs := text.toList
  if cs.head? == some ' ' && cs.getLast? == some ' ' && !cs.all (· == ' ') then
    String.ofList ((cs.drop 1).dropLast)
  else text
where
  collect : Nat → Nat → String
    | 0, _ => ""
    | fuel + 1, i =>
      let b := ctx.source.upTo stop
      if stop ≤ i then ""
      else if b.holdsAt isEol i then " " ++ collect fuel (min stop (ctx.place.skipLineStart (i + 1)))
      else if ctx.place.inTable && b.hasText i "\\|" then "|" ++ collect fuel (i + 2)
      else
        let next := b.skipWhile isContinuation (i + 1)
        b.slice i next ++ collect fuel next

/-- The pieces from the first run of so many backticks on. -/
def closingBackticks? (count : Nat) : List Node → Option (Node × List Node)
  | [] => none
  | n :: rest =>
    match n.body with
    | .backticks c _ => if c = count then some (n, rest) else closingBackticks? count rest
    | _ => closingBackticks? count rest

/-- A code span that starts with some backticks, if later ones close it: the pieces for it and the pieces after it.
The first of escaped backticks is text. -/
def codeSpan? (ctx : InlineContext) (n : Node) (count : Nat) (escaped : Bool) (rest : List Node) :
    Option (List Node × List Node) := do
  let count := if escaped then count - 1 else count
  if count = 0 then none else
  let (close, after) ← closingBackticks? count rest
  let body : Body := .code (ctx.codeText n.stop close.start)
  if escaped then
    some ([.text n.start (n.start + 1) true, { body, start := n.start + 1, stop := close.stop }], after)
  else some ([{ body, start := n.start, stop := close.stop }], after)

/-! ## Raw markup and autolinks -/

/-- An autolink that starts with an angle bracket, with its end. -/
def autolink? (ctx : InlineContext) (n : Node) : Option (Node × Nat) :=
  let b := ctx.source
  let link (kind : LinkKind) (stop : Nat) : Node × Nat :=
    ({ body := .link ⟨kind, b.slice n.stop (stop - 1), ""⟩, start := n.start, stop,
       children := [.text n.stop (stop - 1)] }, stop)
  match b.addressEnd? n.stop with
  | some stop => some (link .autolink stop)
  | none => (b.mailEnd? n.stop).map (link .email)

/-- Raw markup that starts with an angle bracket, with its end; what containers put at line starts is left out. -/
def markup? (ctx : InlineContext) (n : Node) : Option (Node × Nat) :=
  let b := ctx.source
  (b.inlineMarkup? (some ctx.place.skipLineStart) n.stop).map fun p =>
    let starts := n.start :: p.skipped.reverse.map (·.2)
    let stops := p.skipped.reverse.map (·.1) ++ [p.ix]
    let text := String.join ((starts.zip stops).map fun (i, j) => b.slice i j)
    ({ body := .inlineHtml text, start := n.start, stop := p.ix }, p.ix)

/-! ## Links -/

/-- White space in a link, with at most one line end. -/
def linkSpace (ctx : InlineContext) (i : Nat) : Nat :=
  let b := ctx.source
  let i := b.skipSpace i
  if b.holdsAt isEol i then b.skipSpace (ctx.place.skipLineStart ((b.skipEol? i).getD i)) else i

/-- The title of a link from after its opening mark, in at most `fuel` steps; line ends are followed by the next
piece that is still to come. -/
def linkTitleFrom? (ctx : InlineContext) (open_ close : Char) (rest : List Node) :
    Nat → Nat → String → Option (String × Nat)
  | 0, _, _ => none
  | fuel + 1, i, text =>
    let b := ctx.source
    match b.get? i with
    | none => none
    | some x =>
      if x == close.toUInt8 then some (text, i + 1)
      else if x == open_.toUInt8 then none
      else
        let lineStart := (rest.dropWhile (·.stop ≤ i + 1)).head?.map (·.start)
        match if isEol x then lineStart.filter (i < ·) else none with
        | some next => linkTitleFrom? ctx open_ close rest fuel next (text ++ "\n")
        | none =>
          match b.characterReference? i with
          | some (s, next) => linkTitleFrom? ctx open_ close rest fuel next (text ++ s)
          | none =>
            let start :=
              if ctx.place.inTable && b.hasText i "\\\\|" then i + 2
              else if x == 92 && b.holdsAt isPunct (i + 1) then i + 1
              else i
            let next := b.skipWhile isContinuation (start + 1)
            linkTitleFrom? ctx open_ close rest fuel next (text ++ b.slice start next)

def linkTitle? (ctx : InlineContext) (rest : List Node) (i : Nat) : Option (String × Nat) :=
  let b := ctx.source
  let read (open_ close : Char) := ctx.linkTitleFrom? open_ close rest (b.stop - i) (i + 1) ""
  if b.isAt i '\'' then read '\'' '\'' else if b.isAt i '"' then read '"' '"'
  else if b.isAt i '(' then read '(' ')' else none

/-- What follows the brackets of a link in parentheses: destination, title, and the position after them. -/
def inlineTarget? (ctx : InlineContext) (rest : List Node) (i : Nat) : Option (LinkTarget × Nat) := do
  let b := ctx.source
  if !b.isAt i '(' then none else
  let (start, stop, next) ← b.destination? maxNesting (ctx.linkSpace (i + 1))
  let destination := b.unescape ctx.place.inTable start stop
  let i := ctx.linkSpace next
  let (title, i) := match ctx.linkTitle? rest i with
    | some (title, after) => (title, ctx.linkSpace after)
    | none => ("", i)
  if b.isAt i ')' then some (⟨.inline, destination, title⟩, i + 1) else none

/-! ## References -/

/-- What a text in brackets may name. -/
inductive Reference where
  | link (label : String)
  | footnote (label : String)

/-- The reference in brackets at a position, and the position after it. -/
def reference? (ctx : InlineContext) (b : Buffer) (i : Nat) : Option (Reference × Nat) :=
  if !b.isAt i '[' then none else
  let footnote :=
    if b.isAt (i + 1) '^' && (b.get? (i + 2)).isSome && !b.isAt (i + 2) ']' then
      b.label? (fun _ => none) ctx.place.inTable (i + 2)
    else none
  match footnote with
  | some (label, next) => some (.footnote label, next)
  | none =>
    (b.label? (fun j => some (ctx.place.skipLineStart j)) ctx.place.inTable (i + 1)).map fun (label, next) =>
      (.link label, next)

/-- What follows a text in brackets that is no link by itself. -/
inductive Follower where
  | label (label : String) (stop : Nat)
  | empty (rest : List Node)
  | nothing

/-- What follows the brackets before some pieces. -/
def follower (ctx : InlineContext) (rest : List Node) : Follower :=
  match rest with
  | [] => .nothing
  | n :: more =>
    let b := ctx.source
    if b.hasText n.start "[]" then .empty (more.drop 1)
    else match ctx.reference? b n.start with
      | some (.link label, stop) => .label label stop
      | _ => .nothing

/-- Marks the closing bracket that ends at a position as one that makes no reference by itself. -/
def spendBracket (stop : Nat) : List Node → List Node
  | [] => []
  | n :: rest =>
    if n.stop ≤ stop - 1 then n :: spendBracket stop rest else { n with body := .linkClose false } :: rest

/-! ## Reading pieces -/

/-- Wraps the pieces after an opening bracket into a link or image up to a position. -/
def wrap (s : InlineState) (bracket : Bracket) (target : LinkTarget) (stop : Nat) : InlineState :=
  match s.done[bracket.index]? with
  | none => s
  | some opening =>
    let node : Node :=
      { body := if bracket.image then .image target else .link target
        start := opening.start
        stop
        children := (s.done.extract (bracket.index + 1) s.done.size).toList }
    let disable (b : Bracket) : Bracket := if b.image then b else { b with active := false }
    { done := (s.done.extract 0 bracket.index).push node
      brackets := if bracket.image then s.brackets else s.brackets.map disable }

/-- Replaces the pieces from an opening bracket on by a footnote reference; the mark before an image's bracket
stays. -/
def note (s : InlineState) (bracket : Bracket) (label : String) (stop : Nat) : InlineState :=
  match s.done[bracket.index]? with
  | none => s
  | some opening =>
    let kept := s.done.extract 0 bracket.index
    let reference (start : Nat) : Node := { body := .footnoteReference label, start, stop }
    let done :=
      if bracket.image then
        (kept.push { body := .literal "!", start := opening.start, stop := opening.start + 1 }).push
          (reference (opening.start + 1))
      else kept.push (reference opening.start)
    { done, brackets := [] }

/-- A reference made by brackets, with what follows them: the state and the pieces after it. -/
def referenceLink? (ctx : InlineContext) (s : InlineState) (bracket : Bracket) (close : Node) (mayRefer : Bool)
    (rest : List Node) : Option (InlineState × List Node) :=
  match s.done[bracket.index]? with
  | none => none
  | some opening =>
    let finish (kind : LinkKind) (label : String) (stop : Nat) (rest : List Node) :=
      (ctx.links.find? label).map fun d => (wrap s bracket ⟨kind, d.destination, d.title⟩ stop, rest)
    let own (kind : LinkKind) (after : List Node) :=
      if !mayRefer then none else
      match (ctx.reference? (ctx.source.upTo close.stop) (opening.stop - 1)).filter (·.2 == close.stop) with
      | some (.link label, stop) => finish kind label stop after
      | some (.footnote label, stop) =>
        if (ctx.footnotes.find? label).isSome then some (note s bracket label stop, rest) else none
      | none => none
    match ctx.follower rest with
    | .label label stop => finish .reference label stop ((rest.dropWhile (·.stop ≤ stop - 1)).drop 1)
    | .empty after => own .collapsed after
    | .nothing => own .shortcut rest

/-- The pieces after a closing bracket when it makes no link. -/
def spend (ctx : InlineContext) (rest : List Node) : List Node :=
  match ctx.follower rest with
  | .label _ stop => spendBracket stop rest
  | _ => rest

def close (ctx : InlineContext) (s : InlineState) (n : Node) (mayRefer : Bool) (rest : List Node) :
    InlineState × List Node :=
  let text : Node := n.toText
  match s.brackets with
  | [] => ({ s with done := s.done.push text }, rest)
  | bracket :: brackets =>
    let s := { s with brackets }
    if !bracket.active then ({ s with done := s.done.push text }, rest) else
    match ctx.inlineTarget? rest n.stop with
    | some (target, stop) => (wrap s bracket target stop, Node.resumeAt rest stop)
    | none =>
      match ctx.referenceLink? s bracket n mayRefer rest with
      | some r => r
      | none => ({ s with done := s.done.push text }, ctx.spend rest)

/-- Takes in one piece: the state after it and the pieces to come. -/
def step (ctx : InlineContext) (s : InlineState) (n : Node) (rest : List Node) : InlineState × List Node :=
  let keep (n : Node) : InlineState × List Node := ({ s with done := s.done.push n }, rest)
  match n.body with
  | .angle =>
    match (ctx.autolink? n).or (ctx.markup? n) with
    | some (found, stop) => ({ s with done := s.done.push found }, Node.resumeAt rest stop)
    | none => keep n.toText
  | .backticks count escaped =>
    match ctx.codeSpan? n count escaped rest with
    | some (found, after) => ({ s with done := s.done ++ found.toArray }, after)
    | none => keep n.toText
  | .linkOpen =>
    ({ done := s.done.push n.toText, brackets := { index := s.done.size, image := false } :: s.brackets }, rest)
  | .imageOpen =>
    ({ done := s.done.push n.toText, brackets := { index := s.done.size, image := true } :: s.brackets }, rest)
  | .linkClose mayRefer => ctx.close s n mayRefer rest
  | _ => keep n

def run (ctx : InlineContext) : Nat → InlineState → List Node → InlineState
  | 0, s, _ => s
  | _, s, [] => s
  | fuel + 1, s, n :: rest =>
    let (s, rest) := ctx.step s n rest
    run ctx fuel s rest

/-- The pieces of a block with code spans, raw markup and links found. -/
def findLinks (ctx : InlineContext) (nodes : List Node) : List Node :=
  (ctx.run nodes.length {} nodes).done.toList

end InlineContext

end LivePage.Markdown
