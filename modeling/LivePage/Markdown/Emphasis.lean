import LivePage.Markdown.Node
/-!
# Emphasis

Pairs the delimiter runs among the pieces of a block. A closing run takes the nearest opening run before it that
it may pair with; the pieces between become its content, and opening runs among them turn out to be text. What is
left of either run may pair again.
-/
namespace LivePage.Markdown

/-- An opening run that waits for a closing one. -/
structure Opener where
  index : Nat
  count : Nat
  /-- Delimiters that it started with. -/
  runLength : Nat
  mark : Char
  both : Bool
deriving Inhabited

/-- How much of the opening runs a closing run may leave unsearched, for each kind of closing run: by mark, by
whether it may also open, and by its length modulo three. -/
structure SearchBounds where
  underscoreOnly : Nat := 0
  asteriskOnly : Nat := 0
  asterisk : Nat → Nat := fun _ => 0
  tilde : Nat := 0
  underscore : Nat → Nat := fun _ => 0

namespace SearchBounds

/-- The number of opening runs that need not be searched. -/
def get (s : SearchBounds) (mark : Char) (length : Nat) (both : Bool) : Nat :=
  if mark == '_' then
    if both then s.underscore (length % 3) else min (s.underscore (length % 3)) s.underscoreOnly
  else if mark == '*' then
    if both then s.asterisk (length % 3) else min (s.asterisk (length % 3)) s.asteriskOnly
  else s.tilde

def update (f : Nat → Nat) (k v : Nat) : Nat → Nat := fun i => if i = k then v else f i

/-- Notes that a search has found nothing among the first `bound` opening runs. -/
def set (s : SearchBounds) (mark : Char) (length : Nat) (both : Bool) (bound : Nat) : SearchBounds :=
  if mark == '_' then
    if both then { s with underscore := update s.underscore (length % 3) bound }
    else { s with underscoreOnly := bound }
  else if mark == '*' then
    let s := { s with asterisk := update s.asterisk (length % 3) bound }
    if both then s else { s with asteriskOnly := bound }
  else { s with tilde := bound }

/-- Keeps every bound within a number of opening runs. -/
def clamp (s : SearchBounds) (n : Nat) : SearchBounds :=
  { underscoreOnly := min s.underscoreOnly n
    asteriskOnly := min s.asteriskOnly n
    asterisk := fun i => min (s.asterisk i) n
    tilde := min s.tilde n
    underscore := fun i => min (s.underscore i) n }

end SearchBounds

structure EmphasisState where
  done : Array Node := #[]
  openers : Array Opener := #[]
  bounds : SearchBounds := {}

/-- A run that is being paired, with the delimiters that are left of it. -/
structure Closer where
  mark : Char
  runLength : Nat
  both : Bool
  start : Nat
  count : Nat

namespace EmphasisState

/-- Whether a closing run may pair with an opening one. Of runs that may both open and close, the lengths together
must not be a multiple of three, unless both are. -/
def pairs (c : Closer) (o : Opener) : Bool :=
  o.mark == c.mark && (c.mark != '~' || c.runLength == o.runLength)
    && ((!c.both && !o.both) || (c.runLength + o.runLength) % 3 != 0 || c.runLength % 3 == 0)

/-- The place of the last opening run that a closing run pairs with. -/
def findOpener? (s : EmphasisState) (c : Closer) : Option Nat :=
  let bound := min s.openers.size (s.bounds.get c.mark c.runLength c.both)
  ((List.range s.openers.size).filter fun k => bound ≤ k && (s.openers[k]?).any (pairs c)).getLast?

/-- Content between so many delimiters on either side: two make strong emphasis, one makes emphasis; tildes strike
out. The first and last delimiters of the content are at `start` and `stop`. -/
def wrapContent (mark : Char) : Nat → Nat → Nat → List Node → List Node
  | 0, _, _, content => content
  | 1, start, stop, content =>
    [{ body := if mark == '~' then .strikethrough else .emphasis, start := start - 1, stop := stop + 1,
       children := content }]
  | n + 2, start, stop, content =>
    wrapContent mark n (start - 2) (stop + 2)
      [{ body := if mark == '~' then .strikethrough else .strong, start := start - 2, stop := stop + 2,
         children := content }]

/-- Pairs a closing run with the opening run at a place: the state and what is left of the closing run. -/
def pair (s : EmphasisState) (c : Closer) (place : Nat) : EmphasisState × Closer :=
  let o := s.openers.getD place default
  let n := min c.count o.count
  let left := o.count - n
  let opening := s.done.getD o.index { body := .text false, start := 0, stop := 0 }
  let content := ((s.done.extract (o.index + 1) s.done.size).map Node.toText).toList
  let kept := s.done.extract 0 o.index
  let kept := if left = 0 then kept else kept.push { opening with stop := opening.start + left }
  let openers := s.openers.extract 0 place
  ({ done := kept ++ (wrapContent c.mark n (opening.start + o.count) c.start content).toArray
     openers := if left = 0 then openers else openers.push { o with count := left }
     bounds := s.bounds.clamp place },
   { c with start := c.start + n, count := c.count - n })

/-- Pairs a closing run with opening runs while it has delimiters left and there are any, at most `fuel` times. -/
def closeRun : Nat → EmphasisState → Closer → EmphasisState × Closer
  | 0, s, c => (s, c)
  | fuel + 1, s, c =>
    if c.count = 0 then (s, c) else
    match s.findOpener? c with
    | some place =>
      let (s, c) := s.pair c place
      closeRun fuel s c
    | none => ({ s with bounds := s.bounds.set c.mark c.runLength c.both s.openers.size }, c)

/-- Adds what is left of a run, which may open if it can. -/
def openRun (s : EmphasisState) (c : Closer) (canOpen canClose : Bool) : EmphasisState :=
  if c.count = 0 then s else
  let node : Node := { body := .delimiters c.mark c.count canOpen canClose, start := c.start, stop := c.start + c.count }
  if !canOpen then { s with done := s.done.push node.toText } else
  let bounds := if c.mark == '~' then { s.bounds with tilde := min s.bounds.tilde s.openers.size } else s.bounds
  { done := s.done.push node
    openers := s.openers.push
      { index := s.done.size, count := c.count, runLength := c.runLength, mark := c.mark, both := c.both }
    bounds }

/-- Takes in one piece. A hard break that nothing follows is no break. -/
def step (s : EmphasisState) (n : Node) (isLast : Bool) : EmphasisState :=
  match n.body with
  | .delimiters mark count canOpen canClose =>
    let c : Closer := { mark, runLength := count, both := canOpen && canClose, start := n.start, count }
    let (s, c) := if canClose then closeRun (count + s.openers.size + 1) s c else (s, c)
    s.openRun c canOpen canClose
  | .hardBreak backslash =>
    if isLast then { s with done := s.done.push { n with body := .literal (if backslash then "\\" else "") } }
    else { s with done := s.done.push n }
  | _ => { s with done := s.done.push n }

def run (s : EmphasisState) : List Node → EmphasisState
  | [] => s
  | n :: rest => run (s.step n rest.isEmpty) rest

end EmphasisState

/-- The pieces of a block with emphasis found; runs that pair with none are text. -/
def findEmphasis (nodes : List Node) : List Node :=
  ((({} : EmphasisState).run nodes).done.map Node.toText).toList

end LivePage.Markdown
