import LivePage.Markdown.Buffer
/-!
# Tags in the source

Recognises raw markup: tags with their attributes, comments, processing instructions, declarations and character
data. A tag inside a paragraph may run over a line end; what the containers of the paragraph put at the start of
the next line is then not part of it.
-/
namespace LivePage.Markdown

/-- Names of the elements that start a block of raw markup wherever they stand first on a line. -/
def blockElementNames : List String :=
  ["address", "article", "aside", "base", "basefont", "blockquote", "body", "caption", "center", "col",
    "colgroup", "dd", "details", "dialog", "dir", "div", "dl", "dt", "fieldset", "figcaption", "figure", "footer",
    "form", "frame", "frameset", "h1", "h2", "h3", "h4", "h5", "h6", "head", "header", "hr", "html", "iframe",
    "legend", "li", "link", "main", "menu", "menuitem", "nav", "noframes", "ol", "optgroup", "option", "p",
    "param", "search", "section", "summary", "table", "tbody", "td", "tfoot", "th", "thead", "title", "tr",
    "track", "ul"]

/-- Elements whose content is raw text, with the tag that ends a block they start. -/
def rawTextElements : List (String × String) :=
  [("pre", "</pre>"), ("style", "</style>"), ("script", "</script>"), ("textarea", "</textarea>")]

/-- Openings of other raw constructs, with what ends them. -/
def rawConstructs : List (String × String) := [("!--", "-->"), ("?", "?>"), ("![CDATA[", "]]>")]

namespace Buffer

/-- What ends the block of raw markup that starts with an angle bracket before a position, if it is one of the
kinds that run to a fixed end. -/
def rawBlockEnd? (b : Buffer) (i : Nat) : Option String :=
  let element := rawTextElements.find? fun (name, _) =>
    b.hasTextIgnoringCase i name &&
      (b.get? (i + name.length)).all fun x => isSpace x || x == '>'.toUInt8
  let construct := rawConstructs.find? fun (opening, _) => b.hasText i opening
  match element, construct with
  | some (_, stop), _ => some stop
  | none, some (_, stop) => some stop
  | none, none => if b.isAt i '!' && b.holdsAt isLetter (i + 1) then some ">" else none

/-- Whether a block of raw markup starts with an element that makes one, after an angle bracket. -/
def startsBlockElement (b : Buffer) (i : Nat) : Bool :=
  let i := b.skipChar '/' i
  let j := b.skipWhile isLetterOrDigit i
  let name := String.ofList ((b.slice i j).toList.map Char.toLower)
  blockElementNames.contains name &&
    ((b.get? j).all (isOneOf " \t\r\n>") || (b.isAt j '/' && b.isAt (j + 1) '>'))

end Buffer

/-! ## Tags -/

/-- Where a piece of raw markup goes on: the position, and the places left out on the way. -/
structure TagProgress where
  ix : Nat
  /-- Ranges at line starts that belong to containers, last one first. -/
  skipped : List (Nat × Nat) := []

/-- What stands between a line end and the rest of a tag: the position after it, or none when a tag may not run
over a line end. -/
abbrev LineStartRule := Option (Nat → Nat)

namespace TagProgress

/-- Goes on after a line end, past what belongs to containers. -/
def overLineStart (p : TagProgress) (skip : Nat → Nat) (next : Nat) : TagProgress :=
  let after := skip next
  if next < after then ⟨after, (next, after) :: p.skipped⟩ else ⟨next, p.skipped⟩

def skipSpace (b : Buffer) (rule : LineStartRule) : Nat → TagProgress → Option TagProgress
  | 0, p => some p
  | fuel + 1, p =>
    match b.get? p.ix with
    | none => some p
    | some x =>
      if isEol x then do
        let skip ← rule
        skipSpace b rule fuel (p.overLineStart skip (← b.skipEol? p.ix))
      else if isInlineSpace x then skipSpace b rule fuel { p with ix := p.ix + 1 }
      else some p

def skipQuoted (b : Buffer) (rule : LineStartRule) (quote : UInt8) : Nat → TagProgress → Option TagProgress
  | 0, _ => none
  | fuel + 1, p =>
    match b.get? p.ix with
    | none => none
    | some x =>
      if x == quote then some { p with ix := p.ix + 1 }
      else if isEol x then do
        let skip ← rule
        skipQuoted b rule quote fuel (p.overLineStart skip (← b.skipEol? p.ix))
      else skipQuoted b rule quote fuel { p with ix := p.ix + 1 }

def skipValue (b : Buffer) (rule : LineStartRule) (p : TagProgress) : Option TagProgress :=
  match b.get? p.ix with
  | none => none
  | some x =>
    if isOneOf "\"'" x then skipQuoted b rule x (b.stop - p.ix) { p with ix := p.ix + 1 }
    else if isOneOf " =><`\n\r" x then none
    else some { p with ix := b.skipWhile (fun y => !isOneOf "'\" =><`\n\r" y) p.ix }

/-- Steps over one attribute: a name, and a value after an equals sign. -/
def skipAttribute (b : Buffer) (rule : LineStartRule) (p : TagProgress) : Option TagProgress := do
  let first ← b.get? p.ix
  if !(isLetter first || isOneOf "_:" first) then none else
  let named := { p with ix := b.skipWhile (fun x => isLetterOrDigit x || isOneOf "_.:-" x) (p.ix + 1) }
  let fuel := b.stop - p.ix
  let spaced ← skipSpace b rule fuel named
  if b.isAt spaced.ix '=' then
    skipValue b rule (← skipSpace b rule fuel { spaced with ix := spaced.ix + 1 })
  else some named

/-- Steps over the attributes of an opening tag, to the slash or bracket that follows them. -/
def skipAttributes (b : Buffer) (rule : LineStartRule) : Nat → TagProgress → Option TagProgress
  | 0, _ => none
  | fuel + 1, p => do
    let spaced ← skipSpace b rule (b.stop - p.ix) p
    let x ← b.get? spaced.ix
    if isOneOf "/>" x then some spaced
    else if spaced.ix = p.ix then none
    else skipAttributes b rule fuel (← skipAttribute b rule spaced)

end TagProgress

namespace Buffer

/-- Where a tag ends that starts with an angle bracket at a position, and what is left out of it. -/
def tag? (b : Buffer) (rule : LineStartRule) (i : Nat) : Option TagProgress := do
  let closing := b.isAt (i + 1) '/'
  let nameStart := if closing then i + 2 else i + 1
  if !b.holdsAt isLetter nameStart then none else
  let name : TagProgress := { ix := b.skipWhile (fun x => isLetterOrDigit x || x == 45) nameStart }
  let p ← if closing then some name else TagProgress.skipAttributes b rule (b.stop - i) name
  let p := { p with ix := b.skipSpace p.ix }
  let p := if closing then p else { p with ix := b.skipChar '/' p.ix }
  if b.isAt p.ix '>' then some { p with ix := p.ix + 1 } else none

/-- Whether a line holds one tag and nothing else, which makes it start a block of raw markup. -/
def isTagLine (b : Buffer) (i : Nat) : Bool := (b.tag? none i).any fun p => b.isBlankAt p.ix

/-! ## Other constructs -/

/-- The position after the first occurrence of a text at or after a position. -/
def afterText? (b : Buffer) (text : String) (i : Nat) : Option Nat := go (b.stop - i) i
where
  go : Nat → Nat → Option Nat
    | 0, _ => none
    | n + 1, i => if b.hasText i text then some (i + text.length) else go n (i + 1)

/-- Where a comment, declaration or piece of character data ends, after the exclamation mark before a position. -/
def declarationEnd? (b : Buffer) (i : Nat) : Option Nat :=
  if b.hasText i "--" then
    let j := i + 2
    if b.isAt j '>' then some (j + 1)
    else if b.hasText j "->" then some (j + 2)
    else b.afterText? "-->" j
  else if b.hasText i "[CDATA[" then b.afterText? "]]>" (i + 7)
  else if b.holdsAt isLetter i then b.afterText? ">" (i + 1)
  else none

/-- Where raw markup ends that starts after the angle bracket before a position, and what is left out of it. -/
def inlineMarkup? (b : Buffer) (rule : LineStartRule) (i : Nat) : Option TagProgress :=
  if b.isAt i '!' then (b.declarationEnd? (i + 1)).map fun j => { ix := j }
  else if b.isAt i '?' then (b.afterText? "?>" (i + 1)).map fun j => { ix := j }
  else b.tag? rule (i - 1)

end Buffer

end LivePage.Markdown
