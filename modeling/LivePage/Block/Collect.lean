import LivePage.Block.Info
import LivePage.LineMap
import LivePage.Markdown.Event
/-!
# Collecting blocks

Finds the live blocks among the events of a body, and the byte ranges in which no schedule is to be looked for:
code blocks, code spans, autolinks, and the destinations of links and images.
-/
namespace LivePage

open Text Markdown

/-! ## Live blocks -/

/-- The text of a code block whose content starts a sequence of events (`collect_text_until`). -/
def codeContent (events : List PlacedEvent) : String :=
  String.join ((events.takeWhile (!·.event.closesCode)).map fun e =>
    match e.event with
    | .text s => s
    | _ => "")

/-- The value between quotation marks at the start of a text, after an equals sign with white space around it. -/
def quotedValue? (cs : List Char) : Option (List Char) :=
  match cs.dropWhile isBlank with
  | '=' :: rest =>
    match rest.dropWhile isBlank with
    | quote :: rest =>
      let value := rest.takeWhile (!isQuote ·)
      if isQuote quote && !value.isEmpty && (rest.dropWhile (!isQuote ·)) != [] then some value else none
    | [] => none
  | _ => none

/-- The source that a template names (`LVT_SOURCE`): the first value that is written after `lvt-source`. -/
def templateSource? : List Char → Option (List Char)
  | [] => none
  | c :: cs => ((dropPrefix? "lvt-source".toList (c :: cs)).bind quotedValue?).or (templateSource? cs)

/-- The block that an info string declares, if it declares any (`into_code_block`). A template may name the source of
its block. -/
def InfoString.toBlock? (info : InfoString) (content : String) (line eventIndex : Nat) : Option CodeBlock :=
  info.type.map fun type =>
    let metadata :=
      if type = .lvt && !info.metadata.contains "lvt-source" then
        match templateSource? content.toList with
        | some source => info.metadata.insert "lvt-source" (String.ofList source)
        | none => info.metadata
      else info.metadata
    { type, language := info.language, flags := info.flags, metadata, content, line, eventIndex }

/-- The live blocks among events of which the first has an index, in document order (`classify`). Inside a code block,
which the flag tells, nothing starts a block. -/
def collectFrom (lines : LineMap) : Nat → Bool → List PlacedEvent → Except (UnknownBlockType × Nat) (List CodeBlock)
  | _, _, [] => .ok []
  | i, true, e :: rest => collectFrom lines (i + 1) (!e.event.closesCode) rest
  | i, false, e :: rest =>
    match e.event with
    | .start (.codeBlock (some text)) =>
      let line := lines.lineOf e.span.start
      match InfoString.parse text with
      | .error u => .error (u, line)
      | .ok info => do
        return (info.toBlock? (codeContent rest) line i).toList ++ (← collectFrom lines (i + 1) true rest)
    | .start (.codeBlock none) => collectFrom lines (i + 1) true rest
    | _ => collectFrom lines (i + 1) false rest

/-- The live blocks among the events of a body. -/
def collectBlocks (lines : LineMap) (events : List PlacedEvent) :
    Except (UnknownBlockType × Nat) (List CodeBlock) :=
  collectFrom lines 0 false events

/-! ## Ranges without schedules -/

/-- The last place at which a piece occurs in a text that starts at a byte offset. -/
def lastOffset? (piece : List Char) : Nat → List Char → Option Nat
  | _, [] => none
  | offset, c :: cs =>
    (lastOffset? piece (offset + c.utf8Size) cs).or
      (if piece.isPrefixOf (c :: cs) then some offset else none)

/-- Where the destination of a link is written: the last place in the link that reads like it. -/
def destinationSpan? (body : List Char) (span : Span) (target : LinkTarget) : Option Span :=
  match target.kind with
  | .autolink | .email => some span
  | .inline =>
    let destination := target.destination.toList
    if destination.isEmpty then none
    else ((sliceBytes? body span.start span.length).bind (lastOffset? destination span.start)).map fun start =>
      ⟨start, start + byteLength destination⟩
  | _ => none

/-- The byte ranges of a body that hold no schedules (`classify`). Inside a code block, which the flag tells, there are
no more of them. -/
def skipRanges (body : List Char) : Bool → List PlacedEvent → List Span
  | _, [] => []
  | true, e :: rest => skipRanges body (!e.event.closesCode) rest
  | false, e :: rest =>
    match e.event with
    | .start (.codeBlock _) => e.span :: skipRanges body true rest
    | .code _ => e.span :: skipRanges body false rest
    | .start (.link target) | .start (.image target) =>
      (destinationSpan? body e.span target).toList ++ skipRanges body false rest
    | _ => skipRanges body false rest

end LivePage
