import LivePage.CompileError
import LivePage.Source
/-!
# Frontmatter

A document may open with a line of three hyphens, a YAML mapping, and another line of three hyphens. What comes
after is the body. A header says how a page is titled, stored and served, and everything in it may be left out.
-/
namespace LivePage

open Text

/-- Where the interactive state of a page is kept. -/
inductive PersistMode where
  | none
  | localStorage
  | server
deriving DecidableEq, Repr

namespace PersistMode

def name : PersistMode → String
  | none => "none"
  | localStorage => "localstorage"
  | server => "server"

def all : List PersistMode := [none, localStorage, server]

end PersistMode

/-- A header as written (`RawFrontmatter`): every key may be absent. -/
structure Header where
  title : Option String := none
  type : Option String := none
  persist : Option PersistMode := none
  steps : Option Nat := none
  sidebar : Option Bool := none
  sources : Option (Dictionary SourceConfig) := none

/-- What a header says, with defaults for what it does not. -/
structure Frontmatter where
  title : Option String := none
  type : String := "tutorial"
  persist : PersistMode := .localStorage
  steps : Nat := 0
  sidebar : Option Bool := none
  sources : Dictionary SourceConfig := []

/-- Fills in defaults. A title or type of white space counts as absent. -/
def Header.toFrontmatter (h : Header) : Frontmatter :=
  let filled (s : Option String) := s.filter fun s => !isBlankText s.toList
  { title := filled h.title
    type := (filled h.type).getD "tutorial"
    persist := h.persist.getD .localStorage
    steps := h.steps.getD 0
    sidebar := h.sidebar
    sources := h.sources.getD [] }

/-- Why a header cannot be decoded, with line and column in the header if they are known. -/
structure DecodeFault where
  message : String
  place : Option (Nat × Nat) := none
deriving DecidableEq, Repr

/-- Why a document has no frontmatter that can be used (`FrontmatterError`). -/
inductive FrontmatterFault where
  | unclosed
  | undecodable (fault : DecodeFault)
deriving DecidableEq, Repr

namespace FrontmatterFault

def message : FrontmatterFault → String
  | unclosed => "unclosed frontmatter: no closing `---` line"
  | undecodable fault => s!"invalid frontmatter YAML: {fault.message}"

/-- The fault as a compile error (`into_parse_error`); the header starts on the second line of the file. -/
def toError (f : FrontmatterFault) (file : String) : CompileError :=
  match f with
  | unclosed =>
    { kind := .structural, file, line := 1, message := f.message
      hint := some "Close the frontmatter with a line containing only `---`" }
  | undecodable fault =>
    { kind := .structural, file, line := (fault.place.map (·.1 + 1)).getD 2, message := f.message
      column := fault.place.map (·.2) }

end FrontmatterFault

/-- A document split into header and body. -/
structure Extracted where
  frontmatter : Frontmatter := {}
  body : String
  bodyOffset : Nat := 0
  /-- Line of the document on which the body starts, counted from one. -/
  bodyLine : Nat := 1

/-- The line that opens and closes a header, without its line end. -/
def delimiterLine : List Char := ['-', '-', '-']

/-- What opens a header at the start of a text, and the text after it. -/
def splitOpening? (text : List Char) : Option (List Char × List Char) :=
  ["---\n".toList, "---\r\n".toList].findSome? fun opening =>
    (dropPrefix? opening text).map fun rest => (opening, rest)

/-- Splits a document, with a decoder for its header (`extract`). A header of white space is empty. -/
def extractWith (decode : String → Except DecodeFault Header) (source : String) :
    Except FrontmatterFault Extracted :=
  let text := source.toList
  let mark := text.takeWhile (· == '\uFEFF') |>.take 1
  match splitOpening? (text.drop mark.length) with
  | none => .ok { body := source }
  | some (opening, rest) =>
    let lines := linesWithEnds rest
    let isDelimiter (line : List Char) : Bool := dropLineEnd line == delimiterLine
    match lines.dropWhile (!isDelimiter ·) with
    | [] => .error .unclosed
    | closing :: body =>
      let header := (lines.takeWhile (!isDelimiter ·)).flatten
      let before := mark ++ opening ++ header ++ closing
      let decoded := if isBlankText header then .ok {} else decode (String.ofList header)
      match decoded with
      | .error fault => .error (.undecodable fault)
      | .ok header =>
        .ok
          { frontmatter := header.toFrontmatter
            body := String.ofList body.flatten
            bodyOffset := byteLength before
            bodyLine := 1 + before.count '\n' }

end LivePage
