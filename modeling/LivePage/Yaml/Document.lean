import LivePage.Yaml.Event
/-!
# Documents

The nodes of the first document of a text, in reading order, up to a fault if there is one. What an alias stands for
is known by the place of the node that has the anchor.
-/
namespace LivePage.Yaml

/-- A part of a document. -/
inductive Item where
  /-- An alias, by the number of its anchor. -/
  | alias_ (anchor : Nat)
  | scalar (tag : Option String) (text : String) (style : ScalarStyle)
  | sequenceStart (tag : Option String)
  | sequenceEnd
  | mappingStart (tag : Option String)
  | mappingEnd
  | nothing
deriving DecidableEq, Repr

/-- Why reading a text fails. -/
inductive Fault where
  | invalidText (fault : SyntaxFault)
  | unknownAnchor (mark : Mark)
  | moreDocuments
  | tooDeep (mark : Mark)
  | tooManyAliases
  | endOfText
  /-- What was read is not what was expected; the place and the path to it may not be known yet. -/
  | unexpected (message : String) (place : Option (Mark × String))
deriving Repr

namespace Fault

def mark? : Fault → Option Mark
  | invalidText f => some f.mark
  | unknownAnchor m | tooDeep m => some m
  | unexpected _ (some (m, _)) => some m
  | _ => none

def problem : Fault → String
  | invalidText f => f.message
  | unknownAnchor _ => "unknown anchor"
  | moreDocuments => "deserializing from YAML containing more than one document is not supported"
  | tooDeep _ => "recursion limit exceeded"
  | tooManyAliases => "repetition limit exceeded"
  | endOfText => "EOF while parsing a value"
  | unexpected message (some (_, path)) => if path = "." then message else s!"{path}: {message}"
  | unexpected message none => message

def message (f : Fault) : String :=
  match f, f.mark? with
  | invalidText _, _ | _, none => f.problem
  | _, some m => if m.isOrigin then f.problem else s!"{f.problem} at {m.display}"

end Fault

/-- A document as far as it can be read. -/
structure Document where
  items : Array (Item × Mark) := #[]
  /-- Where the nodes with anchors are, by number. -/
  anchors : List (Nat × Nat) := []
  fault : Option Fault := none

/-- A document with the numbers of its anchors. -/
structure DocumentState where
  document : Document := {}
  names : List (String × Nat) := []

namespace DocumentState

/-- Adds a node, which may have an anchor; a name used again names the later node. -/
def add (s : DocumentState) (anchor : Option String) (item : Item) (mark : Mark) : DocumentState :=
  let d := s.document
  let added := { d with items := d.items.push (item, mark) }
  match anchor with
  | none => { s with document := added }
  | some name =>
    let number := s.names.length
    { document := { added with anchors := (number, d.items.size) :: d.anchors }
      names := (name, number) :: s.names.filter (·.1 ≠ name) }

/-- Ends a document with a fault. -/
def failed (s : DocumentState) (fault : Fault) : Document := { s.document with fault := some fault }

end DocumentState

namespace Document

/-- Reads the rest of a document, in at most `fuel` events; also gives the parser after it, unless nothing is left. -/
def readFrom : Nat → DocumentState → Parser → Document × Option Parser
  | 0, s, p => (s.document, some p)
  | fuel + 1, s, p =>
    match Parser.next.run p with
    | .error fault => (s.failed (.invalidText fault), some p)
    | .ok (⟨event, mark⟩, p) =>
      match event with
      | .streamStart | .documentStart => readFrom fuel s p
      | .documentEnd => (s.document, some p)
      | .streamEnd =>
        let d := s.document
        (if d.items.isEmpty then { d with items := #[(.nothing, mark)] } else d, none)
      | .alias_ name =>
        match s.names.lookup name with
        | some number => readFrom fuel (s.add none (.alias_ number) mark) p
        | none => (s.failed (.unknownAnchor mark), some p)
      | .scalar anchor tag text style => readFrom fuel (s.add anchor (.scalar tag text style) mark) p
      | .sequenceStart anchor tag => readFrom fuel (s.add anchor (.sequenceStart tag) mark) p
      | .sequenceEnd => readFrom fuel (s.add none .sequenceEnd mark) p
      | .mappingStart anchor tag => readFrom fuel (s.add anchor (.mappingStart tag) mark) p
      | .mappingEnd => readFrom fuel (s.add none .mappingEnd mark) p

/-- The byte offset of the first character that may not stand in a text. -/
def unprintable? : Nat → List Char → Option Nat
  | _, [] => none
  | offset, c :: cs => if isPrintable c then unprintable? (offset + c.utf8Size) cs else some offset

/-- The first document of a text, and the parser after it. -/
def first (text : String) : Document × Option Parser :=
  let cs := text.toList
  match unprintable? 0 cs with
  | some offset =>
    ({ fault := some (.invalidText { problem := "control characters are not allowed", offset }) }, none)
  | none => readFrom (16 * (cs.length + 4)) {} (.ofText cs)

/-- Whether another document, or a fault, comes after one. -/
def hasMore : Option Parser → Bool
  | none => false
  | some p =>
    match Parser.next.run p with
    | .ok (⟨.streamEnd, _⟩, _) => false
    | _ => true

end Document

end LivePage.Yaml
