import LivePage.Dictionary
import LivePage.Yaml.Value
/-!
# Reading documents

Reads a document as what it is expected to hold: texts, truth values, numbers, mappings with fixed keys or with any
keys. An alias is read like the node that it stands for. What cannot be read is reported with its place and with the
path of keys that leads to it.
-/
namespace LivePage.Yaml

open Text

/-- How far a document has been read. -/
structure ReaderState where
  position : Nat := 0
  /-- How many aliases have been followed. -/
  jumps : Nat := 0

/-- Reads a part of a document. -/
abbrev Reader := ReaderT Document (StateT ReaderState (Except Fault))

namespace Reader

/-! ## Items -/

def peek : Reader (Item × Mark) := do
  let d ← read
  match d.items[(← get).position]? with
  | some item => return item
  | none => throw (d.fault.getD .endOfText)

def skip : Reader Unit := modify fun s => { s with position := s.position + 1 }

/-- Reads the next node. At an alias the node that it stands for is next meanwhile, and reading goes on after the
alias. All aliases of a document together may be followed a hundred times as often as it has items. -/
def atNode {α : Type} (node : Item → Mark → Reader α) : Reader α := do
  let (item, mark) ← peek
  match item with
  | .alias_ anchor =>
    let d ← read
    let s ← get
    let jumps := s.jumps + 1
    if 100 * d.items.size < jumps then throw .tooManyAliases
    let some target := d.anchors.lookup anchor | throw .endOfText
    set { position := target, jumps : ReaderState }
    let (item, mark) ← peek
    let value ← node item mark
    modify fun after => { after with position := s.position + 1 }
    return value
  | _ => node item mark

/-- Gives a fault that has no place yet the place where it belongs. -/
def placed {α : Type} (mark : Mark) (path : String) (part : Reader α) : Reader α :=
  tryCatch part fun
    | .unexpected message none => throw (.unexpected message (some (mark, path)))
    | fault => throw fault

/-- Reads the next node, at whose place its faults are. -/
def node {α : Type} (path : String) (part : Item → Mark → Reader α) : Reader α :=
  atNode fun item mark => placed mark path (part item mark)

def fault {α : Type} (message : String) : Reader α := throw (.unexpected message none)

/-! ## Expectations -/

def coreTag (name : String) : String := "tag:yaml.org,2002:" ++ name

/-- What a scalar means where anything is allowed. -/
def scalarValue (tag : Option String) (text : String) (style : ScalarStyle) : Reader ScalarValue := do
  let expected {α : Type} (what : String) : Option α → Reader α
    | some value => return value
    | none => fault s!"invalid value: string {quoted text}, expected {what}"
  match tag with
  | some tag =>
    if tag = coreTag "bool" then expected "a boolean" ((bool? text).map .bool)
    else if tag = coreTag "int" then expected "an integer" (integer? text.toList)
    else if tag = coreTag "float" then expected "a float" (float? text)
    else if tag = coreTag "null" then expected "null" (if isNull text then some .null else none)
    else if tag.startsWith "!" && style == .plain then return plainValue text
    else return .text text
  | none => return if style == .plain then plainValue text else .text text

def invalid {α : Type} (item : Item) (expected : String) : Reader α := do
  let is (what : String) : Reader α := fault s!"invalid type: {what}, expected {expected}"
  match item with
  | .scalar tag text style => is (← scalarValue tag text style).describe
  | .sequenceStart _ => is "sequence"
  | .mappingStart _ => is "map"
  | _ => throw .endOfText

/-- Whether a scalar may be read as a value of a core type. -/
def isCore (name : String) (tag : Option String) (style : ScalarStyle) : Bool :=
  match style with
  | .plain => true
  | .literal => tag == some (coreTag name)
  | _ => false

/-! ## Scalars -/

/-- A text. Every scalar is one, as written. -/
def text (path : String) (expected : String := "a string") : Reader String :=
  node path fun item _ => do
    skip
    match item with
    | .scalar _ text _ => return text
    | _ => invalid item expected

def truth (path : String) : Reader Bool :=
  node path fun item _ => do
    skip
    match item with
    | .scalar tag text style =>
      match if isCore "bool" tag style then bool? text else none with
      | some b => return b
      | none => invalid item "a boolean"
    | _ => invalid item "a boolean"

def word (path : String) : Reader Nat :=
  node path fun item _ => do
    skip
    match item with
    | .scalar tag text style =>
      match if isCore "int" tag style then (unsigned? text.toList).filter (· < 1 <<< 64) else none with
      | some n => if n < 1 <<< 32 then return n else fault s!"invalid value: integer `{n}`, expected u32"
      | none => invalid item "u32"
    | _ => invalid item "u32"

/-- A value that may be left out or be nothing. -/
def optional {α : Type} (value : Reader α) : Reader (Option α) :=
  atNode fun item _ => do
    let isNothing : Bool ← match item with
      | .scalar none text .plain => pure (text.isEmpty || isNull text)
      | .scalar (some tag) text .plain =>
        if tag ≠ coreTag "null" then pure false
        else if isNull text then pure true
        else fault s!"invalid value: string {quoted text}, expected null"
      | .nothing => pure true
      | .scalar .. | .sequenceStart _ | .mappingStart _ => pure false
      | _ => throw .endOfText
    if isNothing then
      skip
      return none
    else return some (← value)

/-! ## Choices -/

/-- The word for a choice that a tag makes. -/
def chosen? (tag : Option String) : Option String :=
  tag.bind fun tag =>
    match tag.toList with
    | ['!'] => some tag
    | '!' :: cs => some (String.ofList cs)
    | _ => none

/-- A choice between words. It is made by a text, or by a tag on nothing. -/
def choice {α : Type} (path : String) (choices : List (String × α)) : Reader α :=
  node path fun item _ => do
    let choose (word : String) : Reader α :=
      match choices.lookup word with
      | some choice => return choice
      | none =>
        let words := ", ".intercalate (choices.map fun (word, _) => s!"`{word}`")
        fault s!"unknown variant `{word}`, expected one of {words}"
    let tagged (tag : Option String) (plain : Reader α) : Reader α := do
      match chosen? tag with
      | none => plain
      | some word =>
        let choice ← choose word
        skip
        match item with
        | .scalar _ text style =>
          if style == .plain && (text.isEmpty || isNull text) then return choice
          else fault s!"invalid value: string {quoted text}, expected null"
        | _ => invalid item "unit"
    match item with
    | .scalar tag text _ => tagged tag do
      skip
      choose text
    | .mappingStart tag => tagged tag (fault "invalid type: map, expected a YAML tag starting with '!'")
    | .sequenceStart tag => tagged tag (fault "invalid type: sequence, expected a YAML tag starting with '!'")
    | _ => throw .endOfText

/-! ## Mappings -/

/-- The path of the value of a key. -/
def below (path key : String) : String := if path = "." then key else s!"{path}.{key}"

/-- Reads entries up to the end of a mapping, in at most `fuel` steps. A key is a text, and what it is used for is
given the path of its value, which is not known for a key that is an alias. -/
def entriesFrom {σ : Type} (path expected : String) (entry : σ → String → String → Reader σ) :
    Nat → σ → Reader σ
  | 0, s => return s
  | fuel + 1, s => do
    let (item, _) ← peek
    match item with
    | .mappingEnd | .nothing =>
      skip
      return s
    | _ =>
      let key ← text path expected
      let path' := match item with
        | .scalar _ written _ => below path written
        | _ => below path "?"
      entriesFrom path expected entry fuel (← entry s key path')

/-- Folds over the entries of a mapping; nothing at all counts as an empty one. -/
def mapping {σ α : Type} (path expected key : String) (initial : σ) (entry : σ → String → String → Reader σ)
    (finish : σ → Reader α) : Reader α :=
  node path fun item _ => do
    skip
    match item with
    | .mappingStart _ =>
      finish (← entriesFrom path key entry (← read).items.size initial)
    | .nothing => finish initial
    | .scalar _ "" .plain => finish initial
    | _ => invalid item expected

/-- Goes past the next node with all that is in it, in at most `fuel` items; `depth` is how many collections are
open. -/
def ignoreFrom : Nat → Nat → Reader Unit
  | 0, _ => return
  | fuel + 1, depth => do
    let (item, _) ← peek
    skip
    match item with
    | .sequenceStart _ | .mappingStart _ => ignoreFrom fuel (depth + 1)
    | .sequenceEnd | .mappingEnd => if depth ≤ 1 then return else ignoreFrom fuel (depth - 1)
    | .alias_ _ | .scalar .. | .nothing => if depth = 0 then return else ignoreFrom fuel depth

def ignore : Reader Unit := do ignoreFrom (← read).items.size 0

/-- A mapping from texts to values of one kind; of two equal keys the later one counts. -/
def dictionary {α : Type} (path : String) (value : String → Reader α) : Reader (Dictionary α) :=
  mapping path "a map" "a string" [] (fun d key path => return Dictionary.insert key (← value path) d) pure

/-- A mapping with fixed keys, none of which may occur twice; what has another key is passed over. The reader of an
entry gives the name under which it counts. -/
def record {σ α : Type} (path expected : String) (initial : σ)
    (field : String → Option (String × (σ → String → Reader σ))) (finish : σ → Reader α) : Reader α :=
  mapping path expected "field identifier" (initial, ([] : List String))
    (fun (s, seen) key path => do
      match field key with
      | none =>
        ignore
        return (s, seen)
      | some (name, value) =>
        if seen.contains name then fault s!"duplicate field `{name}`"
        return (← value s path, name :: seen))
    (fun (s, _) => finish s)

/-! ## Values of any kind -/

inductive Content where
  | scalar (value : ScalarValue)
  | sequence (items : List Content)
  | mapping (entries : List (Content × Content))

/-- Reads items up to the end of a sequence, in at most `fuel` steps; the next one has the number `index`. -/
def itemsFrom {α : Type} (path : String) (value : String → Reader α) : Nat → Nat → Reader (List α)
  | 0, _ => return []
  | fuel + 1, index => do
    let (item, _) ← peek
    match item with
    | .sequenceEnd | .nothing =>
      skip
      return []
    | _ =>
      let first ← value s!"{path}[{index}]"
      return first :: (← itemsFrom path value fuel (index + 1))

/-- Reads entries with keys of any kind up to the end of a mapping, in at most `fuel` steps. -/
def pairsFrom {α : Type} (path : String) (value : String → Reader α) : Nat → Reader (List (α × α))
  | 0 => return []
  | fuel + 1 => do
    let (item, _) ← peek
    match item with
    | .mappingEnd | .nothing =>
      skip
      return []
    | _ =>
      let key ← value path
      let path' := match item with
        | .scalar _ written _ => below path written
        | _ => below path "?"
      let first ← value path'
      return (key, first) :: (← pairsFrom path value fuel)

/-- A value of any kind, with a reader for what is in a collection, unless there may be no collection here. -/
def anyOver (inner : Option (String → Reader Content)) (path : String) : Reader Content :=
  node path fun item mark => do
    skip
    let untagged (tag : Option String) (part : Reader Content) : Reader Content :=
      if (chosen? tag).isSome then fault "untagged and internally tagged enums do not support enum input" else part
    let nested (part : (String → Reader Content) → Reader Content) : Reader Content :=
      match inner with
      | some inner => part inner
      | none => throw (.tooDeep mark)
    let fuel := (← read).items.size
    match item with
    | .scalar tag text style => untagged tag do
      match ← scalarValue tag text style with
      | .wide _ => invalid item "any value"
      | value => return .scalar value
    | .sequenceStart tag => untagged tag (nested fun inner => return .sequence (← itemsFrom path inner fuel 0))
    | .mappingStart tag => untagged tag (nested fun inner => return .mapping (← pairsFrom path inner fuel))
    | .nothing => return .scalar .null
    | _ => throw .endOfText

/-- A value of any kind, in which collections are nested at most `depth` deep. -/
def any : Nat → String → Reader Content
  | 0 => anyOver none
  | depth + 1 => anyOver (some (any depth))

end Reader

/-! ## Whole documents -/

/-- Reads a text that holds one document. -/
def Document.decode {α : Type} (text : String) (root : String → Reader α) : Except Fault α := do
  let (d, after) := Document.first text
  let (value, _) ← ((root ".").run d).run {}
  match d.fault with
  | some fault => throw fault
  | none => if Document.hasMore after then throw .moreDocuments else return value

end LivePage.Yaml
