import LivePage.Dictionary
/-!
# Live blocks

A fenced code block may declare itself live: trusted server code, student code for the browser, or a fragment of
interactive interface. A page keeps its live blocks in document order.
-/
namespace LivePage

/-- The three kinds of live block that a fence can declare. -/
inductive BlockType where
  | server
  | wasm
  | lvt
deriving DecidableEq, Repr

namespace BlockType

def name : BlockType → String
  | server => "server"
  | wasm => "wasm"
  | lvt => "lvt"

/-- The kind that a word names (`BlockType.from_keyword`). -/
def ofName? : String → Option BlockType
  | "server" => some server
  | "wasm" => some wasm
  | "lvt" => some lvt
  | _ => none

end BlockType

/-- A bare word that changes how a block is offered to the reader. -/
inductive Flag where
  | readonly
  | editable
  | interactive
deriving DecidableEq, Repr

namespace Flag

def name : Flag → String
  | readonly => "readonly"
  | editable => "editable"
  | interactive => "interactive"

/-- The flag that a word stands for (`Flag.from_keyword`). -/
def ofName? : String → Option Flag
  | "readonly" => some readonly
  | "editable" => some editable
  | "interactive" => some interactive
  | _ => none

end Flag

/-- Named values from the first line of a fence. -/
abbrev Metadata := Dictionary String

/-- A fenced block that declared a kind, before ids and references are settled (`CodeBlock`). -/
structure CodeBlock where
  type : BlockType
  language : String
  flags : List Flag
  metadata : Metadata
  content : String
  line : Nat
  /-- Place of the block's opening event among the events of the body. -/
  eventIndex : Nat
deriving DecidableEq, Repr

/-- Trusted author code that supplies state to interactive blocks. -/
structure ServerBlock where
  id : String
  language : String
  content : String
  metadata : Metadata
  flags : List Flag
  line : Nat
deriving DecidableEq, Repr

/-- Student code, edited and run in the browser. -/
structure WasmBlock where
  id : String
  language : String
  defaultCode : String
  showRunButton : Bool
  metadata : Metadata
  flags : List Flag
  line : Nat
deriving DecidableEq, Repr

/-- A fragment of live interface, bound to a server block's state, to a data source, or to both. -/
structure InteractiveBlock where
  id : String
  stateRef : Option String
  sourceRef : Option String
  content : String
  metadata : Metadata
  flags : List Flag
  line : Nat
deriving DecidableEq, Repr

/-- A live block with its id and references settled. -/
inductive Block where
  | server (b : ServerBlock)
  | wasm (b : WasmBlock)
  | interactive (b : InteractiveBlock)
deriving DecidableEq, Repr

namespace Block

def id : Block → String
  | server b => b.id
  | wasm b => b.id
  | interactive b => b.id

def type : Block → BlockType
  | server _ => .server
  | wasm _ => .wasm
  | interactive _ => .lvt

def language : Block → String
  | server b => b.language
  | wasm b => b.language
  | interactive _ => "lvt"

/-- Line of the file on which the block's fence opens. -/
def line : Block → Nat
  | server b => b.line
  | wasm b => b.line
  | interactive b => b.line

def metadata : Block → Metadata
  | server b => b.metadata
  | wasm b => b.metadata
  | interactive b => b.metadata

def flags : Block → List Flag
  | server b => b.flags
  | wasm b => b.flags
  | interactive b => b.flags

/-- Server code is read-only unless a flag says otherwise (`is_readonly`). -/
def isReadonly (b : Block) : Bool :=
  b.flags.contains .readonly || (!b.flags.contains .editable && b.type == .server)

/-- Student code is editable unless a flag says otherwise (`is_editable`). -/
def isEditable (b : Block) : Bool :=
  b.flags.contains .editable || (!b.flags.contains .readonly && b.type == .wasm)

def server? : Block → Option ServerBlock
  | server b => some b
  | _ => none

def wasm? : Block → Option WasmBlock
  | wasm b => some b
  | _ => none

def interactive? : Block → Option InteractiveBlock
  | interactive b => some b
  | _ => none

end Block

end LivePage
