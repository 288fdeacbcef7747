import LivePage.Block.Basic
import LivePage.CompileError
import LivePage.Source
import LivePage.Suggestion
/-!
# Resolving blocks

Each live block gets an id, an interactive block without a binding of its own takes the nearest server block
before it as its state, and then every reference has to name something. Ids are settled for all blocks before any
reference is looked at, so a repeated id is reported first, and a state may name a server block further down.
-/
namespace LivePage

/-- Why the blocks of a page do not resolve. -/
inductive ResolveFault where
  /-- An earlier block, whose fence opens on `firstLine`, has the same id. -/
  | duplicateId (id : String) (firstLine : Nat)
  | unknownSource (name : String) (help : Suggestion)
  | unknownState (name : String) (help : Suggestion)
  | noState
deriving DecidableEq, Repr

namespace ResolveFault

def message : ResolveFault → String
  | duplicateId id _ => s!"Duplicate block id '{id}'"
  | unknownSource name _ => s!"Interactive block references unknown source '{name}'"
  | unknownState name _ => s!"Interactive block references unknown state '{name}'"
  | noState => "Interactive block has no state reference"

def hint : ResolveFault → String
  | duplicateId _ _ => "Give each block a unique id="
  | unknownSource _ (.didYouMean name) => s!"Did you mean lvt-source=\"{name}\"?"
  | unknownSource _ (.available names) => "Available sources: " ++ ", ".intercalate names
  | unknownSource _ .noneDefined =>
    "No sources are defined; declare one under `sources:` in the frontmatter"
  | unknownState _ (.didYouMean name) => s!"Did you mean state=\"{name}\"?"
  | unknownState _ (.available names) => "Available server blocks: " ++ ", ".intercalate names
  | unknownState _ .noneDefined => "No server blocks are defined"
  | noState =>
    "Add a server block with state definition before this interactive block, or specify state=\"block-id\""

def related : ResolveFault → Option String
  | duplicateId id firstLine => some s!"'{id}' is first defined at line {firstLine}"
  | _ => none

def toError (f : ResolveFault) (file : String) (line : Nat) : CompileError :=
  { kind := .reference, file, line, message := f.message, hint := some f.hint, related := f.related }

end ResolveFault

/-- The resolved blocks of a page, with the place of each id among them (`BlockSet`). -/
structure BlockSet where
  blocks : List Block := []
  serverIds : Dictionary Nat := []
  wasmIds : Dictionary Nat := []
  interactiveIds : Dictionary Nat := []

abbrev Located := ResolveFault × Nat

namespace CodeBlock

/-- The id of the block that comes at a place among the page's blocks: its own, or kind and place. -/
def idAt (cb : CodeBlock) (index : Nat) : String :=
  (cb.metadata.find? "id").getD s!"{cb.type.name}-{index}"

/-- The source that an interactive block is bound to. -/
def sourceRef (cb : CodeBlock) : Option String := cb.metadata.find? "lvt-source"

/-- The state of an interactive block: the one it names, none when a source serves it, else the last server block
before it. -/
def stateRef (cb : CodeBlock) (lastServer : Option String) : Option String :=
  match cb.metadata.find? "state", cb.sourceRef with
  | some state, _ => some state
  | none, some _ => none
  | none, none => lastServer

/-- The block with its id and its state settled. -/
def resolve (cb : CodeBlock) (id : String) (lastServer : Option String) : Block :=
  match cb.type with
  | .server => .server ⟨id, cb.language, cb.content, cb.metadata, cb.flags, cb.line⟩
  | .wasm =>
    .wasm ⟨id, cb.language, cb.content, cb.metadata.find? "run" != some "false", cb.metadata, cb.flags, cb.line⟩
  | .lvt =>
    .interactive ⟨id, cb.stateRef lastServer, cb.sourceRef, cb.content, cb.metadata, cb.flags, cb.line⟩

end CodeBlock

namespace BlockSet

/-- Adds a block after the others. -/
def push (set : BlockSet) (b : Block) : BlockSet :=
  let place := set.blocks.length
  let set := { set with blocks := set.blocks ++ [b] }
  match b with
  | .server s => { set with serverIds := set.serverIds.insert s.id place }
  | .wasm w => { set with wasmIds := set.wasmIds.insert w.id place }
  | .interactive i => { set with interactiveIds := set.interactiveIds.insert i.id place }

/-- Settles ids and states in document order, from a block's place on. -/
def collect : List CodeBlock → Nat → Option String → BlockSet → Except Located BlockSet
  | [], _, _, set => .ok set
  | cb :: rest, index, lastServer, set =>
    let id := cb.idAt index
    match set.blocks.find? (·.id == id) with
    | some first => .error (.duplicateId id first.line, cb.line)
    | none =>
      collect rest (index + 1) (if cb.type = .server then some id else lastServer)
        (set.push (cb.resolve id lastServer))

/-- Checks that an interactive block's references name something (`validate`). -/
def faultOf? (set : BlockSet) (sources : Dictionary SourceConfig) (b : InteractiveBlock) : Option ResolveFault :=
  let sourceFault := b.sourceRef.bind fun name =>
    if sources.contains name then none else some (.unknownSource name (suggest name sources.names))
  let stateFault := match b.stateRef with
    | none => if b.sourceRef.isSome then none else some .noState
    | some name =>
      if set.serverIds.contains name then none
      else some (.unknownState name (suggest name set.serverIds.names))
  sourceFault.or stateFault

/-- The first fault in document order. -/
def firstFault? (set : BlockSet) (sources : Dictionary SourceConfig) : Option Located :=
  set.blocks.findSome? fun b =>
    b.interactive?.bind fun i => (set.faultOf? sources i).map fun f => (f, i.line)

/-- Resolves the blocks of a page (`BlockSet.build`). -/
def build (blocks : List CodeBlock) (sources : Dictionary SourceConfig) : Except Located BlockSet :=
  match collect blocks 0 none {} with
  | .error e => .error e
  | .ok set =>
    match set.firstFault? sources with
    | some e => .error e
    | none => .ok set

end BlockSet

end LivePage
