import LivePage.Block.Resolve
import LivePage.Frontmatter
import LivePage.Schedule.Scan
/-!
# Pages

A compiled document: its header, its HTML, its live blocks with their ids, and the schedules found in its prose.
-/
namespace LivePage

structure PageConfig where
  persist : PersistMode
  multiStep : Bool
  stepCount : Nat
  sidebar : Option Bool
  sources : Dictionary SourceConfig

/-- One compiled document. -/
structure Page where
  /-- File name of the source. -/
  id : String
  title : Option String
  type : String
  sourceFile : String
  config : PageConfig
  html : String
  /-- The body after synthesis. -/
  markdown : String
  blockSet : BlockSet
  schedules : List ScheduleToken
  imperatives : List Imperative

namespace BlockSet

def block? (set : BlockSet) (id : String) : Option Block := set.blocks.find? (·.id == id)

/-- The block that an index names. -/
def indexed? (set : BlockSet) (ids : Dictionary Nat) (id : String) : Option Block :=
  (ids.find? id).bind fun place => set.blocks[place]?

def serverBlock? (set : BlockSet) (id : String) : Option ServerBlock :=
  (set.indexed? set.serverIds id).bind Block.server?

def wasmBlock? (set : BlockSet) (id : String) : Option WasmBlock := (set.indexed? set.wasmIds id).bind Block.wasm?

def interactiveBlock? (set : BlockSet) (id : String) : Option InteractiveBlock :=
  (set.indexed? set.interactiveIds id).bind Block.interactive?

end BlockSet

/-- The name of a file at the end of a path (`page_id`): its last component, unless that leads upward. A path without
one stands for itself. -/
def fileName (path : String) : String :=
  let components := (Text.splitOn '/' path.toList).filter fun c => !c.isEmpty && c != ['.']
  match components.getLast? with
  | some last => if last = ['.', '.'] then path else String.ofList last
  | none => path

end LivePage
