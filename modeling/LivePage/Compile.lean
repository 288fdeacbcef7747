import LivePage.Block.Attach
import LivePage.Block.Collect
import LivePage.Page
import LivePage.Task.Synthesis
/-!
# Compiling

From the text of a document to a page. The first fatal problem ends it; malformed schedules are warnings.
-/
namespace LivePage

open Text

/-- Switches for the stages that can be left out (`CompileOptions`). -/
structure CompileOptions where
  /-- Turn sections of tasks into interactive blocks. -/
  autoTasks : Bool := true
  schedule : Bool := true
  headingIds : Bool := true
deriving DecidableEq, Repr

/-- A page with the warnings met on the way. -/
structure Compiled where
  page : Page
  warnings : List ScheduleWarning

/-- Why there is no page. -/
inductive CompileFailure where
  | error (e : CompileError)
  /-- The scan for schedules has no answer. -/
  | noScan

/-- Adds sources for task sections to those that the author declared, which win. -/
def mergeSources (declared synthetic : Dictionary SourceConfig) : Dictionary SourceConfig :=
  synthetic.foldl (fun d (name, s) => if d.contains name then d else d.insert name s) declared

def UnknownBlockType.toError (u : UnknownBlockType) (file : String) (line : Nat) : CompileError :=
  { kind := .unknownBlockType, file, line, message := u.message
    hint := some "Valid block types are: server, wasm, lvt" }

def AttachFault.toError (f : AttachFault) (file : String) (line : Nat) : CompileError :=
  { kind := .render, file, line, message := f.message }

/-- Compiles a document split into header and body (`Parser.compile`). -/
def compileExtracted (extracted : Extracted) (file : String) (options : CompileOptions) :
    Except CompileFailure Compiled := do
  let fail {α : Type} (e : CompileError) : Except CompileFailure α := .error (.error e)
  let fm := extracted.frontmatter
  let synthesis : Synthesis :=
    if options.autoTasks then synthesize extracted.body file else { body := extracted.body }
  let body := synthesis.body
  let lines := match synthesis.origins with
    | some origins => LineMap.remapped body extracted.bodyLine origins
    | none => LineMap.identity body extracted.bodyLine
  let sources := mergeSources fm.sources synthesis.sources
  let events := Markdown.events body
  let collected ← match collectBlocks lines events with
    | .ok blocks => pure blocks
    | .error (u, line) => fail (u.toError file line)
  let scan ← match if options.schedule then scan? body (skipRanges body.toList false events) lines else some {} with
    | some scan => pure scan
    | none => .error .noScan
  let set ← match BlockSet.build collected sources with
    | .ok set => pure set
    | .error (fault, line) => fail (fault.toError file line)
  let html ← match renderPage (events.map (·.event)) collected set.blocks options.headingIds with
    | .ok html => pure html
    | .error (fault, line) => fail (fault.toError file line)
  return {
    page := {
      id := fileName file
      title := fm.title
      type := fm.type
      sourceFile := file
      config := {
        persist := fm.persist
        multiStep := 0 < fm.steps
        stepCount := fm.steps
        sidebar := fm.sidebar
        sources }
      html
      markdown := body
      blockSet := set
      schedules := scan.tokens
      imperatives := scan.imperatives }
    warnings := scan.warnings }

/-- Compiles a document, with a decoder for its header (`Parser.parse`). Errors are placed in the document. -/
def compileWith (decode : String → Except DecodeFault Header) (source file : String) (options : CompileOptions) :
    Except CompileFailure Compiled :=
  let result : Except CompileFailure Compiled := match extractWith decode source with
    | .error fault => .error (.error (fault.toError file))
    | .ok extracted => compileExtracted extracted file options
  match result with
  | .error (.error e) => .error (.error (e.locatedIn source))
  | other => other

end LivePage
