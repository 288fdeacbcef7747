import LivePage.CommandLine.Parse
import LivePage.Conformance.Suite
import LivePage.Diagnostic.Terminal
import LivePage.Page.Json
/-!
# The program

Compiles a document and prints what it comes to, or runs conformance tests. A document may be named without a command.
-/
namespace LivePage

open Text CommandLine

/-! ## Command line -/

/-- The switch that turns colors off; it may stand before and after a command. -/
def noColorOption : OptionSpec := { long := "no-color", help := "Disable colored error output" }

def compileCommand : CommandSpec where
  name := "compile"
  about := "Compile a document and print a summary"
  positional := { name := "FILE", help := "Markdown document to compile" }
  options := [
    { long := "check", help := "Compile only (exit 0 if valid)" },
    noColorOption,
    { long := "json", help := "Print the compiled page as JSON" },
    { long := "html", help := "Print the rendered HTML" },
    { long := "list-blocks", help := "List every block with its id and references" },
    { long := "config", short := some 'c', valueName := some "CONFIG", help := "TOML file with compile options" }]

def testCommand : CommandSpec where
  name := "test"
  about := "Run .test.md conformance files"
  positional := { name := "PATH", help := "Path to a .test.md file or a directory containing them" }
  options := [
    { long := "category", short := some 'c', valueName := some "CATEGORY", repeatable := true, allowsEmpty := true
      help := "Run only tests in these categories (subfolder names). Repeatable" },
    noColorOption,
    { long := "list-categories", help := "List available categories and exit" }]

def programSpec : ProgramSpec where
  name := "livedoc"
  about := "Compile extended-Markdown documents into live pages"
  version := "0.1.0"
  options := [noColorOption]
  commands := [compileCommand, testCommand]

/-- The arguments with the command that is meant where a document is named without one (`main`). -/
def withCommand (arguments : List String) : List String :=
  let before := arguments.takeWhile (·.startsWith "-")
  match arguments.drop before.length with
  | [] => arguments
  | first :: rest =>
    if programSpec.commandNames.contains first then arguments else before ++ compileCommand.name :: first :: rest

/-! ## Compiling -/

structure CompileRequest where
  file : String
  check : Bool
  json : Bool
  html : Bool
  listBlocks : Bool
  config : Option String

def CompileOptions.decode (text : String) : Except String CompileOptions :=
  Toml.decode (Toml.asRecord "CompileOptions" [
    { key := "auto_tasks", read := fun o v => return { o with autoTasks := ← Toml.asBool v } },
    { key := "schedule", read := fun o v => return { o with schedule := ← Toml.asBool v } },
    { key := "heading_ids", read := fun o v => return { o with headingIds := ← Toml.asBool v } }] {}) text

/-- The range of some bytes at a line and a column, both counted from one, if it lies between characters
(`token_span`). -/
def tokenSpan? (source : List Char) (line column length : Nat) : Option Span :=
  if line = 0 ∨ column = 0 then none else
  let start := byteLength ((linesWithEnds source).take (line - 1)).flatten + (column - 1)
  if (sliceBytes? source start length).isSome then some ⟨start, start + length⟩ else none

/-- A warning as the terminal shows it (`emit_warning`). -/
def warningText (source : NamedText) (w : ScheduleWarning) : String :=
  match tokenSpan? source.text w.line w.column w.raw.utf8ByteSize with
  | some span => (Diagnostic.ofWarning w.message 0 span).render source
  | none => s!"warning: {w.display}\n"

/-- A compile error as the terminal shows it (`emit_parse_error`). -/
def errorText (source : NamedText) (e : CompileError) : String :=
  match e.span with
  | some _ => (e.toDiagnostic 0).render source
  | none => e.report (some (String.ofList source.text))

def padLeft (width : Nat) (s : String) : String := String.ofList (List.replicate (width - s.length) ' ') ++ s

def padRight (width : Nat) (s : String) : String := s ++ String.ofList (List.replicate (width - s.length) ' ')

/-- A block on one line (`describe_block`): where it is, what it is, and what it refers to. -/
def blockLine (b : Block) : String :=
  let refs := match b.interactive? with
    | some i => (i.stateRef.map ("state=" ++ ·)).toList ++ (i.sourceRef.map ("source=" ++ ·)).toList
    | none => []
  let target := if refs.isEmpty then "" else " -> " ++ " ".intercalate refs
  let line := padLeft 4 (toString b.line)
  let language := padRight 8 b.language
  s!"{line}  {b.type.name}  {language}  {b.id}{target}"

/-- What a page comes to, in a few lines (`print_summary`). -/
def summary (c : Compiled) : String :=
  let page := c.page
  let blocks := page.blockSet.blocks
  let count (t : BlockType) : Nat := (blocks.filter (·.type == t)).length
  let names := ", ".intercalate page.config.sources.names
  let tokens := " ".intercalate (page.schedules.map (·.raw))
  let shown (when_ : Bool) (line : String) : List String := if when_ then [line] else []
  lineText (
    [s!"page:     {page.id}"]
      ++ (page.title.map fun title => s!"title:    {title}").toList
      ++ [s!"type:     {page.type}",
        s!"blocks:   {count .server} server, {count .wasm} wasm, {count .lvt} interactive"]
      ++ shown (!page.config.sources.isEmpty) s!"sources:  {names}"
      ++ shown (!page.schedules.isEmpty) s!"schedule: {tokens}"
      ++ shown (!page.imperatives.isEmpty) s!"imperatives: {page.imperatives.length}"
      ++ shown (!c.warnings.isEmpty) s!"warnings: {c.warnings.length}")

/-- What is printed of a page: the first of the forms that are asked for. -/
def CompileRequest.output (r : CompileRequest) (c : Compiled) : String :=
  if r.json then c.page.toJson.pretty ++ "\n"
  else if r.html then c.page.html
  else if r.listBlocks then lineText (c.page.blockSet.blocks.map blockLine)
  else summary c

/-- The options in a file, or why there are none (`load_options`). -/
def loadOptions (path : String) (content : Except FileFault String) : Except String CompileOptions :=
  match content with
  | .error fault => .error s!"cannot read config '{path}': {fault.message}"
  | .ok text => (CompileOptions.decode text).mapError fun message => s!"invalid config '{path}': {message}"

/-- Compiles a document whose text is known and tells what it comes to. -/
def CompileRequest.answer (r : CompileRequest) (workingDirectory source : String) (options : CompileOptions) :
    CommandResult :=
  let named : NamedText := { name := r.file, text := source.toList }
  match compile source (Path.absolute workingDirectory r.file) options with
  | .error .noScan => { exitCode := 101 }
  | .error (.error e) => { exitCode := 1, messages := errorText named e }
  | .ok c =>
    let warnings := String.join (c.warnings.map (warningText named))
    if r.check then
      let count := c.page.blockSet.blocks.length
      { messages := warnings ++ s!"ok: {r.file} compiled successfully ({count} blocks)\n" }
    else { output := r.output c, messages := warnings }

/-- Runs the compiler on files (`do_compile`). -/
def CompileRequest.run {m : Type → Type} [Monad m] (r : CompileRequest) (files : Files m) : m CommandResult := do
  let options ← match r.config with
    | none => pure (.ok {})
    | some path => loadOptions path <$> files.read path
  match options with
  | .error message => return { exitCode := 2, messages := s!"error: {message}\n" }
  | .ok options =>
    match ← files.read r.file with
    | .error fault => return { exitCode := 1, messages := s!"error: cannot read '{r.file}': {fault.message}\n" }
    | .ok source => return r.answer files.workingDirectory source options

/-! ## Running -/

/-- What the program does for a command line. -/
def runProgram {m : Type → Type} [Monad m] (files : Files m) (arguments : List String) : m CommandResult := do
  match programSpec.read (withCommand arguments) with
  | .error (.answer text) => return { output := text }
  | .error (.nothingGiven text) => return { exitCode := 2, messages := text }
  | .error (.fault f) => return { exitCode := 2, messages := f.display }
  | .ok (command, before, given) =>
    let colored := !(before.switches ++ given.switches).contains noColorOption.long
    let path := given.positional.getD ""
    let has (name : String) : Bool := given.switches.contains name
    if command.name = testCommand.name then
      if has "list-categories" then listCategories files path
      else runTests files path colored ((given.values.filter (·.1 == "category")).map (·.2))
    else
      let request : CompileRequest :=
        { file := path, check := has "check", json := has "json", html := has "html",
          listBlocks := has "list-blocks", config := given.values.lookup "config" }
      request.run files

end LivePage
