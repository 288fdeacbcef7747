import LivePage.Dictionary
/-!
# Data sources

A page may name data sources in its header, and sections of tasks get one of their own. Which fields of a source
matter depends on its type.
-/
namespace LivePage

/-- What serves a source. -/
inductive SourceType where
  | json
  | csv
  | rest
  | pg
  | exec
  | graphql
  | sqlite
  | markdown
  | wasm
  /-- Any other name, kept as written. -/
  | other (name : String)
deriving DecidableEq, Repr

namespace SourceType

def name : SourceType → String
  | json => "json"
  | csv => "csv"
  | rest => "rest"
  | pg => "pg"
  | exec => "exec"
  | graphql => "graphql"
  | sqlite => "sqlite"
  | markdown => "markdown"
  | wasm => "wasm"
  | other n => n

def ofName : String → SourceType
  | "json" => json
  | "csv" => csv
  | "rest" => rest
  | "pg" => pg
  | "exec" => exec
  | "graphql" => graphql
  | "sqlite" => sqlite
  | "markdown" => markdown
  | "wasm" => wasm
  | n => other n

end SourceType

/-- One named source of data. -/
structure SourceConfig where
  type : SourceType
  cmd : Option String := none
  query : Option String := none
  url : Option String := none
  file : Option String := none
  /-- Section of a file, such as `#todos`. -/
  anchor : Option String := none
  db : Option String := none
  table : Option String := none
  path : Option String := none
  readonly : Option Bool := none
  /-- Wait to be run instead of fetching at once. -/
  manual : Bool := false
  options : Dictionary String := []
deriving DecidableEq, Repr

namespace SourceConfig

/-- A writable source for one section of a page's own file (`markdown_section`). -/
def markdownSection (file anchor : String) : SourceConfig :=
  { type := .markdown, file := some file, anchor := some ("#" ++ anchor), readonly := some false }

/-- A source is read-only unless it says otherwise (`is_readonly`). -/
def isReadonly (s : SourceConfig) : Bool := s.readonly.getD true

end SourceConfig

end LivePage
