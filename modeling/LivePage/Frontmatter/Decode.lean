import LivePage.Frontmatter
import LivePage.Yaml.Reader
/-!
# Decoding headers

A header is a YAML mapping with fixed keys. What has another key is passed over, so that pages may carry keys of
their own.
-/
namespace LivePage

open Yaml Reader

namespace SourceType

/-- The types that have a name of their own. -/
def named : List SourceType := [json, csv, rest, pg, exec, graphql, sqlite, markdown, wasm]

/-- The type that a value names: a text, or a mapping whose only key is the name or the number of a type. -/
def ofContent? : Content → Option SourceType
  | .scalar (.text name) => some (ofName name)
  | .mapping [(.scalar (.text name), .scalar .null)] => named.find? (·.name == name)
  | .mapping [(.scalar (.unsigned n), .scalar .null)] => named[n]?
  | _ => none

def decode (path : String) : Reader SourceType := do
  match ofContent? (← any 125 path) with
  | some type => return type
  | none => fault "data did not match any variant of untagged enum SourceType"

end SourceType

namespace SourceConfig

/-- What one field of a source is read into: the type comes with the rest once all fields are read. -/
abbrev Field := Option SourceType × SourceConfig → String → Reader (Option SourceType × SourceConfig)

def optionalText (set : SourceConfig → Option String → SourceConfig) : Field :=
  fun (type, config) path => return (type, set config (← optional (text path)))

/-- The fields of a source; `from` is another word for `url`. -/
def field (key : String) : Option (String × Field) :=
  match key with
  | "type" => some (key, fun (_, config) path => return (some (← SourceType.decode path), config))
  | "cmd" => some (key, optionalText fun c s => { c with cmd := s })
  | "query" => some (key, optionalText fun c s => { c with query := s })
  | "url" | "from" => some ("url", optionalText fun c s => { c with url := s })
  | "file" => some (key, optionalText fun c s => { c with file := s })
  | "anchor" => some (key, optionalText fun c s => { c with anchor := s })
  | "db" => some (key, optionalText fun c s => { c with db := s })
  | "table" => some (key, optionalText fun c s => { c with table := s })
  | "path" => some (key, optionalText fun c s => { c with path := s })
  | "readonly" => some (key, fun (type, config) path =>
    return (type, { config with readonly := ← optional (truth path) }))
  | "manual" => some (key, fun (type, config) path => return (type, { config with manual := ← truth path }))
  | "options" => some (key, fun (type, config) path =>
    return (type, { config with options := ← dictionary path fun path => text path }))
  | _ => none

def decode (path : String) : Reader SourceConfig :=
  record path "struct SourceConfig" (none, { type := .json }) field fun (type, config) =>
    match type with
    | some type => return { config with type }
    | none => fault "missing field `type`"

end SourceConfig

namespace Header

/-- The fields of a header, all of which may be nothing. -/
def field (key : String) : Option (String × (Header → String → Reader Header)) :=
  match key with
  | "title" => some (key, fun h path => return { h with title := ← optional (text path) })
  | "type" => some (key, fun h path => return { h with type := ← optional (text path) })
  | "persist" => some (key, fun h path => do
    let modes := PersistMode.all.map fun mode => (mode.name, mode)
    return { h with persist := ← optional (choice path modes) })
  | "steps" => some (key, fun h path => return { h with steps := ← optional (word path) })
  | "sidebar" => some (key, fun h path => return { h with sidebar := ← optional (truth path) })
  | "sources" => some (key, fun h path => return { h with sources := ← optional (dictionary path SourceConfig.decode) })
  | _ => none

/-- Decodes the text of a header. -/
def decode (text : String) : Except DecodeFault Header :=
  let header := Document.decode text fun path => record path "struct RawFrontmatter" {} field pure
  header.mapError fun fault =>
    { message := fault.message, place := fault.mark?.map fun mark => (mark.line + 1, mark.column + 1) }

end Header

/-- Splits a document into header and body. -/
def extract (source : String) : Except FrontmatterFault Extracted := extractWith Header.decode source

end LivePage
