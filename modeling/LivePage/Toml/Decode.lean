import LivePage.Text.Quoted
import LivePage.Toml.Document
/-!
# Decoding TOML

Reads a document as what it is expected to hold. What cannot be read is reported with the line on which it stands.
-/
namespace LivePage.Toml

open Text

/-- Why a document is not what is expected, with the place if it is known. -/
structure Problem where
  message : String
  span : Option Span := none
deriving DecidableEq, Repr

/-- What is read of a document, or a problem. -/
abbrev Decoded := Except Problem

/-! ## Expectations -/

/-- How messages describe a value that was not expected. -/
def Node.describe : Node → String
  | .text s _ => s!"string {quoted s}"
  | .bool b _ => s!"boolean `{b}`"
  | .figure (.integer n) _ => s!"integer `{n}`"
  | .figure (.float x) _ => s!"floating point `{x.display}`"
  | .array _ _ | .tables _ _ => "sequence"
  | .figure .moment _ | .table _ _ _ => "map"

def invalid {α : Type} (node : Node) (expected : String) : Decoded α :=
  .error { message := s!"invalid type: {node.describe}, expected {expected}", span := node.span? }

/-- A problem that has no place yet gets one. -/
def placed {α : Type} (span : Option Span) (part : Decoded α) : Decoded α :=
  part.mapError fun p => { p with span := p.span.or span }

def asText : Node → Decoded String
  | .text s _ => .ok s
  | node => invalid node "a string"

def asBool : Node → Decoded Bool
  | .bool b _ => .ok b
  | node => invalid node "a boolean"

/-- A whole number that is not negative. -/
def asCount : Node → Decoded Nat
  | .figure (.integer n) span =>
    if 0 ≤ n then .ok n.toNat
    else .error { message := s!"invalid value: integer `{n}`, expected usize", span := some span }
  | node => invalid node "usize"

def asList {α : Type} (item : Node → Decoded α) : Node → Decoded (List α)
  | .array items _ | .tables items _ => items.mapM fun node => placed node.span? (item node)
  | node => invalid node "a sequence"

/-- One field of a record: its key, whether it must be there, and what is read into it. -/
structure Field (σ : Type) where
  key : String
  required : Bool := false
  read : σ → Node → Decoded σ

/-- A record with the given fields. Other keys are passed over. A list is read as the fields in their order. -/
def asRecord {σ : Type} (name : String) (fields : List (Field σ)) (initial : σ) (node : Node) : Decoded σ :=
  placed node.span? (match node with
  | .table _ entries _ => do
    let result ← entries.foldlM (fun s (key, value) =>
      match fields.find? (·.key == key.name) with
      | none => .ok s
      | some field => placed (value.span?.or (some key.span)) (field.read s value)) initial
    match fields.find? fun field => field.required && (valueOf? field.key entries).isNone with
    | some field => .error { message := s!"missing field `{field.key}`" }
    | none => .ok result
  | .array items _ | .tables items _ => do
    let result ← (fields.zip items).foldlM (fun s (field, value) => placed value.span? (field.read s value)) initial
    if (fields.drop items.length).any (·.required) then
      .error { message :=
        s!"invalid length {items.length}, expected struct {name} with {fields.length} elements" }
    else .ok result
  | _ => invalid node s!"struct {name}")

/-! ## Reports -/

/-- The line and column of a place, counted from zero. A place past the end counts from the last character on. A column
counts characters, and bytes where the place is the start of a character of several bytes. -/
def position (text : List Char) (offset : Nat) : Nat × Nat :=
  let size := byteLength text
  if size = 0 then (0, offset) else
  let inside := offset < size
  let before := if inside then (takeBytes? text offset).getD text else text.dropLast
  let line := before.count '\n'
  let start := (before.reverse.takeWhile (· ≠ '\n')).reverse
  if !inside then (line, start.length + (offset + 1 - size))
  else
    let isWide := (text.drop before.length).head?.any fun c => 1 < c.utf8Size
    (line, if isWide then byteLength start else start.length)

/-- A problem with the line on which it stands. -/
def Problem.display (p : Problem) (text : String) : String :=
  let cs := text.toList
  match p.span with
  | none => p.message ++ "\n"
  | some span =>
    let (line, column) := position cs span.start
    let content := (splitOn '\n' cs)[line]?.getD []
    let number := toString (line + 1)
    let gutter := String.ofList (List.replicate (number.length + 1) ' ')
    let marked := min (span.stop - span.start) (byteLength content - column)
    s!"TOML parse error at line {number}, column {column + 1}\n" ++ gutter ++ "|\n"
      ++ number ++ " | " ++ String.ofList content ++ "\n"
      ++ gutter ++ "|" ++ String.ofList (List.replicate (column + 1) ' ')
      ++ String.ofList (List.replicate (max marked 1) '^') ++ "\n" ++ p.message ++ "\n"

/-- The problem that a text is no TOML. -/
def Fault.toProblem (f : Fault) (text : List Char) : Problem :=
  let width := ((dropBytes? text f.offset).bind List.head?).elim 0 Char.utf8Size
  { message := f.message, span := some ⟨f.offset, f.offset + width⟩ }

/-- Decodes a text, or reports why it cannot be. -/
def decode {α : Type} (root : Node → Decoded α) (text : String) : Except String α :=
  let result : Decoded α := match document.run { rest := text.toList } with
    | .error fault => .error (fault.toProblem text.toList)
    | .ok (node, _) => root node
  result.mapError fun problem => problem.display text

end LivePage.Toml
