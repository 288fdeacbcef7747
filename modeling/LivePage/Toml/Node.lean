import LivePage.Span
import LivePage.Toml.Number
/-!
# Nodes of TOML

The values and tables of a TOML text with their places. A table remembers how it came about, because that decides what
may still be added to it.
-/
namespace LivePage.Toml

/-- A key with its place. -/
structure Key where
  name : String
  span : Span
deriving DecidableEq, Repr

/-- How a table came about. -/
structure TableForm where
  isInline : Bool := false
  /-- It is only there because something inside it was named. -/
  implicit : Bool := false
  /-- It was named by a key with dots. -/
  dotted : Bool := false
deriving DecidableEq, Repr

/-- A value, a table, or a list of tables with headers of their own. -/
inductive Node where
  | text (s : String) (span : Span)
  | bool (b : Bool) (span : Span)
  | figure (f : Figure) (span : Span)
  | array (items : List Node) (span : Span)
  | table (form : TableForm) (entries : List (Key × Node)) (span : Option Span)
  | tables (items : List Node) (span : Option Span)

namespace Node

def span? : Node → Option Span
  | text _ s | bool _ s | figure _ s | array _ s => some s
  | table _ _ s | tables _ s => s

def typeName : Node → String
  | text _ _ => "string"
  | bool _ _ => "boolean"
  | figure (.integer _) _ => "integer"
  | figure (.float _) _ => "float"
  | figure .moment _ => "datetime"
  | array _ _ => "array"
  | table _ _ _ => "inline table"
  | tables _ _ => "array of tables"

def placedAt (s : Span) : Node → Node
  | text t _ => text t s
  | bool b _ => bool b s
  | figure f _ => figure f s
  | array items _ => array items s
  | table form entries _ => table form entries (some s)
  | tables items _ => tables items (some s)

end Node

/-- Why something cannot be added to a table. -/
inductive Conflict where
  | duplicate (key : String) (table : Option (List String))
  | notATable (path : List String) (type : String)

/-- The conflict in words. -/
def Conflict.message : Conflict → String
  | duplicate key none => s!"duplicate key `{key}`"
  | duplicate key (some []) => s!"duplicate key `{key}` in document root"
  | duplicate key (some path) =>
    let path := ".".intercalate path
    s!"duplicate key `{key}` in table `{path}`"
  | notATable path type =>
    let path := ".".intercalate path
    s!"dotted key `{path}` attempted to extend non-table type ({type})"

/-! ## Tables -/

def setEntry (key : Key) (value : Node) : List (Key × Node) → List (Key × Node)
  | [] => [(key, value)]
  | (k, v) :: rest => if k.name = key.name then (k, value) :: rest else (k, v) :: setEntry key value rest

def valueOf? (name : String) (entries : List (Key × Node)) : Option Node :=
  (entries.find? (·.1.name == name)).map (·.2)

/-- Changes what is in the table at the end of a path and hands on what the change gives. Tables on the way are made;
`form` is theirs, and a path with dots goes only through tables that were made so. In a list of tables the last one
counts. The keys `before` lead to the table where the path starts. -/
def changeAt {α : Type} (form : TableForm)
    (change : TableForm → List (Key × Node) → Except Conflict (α × List (Key × Node))) (before : List String) :
    List Key → TableForm → List (Key × Node) → Except Conflict (α × List (Key × Node))
  | [], own, entries => change own entries
  | key :: path, _, entries => do
    let before := before ++ [key.name]
    let within (own : TableForm) (inner : List (Key × Node)) := changeAt form change before path own inner
    match valueOf? key.name entries with
    | none =>
      let (result, inner) ← within form []
      return (result, setEntry key (.table form inner none) entries)
    | some (.tables items span) =>
      match items.getLast? with
      | some (.table own inner place) =>
        let (result, inner) ← within own inner
        return (result, setEntry key (.tables (items.dropLast ++ [.table own inner place]) span) entries)
      | _ => throw (.notATable before "array of tables")
    | some (.table own inner place) =>
      if own.isInline ≠ form.isInline then throw (.notATable before "inline table")
      if form.dotted ∧ ¬ own.implicit then throw (.duplicate key.name none)
      let (result, inner) ← within own inner
      return (result, setEntry key (.table own inner place) entries)
    | some value => throw (.notATable before value.typeName)

/-- Adds an entry to the table at the end of a path of keys. A table that was named by dots takes keys with dots only,
and any other table takes a key that is no path only when nothing of the name is there. -/
def addEntry (inline : Bool) (home : Option (List String)) (path : List Key) (key : Key) (value : Node)
    (own : TableForm) (entries : List (Key × Node)) : Except Conflict (List (Key × Node)) := do
  let dotted := !inline || !path.isEmpty
  let form : TableForm := { isInline := inline, implicit := true, dotted }
  let add (own : TableForm) (entries : List (Key × Node)) : Except Conflict (Unit × List (Key × Node)) :=
    if own.dotted == path.isEmpty then .error (.duplicate key.name none)
    else if (valueOf? key.name entries).isSome then .error (.duplicate key.name home)
    else .ok ((), entries ++ [(key, value)])
  let (_, entries) ← changeAt form add [] path own entries
  return entries

end LivePage.Toml
