import LivePage.Toml.Value
/-!
# Documents of TOML

A document is a table. Keys and values go into the table whose header came last, or into the document itself before
any header; a header in double brackets opens another table of a list.
-/
namespace LivePage.Toml

open Text Parse

/-- A document while it is read: what is finished, and the table that is open. -/
structure Draft where
  root : List (Key × Node) := []
  /-- The keys of the open table's header; none for the document itself. -/
  path : List Key := []
  isListed : Bool := false
  entries : List (Key × Node) := []
  span : Span := ⟨0, 0⟩

/-- A key as written where it needs no more than it has to. -/
def Key.display (key : Key) : String :=
  let cs := key.name.toList
  if !cs.isEmpty && cs.all isKeyChar then key.name
  else if cs.all isBasicChar then "\"" ++ key.name ++ "\""
  else if cs.all isLiteralChar then "'" ++ key.name ++ "'"
  else "\"" ++ String.ofList (cs.flatMap fun c => if c = '"' ∨ c = '\\' then ['\\', c] else [c]) ++ "\""

namespace Draft

/-- Changes what is in the table around the one that a header names, by the last key of it. -/
def changeAround {α : Type} (root : List (Key × Node)) (path : List Key)
    (change : Key → Conflict → List (Key × Node) → Except Conflict (α × List (Key × Node))) :
    Except Conflict (Option α × List (Key × Node)) :=
  match path.getLast? with
  | none => return (none, root)
  | some key => do
    let around := path.dropLast
    let conflict := Conflict.duplicate key.display (some (around.map (·.name)))
    let (result, root) ← changeAt { implicit := true } (fun _ entries => change key conflict entries) [] around {} root
    return (some result, root)

/-- The document with the open table closed. -/
def close (d : Draft) : Except Conflict (List (Key × Node)) :=
  if d.path.isEmpty then .ok d.entries else do
  let table := Node.table {} d.entries (some d.span)
  let (_, root) ← changeAround d.root d.path fun key conflict entries =>
    match d.isListed, valueOf? key.name entries with
    | true, none => .ok ((), setEntry key (.tables [table] (some d.span)) entries)
    | true, some (.tables items _) =>
      let items := items ++ [table]
      let span := match items.head?.bind Node.span? with
        | some first => some ⟨first.start, d.span.stop⟩
        | none => none
      .ok ((), setEntry key (.tables items span) entries)
    | false, none => .ok ((), setEntry key table entries)
    | false, some (.table { implicit := true, .. } _ _) => .ok ((), setEntry key table entries)
    | _, _ => .error conflict
  return root

/-- Opens the table of a header. A table that is only there because of what is inside it may still get a header. -/
def opened (d : Draft) (path : List Key) (isListed : Bool) (span : Span) : Except Conflict Draft := do
  let root ← d.close
  let (entries, root) ← changeAround root path fun key conflict entries =>
    match isListed, valueOf? key.name entries with
    | true, none => .ok ([], setEntry key (.tables [] none) entries)
    | true, some (.tables _ _) => .ok ([], entries)
    | false, none => .ok ([], entries)
    | false, some (.table { implicit := true, dotted := false, .. } inner _) =>
      .ok (inner, entries.filter (·.1.name != key.name))
    | _, _ => .error conflict
  return { root, path, isListed, entries := entries.getD [], span }

/-- Adds a value to the open table. -/
def add (d : Draft) (path : List Key) (key : Key) (value : Node) : Except Conflict Draft := do
  let entries ← addEntry false (some (d.path.map (·.name))) path key value {} d.entries
  return { d with entries, span := ⟨d.span.start, (value.span?.map (·.stop)).getD d.span.stop⟩ }

end Draft

/-! ## Lines -/

/-- A change that, if it is refused, is a fault at `start`. -/
def applied {α : Type} (start : Input) (change : Except Conflict α) : Parse α :=
  match change with
  | .ok a => return a
  | .error conflict => do
    set start
    fail none [] (some conflict.message)

def header (d : Draft) : Parse Draft :=
  labelled "table header" do
    let start ← get
    if start.rest.length < 2 then fail none []
    let isListed ← isNext "[["
    let closing := if isListed then "]]" else "]"
    skip closing.length
    let (path, key) ← keyPath
    if !(← isNext closing) then fail none ["`.`", s!"`{closing}`"]
    skip closing.length
    let span ← spanFrom start
    trailing
    applied start (d.opened (path ++ [key]) isListed span)

/-- Reads a key and its value with the rest of their line. -/
def assignment (d : Draft) : Parse Draft := do
  let start ← get
  let (path, key, v) ← keyAndValue (value 79)
  trailing
  applied start (d.add path key v)

/-- Reads lines, at most `fuel` of them. -/
def linesOf : Nat → Draft → Parse Draft
  | 0, d => return d
  | fuel + 1, d => do
    blanks
    match ← peek with
    | none => return d
    | some '#' =>
      comment
      lineStop none []
      linesOf fuel d
    | some '[' => linesOf fuel (← header d)
    | some '\n' | some '\r' => if ← lineEnd then linesOf fuel d else fail none []
    | some _ => linesOf fuel (← assignment d)

/-- Reads a whole document, which a byte order mark may open. -/
def document : Parse Node := do
  let _ ← skipIf '\uFEFF'
  let d ← linesOf ((← get).rest.length + 1) {}
  let entries ← applied (← get) d.close
  return .table {} entries none

end LivePage.Toml
