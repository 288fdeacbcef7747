import LivePage.Toml.Node
import LivePage.Toml.Quote
/-!
# Values of TOML

Keys and values as they are written. What kind of value comes next is decided by its first character.
-/
namespace LivePage.Toml

open Text Parse

/-! ## Keys -/

def isKeyChar (c : Char) : Bool := c.isAlphanum || c == '-' || c == '_'

def spanFrom (start : Input) : Parse Span := return ⟨start.offset, (← get).offset⟩

/-- One key without dots. -/
def simpleKey : Parse Key := do
  let start ← get
  let name ← match ← peek with
    | some '"' => basicText
    | some '\'' => literalText
    | _ => match ← many isKeyChar with
      | [] => fail none [] none true
      | cs => pure (String.ofList cs)
  return { name, span := ← spanFrom start }

/-- Keys after a first one, at most `fuel` of them. A dot without a key after it is left. -/
def moreKeys : Nat → Parse (List Key)
  | 0 => return []
  | fuel + 1 => do
    let start ← get
    if !(← skipIf '.') then return []
    blanks
    let key ← tryCatch (some <$> simpleKey) fun f => if f.absent then pure none else throw f
    match key with
    | some key =>
      blanks
      return key :: (← moreKeys fuel)
    | none =>
      set start
      return []

/-- Keys with dots between them: those on the way and the last one. -/
def keyPath : Parse (List Key × Key) :=
  labelled "key" do
    blanks
    let first ← simpleKey
    blanks
    let keys := first :: (← moreKeys ((← get).rest.length))
    return (keys.dropLast, keys.getLast?.getD first)

/-- A path of keys, the sign after it, and what `value` reads behind that. -/
def keyAndValue (value : Parse Node) : Parse (List Key × Key × Node) := do
  let (path, key) ← keyPath
  if !(← skipIf '=') then fail none ["`.`", "`=`"]
  blanks
  return (path, key, ← tryCatch value fun f => throw { f with absent := false })

/-! ## Collections -/

/-- What a part reads, unless it turns out to be absent; then nothing is read. -/
def present? {α : Type} (part : Parse α) : Parse (Option α) := do
  let start ← get
  let result ← tryCatch (some <$> part) fun f => if f.absent then pure none else throw f
  if result.isNone then set start
  return result

/-- Elements with commas between them, at most `fuel` of them. Where none comes after a comma, the comma is left if
`keepComma` says so. -/
def elements {α : Type} (keepComma : Bool) (element : Parse α) : Nat → Parse (List α)
  | 0 => return []
  | fuel + 1 => do
    match ← present? element with
    | none => return []
    | some first =>
      let beforeComma ← get
      if !(← skipIf ',') then return [first]
      let rest ← elements keepComma element fuel
      if rest.isEmpty && keepComma then set beforeComma
      return first :: rest

def array (value : Parse Node) : Parse (List Node) := do
  skip 1
  let element : Parse Node := do
    space
    let v ← value
    space
    return v
  let items ← elements false element ((← get).rest.length)
  space
  if ← skipIf ']' then return items else fail (some "array") ["`]`"]

/-- A table between braces, from its first brace on. -/
def inlineTable (value : Parse Node) : Parse (List (Key × Node)) := do
  skip 1
  let start ← get
  let element : Parse (List Key × Key × Node) := do
    let pair ← keyAndValue value
    blanks
    return pair
  let pairs ← elements true element ((← get).rest.length)
  blanks
  let own : TableForm := { isInline := true }
  match pairs.foldlM (fun entries (path, key, v) => addEntry true none path key v own entries) [] with
  | .error conflict =>
    set start
    fail none [] (some conflict.message)
  | .ok entries =>
    if ← skipIf '}' then return entries else fail (some "inline table") ["`\x7d`"]

/-! ## Values -/

def word (w : String) (node : Span → Node) (absent : Bool) : Parse Node := do
  let start ← get
  if ← isNext w then
    skip w.length
    return node (← spanFrom start)
  else fail (some "string") ["`\"`", "`'`"] none absent

/-- A value, with a reader for those inside it, unless it lies too deep for that. -/
def valueOver (inner : Option (Parse Node)) : Parse Node := do
  let start ← get
  let figureNode (f : Figure) (span : Span) : Node := .figure f span
  let nested (part : Parse Node → Parse Node) : Parse Node :=
    match inner with
    | some inner => part inner
    | none => fail none [] (some "recursion limit exceeded")
  let leading (label : String) : Parse Node := fail (some label) ["leading digit"] none true
  let node : Node ← match ← peek with
    | none => fail none [] none true
    | some '"' | some '\'' => do pure (.text (← quotedText) ⟨0, 0⟩)
    | some '[' => nested fun inner => do pure (.array (← array inner) ⟨0, 0⟩)
    | some '\x7b' => nested fun inner => do pure (.table { isInline := true } (← inlineTable inner) none)
    | some '_' => leading "integer"
    | some '.' => leading "floating-point number"
    | some 't' => word "true" (.bool true) false
    | some 'f' => word "false" (.bool false) false
    | some 'i' => word "inf" (figureNode (.float (.infinite false))) true
    | some 'n' => word "nan" (figureNode (.float .notANumber)) true
    | some c =>
      if c.isDigit || c == '+' || c == '-' then do pure (.figure (← figure) ⟨0, 0⟩)
      else fail (some "string") ["`\"`", "`'`"] none true
  return node.placedAt (← spanFrom start)

/-- A value in which others are nested less than `depth` deep. -/
def value : Nat → Parse Node
  | 0 => valueOver none
  | depth + 1 => valueOver (some (value depth))

end LivePage.Toml
